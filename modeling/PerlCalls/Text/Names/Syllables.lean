/-! The names of characters from U+3000 to U+FFFF, apart from ideographs and Hangul syllables. -/
namespace PerlCalls.Text

/-- One series of characters on a line: the first code point in base sixteen, what the names have in
common, and how each of them goes on. -/
def syllableNames : String :=
"3000 IDEOGRAPHIC /SPACE/COMMA/FULL STOP
3003 /DITTO MARK/JAPANESE INDUSTRIAL STANDARD SYMBOL
3005 IDEOGRAPHIC /ITERATION MARK/CLOSING MARK/NUMBER ZERO
3008 /LEFT ANGLE BRACKET/RIGHT ANGLE BRACKET
300A /LEFT DOUBLE ANGLE BRACKET/RIGHT DOUBLE ANGLE BRACKET/LEFT CORNER BRACKET/RIGHT CORNER BRACKET
300E /LEFT WHITE CORNER BRACKET/RIGHT WHITE CORNER BRACKET/LEFT BLACK LENTICULAR BRACKET
3011 /RIGHT BLACK LENTICULAR BRACKET/POSTAL MARK/GETA MARK/LEFT TORTOISE SHELL BRACKET
3015 /RIGHT TORTOISE SHELL BRACKET/LEFT WHITE LENTICULAR BRACKET/RIGHT WHITE LENTICULAR BRACKET
3018 /LEFT WHITE TORTOISE SHELL BRACKET/RIGHT WHITE TORTOISE SHELL BRACKET/LEFT WHITE SQUARE BRACKET
301B /RIGHT WHITE SQUARE BRACKET/WAVE DASH/REVERSED DOUBLE PRIME QUOTATION MARK
301E /DOUBLE PRIME QUOTATION MARK/LOW DOUBLE PRIME QUOTATION MARK/POSTAL MARK FACE
3021 HANGZHOU NUMERAL /ONE/TWO/THREE/FOUR/FIVE/SIX/SEVEN/EIGHT/NINE
302A IDEOGRAPHIC /LEVEL TONE MARK/RISING TONE MARK/DEPARTING TONE MARK/ENTERING TONE MARK
302E HANGUL /SINGLE DOT TONE MARK/DOUBLE DOT TONE MARK
3030 WAVY /DASH
3031 VERTICAL KANA REPEAT /MARK/WITH VOICED SOUND MARK
3033 VERTICAL KANA REPEAT /MARK UPPER HALF/WITH VOICED SOUND MARK UPPER HALF/MARK LOWER HALF
3036 /CIRCLED POSTAL MARK/IDEOGRAPHIC TELEGRAPH LINE FEED SEPARATOR SYMBOL
3038 HANGZHOU NUMERAL /TEN/TWENTY/THIRTY
303B /VERTICAL IDEOGRAPHIC ITERATION MARK/MASU MARK/PART ALTERNATION MARK
303E IDEOGRAPHIC /VARIATION INDICATOR/HALF FILL SPACE
3041 HIRAGANA LETTER /SMALL A/A/SMALL I/I/SMALL U/U/SMALL E/E/SMALL O/O/KA/GA/KI/GI/KU/GU
3051 HIRAGANA LETTER /KE/GE/KO/GO/SA/ZA/SI/ZI/SU/ZU/SE/ZE/SO/ZO/TA/DA/TI/DI/SMALL TU/TU/DU/TE/DE/TO
3069 HIRAGANA LETTER /DO/NA/NI/NU/NE/NO/HA/BA/PA/HI/BI/PI/HU/BU/PU/HE/BE/PE/HO/BO/PO/MA/MI/MU/ME/MO
3083 HIRAGANA LETTER /SMALL YA/YA/SMALL YU/YU/SMALL YO/YO/RA/RI/RU/RE/RO/SMALL WA/WA/WI/WE/WO/N/VU
3095 HIRAGANA LETTER SMALL /KA/KE
3099 COMBINING KATAKANA-HIRAGANA /VOICED SOUND MARK/SEMI-VOICED SOUND MARK
309B KATAKANA-HIRAGANA /VOICED SOUND MARK/SEMI-VOICED SOUND MARK
309D HIRAGANA /ITERATION MARK/VOICED ITERATION MARK/DIGRAPH YORI
30A0 KATAKANA-HIRAGANA DOUBLE /HYPHEN
30A1 KATAKANA LETTER /SMALL A/A/SMALL I/I/SMALL U
30A6 KATAKANA LETTER /U/SMALL E/E/SMALL O/O/KA/GA/KI/GI/KU/GU/KE/GE/KO/GO/SA/ZA/SI/ZI/SU/ZU/SE
30BC KATAKANA LETTER /ZE/SO/ZO/TA/DA/TI/DI/SMALL TU/TU/DU/TE/DE/TO/DO/NA/NI/NU/NE/NO/HA/BA/PA/HI/BI
30D4 KATAKANA LETTER /PI/HU/BU/PU/HE/BE/PE/HO/BO/PO/MA/MI/MU/ME/MO/SMALL YA/YA/SMALL YU/YU/SMALL YO
30E8 KATAKANA LETTER /YO/RA/RI/RU/RE/RO/SMALL WA/WA/WI/WE/WO/N/VU/SMALL KA/SMALL KE/VA/VI/VE/VO
30FB /KATAKANA MIDDLE DOT/KATAKANA-HIRAGANA PROLONGED SOUND MARK
30FD KATAKANA /ITERATION MARK/VOICED ITERATION MARK/DIGRAPH KOTO
3105 BOPOMOFO LETTER /B/P/M/F/D/T/N/L/G/K/H/J/Q/X/ZH/CH/SH/R/Z/C
3119 BOPOMOFO LETTER /S/A/O/E/EH/AI/EI/AU/OU/AN/EN/ANG/ENG/ER/I/U/IU/V/NG/GN/IH/O WITH DOT ABOVE/NN
3131 HANGUL LETTER /KIYEOK/SSANGKIYEOK/KIYEOK-SIOS/NIEUN/NIEUN-CIEUC
3136 HANGUL LETTER /NIEUN-HIEUH/TIKEUT/SSANGTIKEUT/RIEUL/RIEUL-KIYEOK/RIEUL-MIEUM/RIEUL-PIEUP
313D HANGUL LETTER /RIEUL-SIOS/RIEUL-THIEUTH/RIEUL-PHIEUPH/RIEUL-HIEUH/MIEUM/PIEUP/SSANGPIEUP
3144 HANGUL LETTER /PIEUP-SIOS/SIOS/SSANGSIOS/IEUNG/CIEUC/SSANGCIEUC/CHIEUCH/KHIEUKH/THIEUTH
314D HANGUL LETTER /PHIEUPH/HIEUH/A/AE/YA/YAE/EO/E/YEO/YE/O/WA/WAE/OE/YO/U/WEO/WE/WI/YU/EU/YI/I
3164 HANGUL /FILLER
3165 HANGUL LETTER /SSANGNIEUN/NIEUN-TIKEUT/NIEUN-SIOS/NIEUN-PANSIOS
3169 HANGUL LETTER /RIEUL-KIYEOK-SIOS/RIEUL-TIKEUT/RIEUL-PIEUP-SIOS/RIEUL-PANSIOS/RIEUL-YEORINHIEUH
316E HANGUL LETTER /MIEUM-PIEUP/MIEUM-SIOS/MIEUM-PANSIOS/KAPYEOUNMIEUM/PIEUP-KIYEOK/PIEUP-TIKEUT
3174 HANGUL LETTER /PIEUP-SIOS-KIYEOK/PIEUP-SIOS-TIKEUT/PIEUP-CIEUC/PIEUP-THIEUTH/KAPYEOUNPIEUP
3179 HANGUL LETTER /KAPYEOUNSSANGPIEUP/SIOS-KIYEOK/SIOS-NIEUN/SIOS-TIKEUT/SIOS-PIEUP/SIOS-CIEUC
317F HANGUL LETTER /PANSIOS/SSANGIEUNG/YESIEUNG/YESIEUNG-SIOS/YESIEUNG-PANSIOS/KAPYEOUNPHIEUPH
3185 HANGUL LETTER /SSANGHIEUH/YEORINHIEUH/YO-YA/YO-YAE/YO-I/YU-YEO/YU-YE/YU-I/ARAEA/ARAEAE
3190 IDEOGRAPHIC ANNOTATION /LINKING MARK/REVERSE MARK/ONE MARK/TWO MARK
3194 IDEOGRAPHIC ANNOTATION /THREE MARK/FOUR MARK/TOP MARK/MIDDLE MARK/BOTTOM MARK/FIRST MARK
319A IDEOGRAPHIC ANNOTATION /SECOND MARK/THIRD MARK/FOURTH MARK/HEAVEN MARK/EARTH MARK/MAN MARK
31A0 BOPOMOFO LETTER /BU/ZI/JI/GU/EE/ENN/OO/ONN/IR/ANN/INN/UNN/IM/NGG/AINN/AUNN/AM/OM/ONG/INNN
31B4 BOPOMOFO FINAL LETTER /P/T/K/H
31B8 BOPOMOFO /LETTER GH/LETTER LH/LETTER ZY/FINAL LETTER G
31BC BOPOMOFO LETTER /GW/KW/OE/AH
31C0 CJK STROKE /T/WG/XG/BXG/SW/HZZ/HZG/HP/HZWG/SZWG/HZT
31CB CJK STROKE /HZZP/HPWG/HZW/HZZZ/N/H/S/P/SP/D/HZ/HG/SZ/SWZ/ST/SG/PD/PZ/TN/SZZ/SWG/HXWG/HZZZG/PG/Q
31F0 KATAKANA LETTER SMALL /KU/SI/SU/TO/NU/HA/HI/HU/HE/HO/MU/RA/RI/RU/RE/RO
3200 PARENTHESIZED HANGUL /KIYEOK/NIEUN/TIKEUT/RIEUL/MIEUM/PIEUP/SIOS/IEUNG/CIEUC/CHIEUCH/KHIEUKH
320B PARENTHESIZED HANGUL /THIEUTH/PHIEUPH/HIEUH/KIYEOK A/NIEUN A/TIKEUT A/RIEUL A/MIEUM A/PIEUP A
3214 PARENTHESIZED HANGUL /SIOS A/IEUNG A/CIEUC A/CHIEUCH A/KHIEUKH A/THIEUTH A/PHIEUPH A/HIEUH A
321C PARENTHESIZED /HANGUL CIEUC U/KOREAN CHARACTER OJEON/KOREAN CHARACTER O HU
3220 PARENTHESIZED IDEOGRAPH /ONE/TWO/THREE/FOUR/FIVE/SIX
3226 PARENTHESIZED IDEOGRAPH /SEVEN/EIGHT/NINE/TEN/MOON/FIRE/WATER/WOOD/METAL/EARTH/SUN/STOCK/HAVE
3233 PARENTHESIZED IDEOGRAPH /SOCIETY/NAME/SPECIAL/FINANCIAL/CONGRATULATION/LABOR/REPRESENT/CALL
323B PARENTHESIZED IDEOGRAPH /STUDY/SUPERVISE/ENTERPRISE/RESOURCE/ALLIANCE/FESTIVAL/REST/SELF/REACH
3244 CIRCLED IDEOGRAPH /QUESTION/KINDERGARTEN/SCHOOL/KOTO
3248 CIRCLED NUMBER /TEN ON BLACK SQUARE/TWENTY ON BLACK SQUARE
324A CIRCLED NUMBER /THIRTY ON BLACK SQUARE/FORTY ON BLACK SQUARE/FIFTY ON BLACK SQUARE
324D CIRCLED NUMBER /SIXTY ON BLACK SQUARE/SEVENTY ON BLACK SQUARE/EIGHTY ON BLACK SQUARE
3250 PARTNERSHIP /SIGN
3251 CIRCLED NUMBER TWENTY /ONE/TWO/THREE/FOUR/FIVE/SIX/SEVEN/EIGHT/NINE
325A CIRCLED NUMBER /THIRTY
325B CIRCLED NUMBER THIRTY /ONE/TWO/THREE/FOUR/FIVE
3260 CIRCLED HANGUL /KIYEOK/NIEUN/TIKEUT/RIEUL/MIEUM/PIEUP/SIOS/IEUNG/CIEUC
3269 CIRCLED HANGUL /CHIEUCH/KHIEUKH/THIEUTH/PHIEUPH/HIEUH/KIYEOK A/NIEUN A/TIKEUT A/RIEUL A/MIEUM A
3273 CIRCLED HANGUL /PIEUP A/SIOS A/IEUNG A/CIEUC A/CHIEUCH A/KHIEUKH A/THIEUTH A/PHIEUPH A/HIEUH A
327C CIRCLED KOREAN CHARACTER /CHAMKO/JUEUI
327E /CIRCLED HANGUL IEUNG U/KOREAN STANDARD SYMBOL
3280 CIRCLED IDEOGRAPH /ONE/TWO/THREE/FOUR/FIVE/SIX
3286 CIRCLED IDEOGRAPH /SEVEN/EIGHT/NINE/TEN/MOON/FIRE/WATER/WOOD/METAL/EARTH/SUN/STOCK/HAVE/SOCIETY
3294 CIRCLED IDEOGRAPH /NAME/SPECIAL/FINANCIAL/CONGRATULATION/LABOR/SECRET/MALE/FEMALE/SUITABLE
329D CIRCLED IDEOGRAPH /EXCELLENT/PRINT/ATTENTION/ITEM/REST/COPY/CORRECT/HIGH/CENTRE/LOW/LEFT
32A8 CIRCLED IDEOGRAPH /RIGHT/MEDICINE/RELIGION/STUDY/SUPERVISE/ENTERPRISE/RESOURCE/ALLIANCE/NIGHT
32B1 CIRCLED NUMBER /THIRTY SIX/THIRTY SEVEN/THIRTY EIGHT/THIRTY NINE/FORTY
32B6 CIRCLED NUMBER FORTY /ONE/TWO/THREE/FOUR/FIVE/SIX/SEVEN/EIGHT/NINE
32BF CIRCLED NUMBER /FIFTY
32C0 IDEOGRAPHIC TELEGRAPH SYMBOL FOR /JANUARY/FEBRUARY/MARCH/APRIL
32C4 IDEOGRAPHIC TELEGRAPH SYMBOL FOR /MAY/JUNE/JULY/AUGUST/SEPTEMBER/OCTOBER/NOVEMBER/DECEMBER
32CC SQUARE /HG/ERG/EV
32CF LIMITED LIABILITY /SIGN
32D0 CIRCLED KATAKANA /A/I/U/E/O/KA/KI/KU/KE/KO/SA/SI/SU/SE/SO/TA/TI/TU/TE/TO/NA
32E5 CIRCLED KATAKANA /NI/NU/NE/NO/HA/HI/HU/HE/HO/MA/MI/MU/ME/MO/YA/YU/YO/RA/RI/RU/RE/RO/WA/WI/WE/WO
32FF SQUARE ERA NAME /REIWA
3300 SQUARE /APAATO/ARUHUA/ANPEA/AARU/ININGU/INTI/UON/ESUKUUDO/EEKAA/ONSU/OOMU/KAIRI/KARATTO/KARORII
330E SQUARE /GARON/GANMA/GIGA/GINII/KYURII/GIRUDAA/KIRO/KIROGURAMU/KIROMEETORU/KIROWATTO/GURAMU
3319 SQUARE /GURAMUTON/KURUZEIRO/KUROONE/KEESU/KORUNA/KOOPO/SAIKURU/SANTIIMU/SIRINGU/SENTI/SENTO
3324 SQUARE /DAASU/DESI/DORU/TON/NANO/NOTTO/HAITU/PAASENTO/PAATU/BAARERU/PIASUTORU/PIKURU/PIKO/BIRU
3332 SQUARE /HUARADDO/HUIITO/BUSSYERU/HURAN/HEKUTAARU/PESO/PENIHI/HERUTU/PENSU/PEEZI/BEETA/POINTO
333E SQUARE /BORUTO/HON/PONDO/HOORU/HOON/MAIKURO/MAIRU/MAHHA/MARUKU/MANSYON/MIKURON/MIRI/MIRIBAARU
334B SQUARE /MEGA/MEGATON/MEETORU/YAADO/YAARU/YUAN/RITTORU/RIRA/RUPII/RUUBURU/REMU/RENTOGEN/WATTO
3358 IDEOGRAPHIC TELEGRAPH SYMBOL FOR HOUR /ZERO/ONE/TWO/THREE/FOUR
335D IDEOGRAPHIC TELEGRAPH SYMBOL FOR HOUR /FIVE/SIX/SEVEN/EIGHT/NINE/TEN/ELEVEN/TWELVE/THIRTEEN
3366 IDEOGRAPHIC TELEGRAPH SYMBOL FOR HOUR /FOURTEEN/FIFTEEN/SIXTEEN/SEVENTEEN/EIGHTEEN/NINETEEN
336C IDEOGRAPHIC TELEGRAPH SYMBOL FOR HOUR /TWENTY/TWENTY-ONE/TWENTY-TWO/TWENTY-THREE/TWENTY-FOUR
3371 SQUARE /HPA/DA/AU/BAR/OV/PC/DM/DM SQUARED/DM CUBED/IU
337B SQUARE ERA NAME /HEISEI/SYOUWA/TAISYOU/MEIZI
337F SQUARE /CORPORATION/PA AMPS/NA/MU A/MA/KA/KB/MB/GB/CAL/KCAL/PF/NF/MU F
338D SQUARE /MU G/MG/KG/HZ/KHZ/MHZ/GHZ/THZ/MU L/ML/DL/KL/FM/NM/MU M/MM/CM/KM/MM SQUARED/CM SQUARED
33A1 SQUARE /M SQUARED/KM SQUARED/MM CUBED/CM CUBED/M CUBED/KM CUBED/M OVER S/M OVER S SQUARED
33A9 SQUARE /PA/KPA/MPA/GPA/RAD/RAD OVER S/RAD OVER S SQUARED/PS/NS/MU S/MS/PV/NV/MU V/MV
33B8 SQUARE /KV/MV MEGA/PW/NW/MU W/MW/KW/MW MEGA/K OHM/M OHM/AM/BQ/CC/CD/C OVER KG/CO/DB/GY/HA/HP/IN
33CD SQUARE /KK/KM CAPITAL/KT/LM/LN/LOG/LX/MB SMALL/MIL/MOL/PH/PM/PPM/PR/SR/SV/WB/V OVER M/A OVER M
33E0 IDEOGRAPHIC TELEGRAPH SYMBOL FOR DAY /ONE/TWO/THREE/FOUR/FIVE/SIX/SEVEN/EIGHT
33E8 IDEOGRAPHIC TELEGRAPH SYMBOL FOR DAY /NINE/TEN/ELEVEN/TWELVE/THIRTEEN/FOURTEEN/FIFTEEN/SIXTEEN
33F0 IDEOGRAPHIC TELEGRAPH SYMBOL FOR DAY /SEVENTEEN/EIGHTEEN/NINETEEN/TWENTY/TWENTY-ONE/TWENTY-TWO
33F6 IDEOGRAPHIC TELEGRAPH SYMBOL FOR DAY /TWENTY-THREE/TWENTY-FOUR/TWENTY-FIVE/TWENTY-SIX
33FA IDEOGRAPHIC TELEGRAPH SYMBOL FOR DAY /TWENTY-SEVEN/TWENTY-EIGHT/TWENTY-NINE/THIRTY/THIRTY-ONE
33FF SQUARE /GAL
4DC0 HEXAGRAM FOR THE /CREATIVE HEAVEN/RECEPTIVE EARTH
4DC2 HEXAGRAM FOR /DIFFICULTY AT THE BEGINNING/YOUTHFUL FOLLY/WAITING/CONFLICT
4DC6 HEXAGRAM FOR /THE ARMY/HOLDING TOGETHER/SMALL TAMING/TREADING/PEACE/STANDSTILL/FELLOWSHIP
4DCD HEXAGRAM FOR /GREAT POSSESSION/MODESTY/ENTHUSIASM/FOLLOWING/WORK ON THE DECAYED/APPROACH
4DD3 HEXAGRAM FOR /CONTEMPLATION/BITING THROUGH/GRACE/SPLITTING APART/RETURN/INNOCENCE/GREAT TAMING
4DDA HEXAGRAM FOR /MOUTH CORNERS/GREAT PREPONDERANCE/THE ABYSMAL WATER/THE CLINGING FIRE
4DDE HEXAGRAM FOR /INFLUENCE/DURATION/RETREAT/GREAT POWER/PROGRESS/DARKENING OF THE LIGHT/THE FAMILY
4DE5 HEXAGRAM FOR /OPPOSITION/OBSTRUCTION/DELIVERANCE/DECREASE/INCREASE/BREAKTHROUGH/COMING TO MEET
4DEC HEXAGRAM FOR /GATHERING TOGETHER/PUSHING UPWARD/OPPRESSION/THE WELL/REVOLUTION/THE CAULDRON
4DF2 HEXAGRAM FOR /THE AROUSING THUNDER/THE KEEPING STILL MOUNTAIN/DEVELOPMENT/THE MARRYING MAIDEN
4DF6 HEXAGRAM FOR /ABUNDANCE/THE WANDERER/THE GENTLE WIND/THE JOYOUS LAKE/DISPERSION
4DFB HEXAGRAM FOR /LIMITATION/INNER TRUTH/SMALL PREPONDERANCE/AFTER COMPLETION/BEFORE COMPLETION
A000 YI SYLLABLE /IT/IX/I/IP/IET/IEX/IE/IEP/AT/AX/A/AP/UOX/UO/UOP/OT/OX/O/OP/EX/E/WU/BIT/BIX/BI/BIP
A01A YI SYLLABLE /BIET/BIEX/BIE/BIEP/BAT/BAX/BA/BAP/BUOX/BUO/BUOP/BOT/BOX/BO/BOP/BEX/BE/BEP/BUT/BUX
A02E YI SYLLABLE /BU/BUP/BURX/BUR/BYT/BYX/BY/BYP/BYRX/BYR/PIT/PIX/PI/PIP/PIEX/PIE/PIEP/PAT/PAX/PA
A042 YI SYLLABLE /PAP/PUOX/PUO/PUOP/POT/POX/PO/POP/PUT/PUX/PU/PUP/PURX/PUR/PYT/PYX/PY/PYP/PYRX/PYR
A056 YI SYLLABLE /BBIT/BBIX/BBI/BBIP/BBIET/BBIEX/BBIE/BBIEP/BBAT/BBAX/BBA/BBAP/BBUOX/BBUO/BBUOP/BBOT
A066 YI SYLLABLE /BBOX/BBO/BBOP/BBEX/BBE/BBEP/BBUT/BBUX/BBU/BBUP/BBURX/BBUR/BBYT/BBYX/BBY/BBYP/NBIT
A077 YI SYLLABLE /NBIX/NBI/NBIP/NBIEX/NBIE/NBIEP/NBAT/NBAX/NBA/NBAP/NBOT/NBOX/NBO/NBOP/NBUT/NBUX/NBU
A088 YI SYLLABLE /NBUP/NBURX/NBUR/NBYT/NBYX/NBY/NBYP/NBYRX/NBYR/HMIT/HMIX/HMI/HMIP/HMIEX/HMIE/HMIEP
A098 YI SYLLABLE /HMAT/HMAX/HMA/HMAP/HMUOX/HMUO/HMUOP/HMOT/HMOX/HMO/HMOP/HMUT/HMUX/HMU/HMUP/HMURX
A0A8 YI SYLLABLE /HMUR/HMYX/HMY/HMYP/HMYRX/HMYR/MIT/MIX/MI/MIP/MIEX/MIE/MIEP/MAT/MAX/MA/MAP/MUOT
A0BA YI SYLLABLE /MUOX/MUO/MUOP/MOT/MOX/MO/MOP/MEX/ME/MUT/MUX/MU/MUP/MURX/MUR/MYT/MYX/MY/MYP/FIT/FIX
A0CF YI SYLLABLE /FI/FIP/FAT/FAX/FA/FAP/FOX/FO/FOP/FUT/FUX/FU/FUP/FURX/FUR/FYT/FYX/FY/FYP/VIT/VIX/VI
A0E5 YI SYLLABLE /VIP/VIET/VIEX/VIE/VIEP/VAT/VAX/VA/VAP/VOT/VOX/VO/VOP/VEX/VEP/VUT/VUX/VU/VUP/VURX
A0F9 YI SYLLABLE /VUR/VYT/VYX/VY/VYP/VYRX/VYR/DIT/DIX/DI/DIP/DIEX/DIE/DIEP/DAT/DAX/DA/DAP/DUOX/DUO
A10D YI SYLLABLE /DOT/DOX/DO/DOP/DEX/DE/DEP/DUT/DUX/DU/DUP/DURX/DUR/TIT/TIX/TI/TIP/TIEX/TIE/TIEP/TAT
A122 YI SYLLABLE /TAX/TA/TAP/TUOT/TUOX/TUO/TUOP/TOT/TOX/TO/TOP/TEX/TE/TEP/TUT/TUX/TU/TUP/TURX/TUR
A136 YI SYLLABLE /DDIT/DDIX/DDI/DDIP/DDIEX/DDIE/DDIEP/DDAT/DDAX/DDA/DDAP/DDUOX/DDUO/DDUOP/DDOT/DDOX
A146 YI SYLLABLE /DDO/DDOP/DDEX/DDE/DDEP/DDUT/DDUX/DDU/DDUP/DDURX/DDUR/NDIT/NDIX/NDI/NDIP/NDIEX/NDIE
A157 YI SYLLABLE /NDAT/NDAX/NDA/NDAP/NDOT/NDOX/NDO/NDOP/NDEX/NDE/NDEP/NDUT/NDUX/NDU/NDUP/NDURX/NDUR
A168 YI SYLLABLE /HNIT/HNIX/HNI/HNIP/HNIET/HNIEX/HNIE/HNIEP/HNAT/HNAX/HNA/HNAP/HNUOX/HNUO/HNOT/HNOX
A178 YI SYLLABLE /HNOP/HNEX/HNE/HNEP/HNUT/NIT/NIX/NI/NIP/NIEX/NIE/NIEP/NAX/NA/NAP/NUOX/NUO/NUOP/NOT
A18B YI SYLLABLE /NOX/NO/NOP/NEX/NE/NEP/NUT/NUX/NU/NUP/NURX/NUR/HLIT/HLIX/HLI/HLIP/HLIEX/HLIE/HLIEP
A19E YI SYLLABLE /HLAT/HLAX/HLA/HLAP/HLUOX/HLUO/HLUOP/HLOX/HLO/HLOP/HLEX/HLE/HLEP/HLUT/HLUX/HLU
A1AE YI SYLLABLE /HLUP/HLURX/HLUR/HLYT/HLYX/HLY/HLYP/HLYRX/HLYR/LIT/LIX/LI/LIP/LIET/LIEX/LIE/LIEP
A1BF YI SYLLABLE /LAT/LAX/LA/LAP/LUOT/LUOX/LUO/LUOP/LOT/LOX/LO/LOP/LEX/LE/LEP/LUT/LUX/LU/LUP/LURX
A1D3 YI SYLLABLE /LUR/LYT/LYX/LY/LYP/LYRX/LYR/GIT/GIX/GI/GIP/GIET/GIEX/GIE/GIEP/GAT/GAX/GA/GAP/GUOT
A1E7 YI SYLLABLE /GUOX/GUO/GUOP/GOT/GOX/GO/GOP/GET/GEX/GE/GEP/GUT/GUX/GU/GUP/GURX/GUR/KIT/KIX/KI/KIP
A1FC YI SYLLABLE /KIEX/KIE/KIEP/KAT/KAX/KA/KAP/KUOX/KUO/KUOP/KOT/KOX/KO/KOP/KET/KEX/KE/KEP/KUT/KUX
A210 YI SYLLABLE /KU/KUP/KURX/KUR/GGIT/GGIX/GGI/GGIEX/GGIE/GGIEP/GGAT/GGAX/GGA/GGAP/GGUOT/GGUOX/GGUO
A221 YI SYLLABLE /GGUOP/GGOT/GGOX/GGO/GGOP/GGET/GGEX/GGE/GGEP/GGUT/GGUX/GGU/GGUP/GGURX/GGUR/MGIEX
A231 YI SYLLABLE /MGIE/MGAT/MGAX/MGA/MGAP/MGUOX/MGUO/MGUOP/MGOT/MGOX/MGO/MGOP/MGEX/MGE/MGEP/MGUT
A241 YI SYLLABLE /MGUX/MGU/MGUP/MGURX/MGUR/HXIT/HXIX/HXI/HXIP/HXIET/HXIEX/HXIE/HXIEP/HXAT/HXAX/HXA
A251 YI SYLLABLE /HXAP/HXUOT/HXUOX/HXUO/HXUOP/HXOT/HXOX/HXO/HXOP/HXEX/HXE/HXEP/NGIEX/NGIE/NGIEP/NGAT
A261 YI SYLLABLE /NGAX/NGA/NGAP/NGUOT/NGUOX/NGUO/NGOT/NGOX/NGO/NGOP/NGEX/NGE/NGEP/HIT/HIEX/HIE/HAT
A272 YI SYLLABLE /HAX/HA/HAP/HUOT/HUOX/HUO/HUOP/HOT/HOX/HO/HOP/HEX/HE/HEP/WAT/WAX/WA/WAP/WUOX/WUO
A286 YI SYLLABLE /WUOP/WOX/WO/WOP/WEX/WE/WEP/ZIT/ZIX/ZI/ZIP/ZIEX/ZIE/ZIEP/ZAT/ZAX/ZA/ZAP/ZUOX/ZUO
A29A YI SYLLABLE /ZUOP/ZOT/ZOX/ZO/ZOP/ZEX/ZE/ZEP/ZUT/ZUX/ZU/ZUP/ZURX/ZUR/ZYT/ZYX/ZY/ZYP/ZYRX/ZYR/CIT
A2AF YI SYLLABLE /CIX/CI/CIP/CIET/CIEX/CIE/CIEP/CAT/CAX/CA/CAP/CUOX/CUO/CUOP/COT/COX/CO/COP/CEX/CE
A2C3 YI SYLLABLE /CEP/CUT/CUX/CU/CUP/CURX/CUR/CYT/CYX/CY/CYP/CYRX/CYR/ZZIT/ZZIX/ZZI/ZZIP/ZZIET/ZZIEX
A2D6 YI SYLLABLE /ZZIE/ZZIEP/ZZAT/ZZAX/ZZA/ZZAP/ZZOX/ZZO/ZZOP/ZZEX/ZZE/ZZEP/ZZUX/ZZU/ZZUP/ZZURX
A2E6 YI SYLLABLE /ZZUR/ZZYT/ZZYX/ZZY/ZZYP/ZZYRX/ZZYR/NZIT/NZIX/NZI/NZIP/NZIEX/NZIE/NZIEP/NZAT/NZAX
A2F6 YI SYLLABLE /NZA/NZAP/NZUOX/NZUO/NZOX/NZOP/NZEX/NZE/NZUX/NZU/NZUP/NZURX/NZUR/NZYT/NZYX/NZY/NZYP
A307 YI SYLLABLE /NZYRX/NZYR/SIT/SIX/SI/SIP/SIEX/SIE/SIEP/SAT/SAX/SA/SAP/SUOX/SUO/SUOP/SOT/SOX/SO
A31A YI SYLLABLE /SOP/SEX/SE/SEP/SUT/SUX/SU/SUP/SURX/SUR/SYT/SYX/SY/SYP/SYRX/SYR/SSIT/SSIX/SSI/SSIP
A32E YI SYLLABLE /SSIEX/SSIE/SSIEP/SSAT/SSAX/SSA/SSAP/SSOT/SSOX/SSO/SSOP/SSEX/SSE/SSEP/SSUT/SSUX/SSU
A33F YI SYLLABLE /SSUP/SSYT/SSYX/SSY/SSYP/SSYRX/SSYR/ZHAT/ZHAX/ZHA/ZHAP/ZHUOX/ZHUO/ZHUOP/ZHOT/ZHOX
A34F YI SYLLABLE /ZHO/ZHOP/ZHET/ZHEX/ZHE/ZHEP/ZHUT/ZHUX/ZHU/ZHUP/ZHURX/ZHUR/ZHYT/ZHYX/ZHY/ZHYP/ZHYRX
A360 YI SYLLABLE /ZHYR/CHAT/CHAX/CHA/CHAP/CHUOT/CHUOX/CHUO/CHUOP/CHOT/CHOX/CHO/CHOP/CHET/CHEX/CHE
A370 YI SYLLABLE /CHEP/CHUX/CHU/CHUP/CHURX/CHUR/CHYT/CHYX/CHY/CHYP/CHYRX/CHYR/RRAX/RRA/RRUOX/RRUO
A380 YI SYLLABLE /RROT/RROX/RRO/RROP/RRET/RREX/RRE/RREP/RRUT/RRUX/RRU/RRUP/RRURX/RRUR/RRYT/RRYX/RRY
A391 YI SYLLABLE /RRYP/RRYRX/RRYR/NRAT/NRAX/NRA/NRAP/NROX/NRO/NROP/NRET/NREX/NRE/NREP/NRUT/NRUX/NRU
A3A2 YI SYLLABLE /NRUP/NRURX/NRUR/NRYT/NRYX/NRY/NRYP/NRYRX/NRYR/SHAT/SHAX/SHA/SHAP/SHUOX/SHUO/SHUOP
A3B2 YI SYLLABLE /SHOT/SHOX/SHO/SHOP/SHET/SHEX/SHE/SHEP/SHUT/SHUX/SHU/SHUP/SHURX/SHUR/SHYT/SHYX/SHY
A3C3 YI SYLLABLE /SHYP/SHYRX/SHYR/RAT/RAX/RA/RAP/RUOX/RUO/RUOP/ROT/ROX/RO/ROP/REX/RE/REP/RUT/RUX/RU
A3D7 YI SYLLABLE /RUP/RURX/RUR/RYT/RYX/RY/RYP/RYRX/RYR/JIT/JIX/JI/JIP/JIET/JIEX/JIE/JIEP/JUOT/JUOX
A3EA YI SYLLABLE /JUO/JUOP/JOT/JOX/JO/JOP/JUT/JUX/JU/JUP/JURX/JUR/JYT/JYX/JY/JYP/JYRX/JYR/QIT/QIX/QI
A3FF YI SYLLABLE /QIP/QIET/QIEX/QIE/QIEP/QUOT/QUOX/QUO/QUOP/QOT/QOX/QO/QOP/QUT/QUX/QU/QUP/QURX/QUR
A412 YI SYLLABLE /QYT/QYX/QY/QYP/QYRX/QYR/JJIT/JJIX/JJI/JJIP/JJIET/JJIEX/JJIE/JJIEP/JJUOX/JJUO/JJUOP
A423 YI SYLLABLE /JJOT/JJOX/JJO/JJOP/JJUT/JJUX/JJU/JJUP/JJURX/JJUR/JJYT/JJYX/JJY/JJYP/NJIT/NJIX
A433 YI SYLLABLE /NJI/NJIP/NJIET/NJIEX/NJIE/NJIEP/NJUOX/NJUO/NJOT/NJOX/NJO/NJOP/NJUX/NJU/NJUP/NJURX
A443 YI SYLLABLE /NJUR/NJYT/NJYX/NJY/NJYP/NJYRX/NJYR/NYIT/NYIX/NYI/NYIP/NYIET/NYIEX/NYIE/NYIEP/NYUOX
A453 YI SYLLABLE /NYUO/NYUOP/NYOT/NYOX/NYO/NYOP/NYUT/NYUX/NYU/NYUP/XIT/XIX/XI/XIP/XIET/XIEX/XIE/XIEP
A465 YI SYLLABLE /XUOX/XUO/XOT/XOX/XO/XOP/XYT/XYX/XY/XYP/XYRX/XYR/YIT/YIX/YI/YIP/YIET/YIEX/YIE/YIEP
A479 YI SYLLABLE /YUOT/YUOX/YUO/YUOP/YOT/YOX/YO/YOP/YUT/YUX/YU/YUP/YURX/YUR/YYT/YYX/YY/YYP/YYRX/YYR
A490 YI RADICAL /QOT/LI/KIT/NYIP/CYP/SSI/GGOP/GEP/MI/HXIT/LYR/BBUT/MOP/YO/PUT
A49F YI RADICAL /HXUO/TAT/GA/ZUP/CYT/DDUR/BUR/GGUO/NYOP/TU/OP/JJUT/ZOT/PYT/HMO/YIT/VUR/SHY/VEP/ZA/JO
A4B4 YI RADICAL /NZUP/JJY/GOT/JJIE/WO/DU/SHUR/LIE/CY/CUOP/CIP/HXOP/SHAT/ZUR/SHOP/CHE/ZZIET/NBIE/KE
A4D0 LISU LETTER /BA/PA/PHA/DA/TA/THA/GA/KA/KHA/JA/CA/CHA/DZA/TSA/TSHA/MA/NA/LA/SA/ZHA
A4E4 LISU LETTER /ZA/NGA/HA/XA/HHA/FA/WA/SHA/YA/GHA/A/AE/E/EU/I/O/U/UE/UH/OE/TONE MYA TI/TONE NA PO
A4FA LISU LETTER TONE MYA /CYA/BO/NA/JEU
A4FE LISU PUNCTUATION /COMMA/FULL STOP
A500 VAI SYLLABLE /EE/EEN/HEE/WEE/WEEN/PEE/BHEE/BEE/MBEE/KPEE/MGBEE/GBEE/FEE
A50D VAI SYLLABLE /VEE/TEE/THEE/DHEE/DHHEE/LEE/REE/DEE/NDEE/SEE/SHEE/ZEE/ZHEE/CEE/JEE/NJEE/YEE/KEE
A51F VAI SYLLABLE /NGGEE/GEE/MEE/NEE/NYEE/I/IN/HI/HIN/WI/WIN/PI/BHI/BI/MBI/KPI/MGBI/GBI/FI/VI/TI/THI
A535 VAI SYLLABLE /DHI/DHHI/LI/RI/DI/NDI/SI/SHI/ZI/ZHI/CI/JI/NJI/YI/KI/NGGI/GI/MI/NI/NYI/A/AN/NGAN
A54C VAI SYLLABLE /HA/HAN/WA/WAN/PA/BHA/BA/MBA/KPA/KPAN/MGBA/GBA/FA/VA/TA/THA/DHA/DHHA/LA/RA/DA/NDA
A562 VAI SYLLABLE /SA/SHA/ZA/ZHA/CA/JA/NJA/YA/KA/KAN/NGGA/GA/MA/NA/NYA/OO/OON/HOO/WOO/WOON/POO/BHOO
A578 VAI SYLLABLE /BOO/MBOO/KPOO/MGBOO/GBOO/FOO/VOO/TOO/THOO/DHOO/DHHOO/LOO/ROO/DOO/NDOO/SOO/SHOO
A589 VAI SYLLABLE /ZOO/ZHOO/COO/JOO/NJOO/YOO/KOO/NGGOO/GOO/MOO/NOO/NYOO/U/UN/HU/HUN/WU/WUN/PU/BHU/BU
A59E VAI SYLLABLE /MBU/KPU/MGBU/GBU/FU/VU/TU/THU/DHU/DHHU/LU/RU/DU/NDU/SU/SHU/ZU/ZHU/CU/JU/NJU/YU/KU
A5B5 VAI SYLLABLE /NGGU/GU/MU/NU/NYU/O/ON/NGON/HO/HON/WO/WON/PO/BHO/BO/MBO/KPO/MGBO/GBO/GBON/FO/VO
A5CB VAI SYLLABLE /TO/THO/DHO/DHHO/LO/RO/DO/NDO/SO/SHO/ZO/ZHO/CO/JO/NJO/YO/KO/NGGO/GO/MO/NO/NYO/E/EN
A5E3 VAI SYLLABLE /NGEN/HE/HEN/WE/WEN/PE/BHE/BE/MBE/KPE/KPEN/MGBE/GBE/GBEN/FE/VE/TE/THE/DHE/DHHE/LE
A5F8 VAI SYLLABLE /RE/DE/NDE/SE/SHE/ZE/ZHE/CE/JE/NJE/YE/KE/NGGE/NGGEN/GE/GEN/ME/NE/NYE/NG/LENGTHENER
A60D VAI /COMMA/FULL STOP/QUESTION MARK
A610 VAI SYLLABLE NDOLE /FA/KA/SOO
A613 VAI SYMBOL /FEENG/KEENG/TING/NII/BANG/FAA/TAA/DANG/DOONG/KUNG/TONG/DO-O/JONG
A620 VAI DIGIT /ZERO/ONE/TWO/THREE/FOUR/FIVE/SIX/SEVEN/EIGHT/NINE
A62A VAI SYLLABLE NDOLE /MA/DO
A640 CYRILLIC /CAPITAL LETTER ZEMLYA/SMALL LETTER ZEMLYA/CAPITAL LETTER DZELO/SMALL LETTER DZELO
A644 CYRILLIC /CAPITAL LETTER REVERSED DZE/SMALL LETTER REVERSED DZE/CAPITAL LETTER IOTA
A647 CYRILLIC /SMALL LETTER IOTA/CAPITAL LETTER DJERV/SMALL LETTER DJERV/CAPITAL LETTER MONOGRAPH UK
A64B CYRILLIC /SMALL LETTER MONOGRAPH UK/CAPITAL LETTER BROAD OMEGA/SMALL LETTER BROAD OMEGA
A64E CYRILLIC /CAPITAL LETTER NEUTRAL YER/SMALL LETTER NEUTRAL YER/CAPITAL LETTER YERU WITH BACK YER
A651 CYRILLIC /SMALL LETTER YERU WITH BACK YER/CAPITAL LETTER IOTIFIED YAT
A653 CYRILLIC /SMALL LETTER IOTIFIED YAT/CAPITAL LETTER REVERSED YU/SMALL LETTER REVERSED YU
A656 CYRILLIC /CAPITAL LETTER IOTIFIED A/SMALL LETTER IOTIFIED A/CAPITAL LETTER CLOSED LITTLE YUS
A659 CYRILLIC /SMALL LETTER CLOSED LITTLE YUS/CAPITAL LETTER BLENDED YUS/SMALL LETTER BLENDED YUS
A65C CYRILLIC /CAPITAL LETTER IOTIFIED CLOSED LITTLE YUS/SMALL LETTER IOTIFIED CLOSED LITTLE YUS
A65E CYRILLIC /CAPITAL LETTER YN/SMALL LETTER YN/CAPITAL LETTER REVERSED TSE
A661 CYRILLIC /SMALL LETTER REVERSED TSE/CAPITAL LETTER SOFT DE/SMALL LETTER SOFT DE
A664 CYRILLIC /CAPITAL LETTER SOFT EL/SMALL LETTER SOFT EL/CAPITAL LETTER SOFT EM
A667 CYRILLIC /SMALL LETTER SOFT EM/CAPITAL LETTER MONOCULAR O/SMALL LETTER MONOCULAR O
A66A CYRILLIC /CAPITAL LETTER BINOCULAR O/SMALL LETTER BINOCULAR O/CAPITAL LETTER DOUBLE MONOCULAR O
A66D CYRILLIC /SMALL LETTER DOUBLE MONOCULAR O/LETTER MULTIOCULAR O
A66F COMBINING CYRILLIC /VZMET/TEN MILLIONS SIGN/HUNDRED MILLIONS SIGN/THOUSAND MILLIONS SIGN
A673 SLAVONIC /ASTERISK
A674 COMBINING CYRILLIC LETTER /UKRAINIAN IE/I/YI/U/HARD SIGN/YERU/SOFT SIGN/OMEGA
A67C COMBINING CYRILLIC /KAVYKA/PAYEROK
A67E CYRILLIC /KAVYKA
A67F CYRILLIC /PAYEROK/CAPITAL LETTER DWE/SMALL LETTER DWE/CAPITAL LETTER DZWE/SMALL LETTER DZWE
A684 CYRILLIC /CAPITAL LETTER ZHWE/SMALL LETTER ZHWE/CAPITAL LETTER CCHE/SMALL LETTER CCHE
A688 CYRILLIC /CAPITAL LETTER DZZE/SMALL LETTER DZZE/CAPITAL LETTER TE WITH MIDDLE HOOK
A68B CYRILLIC /SMALL LETTER TE WITH MIDDLE HOOK/CAPITAL LETTER TWE
A68D CYRILLIC /SMALL LETTER TWE/CAPITAL LETTER TSWE/SMALL LETTER TSWE/CAPITAL LETTER TSSE
A691 CYRILLIC /SMALL LETTER TSSE/CAPITAL LETTER TCHE/SMALL LETTER TCHE/CAPITAL LETTER HWE
A695 CYRILLIC /SMALL LETTER HWE/CAPITAL LETTER SHWE/SMALL LETTER SHWE/CAPITAL LETTER DOUBLE O
A699 CYRILLIC /SMALL LETTER DOUBLE O/CAPITAL LETTER CROSSED O/SMALL LETTER CROSSED O
A69C MODIFIER LETTER CYRILLIC /HARD SIGN/SOFT SIGN
A69E COMBINING CYRILLIC LETTER /EF/IOTIFIED E
A6A0 BAMUM LETTER /A/KA
A6A2 BAMUM LETTER /U/KU/EE/REE/TAE/O/NYI/I/LA/PA/RII/RIEE/LEEEE/MEEEE/TAA/NDAA/NJAEM/M/SUU/MU/SHII
A6B7 BAMUM LETTER /SI/SHEUX/SEUX/KYEE/KET/NUAE/NU/NJUAE/YOQ/SHU/YUQ/YA/NSHA/KEUX/PEUX/NJEE/NTEE/PUE
A6C9 BAMUM LETTER /WUE/PEE/FEE/RU/LU/MI/NI/REUX/RAE/KEN/NGKWAEN/NGGA/NGA/SHO/PUAE/FU/FOM/WA/NA/LI/PI
A6DE BAMUM LETTER /LOQ/KO/MBEN/REN/MEN/MA/TI/KI/MO/MBAA/TET/KPA/TEN/NTUU/SAMBA/FAAMAE/KOVUU/KOGHOM
A6F0 BAMUM COMBINING MARK /KOQNDON/TUKWENTIS
A6F2 BAMUM /NJAEMLI/FULL STOP/COLON/COMMA/SEMICOLON/QUESTION MARK
A700 MODIFIER LETTER CHINESE TONE /YIN PING/YANG PING/YIN SHANG/YANG SHANG/YIN QU/YANG QU/YIN RU
A707 MODIFIER LETTER /CHINESE TONE YANG RU/EXTRA-HIGH DOTTED TONE BAR
A709 MODIFIER LETTER /HIGH DOTTED TONE BAR/MID DOTTED TONE BAR/LOW DOTTED TONE BAR
A70C MODIFIER LETTER /EXTRA-LOW DOTTED TONE BAR/EXTRA-HIGH DOTTED LEFT-STEM TONE BAR
A70E MODIFIER LETTER /HIGH DOTTED LEFT-STEM TONE BAR/MID DOTTED LEFT-STEM TONE BAR
A710 MODIFIER LETTER /LOW DOTTED LEFT-STEM TONE BAR/EXTRA-LOW DOTTED LEFT-STEM TONE BAR
A712 MODIFIER LETTER /EXTRA-HIGH LEFT-STEM TONE BAR/HIGH LEFT-STEM TONE BAR
A714 MODIFIER LETTER /MID LEFT-STEM TONE BAR/LOW LEFT-STEM TONE BAR/EXTRA-LOW LEFT-STEM TONE BAR
A717 MODIFIER LETTER /DOT VERTICAL BAR/DOT SLASH/DOT HORIZONTAL BAR/LOWER RIGHT CORNER ANGLE
A71B MODIFIER LETTER RAISED /UP ARROW/DOWN ARROW/EXCLAMATION MARK/INVERTED EXCLAMATION MARK
A71F MODIFIER LETTER /LOW INVERTED EXCLAMATION MARK/STRESS AND HIGH TONE/STRESS AND LOW TONE
A722 LATIN /CAPITAL LETTER EGYPTOLOGICAL ALEF/SMALL LETTER EGYPTOLOGICAL ALEF
A724 LATIN /CAPITAL LETTER EGYPTOLOGICAL AIN/SMALL LETTER EGYPTOLOGICAL AIN/CAPITAL LETTER HENG
A727 LATIN /SMALL LETTER HENG/CAPITAL LETTER TZ/SMALL LETTER TZ/CAPITAL LETTER TRESILLO
A72B LATIN /SMALL LETTER TRESILLO/CAPITAL LETTER CUATRILLO/SMALL LETTER CUATRILLO
A72E LATIN /CAPITAL LETTER CUATRILLO WITH COMMA/SMALL LETTER CUATRILLO WITH COMMA
A730 LATIN LETTER SMALL CAPITAL /F/S
A732 LATIN /CAPITAL LETTER AA/SMALL LETTER AA/CAPITAL LETTER AO
A735 LATIN /SMALL LETTER AO/CAPITAL LETTER AU/SMALL LETTER AU/CAPITAL LETTER AV/SMALL LETTER AV
A73A LATIN /CAPITAL LETTER AV WITH HORIZONTAL BAR/SMALL LETTER AV WITH HORIZONTAL BAR
A73C LATIN /CAPITAL LETTER AY/SMALL LETTER AY/CAPITAL LETTER REVERSED C WITH DOT
A73F LATIN /SMALL LETTER REVERSED C WITH DOT/CAPITAL LETTER K WITH STROKE
A741 LATIN /SMALL LETTER K WITH STROKE/CAPITAL LETTER K WITH DIAGONAL STROKE
A743 LATIN /SMALL LETTER K WITH DIAGONAL STROKE/CAPITAL LETTER K WITH STROKE AND DIAGONAL STROKE
A745 LATIN /SMALL LETTER K WITH STROKE AND DIAGONAL STROKE/CAPITAL LETTER BROKEN L
A747 LATIN /SMALL LETTER BROKEN L/CAPITAL LETTER L WITH HIGH STROKE/SMALL LETTER L WITH HIGH STROKE
A74A LATIN /CAPITAL LETTER O WITH LONG STROKE OVERLAY/SMALL LETTER O WITH LONG STROKE OVERLAY
A74C LATIN /CAPITAL LETTER O WITH LOOP/SMALL LETTER O WITH LOOP
A74E LATIN /CAPITAL LETTER OO/SMALL LETTER OO/CAPITAL LETTER P WITH STROKE THROUGH DESCENDER
A751 LATIN /SMALL LETTER P WITH STROKE THROUGH DESCENDER/CAPITAL LETTER P WITH FLOURISH
A753 LATIN /SMALL LETTER P WITH FLOURISH/CAPITAL LETTER P WITH SQUIRREL TAIL
A755 LATIN /SMALL LETTER P WITH SQUIRREL TAIL/CAPITAL LETTER Q WITH STROKE THROUGH DESCENDER
A757 LATIN SMALL LETTER Q WITH STROKE THROUGH /DESCENDER
A758 LATIN /CAPITAL LETTER Q WITH DIAGONAL STROKE/SMALL LETTER Q WITH DIAGONAL STROKE
A75A LATIN /CAPITAL LETTER R ROTUNDA/SMALL LETTER R ROTUNDA/CAPITAL LETTER RUM ROTUNDA
A75D LATIN /SMALL LETTER RUM ROTUNDA/CAPITAL LETTER V WITH DIAGONAL STROKE
A75F LATIN /SMALL LETTER V WITH DIAGONAL STROKE/CAPITAL LETTER VY/SMALL LETTER VY
A762 LATIN /CAPITAL LETTER VISIGOTHIC Z/SMALL LETTER VISIGOTHIC Z/CAPITAL LETTER THORN WITH STROKE
A765 LATIN /SMALL LETTER THORN WITH STROKE/CAPITAL LETTER THORN WITH STROKE THROUGH DESCENDER
A767 LATIN /SMALL LETTER THORN WITH STROKE THROUGH DESCENDER/CAPITAL LETTER VEND/SMALL LETTER VEND
A76A LATIN /CAPITAL LETTER ET/SMALL LETTER ET/CAPITAL LETTER IS/SMALL LETTER IS/CAPITAL LETTER CON
A76F /LATIN SMALL LETTER CON/MODIFIER LETTER US
A771 LATIN SMALL LETTER /DUM/LUM/MUM/NUM/RUM
A776 LATIN /LETTER SMALL CAPITAL RUM/SMALL LETTER TUM/SMALL LETTER UM/CAPITAL LETTER INSULAR D
A77A LATIN /SMALL LETTER INSULAR D/CAPITAL LETTER INSULAR F/SMALL LETTER INSULAR F
A77D LATIN CAPITAL LETTER /INSULAR G/TURNED INSULAR G
A77F LATIN /SMALL LETTER TURNED INSULAR G/CAPITAL LETTER TURNED L/SMALL LETTER TURNED L
A782 LATIN /CAPITAL LETTER INSULAR R/SMALL LETTER INSULAR R/CAPITAL LETTER INSULAR S
A785 LATIN /SMALL LETTER INSULAR S/CAPITAL LETTER INSULAR T/SMALL LETTER INSULAR T
A788 MODIFIER LETTER /LOW CIRCUMFLEX ACCENT/COLON/SHORT EQUALS SIGN
A78B LATIN /CAPITAL LETTER SALTILLO/SMALL LETTER SALTILLO/CAPITAL LETTER TURNED H
A78E LATIN /SMALL LETTER L WITH RETROFLEX HOOK AND BELT/LETTER SINOLOGICAL DOT
A790 LATIN /CAPITAL LETTER N WITH DESCENDER/SMALL LETTER N WITH DESCENDER/CAPITAL LETTER C WITH BAR
A793 LATIN SMALL LETTER /C WITH BAR/C WITH PALATAL HOOK/H WITH PALATAL HOOK
A796 LATIN CAPITAL LETTER B WITH /FLOURISH
A797 LATIN /SMALL LETTER B WITH FLOURISH/CAPITAL LETTER F WITH STROKE/SMALL LETTER F WITH STROKE
A79A LATIN /CAPITAL LETTER VOLAPUK AE/SMALL LETTER VOLAPUK AE/CAPITAL LETTER VOLAPUK OE
A79D LATIN /SMALL LETTER VOLAPUK OE/CAPITAL LETTER VOLAPUK UE/SMALL LETTER VOLAPUK UE
A7A0 LATIN /CAPITAL LETTER G WITH OBLIQUE STROKE/SMALL LETTER G WITH OBLIQUE STROKE
A7A2 LATIN /CAPITAL LETTER K WITH OBLIQUE STROKE/SMALL LETTER K WITH OBLIQUE STROKE
A7A4 LATIN /CAPITAL LETTER N WITH OBLIQUE STROKE/SMALL LETTER N WITH OBLIQUE STROKE
A7A6 LATIN /CAPITAL LETTER R WITH OBLIQUE STROKE/SMALL LETTER R WITH OBLIQUE STROKE
A7A8 LATIN /CAPITAL LETTER S WITH OBLIQUE STROKE/SMALL LETTER S WITH OBLIQUE STROKE
A7AA LATIN CAPITAL LETTER /H WITH HOOK/REVERSED OPEN E/SCRIPT G/L WITH BELT/SMALL CAPITAL I
A7AF LATIN LETTER SMALL CAPITAL /Q
A7B0 LATIN CAPITAL LETTER /TURNED K/TURNED T/J WITH CROSSED-TAIL/CHI/BETA
A7B5 LATIN /SMALL LETTER BETA/CAPITAL LETTER OMEGA/SMALL LETTER OMEGA
A7B8 LATIN /CAPITAL LETTER U WITH STROKE/SMALL LETTER U WITH STROKE/CAPITAL LETTER GLOTTAL A
A7BB LATIN /SMALL LETTER GLOTTAL A/CAPITAL LETTER GLOTTAL I/SMALL LETTER GLOTTAL I
A7BE LATIN /CAPITAL LETTER GLOTTAL U/SMALL LETTER GLOTTAL U/CAPITAL LETTER OLD POLISH O
A7C1 LATIN /SMALL LETTER OLD POLISH O/CAPITAL LETTER ANGLICANA W/SMALL LETTER ANGLICANA W
A7C4 LATIN CAPITAL LETTER /C WITH PALATAL HOOK/S WITH HOOK/Z WITH PALATAL HOOK
A7C7 LATIN /CAPITAL LETTER D WITH SHORT STROKE OVERLAY/SMALL LETTER D WITH SHORT STROKE OVERLAY
A7C9 LATIN /CAPITAL LETTER S WITH SHORT STROKE OVERLAY/SMALL LETTER S WITH SHORT STROKE OVERLAY
A7D0 LATIN /CAPITAL LETTER CLOSED INSULAR G/SMALL LETTER CLOSED INSULAR G
A7D3 LATIN SMALL LETTER DOUBLE /THORN
A7D5 LATIN /SMALL LETTER DOUBLE WYNN/CAPITAL LETTER MIDDLE SCOTS S
A7D7 LATIN /SMALL LETTER MIDDLE SCOTS S/CAPITAL LETTER SIGMOID S/SMALL LETTER SIGMOID S
A7F2 MODIFIER LETTER CAPITAL /C/F/Q
A7F5 LATIN /CAPITAL LETTER REVERSED HALF H/SMALL LETTER REVERSED HALF H/EPIGRAPHIC LETTER SIDEWAYS I
A7F8 MODIFIER LETTER /CAPITAL H WITH STROKE/SMALL LIGATURE OE
A7FA LATIN LETTER SMALL CAPITAL TURNED /M
A7FB LATIN EPIGRAPHIC LETTER /REVERSED F/REVERSED P/INVERTED M/I LONGA/ARCHAIC M
A800 SYLOTI NAGRI /LETTER A/LETTER I/SIGN DVISVARA/LETTER U/LETTER E/LETTER O/SIGN HASANTA
A807 SYLOTI NAGRI LETTER /KO/KHO/GO/GHO
A80B SYLOTI NAGRI /SIGN ANUSVARA/LETTER CO/LETTER CHO
A80E SYLOTI NAGRI LETTER /JO/JHO/TTO/TTHO/DDO/DDHO/TO/THO/DO/DHO/NO/PO/PHO/BO/BHO/MO/RO/LO/RRO/SO/HO
A823 SYLOTI NAGRI VOWEL SIGN /A/I/U/E/OO
A828 SYLOTI NAGRI POETRY /MARK-1/MARK-2/MARK-3/MARK-4
A82C SYLOTI NAGRI SIGN ALTERNATE /HASANTA
A830 NORTH INDIC FRACTION /ONE QUARTER/ONE HALF/THREE QUARTERS/ONE SIXTEENTH/ONE EIGHTH
A835 NORTH INDIC /FRACTION THREE SIXTEENTHS/QUARTER MARK/PLACEHOLDER MARK/RUPEE MARK/QUANTITY MARK
A840 PHAGS-PA LETTER /KA/KHA/GA/NGA/CA/CHA/JA/NYA/TA/THA/DA/NA/PA/PHA/BA
A84F PHAGS-PA LETTER /MA/TSA/TSHA/DZA/WA/ZHA/ZA/SMALL A/YA/RA/LA/SHA/SA/HA/A/I/U/E/O/QA/XA/FA/GGA/EE
A867 PHAGS-PA SUBJOINED LETTER /WA/YA
A869 PHAGS-PA LETTER /TTA/TTHA/DDA/NNA/ALTERNATE YA/VOICELESS SHA/VOICED HA/ASPIRATED FA
A871 PHAGS-PA /SUBJOINED LETTER RA/SUPERFIXED LETTER RA
A873 PHAGS-PA /LETTER CANDRABINDU/SINGLE HEAD MARK/DOUBLE HEAD MARK/MARK SHAD/MARK DOUBLE SHAD
A880 SAURASHTRA SIGN /ANUSVARA/VISARGA
A882 SAURASHTRA LETTER /A/AA/I/II/U/UU/VOCALIC R/VOCALIC RR/VOCALIC L
A88B SAURASHTRA LETTER /VOCALIC LL/E/EE/AI/O/OO/AU/KA/KHA/GA/GHA/NGA/CA/CHA/JA/JHA/NYA/TTA/TTHA
A89E SAURASHTRA LETTER /DDA/DDHA/NNA/TA/THA/DA/DHA/NA/PA/PHA/BA/BHA/MA/YA/RA/LA/VA/SHA/SSA/SA/HA/LLA
A8B4 SAURASHTRA CONSONANT SIGN /HAARU
A8B5 SAURASHTRA VOWEL SIGN /AA/I/II/U/UU/VOCALIC R/VOCALIC RR/VOCALIC L/VOCALIC LL/E/EE/AI/O/OO/AU
A8C4 SAURASHTRA SIGN /VIRAMA/CANDRABINDU
A8CE SAURASHTRA /DANDA/DOUBLE DANDA
A8D0 SAURASHTRA DIGIT /ZERO/ONE/TWO/THREE/FOUR/FIVE/SIX/SEVEN/EIGHT/NINE
A8E0 COMBINING DEVANAGARI DIGIT /ZERO/ONE/TWO/THREE/FOUR/FIVE/SIX/SEVEN/EIGHT/NINE
A8EA COMBINING DEVANAGARI LETTER /A/U/KA/NA/PA/RA/VI
A8F1 COMBINING DEVANAGARI SIGN /AVAGRAHA
A8F2 DEVANAGARI SIGN /SPACING CANDRABINDU/CANDRABINDU VIRAMA/DOUBLE CANDRABINDU VIRAMA
A8F5 DEVANAGARI SIGN CANDRABINDU /TWO/THREE/AVAGRAHA
A8F8 DEVANAGARI SIGN /PUSHPIKA
A8F9 DEVANAGARI /GAP FILLER/CARET/HEADSTROKE/SIGN SIDDHAM/JAIN OM/LETTER AY/VOWEL SIGN AY
A900 KAYAH LI DIGIT /ZERO/ONE/TWO/THREE/FOUR/FIVE/SIX/SEVEN/EIGHT/NINE
A90A KAYAH LI LETTER /KA/KHA/GA
A90D KAYAH LI LETTER /NGA/SA/SHA/ZA/NYA/TA/HTA/NA/PA/PHA/MA/DA/BA/RA/YA/LA/WA/THA/HA/VA/CA/A/OE/I/OO
A926 KAYAH LI VOWEL /UE/E/U/EE/O
A92B KAYAH LI /TONE PLOPHU/TONE CALYA/TONE CALYA PLOPHU/SIGN CWI/SIGN SHYA
A930 REJANG LETTER /KA/GA/NGA/TA/DA/NA/PA/BA/MA/CA/JA/NYA/SA/RA/LA/YA/WA/HA/MBA/NGGA/NDA/NYJA/A
A947 REJANG VOWEL SIGN /I/U/E/AI/O/AU/EU/EA
A94F REJANG CONSONANT SIGN /NG/N/R/H
A953 REJANG /VIRAMA
A95F REJANG SECTION /MARK
A960 HANGUL CHOSEONG /TIKEUT-MIEUM/TIKEUT-PIEUP/TIKEUT-SIOS/TIKEUT-CIEUC
A964 HANGUL CHOSEONG /RIEUL-KIYEOK/RIEUL-SSANGKIYEOK/RIEUL-TIKEUT/RIEUL-SSANGTIKEUT/RIEUL-MIEUM
A969 HANGUL CHOSEONG /RIEUL-PIEUP/RIEUL-SSANGPIEUP/RIEUL-KAPYEOUNPIEUP/RIEUL-SIOS/RIEUL-CIEUC
A96E HANGUL CHOSEONG /RIEUL-KHIEUKH/MIEUM-KIYEOK/MIEUM-TIKEUT/MIEUM-SIOS/PIEUP-SIOS-THIEUTH
A973 HANGUL CHOSEONG /PIEUP-KHIEUKH/PIEUP-HIEUH/SSANGSIOS-PIEUP/IEUNG-RIEUL/IEUNG-HIEUH
A978 HANGUL CHOSEONG /SSANGCIEUC-HIEUH/SSANGTHIEUTH/PHIEUPH-HIEUH/HIEUH-SIOS/SSANGYEORINHIEUH
A980 JAVANESE SIGN /PANYANGGA/CECAK/LAYAR/WIGNYAN
A984 JAVANESE LETTER /A/I KAWI/I/II/U/PA CEREK/NGA LELET/NGA LELET RASWADI/E/AI
A98E JAVANESE LETTER /O/KA/KA SASAK/KA MURDA/GA/GA MURDA/NGA/CA/CA MURDA/JA/NYA MURDA/JA MAHAPRANA
A99A JAVANESE LETTER /NYA/TTA/TTA MAHAPRANA/DDA/DDA MAHAPRANA/NA MURDA/TA/TA MURDA/DA/DA MAHAPRANA
A9A4 JAVANESE LETTER /NA/PA/PA MURDA/BA/BA MURDA/MA/YA/RA/RA AGUNG/LA/WA/SA MURDA/SA MAHAPRANA/SA/HA
A9B3 JAVANESE SIGN CECAK /TELU
A9B4 JAVANESE VOWEL SIGN /TARUNG/TOLONG/WULU/WULU MELIK/SUKU/SUKU MENDUT/TALING/DIRGA MURE/PEPET
A9BD JAVANESE CONSONANT SIGN /KERET/PENGKAL/CAKRA
A9C0 JAVANESE /PANGKON/LEFT RERENGGAN/RIGHT RERENGGAN
A9C3 JAVANESE PADA /ANDAP/MADYA/LUHUR/WINDU/PANGKAT/LINGSA/LUNGSI/ADEG/ADEG ADEG/PISELEH
A9CD JAVANESE TURNED PADA /PISELEH
A9CF JAVANESE /PANGRANGKEP
A9D0 JAVANESE DIGIT /ZERO/ONE/TWO/THREE/FOUR/FIVE/SIX/SEVEN/EIGHT/NINE
A9DE JAVANESE PADA /TIRTA TUMETES/ISEN-ISEN
A9E0 MYANMAR LETTER SHAN /GHA/CHA/JHA/NNA/BHA
A9E5 MYANMAR /SIGN SHAN SAW/MODIFIER LETTER SHAN REDUPLICATION
A9E7 MYANMAR LETTER TAI LAING /NYA/FA/GA/GHA/JA/JHA/DDA/DDHA/NNA
A9F0 MYANMAR TAI LAING DIGIT /ZERO/ONE/TWO/THREE/FOUR/FIVE/SIX/SEVEN/EIGHT/NINE
A9FA MYANMAR LETTER TAI LAING /LLA/DA/DHA/BA/BHA
AA00 CHAM LETTER /A/I/U/E/AI/O/KA/KHA/GA/GHA/NGUE/NGA/CHA/CHHA/JA/JHA/NHUE/NHA
AA12 CHAM LETTER /NHJA/TA/THA/DA/DHA/NUE/NA/DDA/PA/PPA/PHA/BA/BHA/MUE/MA/BBA/YA/RA/LA/VA/SSA/SA/HA
AA29 CHAM VOWEL SIGN /AA/I/II/EI/U/OE/O/AI/AU/UE
AA33 CHAM CONSONANT SIGN /YA/RA/LA/WA
AA40 CHAM LETTER FINAL /K/G/NG
AA43 CHAM CONSONANT SIGN FINAL /NG
AA44 CHAM LETTER FINAL /CH/T/N/P/Y/R/L/SS
AA4C CHAM CONSONANT SIGN FINAL /M/H
AA50 CHAM DIGIT /ZERO/ONE/TWO/THREE/FOUR/FIVE/SIX/SEVEN/EIGHT/NINE
AA5C CHAM PUNCTUATION /SPIRAL/DANDA/DOUBLE DANDA/TRIPLE DANDA
AA60 MYANMAR LETTER KHAMTI /GA/CA/CHA/JA/JHA/NYA/TTA/TTHA/DDA/DDHA/DHA/NA/SA/HA/HHA/FA
AA70 MYANMAR MODIFIER LETTER KHAMTI /REDUPLICATION
AA71 MYANMAR LETTER KHAMTI /XA/ZA/RA
AA74 MYANMAR LOGOGRAM KHAMTI /OAY/QN/HM
AA77 MYANMAR SYMBOL AITON /EXCLAMATION/ONE/TWO
AA7A MYANMAR /LETTER AITON RA/SIGN PAO KAREN TONE
AA7C MYANMAR SIGN TAI LAING /TONE-2/TONE-5
AA7E MYANMAR LETTER SHWE PALAUNG /CHA/SHA
AA80 TAI VIET LETTER /LOW KO/HIGH KO/LOW KHO/HIGH KHO/LOW KHHO/HIGH KHHO/LOW GO/HIGH GO/LOW NGO
AA89 TAI VIET LETTER /HIGH NGO/LOW CO/HIGH CO/LOW CHO/HIGH CHO/LOW SO/HIGH SO/LOW NYO/HIGH NYO
AA92 TAI VIET LETTER /LOW DO/HIGH DO/LOW TO/HIGH TO/LOW THO/HIGH THO/LOW NO/HIGH NO/LOW BO/HIGH BO
AA9C TAI VIET LETTER /LOW PO/HIGH PO/LOW PHO/HIGH PHO/LOW FO/HIGH FO/LOW MO/HIGH MO/LOW YO/HIGH YO
AAA6 TAI VIET LETTER /LOW RO/HIGH RO/LOW LO/HIGH LO/LOW VO/HIGH VO/LOW HO/HIGH HO/LOW O/HIGH O
AAB0 TAI VIET /MAI KANG/VOWEL AA/VOWEL I/VOWEL UE/VOWEL U/VOWEL E/VOWEL O/MAI KHIT
AAB8 TAI VIET VOWEL /IA/UEA/UA/AUE/AY/AN/AM
AABF TAI VIET TONE MAI /EK/NUENG/THO/SONG
AADB TAI VIET SYMBOL /KON/NUENG/SAM/HO HOI/KOI KOI
AAE0 MEETEI MAYEK LETTER /E/O/CHA/NYA/TTA/TTHA/DDA/DDHA/NNA/SHA/SSA
AAEB MEETEI MAYEK VOWEL SIGN /II/UU/AAI/AU/AAU
AAF0 MEETEI MAYEK /CHEIKHAN/AHANG KHUDAM
AAF2 MEETEI MAYEK /ANJI/SYLLABLE REPETITION MARK/WORD REPETITION MARK/VOWEL SIGN VISARGA/VIRAMA
AB01 ETHIOPIC SYLLABLE /TTHU/TTHI/TTHAA/TTHEE/TTHE/TTHO
AB09 ETHIOPIC SYLLABLE /DDHU/DDHI/DDHAA/DDHEE/DDHE/DDHO
AB11 ETHIOPIC SYLLABLE /DZU/DZI/DZAA/DZEE/DZE/DZO
AB20 ETHIOPIC SYLLABLE /CCHHA/CCHHU/CCHHI/CCHHAA/CCHHEE/CCHHE/CCHHO
AB28 ETHIOPIC SYLLABLE /BBA/BBU/BBI/BBAA/BBEE/BBE/BBO
AB30 LATIN SMALL LETTER /BARRED ALPHA/A REVERSED-SCHWA
AB32 LATIN SMALL LETTER /BLACKLETTER E/BARRED E/E WITH FLOURISH/LENIS F/SCRIPT G WITH CROSSED-TAIL
AB37 LATIN SMALL LETTER L WITH /INVERTED LAZY S/DOUBLE MIDDLE TILDE/MIDDLE RING
AB3A LATIN SMALL LETTER /M WITH CROSSED-TAIL/N WITH CROSSED-TAIL/ENG WITH CROSSED-TAIL
AB3D LATIN SMALL LETTER /BLACKLETTER O/BLACKLETTER O WITH STROKE/OPEN O WITH STROKE/INVERTED OE
AB41 LATIN SMALL LETTER TURNED OE WITH /STROKE/HORIZONTAL STROKE
AB43 LATIN SMALL LETTER /TURNED O OPEN-O/TURNED O OPEN-O WITH STROKE/STIRRUP R
AB46 LATIN LETTER SMALL CAPITAL R WITH RIGHT /LEG
AB47 LATIN SMALL LETTER /R WITHOUT HANDLE/DOUBLE R/R WITH CROSSED-TAIL/DOUBLE R WITH CROSSED-TAIL
AB4B LATIN SMALL LETTER /SCRIPT R/SCRIPT R WITH RING/BASELINE ESH/U WITH SHORT RIGHT LEG
AB4F LATIN SMALL LETTER /U BAR WITH SHORT RIGHT LEG/UI/TURNED UI/U WITH LEFT HOOK
AB53 LATIN SMALL LETTER /CHI/CHI WITH LOW RIGHT RING/CHI WITH LOW LEFT SERIF/X WITH LOW RIGHT RING
AB57 LATIN SMALL LETTER X WITH LONG LEFT /LEG/LEG AND LOW RIGHT RING/LEG WITH SERIF
AB5A /LATIN SMALL LETTER Y WITH SHORT RIGHT LEG/MODIFIER BREVE WITH INVERTED BREVE
AB5C MODIFIER LETTER SMALL /HENG/L WITH INVERTED LAZY S/L WITH MIDDLE TILDE/U WITH LEFT HOOK
AB60 LATIN SMALL LETTER /SAKHA YAT/IOTIFIED E/OPEN OE/UO/INVERTED ALPHA
AB65 /GREEK LETTER SMALL CAPITAL OMEGA/LATIN SMALL LETTER DZ DIGRAPH WITH RETROFLEX HOOK
AB67 LATIN SMALL LETTER /TS DIGRAPH WITH RETROFLEX HOOK/TURNED R WITH MIDDLE TILDE
AB69 MODIFIER LETTER /SMALL TURNED W/LEFT TACK/RIGHT TACK
AB70 CHEROKEE SMALL LETTER /A/E/I/O/U/V/GA/KA/GE/GI/GO/GU/GV/HA/HE
AB7F CHEROKEE SMALL LETTER /HI/HO/HU/HV/LA/LE/LI/LO/LU/LV/MA/ME/MI/MO/MU/NA/HNA/NAH/NE/NI/NO/NU/NV
AB96 CHEROKEE SMALL LETTER /QUA/QUE/QUI/QUO/QUU/QUV/SA/S/SE/SI/SO/SU/SV/DA/TA/DE/TE/DI/TI/DO/DU/DV
ABAC CHEROKEE SMALL LETTER /DLA/TLA/TLE/TLI/TLO/TLU/TLV/TSA/TSE/TSI/TSO/TSU/TSV/WA/WE/WI/WO/WU/WV/YA
ABC0 MEETEI MAYEK LETTER /KOK/SAM/LAI/MIT/PA/NA/CHIL/TIL/KHOU/NGOU/THOU/WAI
ABCC MEETEI MAYEK LETTER /YANG/HUK/UN/I/PHAM/ATIYA/GOK/JHAM/RAI/BA/JIL/DIL/GHOU/DHOU/BHAM/KOK LONSUM
ABDC MEETEI MAYEK LETTER /LAI LONSUM/MIT LONSUM/PA LONSUM/NA LONSUM/TIL LONSUM/NGOU LONSUM/I LONSUM
ABE3 MEETEI MAYEK VOWEL SIGN /ONAP/INAP/ANAP/YENAP/SOUNAP/UNAP/CHEINAP/NUNG
ABEB MEETEI MAYEK /CHEIKHEI/LUM IYEK/APUN IYEK
ABF0 MEETEI MAYEK DIGIT /ZERO/ONE/TWO/THREE/FOUR/FIVE/SIX/SEVEN/EIGHT/NINE
D7B0 HANGUL JUNGSEONG /O-YEO/O-O-I/YO-A/YO-AE/YO-EO/U-YEO/U-I-I/YU-AE/YU-O/EU-A
D7BA HANGUL JUNGSEONG /EU-EO/EU-E/EU-O/I-YA-O/I-YAE/I-YEO/I-YE/I-O-I/I-YO/I-YU/I-I/ARAEA-A/ARAEA-E
D7CB HANGUL JONGSEONG /NIEUN-RIEUL/NIEUN-CHIEUCH
D7CD HANGUL JONGSEONG /SSANGTIKEUT/SSANGTIKEUT-PIEUP/TIKEUT-PIEUP/TIKEUT-SIOS/TIKEUT-SIOS-KIYEOK
D7D2 HANGUL JONGSEONG /TIKEUT-CIEUC/TIKEUT-CHIEUCH/TIKEUT-THIEUTH/RIEUL-SSANGKIYEOK
D7D6 HANGUL JONGSEONG /RIEUL-KIYEOK-HIEUH/SSANGRIEUL-KHIEUKH/RIEUL-MIEUM-HIEUH/RIEUL-PIEUP-TIKEUT
D7DA HANGUL JONGSEONG /RIEUL-PIEUP-PHIEUPH/RIEUL-YESIEUNG/RIEUL-YEORINHIEUH-HIEUH/KAPYEOUNRIEUL
D7DE HANGUL JONGSEONG /MIEUM-NIEUN/MIEUM-SSANGNIEUN/SSANGMIEUM/MIEUM-PIEUP-SIOS/MIEUM-CIEUC
D7E3 HANGUL JONGSEONG /PIEUP-TIKEUT/PIEUP-RIEUL-PHIEUPH/PIEUP-MIEUM/SSANGPIEUP/PIEUP-SIOS-TIKEUT
D7E8 HANGUL JONGSEONG /PIEUP-CIEUC/PIEUP-CHIEUCH/SIOS-MIEUM/SIOS-KAPYEOUNPIEUP/SSANGSIOS-KIYEOK
D7ED HANGUL JONGSEONG /SSANGSIOS-TIKEUT/SIOS-PANSIOS/SIOS-CIEUC/SIOS-CHIEUCH/SIOS-THIEUTH
D7F2 HANGUL JONGSEONG /SIOS-HIEUH/PANSIOS-PIEUP/PANSIOS-KAPYEOUNPIEUP/YESIEUNG-MIEUM/YESIEUNG-HIEUH
D7F7 HANGUL JONGSEONG /CIEUC-PIEUP/CIEUC-SSANGPIEUP/SSANGCIEUC/PHIEUPH-SIOS/PHIEUPH-THIEUTH
FB00 LATIN SMALL LIGATURE /FF/FI/FL/FFI/FFL/LONG S T/ST
FB13 ARMENIAN SMALL LIGATURE /MEN NOW/MEN ECH/MEN INI/VEW NOW/MEN XEH
FB1D HEBREW LETTER YOD WITH /HIRIQ
FB1E HEBREW /POINT JUDEO-SPANISH VARIKA/LIGATURE YIDDISH YOD YOD PATAH/LETTER ALTERNATIVE AYIN
FB21 HEBREW LETTER WIDE /ALEF/DALET/HE/KAF/LAMED/FINAL MEM/RESH/TAV
FB29 HEBREW LETTER ALTERNATIVE PLUS /SIGN
FB2A HEBREW LETTER SHIN WITH /SHIN DOT/SIN DOT/DAGESH AND SHIN DOT/DAGESH AND SIN DOT
FB2E HEBREW LETTER ALEF WITH /PATAH/QAMATS/MAPIQ
FB31 HEBREW LETTER /BET WITH DAGESH/GIMEL WITH DAGESH
FB33 HEBREW LETTER /DALET WITH DAGESH/HE WITH MAPIQ/VAV WITH DAGESH/ZAYIN WITH DAGESH
FB38 HEBREW LETTER TET WITH /DAGESH
FB39 HEBREW LETTER /YOD WITH DAGESH/FINAL KAF WITH DAGESH/KAF WITH DAGESH/LAMED WITH DAGESH
FB3E HEBREW LETTER MEM WITH /DAGESH
FB40 HEBREW LETTER /NUN WITH DAGESH/SAMEKH WITH DAGESH
FB43 HEBREW LETTER /FINAL PE WITH DAGESH/PE WITH DAGESH
FB46 HEBREW LETTER /TSADI WITH DAGESH/QOF WITH DAGESH/RESH WITH DAGESH/SHIN WITH DAGESH
FB4A HEBREW LETTER /TAV WITH DAGESH/VAV WITH HOLAM/BET WITH RAFE/KAF WITH RAFE/PE WITH RAFE
FB4F HEBREW LIGATURE ALEF /LAMED
FB50 ARABIC LETTER ALEF WASLA /ISOLATED FORM/FINAL FORM
FB52 ARABIC LETTER BEEH /ISOLATED FORM/FINAL FORM/INITIAL FORM/MEDIAL FORM
FB56 ARABIC LETTER PEH /ISOLATED FORM/FINAL FORM/INITIAL FORM/MEDIAL FORM
FB5A ARABIC LETTER BEHEH /ISOLATED FORM/FINAL FORM/INITIAL FORM/MEDIAL FORM
FB5E ARABIC LETTER TTEHEH /ISOLATED FORM/FINAL FORM/INITIAL FORM/MEDIAL FORM
FB62 ARABIC LETTER TEHEH /ISOLATED FORM/FINAL FORM/INITIAL FORM/MEDIAL FORM
FB66 ARABIC LETTER TTEH /ISOLATED FORM/FINAL FORM/INITIAL FORM/MEDIAL FORM
FB6A ARABIC LETTER VEH /ISOLATED FORM/FINAL FORM/INITIAL FORM/MEDIAL FORM
FB6E ARABIC LETTER PEHEH /ISOLATED FORM/FINAL FORM/INITIAL FORM/MEDIAL FORM
FB72 ARABIC LETTER DYEH /ISOLATED FORM/FINAL FORM/INITIAL FORM/MEDIAL FORM
FB76 ARABIC LETTER NYEH /ISOLATED FORM/FINAL FORM/INITIAL FORM/MEDIAL FORM
FB7A ARABIC LETTER TCHEH /ISOLATED FORM/FINAL FORM/INITIAL FORM/MEDIAL FORM
FB7E ARABIC LETTER TCHEHEH /ISOLATED FORM/FINAL FORM/INITIAL FORM/MEDIAL FORM
FB82 ARABIC LETTER /DDAHAL ISOLATED FORM/DDAHAL FINAL FORM/DAHAL ISOLATED FORM/DAHAL FINAL FORM
FB86 ARABIC LETTER /DUL ISOLATED FORM/DUL FINAL FORM/DDAL ISOLATED FORM/DDAL FINAL FORM
FB8A ARABIC LETTER /JEH ISOLATED FORM/JEH FINAL FORM/RREH ISOLATED FORM/RREH FINAL FORM
FB8E ARABIC LETTER KEHEH /ISOLATED FORM/FINAL FORM/INITIAL FORM/MEDIAL FORM
FB92 ARABIC LETTER GAF /ISOLATED FORM/FINAL FORM/INITIAL FORM/MEDIAL FORM
FB96 ARABIC LETTER GUEH /ISOLATED FORM/FINAL FORM/INITIAL FORM/MEDIAL FORM
FB9A ARABIC LETTER NGOEH /ISOLATED FORM/FINAL FORM/INITIAL FORM/MEDIAL FORM
FB9E ARABIC LETTER NOON GHUNNA /ISOLATED FORM/FINAL FORM
FBA0 ARABIC LETTER RNOON /ISOLATED FORM/FINAL FORM/INITIAL FORM/MEDIAL FORM
FBA4 ARABIC LETTER HEH WITH YEH ABOVE /ISOLATED FORM/FINAL FORM
FBA6 ARABIC LETTER HEH GOAL /ISOLATED FORM/FINAL FORM/INITIAL FORM/MEDIAL FORM
FBAA ARABIC LETTER HEH DOACHASHMEE /ISOLATED FORM/FINAL FORM/INITIAL FORM/MEDIAL FORM
FBAE ARABIC LETTER YEH BARREE /ISOLATED FORM/FINAL FORM
FBB0 ARABIC LETTER YEH BARREE WITH HAMZA ABOVE /ISOLATED FORM/FINAL FORM
FBB2 ARABIC SYMBOL /DOT ABOVE/DOT BELOW/TWO DOTS ABOVE/TWO DOTS BELOW
FBB6 ARABIC SYMBOL THREE DOTS /ABOVE/BELOW/POINTING DOWNWARDS ABOVE/POINTING DOWNWARDS BELOW
FBBA ARABIC SYMBOL /FOUR DOTS ABOVE/FOUR DOTS BELOW/DOUBLE VERTICAL BAR BELOW
FBBD ARABIC SYMBOL TWO DOTS VERTICALLY /ABOVE/BELOW
FBBF ARABIC SYMBOL /RING/SMALL TAH ABOVE/SMALL TAH BELOW/WASLA ABOVE
FBD3 ARABIC LETTER NG /ISOLATED FORM/FINAL FORM/INITIAL FORM/MEDIAL FORM
FBD7 ARABIC LETTER /U ISOLATED FORM/U FINAL FORM/OE ISOLATED FORM/OE FINAL FORM/YU ISOLATED FORM
FBDC ARABIC LETTER /YU FINAL FORM/U WITH HAMZA ABOVE ISOLATED FORM/VE ISOLATED FORM/VE FINAL FORM
FBE0 ARABIC LETTER KIRGHIZ /OE ISOLATED FORM/OE FINAL FORM/YU ISOLATED FORM/YU FINAL FORM
FBE4 ARABIC LETTER E /ISOLATED FORM/FINAL FORM/INITIAL FORM/MEDIAL FORM
FBE8 ARABIC LETTER UIGHUR KAZAKH KIRGHIZ ALEF MAKSURA /INITIAL FORM/MEDIAL FORM
FBEA ARABIC LIGATURE YEH WITH HAMZA ABOVE WITH /ALEF ISOLATED FORM/ALEF FINAL FORM/AE ISOLATED FORM
FBED ARABIC LIGATURE YEH WITH HAMZA ABOVE WITH /AE FINAL FORM/WAW ISOLATED FORM/WAW FINAL FORM
FBF0 ARABIC LIGATURE YEH WITH HAMZA ABOVE WITH /U ISOLATED FORM/U FINAL FORM/OE ISOLATED FORM
FBF3 ARABIC LIGATURE YEH WITH HAMZA ABOVE WITH /OE FINAL FORM/YU ISOLATED FORM/YU FINAL FORM
FBF6 ARABIC LIGATURE YEH WITH HAMZA ABOVE WITH E /ISOLATED FORM/FINAL FORM/INITIAL FORM
FBF9 ARABIC LIGATURE UIGHUR KIRGHIZ YEH WITH HAMZA ABOVE WITH ALEF MAKSURA ISOLATED /FORM
FBFA ARABIC LIGATURE UIGHUR KIRGHIZ YEH WITH HAMZA ABOVE WITH ALEF MAKSURA /FINAL FORM/INITIAL FORM
FBFC ARABIC LETTER FARSI YEH /ISOLATED FORM/FINAL FORM/INITIAL FORM/MEDIAL FORM
FC00 ARABIC LIGATURE YEH WITH HAMZA ABOVE WITH JEEM ISOLATED /FORM
FC01 ARABIC LIGATURE YEH WITH HAMZA ABOVE WITH /HAH ISOLATED FORM/MEEM ISOLATED FORM
FC03 ARABIC LIGATURE YEH WITH HAMZA ABOVE WITH /ALEF MAKSURA ISOLATED FORM/YEH ISOLATED FORM
FC05 ARABIC LIGATURE BEH WITH /JEEM ISOLATED FORM/HAH ISOLATED FORM/KHAH ISOLATED FORM
FC08 ARABIC LIGATURE BEH WITH /MEEM ISOLATED FORM/ALEF MAKSURA ISOLATED FORM/YEH ISOLATED FORM
FC0B ARABIC LIGATURE TEH WITH /JEEM ISOLATED FORM/HAH ISOLATED FORM/KHAH ISOLATED FORM
FC0E ARABIC LIGATURE TEH WITH /MEEM ISOLATED FORM/ALEF MAKSURA ISOLATED FORM/YEH ISOLATED FORM
FC11 ARABIC LIGATURE THEH WITH JEEM ISOLATED /FORM
FC12 ARABIC LIGATURE THEH WITH /MEEM ISOLATED FORM/ALEF MAKSURA ISOLATED FORM/YEH ISOLATED FORM
FC15 ARABIC LIGATURE JEEM WITH /HAH ISOLATED FORM/MEEM ISOLATED FORM
FC17 ARABIC LIGATURE HAH WITH /JEEM ISOLATED FORM/MEEM ISOLATED FORM
FC19 ARABIC LIGATURE KHAH WITH /JEEM ISOLATED FORM/HAH ISOLATED FORM/MEEM ISOLATED FORM
FC1C ARABIC LIGATURE SEEN WITH JEEM ISOLATED /FORM
FC1D ARABIC LIGATURE SEEN WITH /HAH ISOLATED FORM/KHAH ISOLATED FORM/MEEM ISOLATED FORM
FC20 ARABIC LIGATURE SAD WITH /HAH ISOLATED FORM/MEEM ISOLATED FORM
FC22 ARABIC LIGATURE DAD WITH /JEEM ISOLATED FORM/HAH ISOLATED FORM/KHAH ISOLATED FORM
FC25 ARABIC LIGATURE /DAD WITH MEEM ISOLATED FORM/TAH WITH HAH ISOLATED FORM
FC27 ARABIC LIGATURE /TAH WITH MEEM ISOLATED FORM/ZAH WITH MEEM ISOLATED FORM
FC29 ARABIC LIGATURE AIN WITH /JEEM ISOLATED FORM/MEEM ISOLATED FORM
FC2B ARABIC LIGATURE GHAIN WITH /JEEM ISOLATED FORM/MEEM ISOLATED FORM
FC2D ARABIC LIGATURE FEH WITH /JEEM ISOLATED FORM/HAH ISOLATED FORM/KHAH ISOLATED FORM
FC30 ARABIC LIGATURE FEH WITH /MEEM ISOLATED FORM/ALEF MAKSURA ISOLATED FORM/YEH ISOLATED FORM
FC33 ARABIC LIGATURE QAF WITH HAH ISOLATED /FORM
FC34 ARABIC LIGATURE QAF WITH /MEEM ISOLATED FORM/ALEF MAKSURA ISOLATED FORM/YEH ISOLATED FORM
FC37 ARABIC LIGATURE KAF WITH /ALEF ISOLATED FORM/JEEM ISOLATED FORM
FC39 ARABIC LIGATURE KAF WITH /HAH ISOLATED FORM/KHAH ISOLATED FORM/LAM ISOLATED FORM
FC3C ARABIC LIGATURE KAF WITH /MEEM ISOLATED FORM/ALEF MAKSURA ISOLATED FORM/YEH ISOLATED FORM
FC3F ARABIC LIGATURE LAM WITH /JEEM ISOLATED FORM/HAH ISOLATED FORM/KHAH ISOLATED FORM
FC42 ARABIC LIGATURE LAM WITH /MEEM ISOLATED FORM/ALEF MAKSURA ISOLATED FORM/YEH ISOLATED FORM
FC45 ARABIC LIGATURE MEEM WITH /JEEM ISOLATED FORM/HAH ISOLATED FORM/KHAH ISOLATED FORM
FC48 ARABIC LIGATURE MEEM WITH /MEEM ISOLATED FORM/ALEF MAKSURA ISOLATED FORM/YEH ISOLATED FORM
FC4B ARABIC LIGATURE NOON WITH /JEEM ISOLATED FORM/HAH ISOLATED FORM/KHAH ISOLATED FORM
FC4E ARABIC LIGATURE NOON WITH /MEEM ISOLATED FORM/ALEF MAKSURA ISOLATED FORM/YEH ISOLATED FORM
FC51 ARABIC LIGATURE HEH WITH JEEM ISOLATED /FORM
FC52 ARABIC LIGATURE HEH WITH /MEEM ISOLATED FORM/ALEF MAKSURA ISOLATED FORM/YEH ISOLATED FORM
FC55 ARABIC LIGATURE YEH WITH /JEEM ISOLATED FORM/HAH ISOLATED FORM/KHAH ISOLATED FORM
FC58 ARABIC LIGATURE YEH WITH /MEEM ISOLATED FORM/ALEF MAKSURA ISOLATED FORM/YEH ISOLATED FORM
FC5B ARABIC LIGATURE THAL WITH SUPERSCRIPT ALEF ISOLATED /FORM
FC5C ARABIC LIGATURE REH WITH SUPERSCRIPT ALEF ISOLATED /FORM
FC5D ARABIC LIGATURE ALEF MAKSURA WITH SUPERSCRIPT ALEF ISOLATED /FORM
FC5E ARABIC LIGATURE SHADDA WITH DAMMATAN ISOLATED /FORM
FC5F ARABIC LIGATURE SHADDA WITH /KASRATAN ISOLATED FORM/FATHA ISOLATED FORM/DAMMA ISOLATED FORM
FC62 ARABIC LIGATURE SHADDA WITH /KASRA ISOLATED FORM/SUPERSCRIPT ALEF ISOLATED FORM
FC64 ARABIC LIGATURE YEH WITH HAMZA ABOVE WITH REH FINAL /FORM
FC65 ARABIC LIGATURE YEH WITH HAMZA ABOVE WITH /ZAIN FINAL FORM/MEEM FINAL FORM/NOON FINAL FORM
FC68 ARABIC LIGATURE YEH WITH HAMZA ABOVE WITH /ALEF MAKSURA FINAL FORM/YEH FINAL FORM
FC6A ARABIC LIGATURE BEH WITH /REH FINAL FORM/ZAIN FINAL FORM/MEEM FINAL FORM
FC6D ARABIC LIGATURE BEH WITH /NOON FINAL FORM/ALEF MAKSURA FINAL FORM/YEH FINAL FORM
FC70 ARABIC LIGATURE TEH WITH /REH FINAL FORM/ZAIN FINAL FORM/MEEM FINAL FORM
FC73 ARABIC LIGATURE TEH WITH /NOON FINAL FORM/ALEF MAKSURA FINAL FORM/YEH FINAL FORM
FC76 ARABIC LIGATURE THEH WITH /REH FINAL FORM/ZAIN FINAL FORM/MEEM FINAL FORM
FC79 ARABIC LIGATURE THEH WITH /NOON FINAL FORM/ALEF MAKSURA FINAL FORM/YEH FINAL FORM
FC7C ARABIC LIGATURE FEH WITH /ALEF MAKSURA FINAL FORM/YEH FINAL FORM
FC7E ARABIC LIGATURE QAF WITH /ALEF MAKSURA FINAL FORM/YEH FINAL FORM
FC80 ARABIC LIGATURE KAF WITH ALEF FINAL /FORM
FC81 ARABIC LIGATURE KAF WITH /LAM FINAL FORM/MEEM FINAL FORM/ALEF MAKSURA FINAL FORM/YEH FINAL FORM
FC85 ARABIC LIGATURE LAM WITH /MEEM FINAL FORM/ALEF MAKSURA FINAL FORM/YEH FINAL FORM
FC88 ARABIC LIGATURE MEEM WITH /ALEF FINAL FORM/MEEM FINAL FORM
FC8A ARABIC LIGATURE NOON WITH /REH FINAL FORM/ZAIN FINAL FORM/MEEM FINAL FORM
FC8D ARABIC LIGATURE NOON WITH /NOON FINAL FORM/ALEF MAKSURA FINAL FORM/YEH FINAL FORM
FC90 ARABIC LIGATURE ALEF MAKSURA WITH SUPERSCRIPT ALEF FINAL /FORM
FC91 ARABIC LIGATURE YEH WITH /REH FINAL FORM/ZAIN FINAL FORM/MEEM FINAL FORM
FC94 ARABIC LIGATURE YEH WITH /NOON FINAL FORM/ALEF MAKSURA FINAL FORM/YEH FINAL FORM
FC97 ARABIC LIGATURE YEH WITH HAMZA ABOVE WITH /JEEM INITIAL FORM/HAH INITIAL FORM
FC99 ARABIC LIGATURE YEH WITH HAMZA ABOVE WITH /KHAH INITIAL FORM/MEEM INITIAL FORM/HEH INITIAL FORM
FC9C ARABIC LIGATURE BEH WITH JEEM INITIAL /FORM
FC9D ARABIC LIGATURE BEH WITH /HAH INITIAL FORM/KHAH INITIAL FORM/MEEM INITIAL FORM/HEH INITIAL FORM
FCA1 ARABIC LIGATURE TEH WITH JEEM INITIAL /FORM
FCA2 ARABIC LIGATURE TEH WITH /HAH INITIAL FORM/KHAH INITIAL FORM/MEEM INITIAL FORM/HEH INITIAL FORM
FCA6 ARABIC LIGATURE THEH WITH MEEM INITIAL /FORM
FCA7 ARABIC LIGATURE JEEM WITH /HAH INITIAL FORM/MEEM INITIAL FORM
FCA9 ARABIC LIGATURE HAH WITH /JEEM INITIAL FORM/MEEM INITIAL FORM
FCAB ARABIC LIGATURE KHAH WITH /JEEM INITIAL FORM/MEEM INITIAL FORM
FCAD ARABIC LIGATURE SEEN WITH JEEM INITIAL /FORM
FCAE ARABIC LIGATURE SEEN WITH /HAH INITIAL FORM/KHAH INITIAL FORM/MEEM INITIAL FORM
FCB1 ARABIC LIGATURE SAD WITH /HAH INITIAL FORM/KHAH INITIAL FORM/MEEM INITIAL FORM
FCB4 ARABIC LIGATURE DAD WITH /JEEM INITIAL FORM/HAH INITIAL FORM/KHAH INITIAL FORM
FCB7 ARABIC LIGATURE /DAD WITH MEEM INITIAL FORM/TAH WITH HAH INITIAL FORM
FCB9 ARABIC LIGATURE /ZAH WITH MEEM INITIAL FORM/AIN WITH JEEM INITIAL FORM
FCBB ARABIC LIGATURE /AIN WITH MEEM INITIAL FORM/GHAIN WITH JEEM INITIAL FORM
FCBD ARABIC LIGATURE /GHAIN WITH MEEM INITIAL FORM/FEH WITH JEEM INITIAL FORM
FCBF ARABIC LIGATURE FEH WITH /HAH INITIAL FORM/KHAH INITIAL FORM/MEEM INITIAL FORM
FCC2 ARABIC LIGATURE QAF WITH /HAH INITIAL FORM/MEEM INITIAL FORM
FCC4 ARABIC LIGATURE KAF WITH /JEEM INITIAL FORM/HAH INITIAL FORM/KHAH INITIAL FORM/LAM INITIAL FORM
FCC8 ARABIC LIGATURE /KAF WITH MEEM INITIAL FORM/LAM WITH JEEM INITIAL FORM
FCCA ARABIC LIGATURE LAM WITH /HAH INITIAL FORM/KHAH INITIAL FORM/MEEM INITIAL FORM/HEH INITIAL FORM
FCCE ARABIC LIGATURE MEEM WITH JEEM INITIAL /FORM
FCCF ARABIC LIGATURE MEEM WITH /HAH INITIAL FORM/KHAH INITIAL FORM/MEEM INITIAL FORM
FCD2 ARABIC LIGATURE NOON WITH /JEEM INITIAL FORM/HAH INITIAL FORM
FCD4 ARABIC LIGATURE NOON WITH /KHAH INITIAL FORM/MEEM INITIAL FORM/HEH INITIAL FORM
FCD7 ARABIC LIGATURE HEH WITH /JEEM INITIAL FORM/MEEM INITIAL FORM/SUPERSCRIPT ALEF INITIAL FORM
FCDA ARABIC LIGATURE YEH WITH JEEM INITIAL /FORM
FCDB ARABIC LIGATURE YEH WITH /HAH INITIAL FORM/KHAH INITIAL FORM/MEEM INITIAL FORM/HEH INITIAL FORM
FCDF ARABIC LIGATURE YEH WITH HAMZA ABOVE WITH /MEEM MEDIAL FORM/HEH MEDIAL FORM
FCE1 ARABIC LIGATURE BEH WITH /MEEM MEDIAL FORM/HEH MEDIAL FORM
FCE3 ARABIC LIGATURE TEH WITH /MEEM MEDIAL FORM/HEH MEDIAL FORM
FCE5 ARABIC LIGATURE THEH WITH /MEEM MEDIAL FORM/HEH MEDIAL FORM
FCE7 ARABIC LIGATURE SEEN WITH /MEEM MEDIAL FORM/HEH MEDIAL FORM
FCE9 ARABIC LIGATURE SHEEN WITH /MEEM MEDIAL FORM/HEH MEDIAL FORM
FCEB ARABIC LIGATURE /KAF WITH LAM MEDIAL FORM/KAF WITH MEEM MEDIAL FORM/LAM WITH MEEM MEDIAL FORM
FCEE ARABIC LIGATURE NOON WITH /MEEM MEDIAL FORM/HEH MEDIAL FORM
FCF0 ARABIC LIGATURE YEH WITH /MEEM MEDIAL FORM/HEH MEDIAL FORM
FCF2 ARABIC LIGATURE SHADDA WITH /FATHA MEDIAL FORM/DAMMA MEDIAL FORM/KASRA MEDIAL FORM
FCF5 ARABIC LIGATURE TAH WITH /ALEF MAKSURA ISOLATED FORM/YEH ISOLATED FORM
FCF7 ARABIC LIGATURE AIN WITH /ALEF MAKSURA ISOLATED FORM/YEH ISOLATED FORM
FCF9 ARABIC LIGATURE GHAIN WITH /ALEF MAKSURA ISOLATED FORM/YEH ISOLATED FORM
FCFB ARABIC LIGATURE SEEN WITH /ALEF MAKSURA ISOLATED FORM/YEH ISOLATED FORM
FCFD ARABIC LIGATURE SHEEN WITH /ALEF MAKSURA ISOLATED FORM/YEH ISOLATED FORM
FCFF ARABIC LIGATURE HAH WITH /ALEF MAKSURA ISOLATED FORM/YEH ISOLATED FORM
FD01 ARABIC LIGATURE JEEM WITH /ALEF MAKSURA ISOLATED FORM/YEH ISOLATED FORM
FD03 ARABIC LIGATURE KHAH WITH /ALEF MAKSURA ISOLATED FORM/YEH ISOLATED FORM
FD05 ARABIC LIGATURE SAD WITH /ALEF MAKSURA ISOLATED FORM/YEH ISOLATED FORM
FD07 ARABIC LIGATURE DAD WITH /ALEF MAKSURA ISOLATED FORM/YEH ISOLATED FORM
FD09 ARABIC LIGATURE SHEEN WITH /JEEM ISOLATED FORM/HAH ISOLATED FORM
FD0B ARABIC LIGATURE SHEEN WITH /KHAH ISOLATED FORM/MEEM ISOLATED FORM/REH ISOLATED FORM
FD0E ARABIC LIGATURE SEEN WITH REH ISOLATED /FORM
FD0F ARABIC LIGATURE /SAD WITH REH ISOLATED FORM/DAD WITH REH ISOLATED FORM
FD11 ARABIC LIGATURE TAH WITH /ALEF MAKSURA FINAL FORM/YEH FINAL FORM
FD13 ARABIC LIGATURE AIN WITH /ALEF MAKSURA FINAL FORM/YEH FINAL FORM
FD15 ARABIC LIGATURE GHAIN WITH /ALEF MAKSURA FINAL FORM/YEH FINAL FORM
FD17 ARABIC LIGATURE SEEN WITH /ALEF MAKSURA FINAL FORM/YEH FINAL FORM
FD19 ARABIC LIGATURE SHEEN WITH /ALEF MAKSURA FINAL FORM/YEH FINAL FORM
FD1B ARABIC LIGATURE HAH WITH /ALEF MAKSURA FINAL FORM/YEH FINAL FORM
FD1D ARABIC LIGATURE JEEM WITH /ALEF MAKSURA FINAL FORM/YEH FINAL FORM
FD1F ARABIC LIGATURE KHAH WITH /ALEF MAKSURA FINAL FORM/YEH FINAL FORM
FD21 ARABIC LIGATURE SAD WITH /ALEF MAKSURA FINAL FORM/YEH FINAL FORM
FD23 ARABIC LIGATURE DAD WITH /ALEF MAKSURA FINAL FORM/YEH FINAL FORM
FD25 ARABIC LIGATURE SHEEN WITH JEEM FINAL /FORM
FD26 ARABIC LIGATURE SHEEN WITH /HAH FINAL FORM/KHAH FINAL FORM/MEEM FINAL FORM/REH FINAL FORM
FD2A ARABIC LIGATURE /SEEN WITH REH FINAL FORM/SAD WITH REH FINAL FORM/DAD WITH REH FINAL FORM
FD2D ARABIC LIGATURE SHEEN WITH /JEEM INITIAL FORM/HAH INITIAL FORM/KHAH INITIAL FORM
FD30 ARABIC LIGATURE /SHEEN WITH MEEM INITIAL FORM/SEEN WITH HEH INITIAL FORM
FD32 ARABIC LIGATURE /SHEEN WITH HEH INITIAL FORM/TAH WITH MEEM INITIAL FORM
FD34 ARABIC LIGATURE SEEN WITH /JEEM MEDIAL FORM/HAH MEDIAL FORM/KHAH MEDIAL FORM
FD37 ARABIC LIGATURE SHEEN WITH /JEEM MEDIAL FORM/HAH MEDIAL FORM/KHAH MEDIAL FORM
FD3A ARABIC LIGATURE /TAH WITH MEEM MEDIAL FORM/ZAH WITH MEEM MEDIAL FORM
FD3C ARABIC LIGATURE ALEF WITH FATHATAN /FINAL FORM/ISOLATED FORM
FD3E ORNATE /LEFT PARENTHESIS/RIGHT PARENTHESIS
FD40 ARABIC LIGATURE RAHIMAHU /ALLAAH
FD41 ARABIC LIGATURE RADI ALLAAHU /ANH/ANHAA/ANHUM/ANHUMAA/ANHUNNA
FD46 ARABIC LIGATURE /SALLALLAAHU ALAYHI WA-AALIH/ALAYHI AS-SALAAM
FD48 ARABIC LIGATURE /ALAYHIM AS-SALAAM/ALAYHIMAA AS-SALAAM/ALAYHI AS-SALAATU WAS-SALAAM
FD4B ARABIC LIGATURE /QUDDISA SIRRAH/SALLALLAHU ALAYHI WAAALIHEE WA-SALLAM/ALAYHAA AS-SALAAM
FD4E ARABIC LIGATURE /TABAARAKA WA-TAAALAA/RAHIMAHUM ALLAAH/TEH WITH JEEM WITH MEEM INITIAL FORM
FD51 ARABIC LIGATURE TEH WITH HAH WITH /JEEM FINAL FORM/JEEM INITIAL FORM/MEEM INITIAL FORM
FD54 ARABIC LIGATURE TEH WITH KHAH WITH MEEM INITIAL /FORM
FD55 ARABIC LIGATURE TEH WITH MEEM WITH /JEEM INITIAL FORM/HAH INITIAL FORM/KHAH INITIAL FORM
FD58 ARABIC LIGATURE JEEM WITH MEEM WITH HAH /FINAL FORM/INITIAL FORM
FD5A ARABIC LIGATURE HAH WITH MEEM WITH /YEH FINAL FORM/ALEF MAKSURA FINAL FORM
FD5C ARABIC LIGATURE SEEN WITH HAH WITH JEEM INITIAL /FORM
FD5D ARABIC LIGATURE SEEN WITH JEEM WITH /HAH INITIAL FORM/ALEF MAKSURA FINAL FORM
FD5F ARABIC LIGATURE SEEN WITH MEEM WITH /HAH FINAL FORM/HAH INITIAL FORM/JEEM INITIAL FORM
FD62 ARABIC LIGATURE SEEN WITH MEEM WITH MEEM /FINAL FORM/INITIAL FORM
FD64 ARABIC LIGATURE SAD WITH HAH WITH HAH /FINAL FORM/INITIAL FORM
FD66 ARABIC LIGATURE SAD WITH MEEM WITH MEEM FINAL /FORM
FD67 ARABIC LIGATURE SHEEN WITH HAH WITH MEEM /FINAL FORM/INITIAL FORM
FD69 ARABIC LIGATURE SHEEN WITH /JEEM WITH YEH FINAL FORM/MEEM WITH KHAH FINAL FORM
FD6B ARABIC LIGATURE SHEEN WITH MEEM WITH /KHAH INITIAL FORM/MEEM FINAL FORM/MEEM INITIAL FORM
FD6E ARABIC LIGATURE DAD WITH HAH WITH ALEF MAKSURA FINAL /FORM
FD6F ARABIC LIGATURE DAD WITH KHAH WITH MEEM /FINAL FORM/INITIAL FORM
FD71 ARABIC LIGATURE TAH WITH MEEM WITH /HAH FINAL FORM/HAH INITIAL FORM/MEEM INITIAL FORM
FD74 ARABIC LIGATURE /TAH WITH MEEM WITH YEH FINAL FORM/AIN WITH JEEM WITH MEEM FINAL FORM
FD76 ARABIC LIGATURE AIN WITH MEEM WITH /MEEM FINAL FORM/MEEM INITIAL FORM/ALEF MAKSURA FINAL FORM
FD79 ARABIC LIGATURE GHAIN WITH MEEM WITH /MEEM FINAL FORM/YEH FINAL FORM/ALEF MAKSURA FINAL FORM
FD7C ARABIC LIGATURE FEH WITH KHAH WITH MEEM /FINAL FORM/INITIAL FORM
FD7E ARABIC LIGATURE QAF WITH MEEM WITH /HAH FINAL FORM/MEEM FINAL FORM
FD80 ARABIC LIGATURE LAM WITH HAH WITH /MEEM FINAL FORM/YEH FINAL FORM/ALEF MAKSURA FINAL FORM
FD83 ARABIC LIGATURE LAM WITH JEEM WITH JEEM /INITIAL FORM/FINAL FORM
FD85 ARABIC LIGATURE LAM WITH KHAH WITH MEEM /FINAL FORM/INITIAL FORM
FD87 ARABIC LIGATURE LAM WITH MEEM WITH HAH /FINAL FORM/INITIAL FORM
FD89 ARABIC LIGATURE MEEM WITH HAH WITH /JEEM INITIAL FORM/MEEM INITIAL FORM/YEH FINAL FORM
FD8C ARABIC LIGATURE MEEM WITH JEEM WITH /HAH INITIAL FORM/MEEM INITIAL FORM
FD8E ARABIC LIGATURE MEEM WITH KHAH WITH /JEEM INITIAL FORM/MEEM INITIAL FORM
FD92 ARABIC LIGATURE MEEM WITH JEEM WITH KHAH INITIAL /FORM
FD93 ARABIC LIGATURE HEH WITH MEEM WITH /JEEM INITIAL FORM/MEEM INITIAL FORM
FD95 ARABIC LIGATURE NOON WITH HAH WITH /MEEM INITIAL FORM/ALEF MAKSURA FINAL FORM
FD97 ARABIC LIGATURE NOON WITH JEEM WITH /MEEM FINAL FORM/MEEM INITIAL FORM/ALEF MAKSURA FINAL FORM
FD9A ARABIC LIGATURE NOON WITH MEEM WITH /YEH FINAL FORM/ALEF MAKSURA FINAL FORM
FD9C ARABIC LIGATURE YEH WITH MEEM WITH MEEM /FINAL FORM/INITIAL FORM
FD9E ARABIC LIGATURE BEH WITH KHAH WITH YEH FINAL /FORM
FD9F ARABIC LIGATURE TEH WITH JEEM WITH /YEH FINAL FORM/ALEF MAKSURA FINAL FORM
FDA1 ARABIC LIGATURE TEH WITH KHAH WITH /YEH FINAL FORM/ALEF MAKSURA FINAL FORM
FDA3 ARABIC LIGATURE TEH WITH MEEM WITH /YEH FINAL FORM/ALEF MAKSURA FINAL FORM
FDA5 ARABIC LIGATURE JEEM WITH MEEM WITH YEH FINAL /FORM
FDA6 ARABIC LIGATURE JEEM WITH /HAH WITH ALEF MAKSURA FINAL FORM/MEEM WITH ALEF MAKSURA FINAL FORM
FDA8 ARABIC LIGATURE /SEEN WITH KHAH WITH ALEF MAKSURA FINAL FORM/SAD WITH HAH WITH YEH FINAL FORM
FDAA ARABIC LIGATURE /SHEEN WITH HAH WITH YEH FINAL FORM/DAD WITH HAH WITH YEH FINAL FORM
FDAC ARABIC LIGATURE LAM WITH /JEEM WITH YEH FINAL FORM/MEEM WITH YEH FINAL FORM
FDAE ARABIC LIGATURE YEH WITH /HAH WITH YEH FINAL FORM/JEEM WITH YEH FINAL FORM
FDB0 ARABIC LIGATURE /YEH WITH MEEM WITH YEH FINAL FORM/MEEM WITH MEEM WITH YEH FINAL FORM
FDB2 ARABIC LIGATURE /QAF WITH MEEM WITH YEH FINAL FORM/NOON WITH HAH WITH YEH FINAL FORM
FDB4 ARABIC LIGATURE /QAF WITH MEEM WITH HAH INITIAL FORM/LAM WITH HAH WITH MEEM INITIAL FORM
FDB6 ARABIC LIGATURE /AIN WITH MEEM WITH YEH FINAL FORM/KAF WITH MEEM WITH YEH FINAL FORM
FDB8 ARABIC LIGATURE /NOON WITH JEEM WITH HAH INITIAL FORM/MEEM WITH KHAH WITH YEH FINAL FORM
FDBA ARABIC LIGATURE /LAM WITH JEEM WITH MEEM INITIAL FORM/KAF WITH MEEM WITH MEEM FINAL FORM
FDBC ARABIC LIGATURE /LAM WITH JEEM WITH MEEM FINAL FORM/NOON WITH JEEM WITH HAH FINAL FORM
FDBE ARABIC LIGATURE /JEEM WITH HAH WITH YEH FINAL FORM/HAH WITH JEEM WITH YEH FINAL FORM
FDC0 ARABIC LIGATURE /MEEM WITH JEEM WITH YEH FINAL FORM/FEH WITH MEEM WITH YEH FINAL FORM
FDC2 ARABIC LIGATURE /BEH WITH HAH WITH YEH FINAL FORM/KAF WITH MEEM WITH MEEM INITIAL FORM
FDC4 ARABIC LIGATURE /AIN WITH JEEM WITH MEEM INITIAL FORM/SAD WITH MEEM WITH MEEM INITIAL FORM
FDC6 ARABIC LIGATURE /SEEN WITH KHAH WITH YEH FINAL FORM/NOON WITH JEEM WITH YEH FINAL FORM
FDCF ARABIC LIGATURE SALAAMUHU /ALAYNAA
FDF0 ARABIC LIGATURE SALLA USED AS KORANIC STOP SIGN ISOLATED /FORM
FDF1 ARABIC LIGATURE /QALA USED AS KORANIC STOP SIGN ISOLATED FORM/ALLAH ISOLATED FORM
FDF3 ARABIC LIGATURE /AKBAR ISOLATED FORM/MOHAMMAD ISOLATED FORM/SALAM ISOLATED FORM
FDF6 ARABIC LIGATURE /RASOUL ISOLATED FORM/ALAYHE ISOLATED FORM/WASALLAM ISOLATED FORM
FDF9 ARABIC LIGATURE /SALLA ISOLATED FORM/SALLALLAHOU ALAYHE WASALLAM/JALLAJALALOUHOU
FDFC RIAL /SIGN
FDFD ARABIC LIGATURE /BISMILLAH AR-RAHMAN AR-RAHEEM/SUBHAANAHU WA TAAALAA/AZZA WA JALL
FE00 VARIATION /SELECTOR-1/SELECTOR-2
FE02 VARIATION /SELECTOR-3/SELECTOR-4/SELECTOR-5/SELECTOR-6/SELECTOR-7/SELECTOR-8/SELECTOR-9
FE09 VARIATION /SELECTOR-10/SELECTOR-11/SELECTOR-12/SELECTOR-13/SELECTOR-14/SELECTOR-15/SELECTOR-16
FE10 PRESENTATION FORM FOR VERTICAL /COMMA/IDEOGRAPHIC COMMA/IDEOGRAPHIC FULL STOP/COLON/SEMICOLON
FE15 PRESENTATION FORM FOR VERTICAL /EXCLAMATION MARK/QUESTION MARK/LEFT WHITE LENTICULAR BRACKET
FE18 PRESENTATION FORM FOR VERTICAL /RIGHT WHITE LENTICULAR BRAKCET/HORIZONTAL ELLIPSIS
FE20 COMBINING LIGATURE /LEFT HALF/RIGHT HALF
FE22 COMBINING DOUBLE TILDE /LEFT HALF/RIGHT HALF
FE24 COMBINING /MACRON LEFT HALF/MACRON RIGHT HALF/CONJOINING MACRON/LIGATURE LEFT HALF BELOW
FE28 COMBINING /LIGATURE RIGHT HALF BELOW/TILDE LEFT HALF BELOW/TILDE RIGHT HALF BELOW
FE2B COMBINING /MACRON LEFT HALF BELOW/MACRON RIGHT HALF BELOW/CONJOINING MACRON BELOW
FE2E COMBINING CYRILLIC TITLO /LEFT HALF/RIGHT HALF
FE30 PRESENTATION FORM FOR VERTICAL /TWO DOT LEADER/EM DASH/EN DASH/LOW LINE/WAVY LOW LINE
FE35 PRESENTATION FORM FOR VERTICAL /LEFT PARENTHESIS/RIGHT PARENTHESIS/LEFT CURLY BRACKET
FE38 PRESENTATION FORM FOR VERTICAL /RIGHT CURLY BRACKET/LEFT TORTOISE SHELL BRACKET
FE3A PRESENTATION FORM FOR VERTICAL /RIGHT TORTOISE SHELL BRACKET/LEFT BLACK LENTICULAR BRACKET
FE3C PRESENTATION FORM FOR VERTICAL /RIGHT BLACK LENTICULAR BRACKET/LEFT DOUBLE ANGLE BRACKET
FE3E PRESENTATION FORM FOR VERTICAL /RIGHT DOUBLE ANGLE BRACKET/LEFT ANGLE BRACKET
FE40 PRESENTATION FORM FOR VERTICAL /RIGHT ANGLE BRACKET/LEFT CORNER BRACKET/RIGHT CORNER BRACKET
FE43 PRESENTATION FORM FOR VERTICAL /LEFT WHITE CORNER BRACKET/RIGHT WHITE CORNER BRACKET
FE45 /SESAME DOT/WHITE SESAME DOT
FE47 PRESENTATION FORM FOR VERTICAL /LEFT SQUARE BRACKET/RIGHT SQUARE BRACKET
FE49 /DASHED OVERLINE/CENTRELINE OVERLINE
FE4B /WAVY OVERLINE/DOUBLE WAVY OVERLINE/DASHED LOW LINE/CENTRELINE LOW LINE/WAVY LOW LINE
FE50 SMALL /COMMA/IDEOGRAPHIC COMMA/FULL STOP
FE54 SMALL /SEMICOLON/COLON/QUESTION MARK
FE57 SMALL /EXCLAMATION MARK/EM DASH/LEFT PARENTHESIS/RIGHT PARENTHESIS/LEFT CURLY BRACKET
FE5C SMALL /RIGHT CURLY BRACKET/LEFT TORTOISE SHELL BRACKET/RIGHT TORTOISE SHELL BRACKET/NUMBER SIGN
FE60 SMALL /AMPERSAND/ASTERISK/PLUS SIGN/HYPHEN-MINUS/LESS-THAN SIGN/GREATER-THAN SIGN/EQUALS SIGN
FE68 SMALL /REVERSE SOLIDUS/DOLLAR SIGN/PERCENT SIGN/COMMERCIAL AT
FE70 ARABIC FATHATAN ISOLATED /FORM
FE71 ARABIC /TATWEEL WITH FATHATAN ABOVE/DAMMATAN ISOLATED FORM/TAIL FRAGMENT/KASRATAN ISOLATED FORM
FE76 ARABIC /FATHA ISOLATED FORM/FATHA MEDIAL FORM/DAMMA ISOLATED FORM
FE79 ARABIC /DAMMA MEDIAL FORM/KASRA ISOLATED FORM/KASRA MEDIAL FORM/SHADDA ISOLATED FORM
FE7D ARABIC /SHADDA MEDIAL FORM/SUKUN ISOLATED FORM/SUKUN MEDIAL FORM/LETTER HAMZA ISOLATED FORM
FE81 ARABIC LETTER ALEF WITH MADDA ABOVE /ISOLATED FORM/FINAL FORM
FE83 ARABIC LETTER ALEF WITH HAMZA ABOVE /ISOLATED FORM/FINAL FORM
FE85 ARABIC LETTER WAW WITH HAMZA ABOVE /ISOLATED FORM/FINAL FORM
FE87 ARABIC LETTER ALEF WITH HAMZA BELOW /ISOLATED FORM/FINAL FORM
FE89 ARABIC LETTER YEH WITH HAMZA ABOVE /ISOLATED FORM/FINAL FORM/INITIAL FORM/MEDIAL FORM
FE8D ARABIC LETTER ALEF /ISOLATED FORM/FINAL FORM
FE8F ARABIC LETTER BEH /ISOLATED FORM/FINAL FORM/INITIAL FORM/MEDIAL FORM
FE93 ARABIC LETTER TEH MARBUTA /ISOLATED FORM/FINAL FORM
FE95 ARABIC LETTER TEH /ISOLATED FORM/FINAL FORM/INITIAL FORM/MEDIAL FORM
FE99 ARABIC LETTER THEH /ISOLATED FORM/FINAL FORM/INITIAL FORM/MEDIAL FORM
FE9D ARABIC LETTER JEEM /ISOLATED FORM/FINAL FORM/INITIAL FORM/MEDIAL FORM
FEA1 ARABIC LETTER HAH /ISOLATED FORM/FINAL FORM/INITIAL FORM/MEDIAL FORM
FEA5 ARABIC LETTER KHAH /ISOLATED FORM/FINAL FORM/INITIAL FORM/MEDIAL FORM
FEA9 ARABIC LETTER /DAL ISOLATED FORM/DAL FINAL FORM/THAL ISOLATED FORM/THAL FINAL FORM
FEAD ARABIC LETTER /REH ISOLATED FORM/REH FINAL FORM/ZAIN ISOLATED FORM/ZAIN FINAL FORM
FEB1 ARABIC LETTER SEEN /ISOLATED FORM/FINAL FORM/INITIAL FORM/MEDIAL FORM
FEB5 ARABIC LETTER SHEEN /ISOLATED FORM/FINAL FORM/INITIAL FORM/MEDIAL FORM
FEB9 ARABIC LETTER SAD /ISOLATED FORM/FINAL FORM/INITIAL FORM/MEDIAL FORM
FEBD ARABIC LETTER DAD /ISOLATED FORM/FINAL FORM/INITIAL FORM/MEDIAL FORM
FEC1 ARABIC LETTER TAH /ISOLATED FORM/FINAL FORM/INITIAL FORM/MEDIAL FORM
FEC5 ARABIC LETTER ZAH /ISOLATED FORM/FINAL FORM/INITIAL FORM/MEDIAL FORM
FEC9 ARABIC LETTER AIN /ISOLATED FORM/FINAL FORM/INITIAL FORM/MEDIAL FORM
FECD ARABIC LETTER GHAIN /ISOLATED FORM/FINAL FORM/INITIAL FORM/MEDIAL FORM
FED1 ARABIC LETTER FEH /ISOLATED FORM/FINAL FORM/INITIAL FORM/MEDIAL FORM
FED5 ARABIC LETTER QAF /ISOLATED FORM/FINAL FORM/INITIAL FORM/MEDIAL FORM
FED9 ARABIC LETTER KAF /ISOLATED FORM/FINAL FORM/INITIAL FORM/MEDIAL FORM
FEDD ARABIC LETTER LAM /ISOLATED FORM/FINAL FORM/INITIAL FORM/MEDIAL FORM
FEE1 ARABIC LETTER MEEM /ISOLATED FORM/FINAL FORM/INITIAL FORM/MEDIAL FORM
FEE5 ARABIC LETTER NOON /ISOLATED FORM/FINAL FORM/INITIAL FORM/MEDIAL FORM
FEE9 ARABIC LETTER HEH /ISOLATED FORM/FINAL FORM/INITIAL FORM/MEDIAL FORM
FEED ARABIC LETTER WAW /ISOLATED FORM/FINAL FORM
FEEF ARABIC LETTER ALEF MAKSURA /ISOLATED FORM/FINAL FORM
FEF1 ARABIC LETTER YEH /ISOLATED FORM/FINAL FORM/INITIAL FORM/MEDIAL FORM
FEF5 ARABIC LIGATURE LAM WITH ALEF WITH MADDA ABOVE /ISOLATED FORM/FINAL FORM
FEF7 ARABIC LIGATURE LAM WITH ALEF WITH HAMZA ABOVE /ISOLATED FORM/FINAL FORM
FEF9 ARABIC LIGATURE LAM WITH ALEF WITH HAMZA BELOW /ISOLATED FORM/FINAL FORM
FEFB ARABIC LIGATURE LAM WITH ALEF /ISOLATED FORM/FINAL FORM
FEFF ZERO WIDTH NO-BREAK /SPACE
FF01 FULLWIDTH /EXCLAMATION MARK/QUOTATION MARK
FF03 FULLWIDTH /NUMBER SIGN/DOLLAR SIGN/PERCENT SIGN/AMPERSAND/APOSTROPHE/LEFT PARENTHESIS
FF09 FULLWIDTH /RIGHT PARENTHESIS/ASTERISK/PLUS SIGN/COMMA/HYPHEN-MINUS/FULL STOP/SOLIDUS
FF10 FULLWIDTH DIGIT /ZERO/ONE/TWO/THREE/FOUR/FIVE/SIX/SEVEN/EIGHT/NINE
FF1A FULLWIDTH /COLON
FF1B FULLWIDTH /SEMICOLON/LESS-THAN SIGN/EQUALS SIGN/GREATER-THAN SIGN/QUESTION MARK/COMMERCIAL AT
FF21 FULLWIDTH LATIN CAPITAL LETTER /A/B/C/D/E/F/G/H/I/J/K/L/M/N/O/P/Q/R/S/T/U/V/W/X/Y/Z
FF3B FULLWIDTH LEFT SQUARE /BRACKET
FF3C FULLWIDTH /REVERSE SOLIDUS/RIGHT SQUARE BRACKET/CIRCUMFLEX ACCENT/LOW LINE/GRAVE ACCENT
FF41 FULLWIDTH LATIN SMALL LETTER /A/B/C/D/E/F/G/H/I/J/K/L/M/N/O/P/Q/R/S/T/U/V/W/X/Y/Z
FF5B FULLWIDTH /LEFT CURLY BRACKET/VERTICAL LINE
FF5D FULLWIDTH /RIGHT CURLY BRACKET/TILDE/LEFT WHITE PARENTHESIS/RIGHT WHITE PARENTHESIS
FF61 HALFWIDTH /IDEOGRAPHIC FULL STOP/LEFT CORNER BRACKET/RIGHT CORNER BRACKET/IDEOGRAPHIC COMMA
FF65 HALFWIDTH KATAKANA /MIDDLE DOT/LETTER WO
FF67 HALFWIDTH KATAKANA LETTER SMALL /A/I/U/E/O/YA/YU/YO/TU
FF70 HALFWIDTH KATAKANA-HIRAGANA PROLONGED SOUND /MARK
FF71 HALFWIDTH KATAKANA LETTER /A/I/U/E/O/KA/KI/KU/KE/KO/SA/SI/SU/SE/SO/TA/TI/TU/TE/TO/NA/NI
FF87 HALFWIDTH KATAKANA LETTER /NU/NE/NO/HA/HI/HU/HE/HO/MA/MI/MU/ME/MO/YA/YU/YO/RA/RI/RU/RE/RO/WA/N
FF9E HALFWIDTH KATAKANA /VOICED SOUND MARK/SEMI-VOICED SOUND MARK
FFA0 HALFWIDTH HANGUL /FILLER/LETTER KIYEOK/LETTER SSANGKIYEOK
FFA3 HALFWIDTH HANGUL LETTER /KIYEOK-SIOS/NIEUN/NIEUN-CIEUC/NIEUN-HIEUH/TIKEUT/SSANGTIKEUT
FFA9 HALFWIDTH HANGUL LETTER /RIEUL/RIEUL-KIYEOK/RIEUL-MIEUM/RIEUL-PIEUP/RIEUL-SIOS/RIEUL-THIEUTH
FFAF HALFWIDTH HANGUL LETTER /RIEUL-PHIEUPH/RIEUL-HIEUH/MIEUM/PIEUP/SSANGPIEUP/PIEUP-SIOS/SIOS
FFB6 HALFWIDTH HANGUL LETTER /SSANGSIOS/IEUNG/CIEUC/SSANGCIEUC/CHIEUCH/KHIEUKH/THIEUTH/PHIEUPH/HIEUH
FFC2 HALFWIDTH HANGUL LETTER /A/AE/YA/YAE/EO/E
FFCA HALFWIDTH HANGUL LETTER /YEO/YE/O/WA/WAE/OE
FFD2 HALFWIDTH HANGUL LETTER /YO/U/WEO/WE/WI/YU
FFDA HALFWIDTH HANGUL LETTER /EU/YI/I
FFE0 FULLWIDTH /CENT SIGN/POUND SIGN/NOT SIGN/MACRON/BROKEN BAR/YEN SIGN/WON SIGN
FFE8 HALFWIDTH /FORMS LIGHT VERTICAL/LEFTWARDS ARROW
FFEA HALFWIDTH /UPWARDS ARROW/RIGHTWARDS ARROW/DOWNWARDS ARROW/BLACK SQUARE/WHITE CIRCLE
FFF9 INTERLINEAR ANNOTATION /ANCHOR/SEPARATOR/TERMINATOR
FFFC /OBJECT REPLACEMENT CHARACTER/REPLACEMENT CHARACTER"

end PerlCalls.Text
