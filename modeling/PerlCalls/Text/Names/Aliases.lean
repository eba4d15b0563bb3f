/-! Further names: of controls, which have no others, corrected names and abbreviations. -/
namespace PerlCalls.Text

/-- One series of characters on a line: the first code point in base sixteen, what the names have in
common, and how each of them goes on. -/
def aliasNames : String :=
"0 /NULL
0 /NUL
1 /START OF HEADING
1 /SOH
2 /START OF TEXT
2 /STX
3 /END OF TEXT
3 /ETX
4 /END OF TRANSMISSION
4 /EOT
5 /ENQUIRY
5 /ENQ
6 /ACKNOWLEDGE
6 /ACK
7 /ALERT
7 /BEL
8 /BACKSPACE
8 /BS
9 /CHARACTER TABULATION
9 /HORIZONTAL TABULATION
9 /HT
9 /TAB
A /LINE FEED
A /NEW LINE
A /END OF LINE
A /LF
A /NL
A /EOL
B /LINE TABULATION
B /VERTICAL TABULATION
B /VT
C /FORM FEED
C /FF
D /CARRIAGE RETURN
D /CR
E /SHIFT OUT
E /LOCKING-SHIFT ONE
E /SO
F /SHIFT IN
F /LOCKING-SHIFT ZERO
F /SI
10 /DATA LINK ESCAPE
10 /DLE
11 /DEVICE CONTROL ONE
11 /DC1
12 /DEVICE CONTROL TWO
12 /DC2
13 /DEVICE CONTROL THREE
13 /DC3
14 /DEVICE CONTROL FOUR
14 /DC4
15 /NEGATIVE ACKNOWLEDGE
15 /NAK
16 /SYNCHRONOUS IDLE
16 /SYN
17 /END OF TRANSMISSION BLOCK
17 /ETB
18 /CANCEL
18 /CAN
19 /END OF MEDIUM
19 /EOM
1A /SUBSTITUTE
1A /SUB
1B /ESCAPE
1B /ESC
1C /INFORMATION SEPARATOR FOUR
1C /FILE SEPARATOR
1C /FS
1D /INFORMATION SEPARATOR THREE
1D /GROUP SEPARATOR
1D /GS
1E /INFORMATION SEPARATOR TWO
1E /RECORD SEPARATOR
1E /RS
1F /INFORMATION SEPARATOR ONE
1F /UNIT SEPARATOR
1F /US
20 /SP
7F /DELETE
7F /DEL
80 /PADDING CHARACTER
80 /PAD
81 /HIGH OCTET PRESET
81 /HOP
82 /BREAK PERMITTED HERE
82 /BPH
83 /NO BREAK HERE
83 /NBH
84 /INDEX
84 /IND
85 /NEXT LINE
85 /NEL
86 /START OF SELECTED AREA
86 /SSA
87 /END OF SELECTED AREA
87 /ESA
88 /CHARACTER TABULATION SET
88 /HORIZONTAL TABULATION SET
88 /HTS
89 /CHARACTER TABULATION WITH JUSTIFICATION
89 /HORIZONTAL TABULATION WITH JUSTIFICATION
89 /HTJ
8A /LINE TABULATION SET
8A /VERTICAL TABULATION SET
8A /VTS
8B /PARTIAL LINE FORWARD
8B /PARTIAL LINE DOWN
8B /PLD
8C /PARTIAL LINE BACKWARD
8C /PARTIAL LINE UP
8C /PLU
8D /REVERSE LINE FEED
8D /REVERSE INDEX
8D /RI
8E /SINGLE SHIFT TWO
8E /SINGLE-SHIFT-2
8E /SS2
8F /SINGLE SHIFT THREE
8F /SINGLE-SHIFT-3
8F /SS3
90 /DEVICE CONTROL STRING
90 /DCS
91 /PRIVATE USE ONE
91 /PRIVATE USE-1
91 /PU1
92 /PRIVATE USE TWO
92 /PRIVATE USE-2
92 /PU2
93 /SET TRANSMIT STATE
93 /STS
94 /CANCEL CHARACTER
94 /CCH
95 /MESSAGE WAITING
95 /MW
96 /START OF GUARDED AREA
96 /START OF PROTECTED AREA
96 /SPA
97 /END OF GUARDED AREA
97 /END OF PROTECTED AREA
97 /EPA
98 /START OF STRING
98 /SOS
99 /SINGLE GRAPHIC CHARACTER INTRODUCER
99 /SGC
9A /SINGLE CHARACTER INTRODUCER
9A /SCI
9B /CONTROL SEQUENCE INTRODUCER
9B /CSI
9C /STRING TERMINATOR
9C /ST
9D /OPERATING SYSTEM COMMAND
9D /OSC
9E /PRIVACY MESSAGE
9E /PM
9F /APPLICATION PROGRAM COMMAND
9F /APC
A0 /NBSP
AD /SHY
1A2 /LATIN CAPITAL LETTER GHA
1A3 /LATIN SMALL LETTER GHA
34F /CGJ
61C /ALM
709 /SYRIAC SUBLINEAR COLON SKEWED LEFT
CDE /KANNADA LETTER LLLA
E9D /LAO LETTER FO FON
E9F /LAO LETTER FO FAY
EA3 /LAO LETTER RO
EA5 /LAO LETTER LO
FD0 /TIBETAN MARK BKA- SHOG GI MGO RGYAN
11EC /HANGUL JONGSEONG YESIEUNG-KIYEOK
11ED /HANGUL JONGSEONG YESIEUNG-SSANGKIYEOK
11EE /HANGUL JONGSEONG SSANGYESIEUNG
11EF /HANGUL JONGSEONG YESIEUNG-KHIEUKH
180B /FVS1
180C /FVS2
180D /FVS3
180E /MVS
180F /FVS4
200B /ZWSP
200C /ZWNJ
200D /ZWJ
200E /LRM
200F /RLM
202A /LRE
202B /RLE
202C /PDF
202D /LRO
202E /RLO
202F /NNBSP
205F /MMSP
2060 /WJ
2066 /LRI
2067 /RLI
2068 /FSI
2069 /PDI
2118 /WEIERSTRASS ELLIPTIC FUNCTION
2448 /MICR ON US SYMBOL
2449 /MICR DASH SYMBOL
2B7A /LEFTWARDS TRIANGLE-HEADED ARROW WITH DOUBLE VERTICAL STROKE
2B7C /RIGHTWARDS TRIANGLE-HEADED ARROW WITH DOUBLE VERTICAL STROKE
A015 /YI SYLLABLE ITERATION MARK
AA6E /MYANMAR LETTER KHAMTI LLA
FE18 /PRESENTATION FORM FOR VERTICAL RIGHT WHITE LENTICULAR BRACKET
FEFF /BYTE ORDER MARK
FEFF /BOM
FEFF /ZWNBSP
122D4 /CUNEIFORM SIGN NU11 TENU
122D5 /CUNEIFORM SIGN NU11 OVER NU11 BUR OVER BUR
16E56 /MEDEFAIDRIN CAPITAL LETTER H
16E57 /MEDEFAIDRIN CAPITAL LETTER NG
16E76 /MEDEFAIDRIN SMALL LETTER H
16E77 /MEDEFAIDRIN SMALL LETTER NG
1B001 /HENTAIGANA LETTER E-1
1D0C5 /BYZANTINE MUSICAL SYMBOL FTHORA SKLIRON CHROMA VASIS
FE00 VS/1/2/3/4/5/6/7/8/9/10/11/12/13/14/15/16
E0100 VS/17/18/19/20/21/22/23/24/25/26/27/28/29/30/31/32/33/34/35/36/37/38/39/40/41/42/43/44/45/46
E011E VS/47/48/49/50/51/52/53/54/55/56/57/58/59/60/61/62/63/64/65/66/67/68/69/70/71/72/73/74/75/76
E013C VS/77/78/79/80/81/82/83/84/85/86/87/88/89/90/91/92/93/94/95/96/97/98/99/100/101/102/103/104
E0158 VS/105/106/107/108/109/110/111/112/113/114/115/116/117/118/119/120/121/122/123/124/125/126/127
E016F VS/128/129/130/131/132/133/134/135/136/137/138/139/140/141/142/143/144/145/146/147/148/149/150
E0186 VS/151/152/153/154/155/156/157/158/159/160/161/162/163/164/165/166/167/168/169/170/171/172/173
E019D VS/174/175/176/177/178/179/180/181/182/183/184/185/186/187/188/189/190/191/192/193/194/195/196
E01B4 VS/197/198/199/200/201/202/203/204/205/206/207/208/209/210/211/212/213/214/215/216/217/218/219
E01CB VS/220/221/222/223/224/225/226/227/228/229/230/231/232/233/234/235/236/237/238/239/240/241/242
E01E2 VS/243/244/245/246/247/248/249/250/251/252/253/254/255/256"

end PerlCalls.Text
