/-! The names of characters up to U+1FFF: alphabets and their marks. -/
namespace PerlCalls.Text

/-- One series of characters on a line: the first code point in base sixteen, what the names have in
common, and how each of them goes on. -/
def letterNames : String :=
"20 /SPACE/EXCLAMATION MARK/QUOTATION MARK/NUMBER SIGN/DOLLAR SIGN/PERCENT SIGN/AMPERSAND/APOSTROPHE
28 /LEFT PARENTHESIS/RIGHT PARENTHESIS/ASTERISK/PLUS SIGN/COMMA/HYPHEN-MINUS/FULL STOP/SOLIDUS
30 DIGIT /ZERO/ONE/TWO/THREE/FOUR/FIVE/SIX/SEVEN/EIGHT/NINE
3A /COLON/SEMICOLON/LESS-THAN SIGN/EQUALS SIGN/GREATER-THAN SIGN/QUESTION MARK/COMMERCIAL AT
41 LATIN CAPITAL LETTER /A/B/C/D/E/F/G/H/I/J/K/L/M/N/O/P/Q/R/S/T/U/V/W/X/Y/Z
5B /LEFT SQUARE BRACKET/REVERSE SOLIDUS/RIGHT SQUARE BRACKET/CIRCUMFLEX ACCENT/LOW LINE/GRAVE ACCENT
61 LATIN SMALL LETTER /A/B/C/D/E/F/G/H/I/J/K/L/M/N/O/P/Q/R/S/T/U/V/W/X/Y/Z
7B /LEFT CURLY BRACKET/VERTICAL LINE/RIGHT CURLY BRACKET/TILDE
A0 NO-BREAK /SPACE
A1 /INVERTED EXCLAMATION MARK/CENT SIGN/POUND SIGN/CURRENCY SIGN/YEN SIGN/BROKEN BAR/SECTION SIGN
A8 /DIAERESIS/COPYRIGHT SIGN/FEMININE ORDINAL INDICATOR/LEFT-POINTING DOUBLE ANGLE QUOTATION MARK
AC /NOT SIGN/SOFT HYPHEN/REGISTERED SIGN/MACRON/DEGREE SIGN/PLUS-MINUS SIGN
B2 SUPERSCRIPT /TWO/THREE
B4 /ACUTE ACCENT/MICRO SIGN/PILCROW SIGN/MIDDLE DOT
B8 /CEDILLA/SUPERSCRIPT ONE/MASCULINE ORDINAL INDICATOR/RIGHT-POINTING DOUBLE ANGLE QUOTATION MARK
BC VULGAR FRACTION /ONE QUARTER/ONE HALF/THREE QUARTERS
BF INVERTED QUESTION /MARK
C0 LATIN CAPITAL LETTER A WITH /GRAVE/ACUTE/CIRCUMFLEX/TILDE/DIAERESIS/RING ABOVE
C6 LATIN CAPITAL LETTER /AE/C WITH CEDILLA
C8 LATIN CAPITAL LETTER E WITH /GRAVE/ACUTE/CIRCUMFLEX/DIAERESIS
CC LATIN CAPITAL LETTER I WITH /GRAVE/ACUTE/CIRCUMFLEX/DIAERESIS
D0 LATIN CAPITAL LETTER /ETH/N WITH TILDE
D2 LATIN CAPITAL LETTER O WITH /GRAVE/ACUTE/CIRCUMFLEX/TILDE/DIAERESIS
D7 MULTIPLICATION /SIGN
D8 LATIN CAPITAL LETTER /O WITH STROKE/U WITH GRAVE
DA LATIN CAPITAL LETTER /U WITH ACUTE/U WITH CIRCUMFLEX/U WITH DIAERESIS/Y WITH ACUTE/THORN
DF LATIN SMALL LETTER SHARP /S
E0 LATIN SMALL LETTER A WITH /GRAVE/ACUTE/CIRCUMFLEX/TILDE/DIAERESIS/RING ABOVE
E6 LATIN SMALL LETTER /AE/C WITH CEDILLA
E8 LATIN SMALL LETTER E WITH /GRAVE/ACUTE/CIRCUMFLEX/DIAERESIS
EC LATIN SMALL LETTER /I WITH GRAVE/I WITH ACUTE/I WITH CIRCUMFLEX/I WITH DIAERESIS/ETH/N WITH TILDE
F2 LATIN SMALL LETTER O WITH /GRAVE/ACUTE/CIRCUMFLEX/TILDE/DIAERESIS
F7 /DIVISION SIGN/LATIN SMALL LETTER O WITH STROKE
F9 LATIN SMALL LETTER U WITH /GRAVE/ACUTE/CIRCUMFLEX/DIAERESIS
FD LATIN SMALL LETTER /Y WITH ACUTE/THORN/Y WITH DIAERESIS
100 LATIN CAPITAL LETTER A WITH /MACRON
101 LATIN /SMALL LETTER A WITH MACRON/CAPITAL LETTER A WITH BREVE/SMALL LETTER A WITH BREVE
104 LATIN /CAPITAL LETTER A WITH OGONEK/SMALL LETTER A WITH OGONEK/CAPITAL LETTER C WITH ACUTE
107 LATIN /SMALL LETTER C WITH ACUTE/CAPITAL LETTER C WITH CIRCUMFLEX/SMALL LETTER C WITH CIRCUMFLEX
10A LATIN /CAPITAL LETTER C WITH DOT ABOVE/SMALL LETTER C WITH DOT ABOVE
10C LATIN /CAPITAL LETTER C WITH CARON/SMALL LETTER C WITH CARON/CAPITAL LETTER D WITH CARON
10F LATIN /SMALL LETTER D WITH CARON/CAPITAL LETTER D WITH STROKE/SMALL LETTER D WITH STROKE
112 LATIN /CAPITAL LETTER E WITH MACRON/SMALL LETTER E WITH MACRON/CAPITAL LETTER E WITH BREVE
115 LATIN /SMALL LETTER E WITH BREVE/CAPITAL LETTER E WITH DOT ABOVE/SMALL LETTER E WITH DOT ABOVE
118 LATIN /CAPITAL LETTER E WITH OGONEK/SMALL LETTER E WITH OGONEK/CAPITAL LETTER E WITH CARON
11B LATIN /SMALL LETTER E WITH CARON/CAPITAL LETTER G WITH CIRCUMFLEX/SMALL LETTER G WITH CIRCUMFLEX
11E LATIN /CAPITAL LETTER G WITH BREVE/SMALL LETTER G WITH BREVE/CAPITAL LETTER G WITH DOT ABOVE
121 LATIN /SMALL LETTER G WITH DOT ABOVE/CAPITAL LETTER G WITH CEDILLA/SMALL LETTER G WITH CEDILLA
124 LATIN /CAPITAL LETTER H WITH CIRCUMFLEX/SMALL LETTER H WITH CIRCUMFLEX
126 LATIN /CAPITAL LETTER H WITH STROKE/SMALL LETTER H WITH STROKE/CAPITAL LETTER I WITH TILDE
129 LATIN /SMALL LETTER I WITH TILDE/CAPITAL LETTER I WITH MACRON/SMALL LETTER I WITH MACRON
12C LATIN /CAPITAL LETTER I WITH BREVE/SMALL LETTER I WITH BREVE/CAPITAL LETTER I WITH OGONEK
12F LATIN /SMALL LETTER I WITH OGONEK/CAPITAL LETTER I WITH DOT ABOVE/SMALL LETTER DOTLESS I
132 LATIN /CAPITAL LIGATURE IJ/SMALL LIGATURE IJ/CAPITAL LETTER J WITH CIRCUMFLEX
135 LATIN /SMALL LETTER J WITH CIRCUMFLEX/CAPITAL LETTER K WITH CEDILLA
137 LATIN SMALL LETTER /K WITH CEDILLA/KRA
139 LATIN CAPITAL LETTER L WITH /ACUTE
13A LATIN /SMALL LETTER L WITH ACUTE/CAPITAL LETTER L WITH CEDILLA/SMALL LETTER L WITH CEDILLA
13D LATIN /CAPITAL LETTER L WITH CARON/SMALL LETTER L WITH CARON/CAPITAL LETTER L WITH MIDDLE DOT
140 LATIN /SMALL LETTER L WITH MIDDLE DOT/CAPITAL LETTER L WITH STROKE
142 LATIN /SMALL LETTER L WITH STROKE/CAPITAL LETTER N WITH ACUTE/SMALL LETTER N WITH ACUTE
145 LATIN /CAPITAL LETTER N WITH CEDILLA/SMALL LETTER N WITH CEDILLA/CAPITAL LETTER N WITH CARON
148 LATIN SMALL LETTER N /WITH CARON/PRECEDED BY APOSTROPHE
14A LATIN CAPITAL LETTER /ENG
14B LATIN /SMALL LETTER ENG/CAPITAL LETTER O WITH MACRON/SMALL LETTER O WITH MACRON
14E LATIN /CAPITAL LETTER O WITH BREVE/SMALL LETTER O WITH BREVE/CAPITAL LETTER O WITH DOUBLE ACUTE
151 LATIN /SMALL LETTER O WITH DOUBLE ACUTE/CAPITAL LIGATURE OE/SMALL LIGATURE OE
154 LATIN /CAPITAL LETTER R WITH ACUTE/SMALL LETTER R WITH ACUTE/CAPITAL LETTER R WITH CEDILLA
157 LATIN /SMALL LETTER R WITH CEDILLA/CAPITAL LETTER R WITH CARON/SMALL LETTER R WITH CARON
15A LATIN /CAPITAL LETTER S WITH ACUTE/SMALL LETTER S WITH ACUTE/CAPITAL LETTER S WITH CIRCUMFLEX
15D LATIN /SMALL LETTER S WITH CIRCUMFLEX/CAPITAL LETTER S WITH CEDILLA/SMALL LETTER S WITH CEDILLA
160 LATIN /CAPITAL LETTER S WITH CARON/SMALL LETTER S WITH CARON/CAPITAL LETTER T WITH CEDILLA
163 LATIN /SMALL LETTER T WITH CEDILLA/CAPITAL LETTER T WITH CARON/SMALL LETTER T WITH CARON
166 LATIN /CAPITAL LETTER T WITH STROKE/SMALL LETTER T WITH STROKE/CAPITAL LETTER U WITH TILDE
169 LATIN /SMALL LETTER U WITH TILDE/CAPITAL LETTER U WITH MACRON/SMALL LETTER U WITH MACRON
16C LATIN /CAPITAL LETTER U WITH BREVE/SMALL LETTER U WITH BREVE/CAPITAL LETTER U WITH RING ABOVE
16F LATIN /SMALL LETTER U WITH RING ABOVE/CAPITAL LETTER U WITH DOUBLE ACUTE
171 LATIN /SMALL LETTER U WITH DOUBLE ACUTE/CAPITAL LETTER U WITH OGONEK/SMALL LETTER U WITH OGONEK
174 LATIN /CAPITAL LETTER W WITH CIRCUMFLEX/SMALL LETTER W WITH CIRCUMFLEX
176 LATIN /CAPITAL LETTER Y WITH CIRCUMFLEX/SMALL LETTER Y WITH CIRCUMFLEX
178 LATIN CAPITAL LETTER /Y WITH DIAERESIS/Z WITH ACUTE
17A LATIN SMALL LETTER Z WITH /ACUTE
17B LATIN /CAPITAL LETTER Z WITH DOT ABOVE/SMALL LETTER Z WITH DOT ABOVE/CAPITAL LETTER Z WITH CARON
17E LATIN SMALL LETTER /Z WITH CARON/LONG S/B WITH STROKE
181 LATIN CAPITAL LETTER B WITH /HOOK/TOPBAR
183 LATIN /SMALL LETTER B WITH TOPBAR/CAPITAL LETTER TONE SIX/SMALL LETTER TONE SIX
186 LATIN CAPITAL LETTER /OPEN O/C WITH HOOK
188 LATIN SMALL LETTER C WITH /HOOK
189 LATIN CAPITAL LETTER /AFRICAN D/D WITH HOOK/D WITH TOPBAR
18C LATIN SMALL LETTER /D WITH TOPBAR/TURNED DELTA
18E LATIN CAPITAL LETTER /REVERSED E/SCHWA/OPEN E/F WITH HOOK
192 LATIN /SMALL LETTER F WITH HOOK/CAPITAL LETTER G WITH HOOK/CAPITAL LETTER GAMMA/SMALL LETTER HV
196 LATIN CAPITAL LETTER /IOTA/I WITH STROKE/K WITH HOOK
199 LATIN SMALL LETTER /K WITH HOOK/L WITH BAR/LAMBDA WITH STROKE
19C LATIN CAPITAL LETTER /TURNED M/N WITH LEFT HOOK
19E LATIN SMALL LETTER N WITH LONG RIGHT /LEG
19F LATIN CAPITAL LETTER O WITH /MIDDLE TILDE/HORN
1A1 LATIN /SMALL LETTER O WITH HORN/CAPITAL LETTER OI
1A3 LATIN /SMALL LETTER OI/CAPITAL LETTER P WITH HOOK/SMALL LETTER P WITH HOOK/LETTER YR
1A7 LATIN /CAPITAL LETTER TONE TWO/SMALL LETTER TONE TWO/CAPITAL LETTER ESH/LETTER REVERSED ESH LOOP
1AB LATIN /SMALL LETTER T WITH PALATAL HOOK/CAPITAL LETTER T WITH HOOK/SMALL LETTER T WITH HOOK
1AE LATIN CAPITAL LETTER /T WITH RETROFLEX HOOK/U WITH HORN
1B0 LATIN SMALL LETTER U WITH /HORN
1B1 LATIN CAPITAL LETTER /UPSILON/V WITH HOOK/Y WITH HOOK
1B4 LATIN /SMALL LETTER Y WITH HOOK/CAPITAL LETTER Z WITH STROKE/SMALL LETTER Z WITH STROKE
1B7 LATIN CAPITAL LETTER /EZH/EZH REVERSED
1B9 LATIN SMALL LETTER EZH /REVERSED/WITH TAIL
1BB LATIN LETTER TWO WITH /STROKE
1BC LATIN /CAPITAL LETTER TONE FIVE/SMALL LETTER TONE FIVE/LETTER INVERTED GLOTTAL STOP WITH STROKE
1BF LATIN LETTER /WYNN/DENTAL CLICK/LATERAL CLICK/ALVEOLAR CLICK/RETROFLEX CLICK
1C4 LATIN CAPITAL LETTER /DZ WITH CARON/D WITH SMALL LETTER Z WITH CARON
1C6 LATIN SMALL LETTER DZ WITH /CARON
1C7 LATIN CAPITAL LETTER /LJ/L WITH SMALL LETTER J
1C9 LATIN SMALL LETTER /LJ
1CA LATIN CAPITAL LETTER /NJ/N WITH SMALL LETTER J
1CC LATIN /SMALL LETTER NJ/CAPITAL LETTER A WITH CARON
1CE LATIN /SMALL LETTER A WITH CARON/CAPITAL LETTER I WITH CARON/SMALL LETTER I WITH CARON
1D1 LATIN /CAPITAL LETTER O WITH CARON/SMALL LETTER O WITH CARON/CAPITAL LETTER U WITH CARON
1D4 LATIN /SMALL LETTER U WITH CARON/CAPITAL LETTER U WITH DIAERESIS AND MACRON
1D6 LATIN /SMALL LETTER U WITH DIAERESIS AND MACRON/CAPITAL LETTER U WITH DIAERESIS AND ACUTE
1D8 LATIN /SMALL LETTER U WITH DIAERESIS AND ACUTE/CAPITAL LETTER U WITH DIAERESIS AND CARON
1DA LATIN /SMALL LETTER U WITH DIAERESIS AND CARON/CAPITAL LETTER U WITH DIAERESIS AND GRAVE
1DC LATIN SMALL LETTER /U WITH DIAERESIS AND GRAVE/TURNED E
1DE LATIN /CAPITAL LETTER A WITH DIAERESIS AND MACRON/SMALL LETTER A WITH DIAERESIS AND MACRON
1E0 LATIN /CAPITAL LETTER A WITH DOT ABOVE AND MACRON/SMALL LETTER A WITH DOT ABOVE AND MACRON
1E2 LATIN /CAPITAL LETTER AE WITH MACRON/SMALL LETTER AE WITH MACRON/CAPITAL LETTER G WITH STROKE
1E5 LATIN /SMALL LETTER G WITH STROKE/CAPITAL LETTER G WITH CARON/SMALL LETTER G WITH CARON
1E8 LATIN /CAPITAL LETTER K WITH CARON/SMALL LETTER K WITH CARON/CAPITAL LETTER O WITH OGONEK
1EB LATIN /SMALL LETTER O WITH OGONEK/CAPITAL LETTER O WITH OGONEK AND MACRON
1ED LATIN /SMALL LETTER O WITH OGONEK AND MACRON/CAPITAL LETTER EZH WITH CARON
1EF LATIN SMALL LETTER /EZH WITH CARON/J WITH CARON
1F1 LATIN CAPITAL LETTER /DZ/D WITH SMALL LETTER Z
1F3 LATIN /SMALL LETTER DZ/CAPITAL LETTER G WITH ACUTE/SMALL LETTER G WITH ACUTE
1F6 LATIN CAPITAL LETTER /HWAIR/WYNN/N WITH GRAVE
1F9 LATIN SMALL LETTER N WITH /GRAVE
1FA LATIN /CAPITAL LETTER A WITH RING ABOVE AND ACUTE/SMALL LETTER A WITH RING ABOVE AND ACUTE
1FC LATIN /CAPITAL LETTER AE WITH ACUTE/SMALL LETTER AE WITH ACUTE
1FE LATIN /CAPITAL LETTER O WITH STROKE AND ACUTE/SMALL LETTER O WITH STROKE AND ACUTE
200 LATIN /CAPITAL LETTER A WITH DOUBLE GRAVE/SMALL LETTER A WITH DOUBLE GRAVE
202 LATIN /CAPITAL LETTER A WITH INVERTED BREVE/SMALL LETTER A WITH INVERTED BREVE
204 LATIN /CAPITAL LETTER E WITH DOUBLE GRAVE/SMALL LETTER E WITH DOUBLE GRAVE
206 LATIN /CAPITAL LETTER E WITH INVERTED BREVE/SMALL LETTER E WITH INVERTED BREVE
208 LATIN /CAPITAL LETTER I WITH DOUBLE GRAVE/SMALL LETTER I WITH DOUBLE GRAVE
20A LATIN /CAPITAL LETTER I WITH INVERTED BREVE/SMALL LETTER I WITH INVERTED BREVE
20C LATIN /CAPITAL LETTER O WITH DOUBLE GRAVE/SMALL LETTER O WITH DOUBLE GRAVE
20E LATIN /CAPITAL LETTER O WITH INVERTED BREVE/SMALL LETTER O WITH INVERTED BREVE
210 LATIN /CAPITAL LETTER R WITH DOUBLE GRAVE/SMALL LETTER R WITH DOUBLE GRAVE
212 LATIN /CAPITAL LETTER R WITH INVERTED BREVE/SMALL LETTER R WITH INVERTED BREVE
214 LATIN /CAPITAL LETTER U WITH DOUBLE GRAVE/SMALL LETTER U WITH DOUBLE GRAVE
216 LATIN /CAPITAL LETTER U WITH INVERTED BREVE/SMALL LETTER U WITH INVERTED BREVE
218 LATIN /CAPITAL LETTER S WITH COMMA BELOW/SMALL LETTER S WITH COMMA BELOW
21A LATIN /CAPITAL LETTER T WITH COMMA BELOW/SMALL LETTER T WITH COMMA BELOW
21C LATIN /CAPITAL LETTER YOGH/SMALL LETTER YOGH/CAPITAL LETTER H WITH CARON
21F LATIN /SMALL LETTER H WITH CARON/CAPITAL LETTER N WITH LONG RIGHT LEG
221 LATIN /SMALL LETTER D WITH CURL/CAPITAL LETTER OU/SMALL LETTER OU
224 LATIN /CAPITAL LETTER Z WITH HOOK/SMALL LETTER Z WITH HOOK/CAPITAL LETTER A WITH DOT ABOVE
227 LATIN /SMALL LETTER A WITH DOT ABOVE/CAPITAL LETTER E WITH CEDILLA/SMALL LETTER E WITH CEDILLA
22A LATIN /CAPITAL LETTER O WITH DIAERESIS AND MACRON/SMALL LETTER O WITH DIAERESIS AND MACRON
22C LATIN /CAPITAL LETTER O WITH TILDE AND MACRON/SMALL LETTER O WITH TILDE AND MACRON
22E LATIN /CAPITAL LETTER O WITH DOT ABOVE/SMALL LETTER O WITH DOT ABOVE
230 LATIN /CAPITAL LETTER O WITH DOT ABOVE AND MACRON/SMALL LETTER O WITH DOT ABOVE AND MACRON
232 LATIN /CAPITAL LETTER Y WITH MACRON/SMALL LETTER Y WITH MACRON
234 LATIN SMALL LETTER /L WITH CURL/N WITH CURL/T WITH CURL/DOTLESS J/DB DIGRAPH/QP DIGRAPH
23A LATIN CAPITAL LETTER /A WITH STROKE/C WITH STROKE
23C LATIN SMALL LETTER C WITH /STROKE
23D LATIN CAPITAL LETTER /L WITH BAR/T WITH DIAGONAL STROKE
23F LATIN SMALL LETTER /S WITH SWASH TAIL/Z WITH SWASH TAIL
241 LATIN /CAPITAL LETTER GLOTTAL STOP/SMALL LETTER GLOTTAL STOP
243 LATIN CAPITAL LETTER /B WITH STROKE/U BAR/TURNED V/E WITH STROKE
247 LATIN /SMALL LETTER E WITH STROKE/CAPITAL LETTER J WITH STROKE/SMALL LETTER J WITH STROKE
24A LATIN /CAPITAL LETTER SMALL Q WITH HOOK TAIL/SMALL LETTER Q WITH HOOK TAIL
24C LATIN /CAPITAL LETTER R WITH STROKE/SMALL LETTER R WITH STROKE/CAPITAL LETTER Y WITH STROKE
24F LATIN SMALL LETTER /Y WITH STROKE/TURNED A/ALPHA/TURNED ALPHA/B WITH HOOK/OPEN O
255 LATIN SMALL LETTER /C WITH CURL/D WITH TAIL/D WITH HOOK/REVERSED E/SCHWA/SCHWA WITH HOOK/OPEN E
25C LATIN SMALL LETTER REVERSED OPEN /E/E WITH HOOK
25E LATIN SMALL LETTER /CLOSED REVERSED OPEN E/DOTLESS J WITH STROKE/G WITH HOOK/SCRIPT G
262 LATIN LETTER SMALL CAPITAL /G
263 LATIN SMALL LETTER /GAMMA/RAMS HORN/TURNED H/H WITH HOOK/HENG WITH HOOK/I WITH STROKE/IOTA
26A LATIN LETTER SMALL CAPITAL /I
26B LATIN SMALL LETTER /L WITH MIDDLE TILDE/L WITH BELT/L WITH RETROFLEX HOOK/LEZH/TURNED M
270 LATIN SMALL LETTER /TURNED M WITH LONG LEG/M WITH HOOK/N WITH LEFT HOOK/N WITH RETROFLEX HOOK
274 LATIN /LETTER SMALL CAPITAL N/SMALL LETTER BARRED O/LETTER SMALL CAPITAL OE
277 LATIN SMALL LETTER /CLOSED OMEGA/PHI/TURNED R/TURNED R WITH LONG LEG/TURNED R WITH HOOK
27C LATIN SMALL LETTER /R WITH LONG LEG/R WITH TAIL/R WITH FISHHOOK/REVERSED R WITH FISHHOOK
280 LATIN LETTER SMALL CAPITAL /R/INVERTED R
282 LATIN SMALL LETTER /S WITH HOOK/ESH/DOTLESS J WITH STROKE AND HOOK/SQUAT REVERSED ESH
286 LATIN SMALL LETTER /ESH WITH CURL/TURNED T/T WITH RETROFLEX HOOK/U BAR/UPSILON/V WITH HOOK
28C LATIN SMALL LETTER TURNED /V/W/Y
28F LATIN LETTER SMALL CAPITAL /Y
290 LATIN SMALL LETTER /Z WITH RETROFLEX HOOK/Z WITH CURL/EZH/EZH WITH CURL
294 LATIN LETTER /GLOTTAL STOP/PHARYNGEAL VOICED FRICATIVE/INVERTED GLOTTAL STOP/STRETCHED C
298 LATIN /LETTER BILABIAL CLICK/LETTER SMALL CAPITAL B/SMALL LETTER CLOSED OPEN E
29B LATIN LETTER SMALL CAPITAL /G WITH HOOK/H
29D LATIN SMALL LETTER /J WITH CROSSED-TAIL/TURNED K
29F LATIN /LETTER SMALL CAPITAL L/SMALL LETTER Q WITH HOOK
2A1 LATIN LETTER /GLOTTAL STOP WITH STROKE/REVERSED GLOTTAL STOP WITH STROKE
2A3 LATIN SMALL LETTER /DZ DIGRAPH/DEZH DIGRAPH/DZ DIGRAPH WITH CURL/TS DIGRAPH
2A7 LATIN SMALL LETTER /TESH DIGRAPH/TC DIGRAPH WITH CURL/FENG DIGRAPH/LS DIGRAPH/LZ DIGRAPH
2AC LATIN LETTER /BILABIAL PERCUSSIVE/BIDENTAL PERCUSSIVE
2AE LATIN SMALL LETTER TURNED H WITH /FISHHOOK/FISHHOOK AND TAIL
2B0 MODIFIER LETTER SMALL /H/H WITH HOOK/J/R/TURNED R/TURNED R WITH HOOK/CAPITAL INVERTED R/W/Y
2B9 MODIFIER LETTER /PRIME/DOUBLE PRIME/TURNED COMMA/APOSTROPHE/REVERSED COMMA
2BE MODIFIER LETTER /RIGHT HALF RING/LEFT HALF RING/GLOTTAL STOP/REVERSED GLOTTAL STOP
2C2 MODIFIER LETTER /LEFT ARROWHEAD/RIGHT ARROWHEAD/UP ARROWHEAD/DOWN ARROWHEAD/CIRCUMFLEX ACCENT
2C7 /CARON
2C8 MODIFIER LETTER /VERTICAL LINE/MACRON/ACUTE ACCENT/GRAVE ACCENT
2CC MODIFIER LETTER LOW /VERTICAL LINE/MACRON/GRAVE ACCENT/ACUTE ACCENT
2D0 MODIFIER LETTER /TRIANGULAR COLON/HALF TRIANGULAR COLON/CENTRED RIGHT HALF RING
2D3 MODIFIER LETTER /CENTRED LEFT HALF RING/UP TACK/DOWN TACK/PLUS SIGN/MINUS SIGN
2D8 /BREVE/DOT ABOVE/RING ABOVE/OGONEK/SMALL TILDE/DOUBLE ACUTE ACCENT
2DE MODIFIER LETTER /RHOTIC HOOK/CROSS ACCENT
2E0 MODIFIER LETTER SMALL /GAMMA/L/S/X/REVERSED GLOTTAL STOP
2E5 MODIFIER LETTER /EXTRA-HIGH TONE BAR/HIGH TONE BAR
2E7 MODIFIER LETTER /MID TONE BAR/LOW TONE BAR/EXTRA-LOW TONE BAR/YIN DEPARTING TONE MARK
2EB MODIFIER LETTER /YANG DEPARTING TONE MARK/VOICING/UNASPIRATED/DOUBLE APOSTROPHE
2EF MODIFIER LETTER LOW /DOWN ARROWHEAD/UP ARROWHEAD/LEFT ARROWHEAD/RIGHT ARROWHEAD/RING
2F4 MODIFIER LETTER MIDDLE /GRAVE ACCENT/DOUBLE GRAVE ACCENT/DOUBLE ACUTE ACCENT
2F7 MODIFIER LETTER /LOW TILDE/RAISED COLON/BEGIN HIGH TONE
2FA MODIFIER LETTER /END HIGH TONE/BEGIN LOW TONE/END LOW TONE/SHELF/OPEN SHELF/LOW LEFT ARROW
300 COMBINING /GRAVE ACCENT/ACUTE ACCENT/CIRCUMFLEX ACCENT/TILDE
304 COMBINING /MACRON/OVERLINE/BREVE/DOT ABOVE/DIAERESIS/HOOK ABOVE/RING ABOVE/DOUBLE ACUTE ACCENT
30C COMBINING /CARON/VERTICAL LINE ABOVE/DOUBLE VERTICAL LINE ABOVE/DOUBLE GRAVE ACCENT/CANDRABINDU
311 COMBINING /INVERTED BREVE/TURNED COMMA ABOVE/COMMA ABOVE/REVERSED COMMA ABOVE/COMMA ABOVE RIGHT
316 COMBINING /GRAVE ACCENT BELOW/ACUTE ACCENT BELOW/LEFT TACK BELOW/RIGHT TACK BELOW
31A COMBINING /LEFT ANGLE ABOVE/HORN/LEFT HALF RING BELOW/UP TACK BELOW/DOWN TACK BELOW
31F COMBINING /PLUS SIGN BELOW/MINUS SIGN BELOW/PALATALIZED HOOK BELOW/RETROFLEX HOOK BELOW
323 COMBINING /DOT BELOW/DIAERESIS BELOW/RING BELOW/COMMA BELOW/CEDILLA/OGONEK/VERTICAL LINE BELOW
32A COMBINING /BRIDGE BELOW/INVERTED DOUBLE ARCH BELOW/CARON BELOW/CIRCUMFLEX ACCENT BELOW
32E COMBINING /BREVE BELOW/INVERTED BREVE BELOW/TILDE BELOW/MACRON BELOW/LOW LINE/DOUBLE LOW LINE
334 COMBINING /TILDE OVERLAY/SHORT STROKE OVERLAY/LONG STROKE OVERLAY/SHORT SOLIDUS OVERLAY
338 COMBINING /LONG SOLIDUS OVERLAY/RIGHT HALF RING BELOW/INVERTED BRIDGE BELOW/SQUARE BELOW
33C COMBINING /SEAGULL BELOW/X ABOVE/VERTICAL TILDE/DOUBLE OVERLINE/GRAVE TONE MARK/ACUTE TONE MARK
342 COMBINING GREEK /PERISPOMENI/KORONIS/DIALYTIKA TONOS/YPOGEGRAMMENI
346 COMBINING /BRIDGE ABOVE/EQUALS SIGN BELOW
348 COMBINING /DOUBLE VERTICAL LINE BELOW/LEFT ANGLE BELOW/NOT TILDE ABOVE/HOMOTHETIC ABOVE
34C COMBINING /ALMOST EQUAL TO ABOVE/LEFT RIGHT ARROW BELOW/UPWARDS ARROW BELOW/GRAPHEME JOINER
350 COMBINING /RIGHT ARROWHEAD ABOVE/LEFT HALF RING ABOVE/FERMATA/X BELOW/LEFT ARROWHEAD BELOW
355 COMBINING RIGHT /ARROWHEAD BELOW/ARROWHEAD AND UP ARROWHEAD BELOW/HALF RING ABOVE
358 COMBINING /DOT ABOVE RIGHT/ASTERISK BELOW/DOUBLE RING BELOW/ZIGZAG ABOVE/DOUBLE BREVE BELOW
35D COMBINING DOUBLE /BREVE/MACRON/MACRON BELOW/TILDE/INVERTED BREVE/RIGHTWARDS ARROW BELOW
363 COMBINING LATIN SMALL LETTER /A/E/I/O/U/C/D/H/M/R/T/V/X
370 GREEK CAPITAL LETTER /HETA
371 GREEK /SMALL LETTER HETA/CAPITAL LETTER ARCHAIC SAMPI/SMALL LETTER ARCHAIC SAMPI/NUMERAL SIGN
375 GREEK /LOWER NUMERAL SIGN/CAPITAL LETTER PAMPHYLIAN DIGAMMA/SMALL LETTER PAMPHYLIAN DIGAMMA
37A GREEK /YPOGEGRAMMENI/SMALL REVERSED LUNATE SIGMA SYMBOL/SMALL DOTTED LUNATE SIGMA SYMBOL
37D GREEK /SMALL REVERSED DOTTED LUNATE SIGMA SYMBOL/QUESTION MARK/CAPITAL LETTER YOT
384 GREEK /TONOS/DIALYTIKA TONOS/CAPITAL LETTER ALPHA WITH TONOS/ANO TELEIA
388 GREEK CAPITAL LETTER /EPSILON WITH TONOS/ETA WITH TONOS/IOTA WITH TONOS
38C GREEK CAPITAL LETTER OMICRON WITH /TONOS
38E GREEK CAPITAL LETTER /UPSILON WITH TONOS/OMEGA WITH TONOS
390 GREEK SMALL LETTER IOTA WITH DIALYTIKA AND /TONOS
391 GREEK CAPITAL LETTER /ALPHA/BETA/GAMMA
394 GREEK CAPITAL LETTER /DELTA/EPSILON/ZETA/ETA/THETA/IOTA/KAPPA/LAMDA/MU/NU/XI/OMICRON/PI/RHO
3A3 GREEK CAPITAL LETTER /SIGMA
3A4 GREEK CAPITAL LETTER /TAU/UPSILON/PHI/CHI/PSI/OMEGA/IOTA WITH DIALYTIKA/UPSILON WITH DIALYTIKA
3AC GREEK SMALL LETTER /ALPHA WITH TONOS/EPSILON WITH TONOS/ETA WITH TONOS/IOTA WITH TONOS
3B0 GREEK SMALL LETTER /UPSILON WITH DIALYTIKA AND TONOS/ALPHA/BETA/GAMMA/DELTA/EPSILON
3B6 GREEK SMALL LETTER /ZETA/ETA/THETA/IOTA/KAPPA/LAMDA/MU/NU/XI/OMICRON/PI/RHO/FINAL SIGMA/SIGMA
3C4 GREEK SMALL LETTER /TAU/UPSILON/PHI/CHI/PSI/OMEGA/IOTA WITH DIALYTIKA/UPSILON WITH DIALYTIKA
3CC GREEK SMALL LETTER /OMICRON WITH TONOS/UPSILON WITH TONOS/OMEGA WITH TONOS
3CF GREEK /CAPITAL KAI SYMBOL/BETA SYMBOL/THETA SYMBOL
3D2 GREEK UPSILON WITH /HOOK SYMBOL/ACUTE AND HOOK SYMBOL/DIAERESIS AND HOOK SYMBOL
3D5 GREEK /PHI SYMBOL/PI SYMBOL/KAI SYMBOL/LETTER ARCHAIC KOPPA
3D9 GREEK /SMALL LETTER ARCHAIC KOPPA/LETTER STIGMA/SMALL LETTER STIGMA/LETTER DIGAMMA
3DD GREEK /SMALL LETTER DIGAMMA/LETTER KOPPA/SMALL LETTER KOPPA/LETTER SAMPI/SMALL LETTER SAMPI
3E2 COPTIC /CAPITAL LETTER SHEI/SMALL LETTER SHEI
3E4 COPTIC /CAPITAL LETTER FEI/SMALL LETTER FEI/CAPITAL LETTER KHEI/SMALL LETTER KHEI
3E8 COPTIC /CAPITAL LETTER HORI/SMALL LETTER HORI/CAPITAL LETTER GANGIA/SMALL LETTER GANGIA
3EC COPTIC /CAPITAL LETTER SHIMA/SMALL LETTER SHIMA/CAPITAL LETTER DEI/SMALL LETTER DEI
3F0 GREEK /KAPPA SYMBOL/RHO SYMBOL/LUNATE SIGMA SYMBOL/LETTER YOT/CAPITAL THETA SYMBOL
3F5 GREEK /LUNATE EPSILON SYMBOL/REVERSED LUNATE EPSILON SYMBOL/CAPITAL LETTER SHO/SMALL LETTER SHO
3F9 GREEK CAPITAL /LUNATE SIGMA SYMBOL/LETTER SAN
3FB GREEK /SMALL LETTER SAN/RHO WITH STROKE SYMBOL/CAPITAL REVERSED LUNATE SIGMA SYMBOL
3FE GREEK CAPITAL /DOTTED LUNATE SIGMA SYMBOL/REVERSED DOTTED LUNATE SIGMA SYMBOL
400 CYRILLIC CAPITAL LETTER /IE WITH GRAVE/IO/DJE/GJE/UKRAINIAN IE
405 CYRILLIC CAPITAL LETTER /DZE/BYELORUSSIAN-UKRAINIAN I/YI/JE/LJE/NJE/TSHE/KJE/I WITH GRAVE
40E CYRILLIC CAPITAL LETTER /SHORT U/DZHE/A/BE/VE/GHE/DE/IE/ZHE/ZE/I/SHORT I/KA/EL/EM/EN/O
41F CYRILLIC CAPITAL LETTER /PE/ER/ES/TE/U/EF/HA/TSE/CHE/SHA/SHCHA/HARD SIGN/YERU/SOFT SIGN/E/YU/YA
430 CYRILLIC SMALL LETTER /A/BE/VE/GHE/DE/IE/ZHE/ZE
438 CYRILLIC SMALL LETTER /I/SHORT I/KA/EL/EM/EN/O/PE/ER/ES/TE/U/EF/HA/TSE/CHE/SHA/SHCHA/HARD SIGN
44B CYRILLIC SMALL LETTER /YERU/SOFT SIGN/E/YU/YA/IE WITH GRAVE/IO/DJE/GJE/UKRAINIAN IE/DZE
456 CYRILLIC SMALL LETTER /BYELORUSSIAN-UKRAINIAN I/YI/JE/LJE/NJE/TSHE/KJE/I WITH GRAVE/SHORT U/DZHE
460 CYRILLIC CAPITAL LETTER /OMEGA
461 CYRILLIC /SMALL LETTER OMEGA/CAPITAL LETTER YAT/SMALL LETTER YAT/CAPITAL LETTER IOTIFIED E
465 CYRILLIC /SMALL LETTER IOTIFIED E/CAPITAL LETTER LITTLE YUS/SMALL LETTER LITTLE YUS
468 CYRILLIC /CAPITAL LETTER IOTIFIED LITTLE YUS/SMALL LETTER IOTIFIED LITTLE YUS
46A CYRILLIC /CAPITAL LETTER BIG YUS/SMALL LETTER BIG YUS/CAPITAL LETTER IOTIFIED BIG YUS
46D CYRILLIC /SMALL LETTER IOTIFIED BIG YUS/CAPITAL LETTER KSI/SMALL LETTER KSI/CAPITAL LETTER PSI
471 CYRILLIC /SMALL LETTER PSI/CAPITAL LETTER FITA/SMALL LETTER FITA/CAPITAL LETTER IZHITSA
475 CYRILLIC /SMALL LETTER IZHITSA/CAPITAL LETTER IZHITSA WITH DOUBLE GRAVE ACCENT
477 CYRILLIC SMALL LETTER IZHITSA WITH DOUBLE GRAVE /ACCENT
478 CYRILLIC /CAPITAL LETTER UK/SMALL LETTER UK/CAPITAL LETTER ROUND OMEGA/SMALL LETTER ROUND OMEGA
47C CYRILLIC /CAPITAL LETTER OMEGA WITH TITLO/SMALL LETTER OMEGA WITH TITLO/CAPITAL LETTER OT
47F CYRILLIC /SMALL LETTER OT/CAPITAL LETTER KOPPA/SMALL LETTER KOPPA/THOUSANDS SIGN
483 COMBINING CYRILLIC /TITLO/PALATALIZATION
485 COMBINING CYRILLIC /DASIA PNEUMATA/PSILI PNEUMATA/POKRYTIE/HUNDRED THOUSANDS SIGN/MILLIONS SIGN
48A CYRILLIC /CAPITAL LETTER SHORT I WITH TAIL/SMALL LETTER SHORT I WITH TAIL
48C CYRILLIC /CAPITAL LETTER SEMISOFT SIGN/SMALL LETTER SEMISOFT SIGN/CAPITAL LETTER ER WITH TICK
48F CYRILLIC /SMALL LETTER ER WITH TICK/CAPITAL LETTER GHE WITH UPTURN/SMALL LETTER GHE WITH UPTURN
492 CYRILLIC /CAPITAL LETTER GHE WITH STROKE/SMALL LETTER GHE WITH STROKE
494 CYRILLIC /CAPITAL LETTER GHE WITH MIDDLE HOOK/SMALL LETTER GHE WITH MIDDLE HOOK
496 CYRILLIC /CAPITAL LETTER ZHE WITH DESCENDER/SMALL LETTER ZHE WITH DESCENDER
498 CYRILLIC /CAPITAL LETTER ZE WITH DESCENDER/SMALL LETTER ZE WITH DESCENDER
49A CYRILLIC /CAPITAL LETTER KA WITH DESCENDER/SMALL LETTER KA WITH DESCENDER
49C CYRILLIC /CAPITAL LETTER KA WITH VERTICAL STROKE/SMALL LETTER KA WITH VERTICAL STROKE
49E CYRILLIC /CAPITAL LETTER KA WITH STROKE/SMALL LETTER KA WITH STROKE
4A0 CYRILLIC /CAPITAL LETTER BASHKIR KA/SMALL LETTER BASHKIR KA/CAPITAL LETTER EN WITH DESCENDER
4A3 CYRILLIC /SMALL LETTER EN WITH DESCENDER/CAPITAL LIGATURE EN GHE/SMALL LIGATURE EN GHE
4A6 CYRILLIC /CAPITAL LETTER PE WITH MIDDLE HOOK/SMALL LETTER PE WITH MIDDLE HOOK
4A8 CYRILLIC /CAPITAL LETTER ABKHASIAN HA/SMALL LETTER ABKHASIAN HA/CAPITAL LETTER ES WITH DESCENDER
4AB CYRILLIC /SMALL LETTER ES WITH DESCENDER/CAPITAL LETTER TE WITH DESCENDER
4AD CYRILLIC /SMALL LETTER TE WITH DESCENDER/CAPITAL LETTER STRAIGHT U/SMALL LETTER STRAIGHT U
4B0 CYRILLIC /CAPITAL LETTER STRAIGHT U WITH STROKE/SMALL LETTER STRAIGHT U WITH STROKE
4B2 CYRILLIC /CAPITAL LETTER HA WITH DESCENDER/SMALL LETTER HA WITH DESCENDER
4B4 CYRILLIC /CAPITAL LIGATURE TE TSE/SMALL LIGATURE TE TSE/CAPITAL LETTER CHE WITH DESCENDER
4B7 CYRILLIC /SMALL LETTER CHE WITH DESCENDER/CAPITAL LETTER CHE WITH VERTICAL STROKE
4B9 CYRILLIC /SMALL LETTER CHE WITH VERTICAL STROKE/CAPITAL LETTER SHHA
4BB CYRILLIC /SMALL LETTER SHHA/CAPITAL LETTER ABKHASIAN CHE/SMALL LETTER ABKHASIAN CHE
4BE CYRILLIC /CAPITAL LETTER ABKHASIAN CHE WITH DESCENDER/SMALL LETTER ABKHASIAN CHE WITH DESCENDER
4C0 CYRILLIC /LETTER PALOCHKA/CAPITAL LETTER ZHE WITH BREVE/SMALL LETTER ZHE WITH BREVE
4C3 CYRILLIC /CAPITAL LETTER KA WITH HOOK/SMALL LETTER KA WITH HOOK/CAPITAL LETTER EL WITH TAIL
4C6 CYRILLIC /SMALL LETTER EL WITH TAIL/CAPITAL LETTER EN WITH HOOK/SMALL LETTER EN WITH HOOK
4C9 CYRILLIC /CAPITAL LETTER EN WITH TAIL/SMALL LETTER EN WITH TAIL/CAPITAL LETTER KHAKASSIAN CHE
4CC CYRILLIC /SMALL LETTER KHAKASSIAN CHE/CAPITAL LETTER EM WITH TAIL/SMALL LETTER EM WITH TAIL
4CF CYRILLIC /SMALL LETTER PALOCHKA/CAPITAL LETTER A WITH BREVE/SMALL LETTER A WITH BREVE
4D2 CYRILLIC /CAPITAL LETTER A WITH DIAERESIS/SMALL LETTER A WITH DIAERESIS/CAPITAL LIGATURE A IE
4D5 CYRILLIC /SMALL LIGATURE A IE/CAPITAL LETTER IE WITH BREVE/SMALL LETTER IE WITH BREVE
4D8 CYRILLIC /CAPITAL LETTER SCHWA/SMALL LETTER SCHWA/CAPITAL LETTER SCHWA WITH DIAERESIS
4DB CYRILLIC /SMALL LETTER SCHWA WITH DIAERESIS/CAPITAL LETTER ZHE WITH DIAERESIS
4DD CYRILLIC /SMALL LETTER ZHE WITH DIAERESIS/CAPITAL LETTER ZE WITH DIAERESIS
4DF CYRILLIC /SMALL LETTER ZE WITH DIAERESIS/CAPITAL LETTER ABKHASIAN DZE
4E1 CYRILLIC /SMALL LETTER ABKHASIAN DZE/CAPITAL LETTER I WITH MACRON/SMALL LETTER I WITH MACRON
4E4 CYRILLIC /CAPITAL LETTER I WITH DIAERESIS/SMALL LETTER I WITH DIAERESIS
4E6 CYRILLIC /CAPITAL LETTER O WITH DIAERESIS/SMALL LETTER O WITH DIAERESIS
4E8 CYRILLIC /CAPITAL LETTER BARRED O/SMALL LETTER BARRED O/CAPITAL LETTER BARRED O WITH DIAERESIS
4EB CYRILLIC /SMALL LETTER BARRED O WITH DIAERESIS/CAPITAL LETTER E WITH DIAERESIS
4ED CYRILLIC /SMALL LETTER E WITH DIAERESIS/CAPITAL LETTER U WITH MACRON/SMALL LETTER U WITH MACRON
4F0 CYRILLIC /CAPITAL LETTER U WITH DIAERESIS/SMALL LETTER U WITH DIAERESIS
4F2 CYRILLIC /CAPITAL LETTER U WITH DOUBLE ACUTE/SMALL LETTER U WITH DOUBLE ACUTE
4F4 CYRILLIC /CAPITAL LETTER CHE WITH DIAERESIS/SMALL LETTER CHE WITH DIAERESIS
4F6 CYRILLIC /CAPITAL LETTER GHE WITH DESCENDER/SMALL LETTER GHE WITH DESCENDER
4F8 CYRILLIC /CAPITAL LETTER YERU WITH DIAERESIS/SMALL LETTER YERU WITH DIAERESIS
4FA CYRILLIC /CAPITAL LETTER GHE WITH STROKE AND HOOK/SMALL LETTER GHE WITH STROKE AND HOOK
4FC CYRILLIC /CAPITAL LETTER HA WITH HOOK/SMALL LETTER HA WITH HOOK
4FE CYRILLIC /CAPITAL LETTER HA WITH STROKE/SMALL LETTER HA WITH STROKE/CAPITAL LETTER KOMI DE
501 CYRILLIC /SMALL LETTER KOMI DE/CAPITAL LETTER KOMI DJE/SMALL LETTER KOMI DJE
504 CYRILLIC /CAPITAL LETTER KOMI ZJE/SMALL LETTER KOMI ZJE/CAPITAL LETTER KOMI DZJE
507 CYRILLIC /SMALL LETTER KOMI DZJE/CAPITAL LETTER KOMI LJE/SMALL LETTER KOMI LJE
50A CYRILLIC /CAPITAL LETTER KOMI NJE/SMALL LETTER KOMI NJE/CAPITAL LETTER KOMI SJE
50D CYRILLIC /SMALL LETTER KOMI SJE/CAPITAL LETTER KOMI TJE/SMALL LETTER KOMI TJE
510 CYRILLIC /CAPITAL LETTER REVERSED ZE/SMALL LETTER REVERSED ZE/CAPITAL LETTER EL WITH HOOK
513 CYRILLIC /SMALL LETTER EL WITH HOOK/CAPITAL LETTER LHA/SMALL LETTER LHA/CAPITAL LETTER RHA
517 CYRILLIC /SMALL LETTER RHA/CAPITAL LETTER YAE/SMALL LETTER YAE/CAPITAL LETTER QA/SMALL LETTER QA
51C CYRILLIC /CAPITAL LETTER WE/SMALL LETTER WE/CAPITAL LETTER ALEUT KA/SMALL LETTER ALEUT KA
520 CYRILLIC /CAPITAL LETTER EL WITH MIDDLE HOOK/SMALL LETTER EL WITH MIDDLE HOOK
522 CYRILLIC /CAPITAL LETTER EN WITH MIDDLE HOOK/SMALL LETTER EN WITH MIDDLE HOOK
524 CYRILLIC /CAPITAL LETTER PE WITH DESCENDER/SMALL LETTER PE WITH DESCENDER
526 CYRILLIC /CAPITAL LETTER SHHA WITH DESCENDER/SMALL LETTER SHHA WITH DESCENDER
528 CYRILLIC /CAPITAL LETTER EN WITH LEFT HOOK/SMALL LETTER EN WITH LEFT HOOK
52A CYRILLIC /CAPITAL LETTER DZZHE/SMALL LETTER DZZHE/CAPITAL LETTER DCHE
52D CYRILLIC /SMALL LETTER DCHE/CAPITAL LETTER EL WITH DESCENDER/SMALL LETTER EL WITH DESCENDER
531 ARMENIAN CAPITAL LETTER /AYB
532 ARMENIAN CAPITAL LETTER /BEN/GIM/DA/ECH/ZA/EH/ET/TO/ZHE/INI/LIWN/XEH/CA/KEN/HO/JA/GHAD/CHEH/MEN
545 ARMENIAN CAPITAL LETTER /YI/NOW/SHA/VO/CHA/PEH/JHEH/RA/SEH/VEW/TIWN/REH/CO/YIWN/PIWR/KEH/OH/FEH
559 ARMENIAN /MODIFIER LETTER LEFT HALF RING/APOSTROPHE/EMPHASIS MARK
55C ARMENIAN /EXCLAMATION MARK/COMMA/QUESTION MARK/ABBREVIATION MARK/SMALL LETTER TURNED AYB
561 ARMENIAN SMALL LETTER /AYB/BEN/GIM/DA/ECH/ZA/EH/ET/TO/ZHE/INI/LIWN/XEH/CA/KEN/HO/JA/GHAD/CHEH
574 ARMENIAN SMALL LETTER /MEN/YI/NOW/SHA/VO/CHA/PEH/JHEH/RA/SEH/VEW/TIWN/REH/CO/YIWN/PIWR/KEH/OH
586 ARMENIAN /SMALL LETTER FEH/SMALL LIGATURE ECH YIWN/SMALL LETTER YI WITH STROKE/FULL STOP/HYPHEN
58D /RIGHT-FACING ARMENIAN ETERNITY SIGN/LEFT-FACING ARMENIAN ETERNITY SIGN/ARMENIAN DRAM SIGN
591 HEBREW ACCENT /ETNAHTA/SEGOL/SHALSHELET/ZAQEF QATAN
595 HEBREW ACCENT /ZAQEF GADOL/TIPEHA/REVIA/ZARQA/PASHTA/YETIV/TEVIR/GERESH/GERESH MUQDAM
59E HEBREW ACCENT /GERSHAYIM/QARNEY PARA/TELISHA GEDOLA/PAZER/ATNAH HAFUKH/MUNAH/MAHAPAKH/MERKHA
5A6 HEBREW ACCENT /MERKHA KEFULA/DARGA/QADMA/TELISHA QETANA/YERAH BEN YOMO/OLE/ILUY/DEHI/ZINOR
5AF HEBREW /MARK MASORA CIRCLE/POINT SHEVA
5B1 HEBREW POINT HATAF /SEGOL/PATAH/QAMATS
5B4 HEBREW POINT /HIRIQ/TSERE/SEGOL/PATAH/QAMATS/HOLAM/HOLAM HASER FOR VAV/QUBUTS/DAGESH OR MAPIQ
5BD HEBREW /POINT METEG/PUNCTUATION MAQAF
5BF HEBREW /POINT RAFE/PUNCTUATION PASEQ/POINT SHIN DOT/POINT SIN DOT/PUNCTUATION SOF PASUQ
5C4 HEBREW /MARK UPPER DOT/MARK LOWER DOT/PUNCTUATION NUN HAFUKHA/POINT QAMATS QATAN
5D0 HEBREW LETTER /ALEF/BET/GIMEL/DALET/HE/VAV/ZAYIN/HET/TET/YOD/FINAL KAF/KAF/LAMED/FINAL MEM
5DE HEBREW LETTER /MEM/FINAL NUN/NUN/SAMEKH/AYIN/FINAL PE/PE/FINAL TSADI/TSADI/QOF/RESH/SHIN/TAV
5EF HEBREW YOD /TRIANGLE
5F0 HEBREW LIGATURE YIDDISH /DOUBLE VAV/VAV YOD/DOUBLE YOD
5F3 HEBREW PUNCTUATION /GERESH/GERSHAYIM
600 ARABIC /NUMBER SIGN/SIGN SANAH/FOOTNOTE MARKER/SIGN SAFHA/SIGN SAMVAT/NUMBER MARK ABOVE
606 ARABIC-INDIC /CUBE ROOT/FOURTH ROOT
608 ARABIC /RAY
609 ARABIC-INDIC PER /MILLE SIGN/TEN THOUSAND SIGN
60B AFGHANI /SIGN
60C ARABIC /COMMA/DATE SEPARATOR/POETIC VERSE SIGN/SIGN MISRA/SIGN SALLALLAHOU ALAYHE WASSALLAM
611 ARABIC SIGN /ALAYHE ASSALLAM/RAHMATULLAH ALAYHE/RADI ALLAHOU ANHU/TAKHALLUS
615 ARABIC SMALL /HIGH TAH/HIGH LIGATURE ALEF WITH LAM WITH YEH/HIGH ZAIN/FATHA/DAMMA/KASRA
61B ARABIC /SEMICOLON/LETTER MARK/END OF TEXT MARK/TRIPLE DOT PUNCTUATION MARK/QUESTION MARK
620 ARABIC LETTER /KASHMIRI YEH/HAMZA/ALEF WITH MADDA ABOVE/ALEF WITH HAMZA ABOVE
624 ARABIC LETTER /WAW WITH HAMZA ABOVE/ALEF WITH HAMZA BELOW/YEH WITH HAMZA ABOVE
627 ARABIC LETTER /ALEF/BEH/TEH MARBUTA/TEH/THEH/JEEM/HAH/KHAH/DAL/THAL/REH/ZAIN/SEEN/SHEEN
635 ARABIC LETTER /SAD/DAD/TAH/ZAH/AIN/GHAIN/KEHEH WITH TWO DOTS ABOVE/KEHEH WITH THREE DOTS BELOW
63D ARABIC LETTER FARSI YEH WITH /INVERTED V/TWO DOTS ABOVE/THREE DOTS ABOVE
640 ARABIC /TATWEEL
641 ARABIC LETTER /FEH/QAF/KAF/LAM/MEEM/NOON/HEH/WAW/ALEF MAKSURA/YEH
64B ARABIC /FATHATAN/DAMMATAN/KASRATAN/FATHA/DAMMA/KASRA/SHADDA/SUKUN/MADDAH ABOVE
654 ARABIC /HAMZA ABOVE/HAMZA BELOW/SUBSCRIPT ALEF/INVERTED DAMMA/MARK NOON GHUNNA/ZWARAKAY
65A ARABIC VOWEL SIGN /SMALL V ABOVE/INVERTED SMALL V ABOVE/DOT BELOW
65D ARABIC /REVERSED DAMMA/FATHA WITH TWO DOTS/WAVY HAMZA BELOW
660 ARABIC-INDIC DIGIT /ZERO/ONE/TWO/THREE/FOUR/FIVE/SIX/SEVEN/EIGHT/NINE
66A ARABIC /PERCENT SIGN/DECIMAL SEPARATOR/THOUSANDS SEPARATOR/FIVE POINTED STAR
66E ARABIC LETTER /DOTLESS BEH/DOTLESS QAF/SUPERSCRIPT ALEF/ALEF WASLA
672 ARABIC LETTER ALEF WITH WAVY HAMZA /ABOVE/BELOW
674 ARABIC LETTER /HIGH HAMZA/HIGH HAMZA ALEF/HIGH HAMZA WAW/U WITH HAMZA ABOVE/HIGH HAMZA YEH/TTEH
67A ARABIC LETTER /TTEHEH/BEEH/TEH WITH RING/TEH WITH THREE DOTS ABOVE DOWNWARDS/PEH/TEHEH/BEHEH
681 ARABIC LETTER HAH WITH /HAMZA ABOVE/TWO DOTS VERTICAL ABOVE
683 ARABIC LETTER /NYEH/DYEH/HAH WITH THREE DOTS ABOVE/TCHEH/TCHEHEH/DDAL
689 ARABIC LETTER DAL WITH /RING/DOT BELOW/DOT BELOW AND SMALL TAH
68C ARABIC LETTER /DAHAL/DDAHAL/DUL/DAL WITH THREE DOTS ABOVE DOWNWARDS
690 ARABIC LETTER /DAL WITH FOUR DOTS ABOVE/RREH/REH WITH SMALL V
693 ARABIC LETTER REH WITH /RING/DOT BELOW/SMALL V BELOW/DOT BELOW AND DOT ABOVE/TWO DOTS ABOVE
698 ARABIC LETTER /JEH/REH WITH FOUR DOTS ABOVE/SEEN WITH DOT BELOW AND DOT ABOVE
69B ARABIC LETTER SEEN WITH THREE DOTS /BELOW/BELOW AND THREE DOTS ABOVE
69D ARABIC LETTER SAD WITH /TWO DOTS BELOW/THREE DOTS ABOVE
69F ARABIC LETTER /TAH WITH THREE DOTS ABOVE/AIN WITH THREE DOTS ABOVE/DOTLESS FEH
6A2 ARABIC LETTER FEH WITH DOT /MOVED BELOW/BELOW
6A4 ARABIC LETTER /VEH/FEH WITH THREE DOTS BELOW/PEHEH/QAF WITH DOT ABOVE/QAF WITH THREE DOTS ABOVE
6A9 ARABIC LETTER /KEHEH/SWASH KAF/KAF WITH RING/KAF WITH DOT ABOVE/NG/KAF WITH THREE DOTS BELOW
6AF ARABIC LETTER /GAF/GAF WITH RING/NGOEH/GAF WITH TWO DOTS BELOW/GUEH/GAF WITH THREE DOTS ABOVE
6B5 ARABIC LETTER LAM WITH /SMALL V/DOT ABOVE/THREE DOTS ABOVE/THREE DOTS BELOW
6B9 ARABIC LETTER /NOON WITH DOT BELOW/NOON GHUNNA/RNOON/NOON WITH RING/NOON WITH THREE DOTS ABOVE
6BE ARABIC LETTER /HEH DOACHASHMEE/TCHEH WITH DOT ABOVE/HEH WITH YEH ABOVE
6C1 ARABIC LETTER /HEH GOAL/HEH GOAL WITH HAMZA ABOVE/TEH MARBUTA GOAL/WAW WITH RING
6C5 ARABIC LETTER /KIRGHIZ OE/OE/U/YU/KIRGHIZ YU/WAW WITH TWO DOTS ABOVE/VE/FARSI YEH/YEH WITH TAIL
6CE ARABIC LETTER /YEH WITH SMALL V/WAW WITH DOT ABOVE/E/YEH WITH THREE DOTS BELOW/YEH BARREE
6D3 ARABIC /LETTER YEH BARREE WITH HAMZA ABOVE/FULL STOP/LETTER AE
6D6 ARABIC SMALL HIGH LIGATURE /SAD WITH LAM WITH ALEF MAKSURA/QAF WITH LAM WITH ALEF MAKSURA
6D8 ARABIC SMALL HIGH /MEEM INITIAL FORM/LAM ALEF/JEEM/THREE DOTS/SEEN
6DD ARABIC /END OF AYAH/START OF RUB EL HIZB
6DF ARABIC SMALL HIGH /ROUNDED ZERO/UPRIGHT RECTANGULAR ZERO/DOTLESS HEAD OF KHAH/MEEM ISOLATED FORM
6E3 ARABIC SMALL /LOW SEEN/HIGH MADDA/WAW/YEH/HIGH YEH/HIGH NOON
6E9 ARABIC PLACE OF /SAJDAH
6EA ARABIC EMPTY CENTRE /LOW STOP/HIGH STOP
6EC ARABIC /ROUNDED HIGH STOP WITH FILLED CENTRE/SMALL LOW MEEM
6EE ARABIC LETTER /DAL WITH INVERTED V/REH WITH INVERTED V
6F0 EXTENDED ARABIC-INDIC DIGIT /ZERO/ONE/TWO/THREE/FOUR/FIVE/SIX/SEVEN/EIGHT/NINE
6FA ARABIC LETTER /SHEEN WITH DOT BELOW/DAD WITH DOT BELOW/GHAIN WITH DOT BELOW
6FD ARABIC /SIGN SINDHI AMPERSAND/SIGN SINDHI POSTPOSITION MEN/LETTER HEH WITH INVERTED V
700 SYRIAC /END OF PARAGRAPH/SUPRALINEAR FULL STOP
702 SYRIAC /SUBLINEAR FULL STOP/SUPRALINEAR COLON/SUBLINEAR COLON/HORIZONTAL COLON
706 SYRIAC COLON SKEWED /LEFT/RIGHT
708 SYRIAC /SUPRALINEAR COLON SKEWED LEFT/SUBLINEAR COLON SKEWED RIGHT/CONTRACTION
70B SYRIAC HARKLEAN /OBELUS/METOBELUS/ASTERISCUS
70F SYRIAC ABBREVIATION /MARK
710 SYRIAC LETTER /ALAPH/SUPERSCRIPT ALAPH/BETH/GAMAL/GAMAL GARSHUNI
715 SYRIAC LETTER /DALATH/DOTLESS DALATH RISH/HE/WAW/ZAIN/HETH/TETH/TETH GARSHUNI/YUDH/YUDH HE/KAPH
720 SYRIAC LETTER /LAMADH/MIM/NUN/SEMKATH/FINAL SEMKATH/E/PE/REVERSED PE/SADHE/QAPH/RISH/SHIN/TAW
72D SYRIAC LETTER PERSIAN /BHETH/GHAMAL/DHALATH
730 SYRIAC PTHAHA /ABOVE/BELOW/DOTTED
733 SYRIAC ZQAPHA /ABOVE/BELOW/DOTTED
736 SYRIAC RBASA /ABOVE/BELOW
738 SYRIAC DOTTED ZLAMA /HORIZONTAL/ANGULAR
73A SYRIAC HBASA /ABOVE/BELOW
73C SYRIAC /HBASA-ESASA DOTTED/ESASA ABOVE/ESASA BELOW/RWAHA/FEMININE DOT/QUSHSHAYA/RUKKAKHA
743 SYRIAC TWO VERTICAL DOTS /ABOVE/BELOW
745 SYRIAC /THREE DOTS ABOVE/THREE DOTS BELOW/OBLIQUE LINE ABOVE/OBLIQUE LINE BELOW/MUSIC/BARREKH
74D SYRIAC LETTER SOGDIAN /ZHAIN/KHAPH/FE
750 ARABIC LETTER BEH WITH /THREE DOTS HORIZONTALLY BELOW/DOT BELOW AND THREE DOTS ABOVE
752 ARABIC LETTER BEH WITH THREE DOTS POINTING UPWARDS /BELOW/BELOW AND TWO DOTS ABOVE
754 ARABIC LETTER BEH WITH /TWO DOTS BELOW AND DOT ABOVE/INVERTED SMALL V BELOW/SMALL V
757 ARABIC LETTER HAH WITH /TWO DOTS ABOVE/THREE DOTS POINTING UPWARDS BELOW
759 ARABIC LETTER DAL WITH /TWO DOTS VERTICALLY BELOW AND SMALL TAH/INVERTED SMALL V BELOW
75B ARABIC LETTER /REH WITH STROKE/SEEN WITH FOUR DOTS ABOVE/AIN WITH TWO DOTS ABOVE
75E ARABIC LETTER AIN WITH /THREE DOTS POINTING DOWNWARDS ABOVE/TWO DOTS VERTICALLY ABOVE
760 ARABIC LETTER FEH WITH /TWO DOTS BELOW/THREE DOTS POINTING UPWARDS BELOW
762 ARABIC LETTER KEHEH WITH /DOT ABOVE/THREE DOTS ABOVE/THREE DOTS POINTING UPWARDS BELOW
765 ARABIC LETTER MEEM WITH DOT /ABOVE/BELOW
767 ARABIC LETTER NOON WITH /TWO DOTS BELOW/SMALL TAH/SMALL V
76A ARABIC LETTER /LAM WITH BAR/REH WITH TWO DOTS VERTICALLY ABOVE
76C ARABIC LETTER /REH WITH HAMZA ABOVE/SEEN WITH TWO DOTS VERTICALLY ABOVE
76E ARABIC LETTER HAH WITH SMALL ARABIC LETTER TAH /BELOW/AND TWO DOTS
770 ARABIC LETTER SEEN WITH SMALL ARABIC LETTER TAH AND TWO /DOTS
771 ARABIC LETTER REH WITH SMALL ARABIC LETTER TAH AND TWO /DOTS
772 ARABIC LETTER HAH WITH SMALL ARABIC LETTER TAH /ABOVE
773 ARABIC LETTER ALEF WITH EXTENDED ARABIC-INDIC DIGIT /TWO ABOVE/THREE ABOVE
775 ARABIC LETTER FARSI YEH WITH EXTENDED ARABIC-INDIC DIGIT /TWO ABOVE/THREE ABOVE/FOUR BELOW
778 ARABIC LETTER WAW WITH EXTENDED ARABIC-INDIC DIGIT /TWO ABOVE/THREE ABOVE
77A ARABIC LETTER YEH BARREE WITH EXTENDED ARABIC-INDIC DIGIT /TWO ABOVE/THREE ABOVE
77C ARABIC LETTER HAH WITH EXTENDED ARABIC-INDIC DIGIT FOUR /BELOW
77D ARABIC LETTER SEEN WITH /EXTENDED ARABIC-INDIC DIGIT FOUR ABOVE/INVERTED V
77F ARABIC LETTER KAF WITH TWO DOTS /ABOVE
780 THAANA LETTER /HAA/SHAVIYANI/NOONU/RAA/BAA/LHAVIYANI/KAAFU/ALIFU/VAAVU/MEEMU/FAAFU/DHAALU
78C THAANA LETTER /THAA/LAAMU/GAAFU/GNAVIYANI/SEENU/DAVIYANI/ZAVIYANI/TAVIYANI/YAA/PAVIYANI/JAVIYANI
797 THAANA LETTER /CHAVIYANI/TTAA/HHAA/KHAA/THAALU/ZAA/SHEENU/SAADHU/DAADHU/TO/ZO/AINU/GHAINU/QAAFU
7A5 THAANA /LETTER WAAVU/ABAFILI/AABAAFILI
7A8 THAANA /IBIFILI/EEBEEFILI/UBUFILI/OOBOOFILI/EBEFILI/EYBEYFILI/OBOFILI/OABOAFILI/SUKUN/LETTER NAA
7C0 NKO DIGIT /ZERO/ONE/TWO/THREE/FOUR/FIVE/SIX/SEVEN/EIGHT/NINE
7CA NKO LETTER /A/EE/I/E/U/OO/O/DAGBASINNA/N/BA/PA/TA/JA/CHA/DA/RA
7DA NKO LETTER /RRA/SA/GBA/FA/KA/LA/NA WOLOSO/MA/NYA/NA/HA/WA/YA/NYA WOLOSO/JONA JA/JONA CHA/JONA RA
7EB NKO COMBINING SHORT /HIGH TONE/LOW TONE/RISING TONE
7EE NKO COMBINING LONG /DESCENDING TONE/HIGH TONE/LOW TONE/RISING TONE
7F2 NKO COMBINING /NASALIZATION MARK/DOUBLE DOT ABOVE
7F4 NKO HIGH TONE /APOSTROPHE
7F5 NKO /LOW TONE APOSTROPHE/SYMBOL OO DENNEN/SYMBOL GBAKURUNEN/COMMA/EXCLAMATION MARK/LAJANYALAN
7FD NKO /DANTAYALAN/DOROME SIGN/TAMAN SIGN
800 SAMARITAN LETTER /ALAF/BIT/GAMAN/DALAT/IY
805 SAMARITAN LETTER /BAA/ZEN/IT/TIT/YUT/KAAF/LABAT/MIM/NUN/SINGAAT/IN/FI/TSAADIY/QUF/RISH/SHAN/TAAF
816 SAMARITAN MARK /IN/IN-ALAF/OCCLUSION/DAGESH
81A SAMARITAN /MODIFIER LETTER EPENTHETIC YUT/MARK EPENTHETIC YUT
81C SAMARITAN VOWEL SIGN /LONG E/E/OVERLONG AA/LONG AA/AA/OVERLONG A/LONG A/A
824 SAMARITAN MODIFIER LETTER SHORT /A
825 SAMARITAN VOWEL SIGN /SHORT A/LONG U/U
828 SAMARITAN MODIFIER LETTER /I
829 SAMARITAN VOWEL SIGN /LONG I/I/O/SUKUN
82D SAMARITAN MARK /NEQUDAA
830 SAMARITAN PUNCTUATION /NEQUDAA/AFSAAQ/ANGED/BAU/ATMAAU/SHIYYAALAA
836 SAMARITAN ABBREVIATION /MARK
837 SAMARITAN PUNCTUATION /MELODIC QITSA/ZIQAA/QITSA/ZAEF/TURU/ARKAANU/SOF MASHFAAT/ANNAAU
840 MANDAIC LETTER /HALQA/AB/AG/AD
844 MANDAIC LETTER /AH/USHENNA/AZ/IT/ATT/AKSA/AK/AL/AM/AN/AS/IN/AP/ASZ/AQ/AR/ASH/AT/DUSHENNA/KAD/AIN
859 MANDAIC /AFFRICATION MARK/VOCALIZATION MARK/GEMINATION MARK
85E MANDAIC /PUNCTUATION
860 SYRIAC LETTER MALAYALAM /NGA/JA/NYA/TTA/NNA/NNNA/BHA/RA/LLA/LLLA/SSA
870 ARABIC LETTER ALEF WITH /ATTACHED FATHA/ATTACHED TOP RIGHT FATHA/RIGHT MIDDLE STROKE
873 ARABIC LETTER ALEF WITH /LEFT MIDDLE STROKE/ATTACHED KASRA/ATTACHED BOTTOM RIGHT KASRA
876 ARABIC LETTER ALEF WITH ATTACHED /ROUND DOT ABOVE/RIGHT ROUND DOT/LEFT ROUND DOT/ROUND DOT BELOW
87A ARABIC LETTER ALEF WITH /DOT ABOVE/ATTACHED TOP RIGHT FATHA AND DOT ABOVE
87C ARABIC LETTER ALEF WITH RIGHT MIDDLE STROKE AND DOT /ABOVE
87D ARABIC LETTER ALEF WITH ATTACHED /BOTTOM RIGHT KASRA AND DOT ABOVE/TOP RIGHT FATHA AND LEFT RING
87F ARABIC LETTER ALEF WITH RIGHT MIDDLE STROKE AND LEFT /RING
880 ARABIC LETTER ALEF WITH ATTACHED /BOTTOM RIGHT KASRA AND LEFT RING/RIGHT HAMZA/LEFT HAMZA
883 ARABIC TATWEEL WITH /OVERSTRUCK HAMZA/OVERSTRUCK WAW/TWO DOTS BELOW
886 ARABIC /LETTER THIN YEH/BASELINE ROUND DOT/RAISED ROUND DOT/LETTER NOON WITH INVERTED SMALL V
88A ARABIC LETTER /HAH WITH INVERTED SMALL V BELOW/TAH WITH DOT BELOW/TAH WITH THREE DOTS BELOW
88D ARABIC /LETTER KEHEH WITH TWO DOTS VERTICALLY BELOW/VERTICAL TAIL
890 ARABIC /POUND MARK ABOVE/PIASTRE MARK ABOVE
898 ARABIC SMALL /HIGH WORD AL-JUZ/LOW WORD ISHMAAM/LOW WORD IMAALA/LOW WORD TASHEEL
89C ARABIC /MADDA WAAJIB/SUPERSCRIPT ALEF MOKHASSAS/DOUBLED MADDA/HALF MADDA OVER MADDA
8A0 ARABIC LETTER /BEH WITH SMALL V BELOW/BEH WITH HAMZA ABOVE/JEEM WITH TWO DOTS ABOVE
8A3 ARABIC LETTER /TAH WITH TWO DOTS ABOVE/FEH WITH DOT BELOW AND THREE DOTS ABOVE
8A5 ARABIC LETTER /QAF WITH DOT BELOW/LAM WITH DOUBLE BAR/MEEM WITH THREE DOTS ABOVE
8A8 ARABIC LETTER YEH WITH TWO DOTS BELOW AND /HAMZA ABOVE/DOT ABOVE
8AA ARABIC LETTER /REH WITH LOOP/WAW WITH DOT WITHIN/ROHINGYA YEH/LOW ALEF
8AE ARABIC LETTER /DAL WITH THREE DOTS BELOW/SAD WITH THREE DOTS BELOW/GAF WITH INVERTED STROKE
8B1 ARABIC LETTER /STRAIGHT WAW/ZAIN WITH INVERTED V ABOVE/AIN WITH THREE DOTS BELOW
8B4 ARABIC LETTER /KAF WITH DOT BELOW/QAF WITH DOT BELOW AND NO DOTS ABOVE/BEH WITH SMALL MEEM ABOVE
8B7 ARABIC LETTER /PEH WITH SMALL MEEM ABOVE/TEH WITH SMALL TEH ABOVE/REH WITH SMALL NOON ABOVE
8BA ARABIC LETTER /YEH WITH TWO DOTS BELOW AND SMALL NOON ABOVE/AFRICAN FEH/AFRICAN QAF/AFRICAN NOON
8BE ARABIC LETTER /PEH WITH SMALL V/TEH WITH SMALL V/TTEH WITH SMALL V/TCHEH WITH SMALL V
8C2 ARABIC LETTER /KEHEH WITH SMALL V/GHAIN WITH THREE DOTS ABOVE/AFRICAN QAF WITH THREE DOTS ABOVE
8C5 ARABIC LETTER JEEM WITH THREE DOTS /ABOVE/BELOW
8C7 ARABIC /LETTER LAM WITH SMALL ARABIC LETTER TAH ABOVE/LETTER GRAF/SMALL FARSI YEH
8CA ARABIC SMALL HIGH /FARSI YEH/YEH BARREE WITH TWO DOTS BELOW/WORD SAH/ZAH
8CE ARABIC LARGE ROUND DOT /ABOVE/BELOW
8D0 ARABIC /SUKUN BELOW/LARGE CIRCLE BELOW/LARGE ROUND DOT INSIDE CIRCLE BELOW/SMALL LOW WAW
8D4 ARABIC SMALL HIGH /WORD AR-RUB/SAD/AIN/QAF/NOON WITH KASRA
8D9 ARABIC SMALL LOW NOON WITH /KASRA
8DA ARABIC SMALL HIGH WORD /ATH-THALATHA/AS-SAJDA/AN-NISF/SAKTA/QIF/WAQFA
8E0 ARABIC /SMALL HIGH FOOTNOTE MARKER/SMALL HIGH SIGN SAFHA/DISPUTED END OF AYAH/TURNED DAMMA BELOW
8E4 ARABIC CURLY /FATHA/DAMMA/KASRA/FATHATAN/DAMMATAN/KASRATAN
8EA ARABIC TONE /ONE DOT ABOVE/TWO DOTS ABOVE/LOOP ABOVE/ONE DOT BELOW/TWO DOTS BELOW/LOOP BELOW
8F0 ARABIC OPEN /FATHATAN/DAMMATAN/KASRATAN
8F3 ARABIC /SMALL HIGH WAW/FATHA WITH RING/FATHA WITH DOT ABOVE/KASRA WITH DOT BELOW
8F7 ARABIC /LEFT ARROWHEAD ABOVE/RIGHT ARROWHEAD ABOVE/LEFT ARROWHEAD BELOW/RIGHT ARROWHEAD BELOW
8FB ARABIC DOUBLE RIGHT ARROWHEAD /ABOVE/ABOVE WITH DOT
8FD ARABIC /RIGHT ARROWHEAD ABOVE WITH DOT/DAMMA WITH DOT/MARK SIDEWAYS NOON GHUNNA
900 DEVANAGARI SIGN /INVERTED CANDRABINDU/CANDRABINDU/ANUSVARA/VISARGA
904 DEVANAGARI LETTER /SHORT A/A/AA/I/II/U/UU/VOCALIC R/VOCALIC L/CANDRA E/SHORT E/E/AI/CANDRA O
912 DEVANAGARI LETTER /SHORT O/O/AU/KA/KHA/GA/GHA/NGA/CA/CHA/JA/JHA/NYA/TTA/TTHA/DDA/DDHA/NNA
924 DEVANAGARI LETTER /TA/THA/DA/DHA/NA/NNNA/PA/PHA/BA/BHA/MA/YA/RA/RRA/LA/LLA/LLLA/VA/SHA/SSA/SA/HA
93A DEVANAGARI /VOWEL SIGN OE/VOWEL SIGN OOE/SIGN NUKTA/SIGN AVAGRAHA
93E DEVANAGARI VOWEL SIGN /AA/I/II/U/UU/VOCALIC R/VOCALIC RR/CANDRA E/SHORT E/E/AI/CANDRA O/SHORT O
94B DEVANAGARI /VOWEL SIGN O/VOWEL SIGN AU/SIGN VIRAMA/VOWEL SIGN PRISHTHAMATRA E
94F DEVANAGARI /VOWEL SIGN AW/OM/STRESS SIGN UDATTA/STRESS SIGN ANUDATTA/GRAVE ACCENT/ACUTE ACCENT
955 DEVANAGARI VOWEL SIGN /CANDRA LONG E/UE/UUE
958 DEVANAGARI LETTER /QA/KHHA/GHHA/ZA/DDDHA/RHA/FA/YYA/VOCALIC RR/VOCALIC LL
962 DEVANAGARI VOWEL SIGN VOCALIC /L/LL
964 DEVANAGARI /DANDA/DOUBLE DANDA
966 DEVANAGARI DIGIT /ZERO/ONE/TWO/THREE/FOUR/FIVE/SIX/SEVEN/EIGHT/NINE
970 DEVANAGARI /ABBREVIATION SIGN/SIGN HIGH SPACING DOT/LETTER CANDRA A
973 DEVANAGARI LETTER /OE/OOE/AW/UE/UUE/MARWARI DDA/ZHA/HEAVY YA/GGA/JJA/GLOTTAL STOP/DDDA/BBA
980 BENGALI /ANJI/SIGN CANDRABINDU/SIGN ANUSVARA/SIGN VISARGA
985 BENGALI LETTER /A/AA/I/II/U/UU/VOCALIC R/VOCALIC L
98F BENGALI LETTER /E/AI
993 BENGALI LETTER /O/AU/KA/KHA/GA/GHA/NGA/CA/CHA/JA/JHA/NYA/TTA/TTHA/DDA/DDHA/NNA/TA/THA/DA/DHA/NA
9AA BENGALI LETTER /PA/PHA/BA/BHA/MA/YA/RA
9B2 BENGALI LETTER /LA
9B6 BENGALI LETTER /SHA/SSA/SA/HA
9BC BENGALI SIGN /NUKTA/AVAGRAHA
9BE BENGALI VOWEL SIGN /AA/I/II/U/UU/VOCALIC R/VOCALIC RR
9C7 BENGALI VOWEL SIGN /E/AI
9CB BENGALI /VOWEL SIGN O/VOWEL SIGN AU/SIGN VIRAMA/LETTER KHANDA TA
9D7 BENGALI AU LENGTH /MARK
9DC BENGALI LETTER /RRA/RHA
9DF BENGALI LETTER /YYA/VOCALIC RR/VOCALIC LL
9E2 BENGALI VOWEL SIGN VOCALIC /L/LL
9E6 BENGALI DIGIT /ZERO/ONE/TWO/THREE/FOUR/FIVE/SIX/SEVEN/EIGHT/NINE
9F0 BENGALI LETTER RA WITH /MIDDLE DIAGONAL/LOWER DIAGONAL
9F2 BENGALI RUPEE /MARK/SIGN
9F4 BENGALI CURRENCY NUMERATOR /ONE/TWO/THREE/FOUR/ONE LESS THAN THE DENOMINATOR
9F9 BENGALI CURRENCY DENOMINATOR /SIXTEEN
9FA BENGALI /ISSHAR/GANDA MARK/LETTER VEDIC ANUSVARA/ABBREVIATION SIGN/SANDHI MARK
A01 GURMUKHI SIGN /ADAK BINDI/BINDI/VISARGA
A05 GURMUKHI LETTER /A/AA/I/II/U/UU
A0F GURMUKHI LETTER /EE/AI
A13 GURMUKHI LETTER /OO
A14 GURMUKHI LETTER /AU/KA/KHA/GA/GHA/NGA/CA/CHA/JA/JHA/NYA/TTA/TTHA/DDA/DDHA/NNA/TA/THA/DA/DHA/NA
A2A GURMUKHI LETTER /PA/PHA/BA/BHA/MA/YA/RA
A32 GURMUKHI LETTER /LA/LLA
A35 GURMUKHI LETTER /VA/SHA
A38 GURMUKHI LETTER /SA/HA
A3C GURMUKHI SIGN /NUKTA
A3E GURMUKHI VOWEL SIGN /AA/I/II/U/UU
A47 GURMUKHI VOWEL SIGN /EE/AI
A4B GURMUKHI /VOWEL SIGN OO/VOWEL SIGN AU/SIGN VIRAMA
A51 GURMUKHI SIGN /UDAAT
A59 GURMUKHI LETTER /KHHA/GHHA/ZA/RRA
A5E GURMUKHI LETTER /FA
A66 GURMUKHI DIGIT /ZERO/ONE/TWO/THREE/FOUR/FIVE/SIX/SEVEN/EIGHT/NINE
A70 GURMUKHI /TIPPI/ADDAK/IRI/URA/EK ONKAR/SIGN YAKASH/ABBREVIATION SIGN
A81 GUJARATI SIGN /CANDRABINDU/ANUSVARA/VISARGA
A85 GUJARATI LETTER /A/AA/I/II/U/UU/VOCALIC R/VOCALIC L
A8D GUJARATI VOWEL CANDRA /E
A8F GUJARATI /LETTER E/LETTER AI/VOWEL CANDRA O
A93 GUJARATI LETTER /O/AU/KA/KHA/GA/GHA/NGA/CA/CHA/JA/JHA/NYA/TTA/TTHA/DDA/DDHA/NNA/TA/THA/DA/DHA/NA
AAA GUJARATI LETTER /PA/PHA/BA/BHA/MA/YA/RA
AB2 GUJARATI LETTER /LA/LLA
AB5 GUJARATI LETTER /VA/SHA/SSA/SA/HA
ABC GUJARATI SIGN /NUKTA/AVAGRAHA
ABE GUJARATI VOWEL SIGN /AA/I/II/U/UU/VOCALIC R/VOCALIC RR/CANDRA E
AC7 GUJARATI VOWEL SIGN /E/AI/CANDRA O
ACB GUJARATI /VOWEL SIGN O/VOWEL SIGN AU/SIGN VIRAMA
AD0 GUJARATI /OM
AE0 GUJARATI LETTER VOCALIC /RR/LL
AE2 GUJARATI VOWEL SIGN VOCALIC /L/LL
AE6 GUJARATI DIGIT /ZERO/ONE/TWO/THREE/FOUR/FIVE/SIX/SEVEN/EIGHT/NINE
AF0 GUJARATI /ABBREVIATION SIGN/RUPEE SIGN
AF9 GUJARATI /LETTER ZHA/SIGN SUKUN
AFB GUJARATI SIGN /SHADDA/MADDAH/THREE-DOT NUKTA ABOVE/CIRCLE NUKTA ABOVE/TWO-CIRCLE NUKTA ABOVE
B01 ORIYA SIGN /CANDRABINDU/ANUSVARA/VISARGA
B05 ORIYA LETTER /A/AA/I/II/U/UU/VOCALIC R/VOCALIC L
B0F ORIYA LETTER /E/AI
B13 ORIYA LETTER /O/AU/KA/KHA/GA/GHA/NGA/CA/CHA/JA/JHA/NYA/TTA/TTHA/DDA/DDHA/NNA/TA/THA/DA/DHA/NA
B2A ORIYA LETTER /PA/PHA/BA/BHA/MA/YA/RA
B32 ORIYA LETTER /LA/LLA
B35 ORIYA LETTER /VA/SHA/SSA/SA/HA
B3C ORIYA SIGN /NUKTA/AVAGRAHA
B3E ORIYA VOWEL SIGN /AA/I/II/U/UU/VOCALIC R/VOCALIC RR
B47 ORIYA VOWEL SIGN /E/AI
B4B ORIYA /VOWEL SIGN O/VOWEL SIGN AU/SIGN VIRAMA
B55 ORIYA /SIGN OVERLINE/AI LENGTH MARK/AU LENGTH MARK
B5C ORIYA LETTER /RRA/RHA
B5F ORIYA LETTER /YYA/VOCALIC RR/VOCALIC LL
B62 ORIYA VOWEL SIGN VOCALIC /L/LL
B66 ORIYA DIGIT /ZERO/ONE/TWO/THREE/FOUR/FIVE/SIX/SEVEN/EIGHT/NINE
B70 ORIYA /ISSHAR/LETTER WA
B72 ORIYA FRACTION /ONE QUARTER/ONE HALF/THREE QUARTERS/ONE SIXTEENTH/ONE EIGHTH/THREE SIXTEENTHS
B82 TAMIL SIGN /ANUSVARA/VISARGA
B85 TAMIL LETTER /A/AA/I/II/U/UU
B8E TAMIL LETTER /E/EE/AI
B92 TAMIL LETTER /O/OO/AU/KA
B99 TAMIL LETTER /NGA/CA
B9C TAMIL LETTER /JA
B9E TAMIL LETTER /NYA/TTA
BA3 TAMIL LETTER /NNA/TA
BA8 TAMIL LETTER /NA/NNNA/PA
BAE TAMIL LETTER /MA/YA/RA/RRA/LA/LLA/LLLA/VA/SHA/SSA/SA/HA
BBE TAMIL VOWEL SIGN /AA/I/II/U/UU
BC6 TAMIL VOWEL SIGN /E/EE/AI
BCA TAMIL VOWEL SIGN /O/OO/AU
BCD TAMIL SIGN /VIRAMA
BD0 TAMIL /OM
BD7 TAMIL AU LENGTH /MARK
BE6 TAMIL DIGIT /ZERO/ONE/TWO/THREE/FOUR/FIVE/SIX/SEVEN/EIGHT/NINE
BF0 TAMIL NUMBER /TEN/ONE HUNDRED/ONE THOUSAND
BF3 TAMIL /DAY SIGN/MONTH SIGN/YEAR SIGN/DEBIT SIGN/CREDIT SIGN/AS ABOVE SIGN/RUPEE SIGN/NUMBER SIGN
C00 TELUGU SIGN /COMBINING CANDRABINDU ABOVE/CANDRABINDU/ANUSVARA/VISARGA/COMBINING ANUSVARA ABOVE
C05 TELUGU LETTER /A/AA/I/II/U/UU/VOCALIC R/VOCALIC L
C0E TELUGU LETTER /E/EE/AI
C12 TELUGU LETTER /O
C13 TELUGU LETTER /OO/AU/KA/KHA/GA/GHA/NGA/CA/CHA/JA/JHA/NYA/TTA/TTHA/DDA/DDHA/NNA/TA/THA/DA/DHA/NA
C2A TELUGU LETTER /PA/PHA/BA/BHA/MA/YA/RA/RRA/LA/LLA/LLLA/VA/SHA/SSA/SA/HA
C3C TELUGU SIGN /NUKTA/AVAGRAHA
C3E TELUGU VOWEL SIGN /AA/I/II/U/UU/VOCALIC R/VOCALIC RR
C46 TELUGU VOWEL SIGN /E/EE/AI
C4A TELUGU VOWEL SIGN /O/OO/AU
C4D TELUGU SIGN /VIRAMA
C55 TELUGU /LENGTH MARK/AI LENGTH MARK
C58 TELUGU LETTER /TSA/DZA/RRRA
C5D TELUGU LETTER NAKAARA /POLLU
C60 TELUGU LETTER VOCALIC /RR/LL
C62 TELUGU VOWEL SIGN VOCALIC /L/LL
C66 TELUGU DIGIT /ZERO/ONE/TWO/THREE/FOUR/FIVE/SIX/SEVEN/EIGHT/NINE
C77 TELUGU SIGN /SIDDHAM
C78 TELUGU FRACTION DIGIT /ZERO FOR ODD POWERS OF FOUR/ONE FOR ODD POWERS OF FOUR
C7A TELUGU FRACTION DIGIT /TWO FOR ODD POWERS OF FOUR/THREE FOR ODD POWERS OF FOUR
C7C TELUGU FRACTION DIGIT /ONE FOR EVEN POWERS OF FOUR/TWO FOR EVEN POWERS OF FOUR
C7E TELUGU /FRACTION DIGIT THREE FOR EVEN POWERS OF FOUR/SIGN TUUMU
C80 KANNADA SIGN /SPACING CANDRABINDU/CANDRABINDU/ANUSVARA/VISARGA/SIDDHAM
C85 KANNADA LETTER /A/AA/I/II/U/UU/VOCALIC R/VOCALIC L
C8E KANNADA LETTER /E/EE/AI
C92 KANNADA LETTER /O
C93 KANNADA LETTER /OO/AU/KA/KHA/GA/GHA/NGA/CA/CHA/JA/JHA/NYA/TTA/TTHA/DDA/DDHA/NNA/TA/THA/DA/DHA/NA
CAA KANNADA LETTER /PA/PHA/BA/BHA/MA/YA/RA/RRA/LA/LLA
CB5 KANNADA LETTER /VA/SHA/SSA/SA/HA
CBC KANNADA SIGN /NUKTA/AVAGRAHA
CBE KANNADA VOWEL SIGN /AA/I/II/U/UU/VOCALIC R/VOCALIC RR
CC6 KANNADA VOWEL SIGN /E/EE/AI
CCA KANNADA VOWEL SIGN /O/OO/AU
CCD KANNADA SIGN /VIRAMA
CD5 KANNADA /LENGTH MARK/AI LENGTH MARK
CDD KANNADA LETTER /NAKAARA POLLU/FA
CE0 KANNADA LETTER VOCALIC /RR/LL
CE2 KANNADA VOWEL SIGN VOCALIC /L/LL
CE6 KANNADA DIGIT /ZERO/ONE/TWO/THREE/FOUR/FIVE/SIX/SEVEN/EIGHT/NINE
CF1 KANNADA SIGN /JIHVAMULIYA/UPADHMANIYA
D00 MALAYALAM SIGN /COMBINING ANUSVARA ABOVE/CANDRABINDU/ANUSVARA/VISARGA
D04 MALAYALAM LETTER /VEDIC ANUSVARA/A/AA/I/II/U/UU/VOCALIC R/VOCALIC L
D0E MALAYALAM LETTER /E/EE/AI
D12 MALAYALAM LETTER /O/OO/AU/KA/KHA/GA/GHA/NGA/CA/CHA/JA/JHA/NYA/TTA/TTHA/DDA/DDHA/NNA/TA/THA
D26 MALAYALAM LETTER /DA/DHA/NA/NNNA/PA/PHA/BA/BHA/MA/YA/RA/RRA/LA/LLA/LLLA/VA/SHA/SSA/SA/HA/TTTA
D3B MALAYALAM SIGN /VERTICAL BAR VIRAMA/CIRCULAR VIRAMA/AVAGRAHA
D3E MALAYALAM VOWEL SIGN /AA/I/II/U/UU/VOCALIC R/VOCALIC RR
D46 MALAYALAM VOWEL SIGN /E/EE/AI
D4A MALAYALAM VOWEL SIGN /O/OO/AU
D4D MALAYALAM /SIGN VIRAMA/LETTER DOT REPH/SIGN PARA
D54 MALAYALAM LETTER CHILLU /M/Y/LLL
D57 MALAYALAM /AU LENGTH MARK/FRACTION ONE ONE-HUNDRED-AND-SIXTIETH/FRACTION ONE FORTIETH
D5A MALAYALAM FRACTION /THREE EIGHTIETHS/ONE TWENTIETH/ONE TENTH/THREE TWENTIETHS/ONE FIFTH
D5F MALAYALAM LETTER /ARCHAIC II/VOCALIC RR/VOCALIC LL
D62 MALAYALAM VOWEL SIGN VOCALIC /L/LL
D66 MALAYALAM DIGIT /ZERO/ONE/TWO/THREE/FOUR/FIVE/SIX/SEVEN/EIGHT/NINE
D70 MALAYALAM NUMBER /TEN/ONE HUNDRED/ONE THOUSAND
D73 MALAYALAM FRACTION /ONE QUARTER/ONE HALF/THREE QUARTERS/ONE SIXTEENTH/ONE EIGHTH
D78 MALAYALAM /FRACTION THREE SIXTEENTHS/DATE MARK
D7A MALAYALAM LETTER CHILLU /NN/N/RR/L/LL/K
D81 SINHALA SIGN /CANDRABINDU/ANUSVARAYA/VISARGAYA
D85 SINHALA LETTER /AYANNA/AAYANNA/AEYANNA/AEEYANNA/IYANNA/IIYANNA/UYANNA/UUYANNA/IRUYANNA
D8E SINHALA LETTER /IRUUYANNA/ILUYANNA/ILUUYANNA/EYANNA/EEYANNA/AIYANNA/OYANNA/OOYANNA/AUYANNA
D9A SINHALA LETTER /ALPAPRAANA KAYANNA/MAHAAPRAANA KAYANNA
D9C SINHALA LETTER /ALPAPRAANA GAYANNA/MAHAAPRAANA GAYANNA/KANTAJA NAASIKYAYA/SANYAKA GAYANNA
DA0 SINHALA LETTER /ALPAPRAANA CAYANNA/MAHAAPRAANA CAYANNA/ALPAPRAANA JAYANNA/MAHAAPRAANA JAYANNA
DA4 SINHALA LETTER TAALUJA /NAASIKYAYA/SANYOOGA NAAKSIKYAYA
DA6 SINHALA LETTER /SANYAKA JAYANNA/ALPAPRAANA TTAYANNA/MAHAAPRAANA TTAYANNA/ALPAPRAANA DDAYANNA
DAA SINHALA LETTER /MAHAAPRAANA DDAYANNA/MUURDHAJA NAYANNA/SANYAKA DDAYANNA/ALPAPRAANA TAYANNA
DAE SINHALA LETTER /MAHAAPRAANA TAYANNA/ALPAPRAANA DAYANNA/MAHAAPRAANA DAYANNA/DANTAJA NAYANNA
DB3 SINHALA LETTER /SANYAKA DAYANNA/ALPAPRAANA PAYANNA/MAHAAPRAANA PAYANNA
DB6 SINHALA LETTER /ALPAPRAANA BAYANNA/MAHAAPRAANA BAYANNA/MAYANNA/AMBA BAYANNA/YAYANNA/RAYANNA
DBD SINHALA LETTER DANTAJA /LAYANNA
DC0 SINHALA LETTER /VAYANNA/TAALUJA SAYANNA
DC2 SINHALA LETTER /MUURDHAJA SAYANNA/DANTAJA SAYANNA/HAYANNA/MUURDHAJA LAYANNA/FAYANNA
DCA SINHALA SIGN /AL-LAKUNA
DCF SINHALA VOWEL SIGN /AELA-PILLA/KETTI AEDA-PILLA
DD1 SINHALA VOWEL SIGN /DIGA AEDA-PILLA/KETTI IS-PILLA/DIGA IS-PILLA/KETTI PAA-PILLA
DD6 SINHALA VOWEL SIGN DIGA /PAA-PILLA
DD8 SINHALA VOWEL SIGN /GAETTA-PILLA/KOMBUVA/DIGA KOMBUVA/KOMBU DEKA/KOMBUVA HAA AELA-PILLA
DDD SINHALA VOWEL SIGN /KOMBUVA HAA DIGA AELA-PILLA/KOMBUVA HAA GAYANUKITTA/GAYANUKITTA
DE6 SINHALA LITH DIGIT /ZERO/ONE/TWO/THREE/FOUR/FIVE/SIX/SEVEN/EIGHT/NINE
DF2 SINHALA VOWEL SIGN DIGA /GAETTA-PILLA/GAYANUKITTA
DF4 SINHALA PUNCTUATION /KUNDDALIYA
E01 THAI CHARACTER /KO KAI/KHO KHAI/KHO KHUAT/KHO KHWAI
E05 THAI CHARACTER /KHO KHON/KHO RAKHANG/NGO NGU/CHO CHAN/CHO CHING/CHO CHANG/SO SO/CHO CHOE
E0D THAI CHARACTER /YO YING/DO CHADA/TO PATAK/THO THAN/THO NANGMONTHO/THO PHUTHAO/NO NEN/DO DEK
E15 THAI CHARACTER /TO TAO/THO THUNG/THO THAHAN/THO THONG/NO NU/BO BAIMAI/PO PLA/PHO PHUNG/FO FA
E1E THAI CHARACTER /PHO PHAN/FO FAN/PHO SAMPHAO/MO MA/YO YAK/RO RUA/RU/LO LING/LU/WO WAEN/SO SALA
E29 THAI CHARACTER /SO RUSI/SO SUA/HO HIP/LO CHULA/O ANG/HO NOKHUK/PAIYANNOI/SARA A/MAI HAN-AKAT
E32 THAI CHARACTER SARA /AA/AM/I/II/UE/UEE/U/UU
E3A THAI CHARACTER /PHINTHU
E3F THAI CURRENCY SYMBOL /BAHT
E40 THAI CHARACTER SARA /E/AE/O/AI MAIMUAN/AI MAIMALAI
E45 THAI CHARACTER /LAKKHANGYAO/MAIYAMOK/MAITAIKHU
E48 THAI CHARACTER /MAI EK/MAI THO/MAI TRI/MAI CHATTAWA/THANTHAKHAT/NIKHAHIT/YAMAKKAN/FONGMAN
E50 THAI DIGIT /ZERO/ONE/TWO/THREE/FOUR/FIVE/SIX/SEVEN/EIGHT/NINE
E5A THAI CHARACTER /ANGKHANKHU/KHOMUT
E81 LAO LETTER /KO/KHO SUNG
E84 LAO LETTER KHO /TAM
E86 LAO LETTER /PALI GHA/NGO/CO/PALI CHA/SO TAM
E8C LAO LETTER /PALI JHA/NYO/PALI NYA/PALI TTA/PALI TTHA/PALI DDA/PALI DDHA/PALI NNA/DO/TO/THO SUNG
E97 LAO LETTER /THO TAM/PALI DHA/NO/BO/PO/PHO SUNG/FO TAM/PHO TAM/FO SUNG/PALI BHA/MO/YO/LO LING
EA5 LAO LETTER LO /LOOT
EA7 LAO LETTER /WO/SANSKRIT SHA/SANSKRIT SSA/SO SUNG/HO SUNG/PALI LLA/O/HO TAM
EAF LAO /ELLIPSIS
EB0 LAO VOWEL SIGN /A/MAI KAN/AA/AM/I/II/Y/YY/U/UU
EBA LAO /SIGN PALI VIRAMA/VOWEL SIGN MAI KON
EBC LAO SEMIVOWEL SIGN /LO/NYO
EC0 LAO VOWEL SIGN /E/EI/O/AY/AI
EC6 LAO KO /LA
EC8 LAO TONE MAI /EK/THO/TI/CATAWA
ECC LAO /CANCELLATION MARK/NIGGAHITA
ED0 LAO DIGIT /ZERO/ONE/TWO/THREE/FOUR/FIVE/SIX/SEVEN/EIGHT/NINE
EDC LAO HO /NO/MO
EDE LAO LETTER KHMU /GO/NYO
F00 TIBETAN SYLLABLE /OM
F01 TIBETAN MARK GTER YIG MGO /TRUNCATED A/-UM RNAM BCAD MA/-UM GTER TSHEG MA
F04 TIBETAN MARK INITIAL YIG MGO MDUN /MA
F05 TIBETAN MARK /CLOSING YIG MGO SGAB MA/CARET YIG MGO PHUR SHAD MA/YIG MGO TSHEG SHAD MA
F08 TIBETAN MARK /SBRUL SHAD/BSKUR YIG MGO/BKA- SHOG YIG MGO/INTERSYLLABIC TSHEG
F0C TIBETAN MARK /DELIMITER TSHEG BSTAR/SHAD/NYIS SHAD/TSHEG SHAD/NYIS TSHEG SHAD
F11 TIBETAN MARK /RIN CHEN SPUNGS SHAD/RGYA GRAM SHAD/CARET -DZUD RTAGS ME LONG CAN/GTER TSHEG
F15 TIBETAN LOGOTYPE SIGN /CHAD RTAGS/LHAG RTAGS
F17 TIBETAN ASTROLOGICAL SIGN /SGRA GCAN -CHAR RTAGS/-KHYUD PA/SDONG TSHUGS
F1A TIBETAN SIGN RDEL /DKAR GCIG/DKAR GNYIS/DKAR GSUM/NAG GCIG/NAG GNYIS/DKAR RDEL NAG
F20 TIBETAN DIGIT /ZERO/ONE/TWO/THREE/FOUR/FIVE/SIX/SEVEN/EIGHT/NINE
F2A TIBETAN DIGIT HALF /ONE/TWO/THREE/FOUR/FIVE/SIX/SEVEN/EIGHT/NINE/ZERO
F34 TIBETAN MARK /BSDUS RTAGS/NGAS BZUNG NYI ZLA/CARET -DZUD RTAGS BZHI MIG CAN
F37 TIBETAN MARK /NGAS BZUNG SGOR RTAGS/CHE MGO/TSA -PHRU/GUG RTAGS GYON/GUG RTAGS GYAS
F3C TIBETAN MARK ANG KHANG /GYON/GYAS
F3E TIBETAN SIGN /YAR TSHES/MAR TSHES
F40 TIBETAN LETTER /KA/KHA/GA/GHA/NGA/CA/CHA/JA
F49 TIBETAN LETTER /NYA/TTA/TTHA/DDA/DDHA/NNA/TA/THA/DA/DHA/NA/PA/PHA/BA/BHA/MA/TSA
F5A TIBETAN LETTER /TSHA/DZA/DZHA/WA/ZHA/ZA/-A/YA/RA/LA/SHA/SSA/SA/HA/A/KSSA/FIXED-FORM RA/KKA/RRA
F71 TIBETAN VOWEL SIGN /AA/I/II/U/UU/VOCALIC R/VOCALIC RR/VOCALIC L/VOCALIC LL/E/EE/O/OO
F7E TIBETAN SIGN /RJES SU NGA RO/RNAM BCAD
F80 TIBETAN VOWEL SIGN REVERSED /I/II
F82 TIBETAN /SIGN NYI ZLA NAA DA/SIGN SNA LDAN/MARK HALANTA/MARK PALUTA/SIGN LCI RTAGS
F87 TIBETAN SIGN /YANG RTAGS/LCE TSA CAN/MCHU CAN/GRU CAN RGYINGS/GRU MED RGYINGS/INVERTED MCHU CAN
F8D TIBETAN SUBJOINED SIGN /LCE TSA CAN/MCHU CAN/INVERTED MCHU CAN
F90 TIBETAN SUBJOINED LETTER /KA/KHA/GA/GHA/NGA/CA/CHA/JA
F99 TIBETAN SUBJOINED LETTER /NYA/TTA/TTHA/DDA/DDHA/NNA/TA/THA/DA/DHA/NA/PA/PHA
FA6 TIBETAN SUBJOINED LETTER /BA/BHA/MA/TSA/TSHA/DZA/DZHA/WA/ZHA/ZA/-A/YA/RA/LA/SHA/SSA/SA/HA/A/KSSA
FBA TIBETAN SUBJOINED LETTER FIXED-FORM /WA/YA/RA
FBE TIBETAN KU RU /KHA/KHA BZHI MIG CAN
FC0 TIBETAN CANTILLATION SIGN /HEAVY BEAT/LIGHT BEAT/CANG TE-U/SBUB -CHAL
FC4 TIBETAN SYMBOL /DRIL BU/RDO RJE/PADMA GDAN/RDO RJE RGYA GRAM/PHUR PA/NOR BU
FCA TIBETAN SYMBOL NOR BU /NYIS -KHYIL/GSUM -KHYIL/BZHI -KHYIL
FCE TIBETAN SIGN RDEL NAG /RDEL DKAR/GSUM
FD0 TIBETAN MARK /BSKA- SHOG GI MGO RGYAN/MNYAM YIG GI MGO RGYAN
FD2 TIBETAN MARK /NYIS TSHEG/INITIAL BRDA RNYING YIG MGO MDUN MA/CLOSING BRDA RNYING YIG MGO SGAB MA
FD5 RIGHT-FACING SVASTI /SIGN
FD6 /LEFT-FACING SVASTI SIGN/RIGHT-FACING SVASTI SIGN WITH DOTS/LEFT-FACING SVASTI SIGN WITH DOTS
FD9 TIBETAN MARK /LEADING MCHAN RTAGS/TRAILING MCHAN RTAGS
1000 MYANMAR LETTER /KA/KHA/GA/GHA/NGA/CA/CHA/JA/JHA/NYA/NNYA/TTA/TTHA/DDA/DDHA/NNA/TA/THA/DA
1013 MYANMAR LETTER /DHA/NA/PA/PHA/BA/BHA/MA/YA/RA/LA/WA/SA/HA/LLA/A/SHAN A/I/II/U/UU/E/MON E/O/AU
102B MYANMAR VOWEL SIGN /TALL AA/AA/I/II/U/UU/E/AI/MON II/MON O/E ABOVE
1036 MYANMAR SIGN /ANUSVARA/DOT BELOW/VISARGA/VIRAMA/ASAT
103B MYANMAR CONSONANT SIGN MEDIAL /YA/RA/WA/HA
103F MYANMAR LETTER GREAT /SA
1040 MYANMAR DIGIT /ZERO/ONE/TWO/THREE/FOUR/FIVE/SIX/SEVEN/EIGHT/NINE
104A MYANMAR SIGN /LITTLE SECTION/SECTION
104C MYANMAR SYMBOL /LOCATIVE/COMPLETED/AFOREMENTIONED/GENITIVE
1050 MYANMAR LETTER /SHA/SSA
1052 MYANMAR LETTER VOCALIC /R/RR/L/LL
1056 MYANMAR VOWEL SIGN VOCALIC /R/RR/L/LL
105A MYANMAR LETTER MON /NGA/JHA/BBA/BBE
105E MYANMAR CONSONANT SIGN MON MEDIAL /NA/MA/LA
1061 MYANMAR /LETTER SGAW KAREN SHA/VOWEL SIGN SGAW KAREN EU
1063 MYANMAR TONE MARK SGAW KAREN /HATHI/KE PHO
1065 MYANMAR LETTER WESTERN PWO KAREN /THA/PWA
1067 MYANMAR VOWEL SIGN WESTERN PWO KAREN /EU/UE
1069 MYANMAR SIGN WESTERN PWO KAREN /TONE-1/TONE-2/TONE-3/TONE-4/TONE-5
106E MYANMAR LETTER EASTERN PWO KAREN /NNA/YWA/GHWA
1071 MYANMAR VOWEL SIGN /GEBA KAREN I/KAYAH OE/KAYAH U/KAYAH EE
1075 MYANMAR LETTER SHAN /KA/KHA/GA/CA/ZA/NYA/DA/NA/PHA/FA/BA/THA/HA
1082 MYANMAR CONSONANT SIGN SHAN MEDIAL /WA
1083 MYANMAR VOWEL SIGN SHAN /AA/E/E ABOVE/FINAL Y
1087 MYANMAR SIGN SHAN /TONE-2/TONE-3/TONE-5/TONE-6
108B MYANMAR SIGN SHAN COUNCIL /TONE-2/TONE-3/EMPHATIC TONE
108E MYANMAR /LETTER RUMAI PALAUNG FA/SIGN RUMAI PALAUNG TONE-5
1090 MYANMAR SHAN DIGIT /ZERO/ONE/TWO/THREE/FOUR/FIVE/SIX/SEVEN/EIGHT/NINE
109A MYANMAR SIGN KHAMTI /TONE-1/TONE-3
109C MYANMAR VOWEL SIGN AITON /A/AI
109E MYANMAR SYMBOL SHAN /ONE/EXCLAMATION
10A0 GEORGIAN CAPITAL LETTER /AN/BAN/GAN/DON
10A4 GEORGIAN CAPITAL LETTER /EN/VIN/ZEN/TAN/IN/KAN/LAS/MAN/NAR/ON/PAR/ZHAR/RAE/SAN/TAR/UN/PHAR/KHAR
10B6 GEORGIAN CAPITAL LETTER /GHAN/QAR/SHIN/CHIN/CAN/JIL/CIL/CHAR/XAN/JHAN/HAE/HE/HIE/WE/HAR/HOE
10C7 GEORGIAN CAPITAL LETTER /YN
10CD GEORGIAN CAPITAL LETTER /AEN
10D0 GEORGIAN LETTER /AN/BAN/GAN/DON/EN/VIN/ZEN
10D7 GEORGIAN LETTER /TAN/IN/KAN/LAS/MAN/NAR/ON/PAR/ZHAR/RAE/SAN/TAR/UN/PHAR/KHAR/GHAN/QAR/SHIN/CHIN
10EA GEORGIAN LETTER /CAN/JIL/CIL/CHAR/XAN/JHAN/HAE/HE/HIE/WE/HAR/HOE/FI/YN/ELIFI/TURNED GAN/AIN
10FB /GEORGIAN PARAGRAPH SEPARATOR/MODIFIER LETTER GEORGIAN NAR
10FD GEORGIAN LETTER /AEN/HARD SIGN/LABIAL SIGN
1100 HANGUL CHOSEONG /KIYEOK/SSANGKIYEOK
1102 HANGUL CHOSEONG /NIEUN/TIKEUT/SSANGTIKEUT/RIEUL/MIEUM/PIEUP/SSANGPIEUP/SIOS/SSANGSIOS
110B HANGUL CHOSEONG /IEUNG/CIEUC/SSANGCIEUC/CHIEUCH/KHIEUKH/THIEUTH/PHIEUPH/HIEUH/NIEUN-KIYEOK
1114 HANGUL CHOSEONG /SSANGNIEUN/NIEUN-TIKEUT/NIEUN-PIEUP/TIKEUT-KIYEOK/RIEUL-NIEUN/SSANGRIEUL
111A HANGUL CHOSEONG /RIEUL-HIEUH/KAPYEOUNRIEUL/MIEUM-PIEUP/KAPYEOUNMIEUM/PIEUP-KIYEOK/PIEUP-NIEUN
1120 HANGUL CHOSEONG /PIEUP-TIKEUT/PIEUP-SIOS/PIEUP-SIOS-KIYEOK/PIEUP-SIOS-TIKEUT/PIEUP-SIOS-PIEUP
1125 HANGUL CHOSEONG /PIEUP-SSANGSIOS/PIEUP-SIOS-CIEUC/PIEUP-CIEUC/PIEUP-CHIEUCH/PIEUP-THIEUTH
112A HANGUL CHOSEONG /PIEUP-PHIEUPH/KAPYEOUNPIEUP/KAPYEOUNSSANGPIEUP/SIOS-KIYEOK/SIOS-NIEUN
112F HANGUL CHOSEONG /SIOS-TIKEUT/SIOS-RIEUL/SIOS-MIEUM/SIOS-PIEUP/SIOS-PIEUP-KIYEOK/SIOS-SSANGSIOS
1135 HANGUL CHOSEONG /SIOS-IEUNG/SIOS-CIEUC/SIOS-CHIEUCH/SIOS-KHIEUKH/SIOS-THIEUTH/SIOS-PHIEUPH
113B HANGUL CHOSEONG /SIOS-HIEUH/CHITUEUMSIOS/CHITUEUMSSANGSIOS/CEONGCHIEUMSIOS/CEONGCHIEUMSSANGSIOS
1140 HANGUL CHOSEONG /PANSIOS/IEUNG-KIYEOK/IEUNG-TIKEUT/IEUNG-MIEUM/IEUNG-PIEUP/IEUNG-SIOS
1146 HANGUL CHOSEONG /IEUNG-PANSIOS/SSANGIEUNG/IEUNG-CIEUC/IEUNG-CHIEUCH/IEUNG-THIEUTH/IEUNG-PHIEUPH
114C HANGUL CHOSEONG /YESIEUNG/CIEUC-IEUNG/CHITUEUMCIEUC/CHITUEUMSSANGCIEUC/CEONGCHIEUMCIEUC
1151 HANGUL CHOSEONG /CEONGCHIEUMSSANGCIEUC/CHIEUCH-KHIEUKH/CHIEUCH-HIEUH/CHITUEUMCHIEUCH
1155 HANGUL CHOSEONG /CEONGCHIEUMCHIEUCH/PHIEUPH-PIEUP/KAPYEOUNPHIEUPH/SSANGHIEUH/YEORINHIEUH
115A HANGUL CHOSEONG /KIYEOK-TIKEUT/NIEUN-SIOS/NIEUN-CIEUC/NIEUN-HIEUH/TIKEUT-RIEUL/FILLER
1160 HANGUL JUNGSEONG /FILLER/A/AE/YA/YAE/EO/E/YEO/YE/O/WA/WAE
116C HANGUL JUNGSEONG /OE/YO/U/WEO/WE/WI/YU/EU/YI/I/A-O/A-U/YA-O/YA-YO/EO-O/EO-U/EO-EU/YEO-O/YEO-U
117F HANGUL JUNGSEONG /O-EO/O-E/O-YE/O-O/O-U/YO-YA/YO-YAE/YO-YEO/YO-O/YO-I/U-A/U-AE/U-EO-EU/U-YE/U-U
118E HANGUL JUNGSEONG /YU-A/YU-EO/YU-E/YU-YEO/YU-YE/YU-U/YU-I/EU-U/EU-EU/YI-U/I-A/I-YA/I-O/I-U/I-EU
119D HANGUL JUNGSEONG /I-ARAEA/ARAEA/ARAEA-EO/ARAEA-U/ARAEA-I/SSANGARAEA/A-EU/YA-U/YEO-YA/O-YA/O-YAE
11A8 HANGUL JONGSEONG /KIYEOK/SSANGKIYEOK/KIYEOK-SIOS
11AB HANGUL JONGSEONG /NIEUN/NIEUN-CIEUC/NIEUN-HIEUH/TIKEUT/RIEUL/RIEUL-KIYEOK/RIEUL-MIEUM
11B2 HANGUL JONGSEONG /RIEUL-PIEUP/RIEUL-SIOS/RIEUL-THIEUTH/RIEUL-PHIEUPH/RIEUL-HIEUH/MIEUM
11B8 HANGUL JONGSEONG /PIEUP/PIEUP-SIOS/SIOS/SSANGSIOS/IEUNG/CIEUC/CHIEUCH/KHIEUKH/THIEUTH/PHIEUPH
11C2 HANGUL JONGSEONG /HIEUH/KIYEOK-RIEUL/KIYEOK-SIOS-KIYEOK/NIEUN-KIYEOK/NIEUN-TIKEUT/NIEUN-SIOS
11C8 HANGUL JONGSEONG /NIEUN-PANSIOS/NIEUN-THIEUTH/TIKEUT-KIYEOK/TIKEUT-RIEUL/RIEUL-KIYEOK-SIOS
11CD HANGUL JONGSEONG /RIEUL-NIEUN/RIEUL-TIKEUT/RIEUL-TIKEUT-HIEUH/SSANGRIEUL/RIEUL-MIEUM-KIYEOK
11D2 HANGUL JONGSEONG /RIEUL-MIEUM-SIOS/RIEUL-PIEUP-SIOS/RIEUL-PIEUP-HIEUH/RIEUL-KAPYEOUNPIEUP
11D6 HANGUL JONGSEONG /RIEUL-SSANGSIOS/RIEUL-PANSIOS/RIEUL-KHIEUKH/RIEUL-YEORINHIEUH
11DA HANGUL JONGSEONG /MIEUM-KIYEOK/MIEUM-RIEUL/MIEUM-PIEUP/MIEUM-SIOS/MIEUM-SSANGSIOS
11DF HANGUL JONGSEONG /MIEUM-PANSIOS/MIEUM-CHIEUCH/MIEUM-HIEUH/KAPYEOUNMIEUM/PIEUP-RIEUL
11E4 HANGUL JONGSEONG /PIEUP-PHIEUPH/PIEUP-HIEUH/KAPYEOUNPIEUP/SIOS-KIYEOK/SIOS-TIKEUT/SIOS-RIEUL
11EA HANGUL JONGSEONG /SIOS-PIEUP/PANSIOS/IEUNG-KIYEOK/IEUNG-SSANGKIYEOK/SSANGIEUNG/IEUNG-KHIEUKH
11F0 HANGUL JONGSEONG /YESIEUNG/YESIEUNG-SIOS/YESIEUNG-PANSIOS/PHIEUPH-PIEUP/KAPYEOUNPHIEUPH
11F5 HANGUL JONGSEONG /HIEUH-NIEUN/HIEUH-RIEUL/HIEUH-MIEUM/HIEUH-PIEUP/YEORINHIEUH/KIYEOK-NIEUN
11FB HANGUL JONGSEONG /KIYEOK-PIEUP/KIYEOK-CHIEUCH/KIYEOK-KHIEUKH/KIYEOK-HIEUH/SSANGNIEUN
1200 ETHIOPIC SYLLABLE /HA/HU/HI/HAA/HEE/HE/HO/HOA/LA/LU/LI/LAA/LEE
120D ETHIOPIC SYLLABLE /LE/LO/LWA/HHA/HHU/HHI/HHAA/HHEE/HHE/HHO/HHWA/MA/MU/MI/MAA/MEE/ME/MO/MWA/SZA
1221 ETHIOPIC SYLLABLE /SZU/SZI/SZAA/SZEE/SZE/SZO/SZWA/RA/RU/RI/RAA/REE/RE/RO/RWA/SA/SU/SI/SAA/SEE
1235 ETHIOPIC SYLLABLE /SE/SO/SWA/SHA/SHU/SHI/SHAA/SHEE/SHE/SHO/SHWA/QA/QU/QI/QAA/QEE/QE/QO/QOA/QWA
124A ETHIOPIC SYLLABLE /QWI/QWAA/QWEE/QWE
1250 ETHIOPIC SYLLABLE /QHA/QHU/QHI/QHAA/QHEE/QHE/QHO
1258 ETHIOPIC SYLLABLE /QHWA
125A ETHIOPIC SYLLABLE /QHWI/QHWAA/QHWEE/QHWE
1260 ETHIOPIC SYLLABLE /BA/BU/BI/BAA/BEE/BE/BO/BWA/VA/VU/VI/VAA/VEE/VE/VO/VWA/TA/TU/TI
1273 ETHIOPIC SYLLABLE /TAA/TEE/TE/TO/TWA/CA/CU/CI/CAA/CEE/CE/CO/CWA/XA/XU/XI/XAA/XEE/XE/XO/XOA/XWA
128A ETHIOPIC SYLLABLE /XWI/XWAA/XWEE/XWE
1290 ETHIOPIC SYLLABLE /NA/NU/NI/NAA/NEE/NE/NO/NWA/NYA/NYU/NYI/NYAA/NYEE/NYE/NYO/NYWA
12A0 ETHIOPIC SYLLABLE GLOTTAL /A/U/I/AA/EE/E/O/WA
12A8 ETHIOPIC SYLLABLE /KA/KU/KI/KAA/KEE/KE/KO/KOA/KWA
12B2 ETHIOPIC SYLLABLE /KWI/KWAA/KWEE/KWE
12B8 ETHIOPIC SYLLABLE /KXA/KXU/KXI/KXAA/KXEE/KXE/KXO
12C0 ETHIOPIC SYLLABLE /KXWA
12C2 ETHIOPIC SYLLABLE /KXWI/KXWAA/KXWEE/KXWE
12C8 ETHIOPIC SYLLABLE /WA/WU/WI/WAA/WEE/WE/WO/WOA
12D0 ETHIOPIC SYLLABLE PHARYNGEAL /A/U/I/AA/EE/E/O
12D8 ETHIOPIC SYLLABLE /ZA/ZU/ZI/ZAA/ZEE/ZE/ZO/ZWA/ZHA/ZHU/ZHI/ZHAA/ZHEE/ZHE/ZHO
12E7 ETHIOPIC SYLLABLE /ZHWA/YA/YU/YI/YAA/YEE/YE/YO/YOA/DA/DU/DI/DAA/DEE/DE/DO/DWA/DDA/DDU/DDI/DDAA
12FC ETHIOPIC SYLLABLE /DDEE/DDE/DDO/DDWA/JA/JU/JI/JAA/JEE/JE/JO/JWA/GA/GU/GI/GAA/GEE/GE/GO/GOA/GWA
1312 ETHIOPIC SYLLABLE /GWI/GWAA/GWEE/GWE
1318 ETHIOPIC SYLLABLE /GGA/GGU/GGI/GGAA/GGEE/GGE/GGO/GGWAA/THA/THU/THI/THAA
1324 ETHIOPIC SYLLABLE /THEE/THE/THO/THWA/CHA/CHU/CHI/CHAA/CHEE/CHE/CHO/CHWA/PHA/PHU/PHI/PHAA/PHEE
1335 ETHIOPIC SYLLABLE /PHE/PHO/PHWA/TSA/TSU/TSI/TSAA/TSEE/TSE/TSO/TSWA/TZA/TZU/TZI/TZAA/TZEE/TZE
1346 ETHIOPIC SYLLABLE /TZO/TZOA/FA/FU/FI/FAA/FEE/FE/FO/FWA/PA/PU/PI/PAA/PEE/PE/PO/PWA/RYA/MYA/FYA
135D ETHIOPIC COMBINING /GEMINATION AND VOWEL LENGTH MARK/VOWEL LENGTH MARK/GEMINATION MARK
1360 ETHIOPIC /SECTION MARK/WORDSPACE
1362 ETHIOPIC /FULL STOP/COMMA/SEMICOLON/COLON/PREFACE COLON/QUESTION MARK/PARAGRAPH SEPARATOR
1369 ETHIOPIC DIGIT /ONE/TWO/THREE/FOUR/FIVE/SIX/SEVEN/EIGHT/NINE
1372 ETHIOPIC NUMBER /TEN/TWENTY/THIRTY/FORTY/FIFTY/SIXTY/SEVENTY/EIGHTY/NINETY/HUNDRED/TEN THOUSAND
1380 ETHIOPIC SYLLABLE /SEBATBEIT MWA/MWI/MWEE/MWE/SEBATBEIT BWA
1385 ETHIOPIC SYLLABLE /BWI/BWEE/BWE/SEBATBEIT FWA/FWI/FWEE/FWE/SEBATBEIT PWA/PWI/PWEE/PWE
1390 ETHIOPIC TONAL MARK /YIZET/DERET/RIKRIK/SHORT RIKRIK/DIFAT/KENAT/CHIRET/HIDET/DERET-HIDET/KURT
13A0 CHEROKEE LETTER /A/E/I/O/U/V/GA/KA/GE/GI/GO/GU/GV/HA
13AE CHEROKEE LETTER /HE/HI/HO/HU/HV/LA/LE/LI/LO/LU/LV/MA/ME/MI/MO/MU/NA/HNA/NAH/NE/NI/NO/NU/NV/QUA
13C7 CHEROKEE LETTER /QUE/QUI/QUO/QUU/QUV/SA/S/SE/SI/SO/SU/SV/DA/TA/DE/TE/DI/TI/DO/DU/DV/DLA/TLA/TLE
13DF CHEROKEE LETTER /TLI/TLO/TLU/TLV/TSA/TSE/TSI/TSO/TSU/TSV/WA/WE/WI/WO/WU/WV/YA/YE/YI/YO/YU/YV/MV
13F8 CHEROKEE SMALL LETTER /YE/YI/YO/YU/YV/MV
1400 CANADIAN SYLLABICS /HYPHEN/E/AAI/I
1404 CANADIAN SYLLABICS /II/O/OO/Y-CREE OO/CARRIER EE/CARRIER I/A/AA/WE/WEST-CREE WE/WI/WEST-CREE WI
1410 CANADIAN SYLLABICS /WII/WEST-CREE WII/WO/WEST-CREE WO/WOO/WEST-CREE WOO/NASKAPI WOO
1417 CANADIAN SYLLABICS /WA/WEST-CREE WA/WAA/WEST-CREE WAA/NASKAPI WAA/AI/Y-CREE W/GLOTTAL STOP
141F CANADIAN SYLLABICS FINAL /ACUTE/GRAVE/BOTTOM HALF RING/TOP HALF RING/RIGHT HALF RING/RING
1425 CANADIAN SYLLABICS FINAL DOUBLE /ACUTE/SHORT VERTICAL STROKES
1427 CANADIAN SYLLABICS FINAL /MIDDLE DOT/SHORT HORIZONTAL STROKE/PLUS/DOWN TACK
142B CANADIAN SYLLABICS /EN/IN/ON/AN/PE/PAAI/PI/PII/PO/POO/Y-CREE POO/CARRIER HEE/CARRIER HI/PA/PAA
143A CANADIAN SYLLABICS /PWE/WEST-CREE PWE/PWI/WEST-CREE PWI/PWII/WEST-CREE PWII/PWO/WEST-CREE PWO
1442 CANADIAN SYLLABICS /PWOO/WEST-CREE PWOO/PWA/WEST-CREE PWA/PWAA/WEST-CREE PWAA/Y-CREE PWAA
1449 CANADIAN SYLLABICS /P/WEST-CREE P/CARRIER H/TE/TAAI/TI/TII/TO/TOO/Y-CREE TOO/CARRIER DEE
1454 CANADIAN SYLLABICS /CARRIER DI/TA/TAA/TWE/WEST-CREE TWE/TWI/WEST-CREE TWI/TWII/WEST-CREE TWII
145D CANADIAN SYLLABICS /TWO/WEST-CREE TWO/TWOO/WEST-CREE TWOO/TWA/WEST-CREE TWA/TWAA/WEST-CREE TWAA
1465 CANADIAN SYLLABICS /NASKAPI TWAA/T/TTE/TTI/TTO/TTA/KE/KAAI/KI/KII/KO/KOO/Y-CREE KOO/KA/KAA
1474 CANADIAN SYLLABICS /KWE/WEST-CREE KWE/KWI/WEST-CREE KWI/KWII/WEST-CREE KWII/KWO/WEST-CREE KWO
147C CANADIAN SYLLABICS /KWOO/WEST-CREE KWOO/KWA/WEST-CREE KWA/KWAA/WEST-CREE KWAA/NASKAPI KWAA/K/KW
1485 CANADIAN SYLLABICS SOUTH-SLAVEY /KEH/KIH/KOH/KAH
1489 CANADIAN SYLLABICS /CE/CAAI/CI/CII/CO/COO
148F CANADIAN SYLLABICS /Y-CREE COO/CA/CAA/CWE/WEST-CREE CWE/CWI/WEST-CREE CWI/CWII/WEST-CREE CWII
1498 CANADIAN SYLLABICS /CWO/WEST-CREE CWO/CWOO/WEST-CREE CWOO/CWA/WEST-CREE CWA/CWAA/WEST-CREE CWAA
14A0 CANADIAN SYLLABICS /NASKAPI CWAA/C/SAYISI TH/ME/MAAI/MI/MII/MO/MOO/Y-CREE MOO/MA/MAA
14AC CANADIAN SYLLABICS /MWE/WEST-CREE MWE/MWI/WEST-CREE MWI/MWII/WEST-CREE MWII/MWO/WEST-CREE MWO
14B4 CANADIAN SYLLABICS /MWOO/WEST-CREE MWOO/MWA/WEST-CREE MWA/MWAA/WEST-CREE MWAA/NASKAPI MWAA
14BB CANADIAN SYLLABICS /M/WEST-CREE M/MH/ATHAPASCAN M/SAYISI M/NE/NAAI/NI/NII/NO/NOO/Y-CREE NOO
14C7 CANADIAN SYLLABICS /NA/NAA/NWE/WEST-CREE NWE/NWA/WEST-CREE NWA/NWAA/WEST-CREE NWAA/NASKAPI NWAA
14D0 CANADIAN SYLLABICS /N/CARRIER NG/NH/LE/LAAI/LI/LII/LO/LOO/Y-CREE LOO/LA/LAA/LWE/WEST-CREE LWE
14DE CANADIAN SYLLABICS /LWI/WEST-CREE LWI/LWII/WEST-CREE LWII/LWO/WEST-CREE LWO/LWOO/WEST-CREE LWOO
14E6 CANADIAN SYLLABICS /LWA/WEST-CREE LWA/LWAA/WEST-CREE LWAA/L/WEST-CREE L/MEDIAL L/SE/SAAI
14EF CANADIAN SYLLABICS /SI/SII/SO/SOO/Y-CREE SOO/SA/SAA/SWE/WEST-CREE SWE/SWI/WEST-CREE SWI/SWII
14FB CANADIAN SYLLABICS /WEST-CREE SWII/SWO/WEST-CREE SWO/SWOO/WEST-CREE SWOO/SWA/WEST-CREE SWA/SWAA
1503 CANADIAN SYLLABICS /WEST-CREE SWAA/NASKAPI SWAA/S/ATHAPASCAN S/SW/BLACKFOOT S/MOOSE-CREE SK
150A CANADIAN SYLLABICS NASKAPI /SKW/S-W/SPWA/STWA/SKWA/SCWA
1510 CANADIAN SYLLABICS /SHE/SHI/SHII/SHO/SHOO/SHA/SHAA/SHWE/WEST-CREE SHWE/SHWI/WEST-CREE SHWI
151B CANADIAN SYLLABICS /SHWII/WEST-CREE SHWII/SHWO/WEST-CREE SHWO/SHWOO/WEST-CREE SHWOO
1521 CANADIAN SYLLABICS /SHWA/WEST-CREE SHWA/SHWAA/WEST-CREE SHWAA/SH/YE/YAAI/YI/YII/YO/YOO
152C CANADIAN SYLLABICS /Y-CREE YOO/YA/YAA/YWE/WEST-CREE YWE/YWI/WEST-CREE YWI/YWII/WEST-CREE YWII
1535 CANADIAN SYLLABICS /YWO/WEST-CREE YWO/YWOO/WEST-CREE YWOO/YWA/WEST-CREE YWA/YWAA/WEST-CREE YWAA
153D CANADIAN SYLLABICS /NASKAPI YWAA/Y/BIBLE-CREE Y/WEST-CREE Y/SAYISI YI/RE/R-CREE RE
1544 CANADIAN SYLLABICS /WEST-CREE LE/RAAI/RI/RII/RO/ROO/WEST-CREE LO/RA/RAA/WEST-CREE LA/RWAA
154F CANADIAN SYLLABICS /WEST-CREE RWAA/R/WEST-CREE R/MEDIAL R/FE/FAAI/FI/FII/FO/FOO/FA/FAA/FWAA
155C CANADIAN SYLLABICS /WEST-CREE FWAA/F/THE/N-CREE THE/THI/N-CREE THI/THII/N-CREE THII/THO/THOO
1566 CANADIAN SYLLABICS /THA/THAA/THWAA/WEST-CREE THWAA/TH/TTHE/TTHI/TTHO/TTHA/TTH/TYE/TYI/TYO/TYA
1574 CANADIAN SYLLABICS NUNAVIK /HE/HI/HII/HO/HOO/HA/HAA/H
157C CANADIAN SYLLABICS /NUNAVUT H/HK/QAAI/QI/QII/QO/QOO/QA/QAA/Q/TLHE/TLHI/TLHO/TLHA
158A CANADIAN SYLLABICS WEST-CREE /RE/RI/RO/RA
158E CANADIAN SYLLABICS /NGAAI/NGI/NGII/NGO/NGOO/NGA/NGAA/NG/NNG
1597 CANADIAN SYLLABICS SAYISI /SHE/SHI/SHO/SHA
159B CANADIAN SYLLABICS WOODS-CREE /THE/THI/THO/THA/TH
15A0 CANADIAN SYLLABICS /LHI/LHII/LHO/LHOO/LHA/LHAA/LH
15A7 CANADIAN SYLLABICS TH-CREE /THE/THI/THII/THO/THOO/THA/THAA/TH
15AF CANADIAN SYLLABICS AIVILIK /B
15B0 CANADIAN SYLLABICS BLACKFOOT /E/I/O/A/WE/WI/WO/WA/NE/NI/NO/NA/KE/KI/KO/KA
15C0 CANADIAN SYLLABICS SAYISI /HE/HI/HO/HA
15C4 CANADIAN SYLLABICS CARRIER /GHU/GHO/GHE/GHEE/GHI/GHA
15CA CANADIAN SYLLABICS CARRIER /RU/RO/RE/REE/RI/RA/WU/WO/WE/WEE/WI/WA/HWU/HWO/HWE/HWEE/HWI/HWA/THU
15DD CANADIAN SYLLABICS CARRIER /THO/THE/THEE/THI/THA/TTU/TTO/TTE/TTEE/TTI/TTA/PU/PO/PE/PEE/PI/PA
15EE CANADIAN SYLLABICS CARRIER /P/GU/GO/GE/GEE/GI/GA/KHU/KHO/KHE/KHEE/KHI/KHA/KKU/KKO/KKE/KKEE/KKI
1600 CANADIAN SYLLABICS CARRIER /KKA/KK/NU/NO/NE/NEE/NI/NA/MU/MO/ME/MEE/MI/MA/YU/YO/YE/YEE/YI/YA/JU
1615 CANADIAN SYLLABICS /SAYISI JU/CARRIER JO/CARRIER JE/CARRIER JEE/CARRIER JI/SAYISI JI
161B CANADIAN SYLLABICS CARRIER /JA/JJU/JJO/JJE/JJEE/JJI/JJA/LU/LO/LE/LEE/LI/LA/DLU/DLO/DLE/DLEE
162C CANADIAN SYLLABICS CARRIER /DLI/DLA/LHU/LHO/LHE/LHEE/LHI/LHA/TLHU/TLHO/TLHE/TLHEE/TLHI/TLHA
163A CANADIAN SYLLABICS CARRIER /TLU/TLO/TLE/TLEE/TLI/TLA/ZU/ZO/ZE/ZEE/ZI/ZA/Z/INITIAL Z/DZU/DZO/DZE
164B CANADIAN SYLLABICS CARRIER /DZEE/DZI/DZA/SU/SO/SE/SEE/SI/SA/SHU/SHO/SHE/SHEE/SHI/SHA/SH/TSU/TSO
165D CANADIAN SYLLABICS CARRIER /TSE/TSEE/TSI/TSA/CHU/CHO/CHE/CHEE/CHI/CHA/TTSU/TTSO/TTSE/TTSEE/TTSI
166C CANADIAN SYLLABICS /CARRIER TTSA/CHI SIGN/FULL STOP/QAI/NGAI/NNGI/NNGII/NNGO/NNGOO/NNGA/NNGAA
1677 CANADIAN SYLLABICS WOODS-CREE /THWEE/THWI/THWII/THWO/THWOO/THWA/THWAA/FINAL TH
167F /CANADIAN SYLLABICS BLACKFOOT W/OGHAM SPACE MARK
1681 OGHAM LETTER /BEITH/LUIS/FEARN/SAIL/NION/UATH/DAIR/TINNE/COLL/CEIRT/MUIN/GORT/NGEADAL/STRAIF
168F OGHAM LETTER /RUIS/AILM/ONN/UR/EADHADH/IODHADH/EABHADH/OR/UILLEANN/IFIN/EAMHANCHOLL/PEITH
169B OGHAM /FEATHER MARK/REVERSED FEATHER MARK
16A0 RUNIC LETTER /FEHU FEOH FE F/V/URUZ UR U/YR/Y/W/THURISAZ THURS THORN/ETH/ANSUZ A
16A9 RUNIC LETTER /OS O/AC A/AESC/LONG-BRANCH-OSS O/SHORT-TWIG-OSS O/O/OE/ON/RAIDO RAD REID R
16B2 RUNIC LETTER /KAUNA/CEN/KAUN K/G/ENG/GEBO GYFU G/GAR/WUNJO WYNN W/HAGLAZ H/HAEGL H
16BC RUNIC LETTER /LONG-BRANCH-HAGALL H/SHORT-TWIG-HAGALL H/NAUDIZ NYD NAUD N/SHORT-TWIG-NAUD N
16C0 RUNIC LETTER /DOTTED-N/ISAZ IS ISS I/E/JERAN J/GER/LONG-BRANCH-AR AE/SHORT-TWIG-AR A/IWAZ EOH
16C8 RUNIC LETTER /PERTHO PEORTH P/ALGIZ EOLHX/SOWILO S/SIGEL LONG-BRANCH-SOL S/SHORT-TWIG-SOL S/C/Z
16CF RUNIC LETTER /TIWAZ TIR TYR T/SHORT-TWIG-TYR T/D/BERKANAN BEORC BJARKAN B/SHORT-TWIG-BJARKAN B
16D4 RUNIC LETTER /DOTTED-P/OPEN-P/EHWAZ EH E/MANNAZ MAN M/LONG-BRANCH-MADR M/SHORT-TWIG-MADR M
16DA RUNIC LETTER /LAUKAZ LAGU LOGR L/DOTTED-L/INGWAZ/ING/DAGAZ DAEG D/OTHALAN ETHEL O
16E0 RUNIC LETTER /EAR/IOR/CWEORTH/CALC/CEALC/STAN/LONG-BRANCH-YR/SHORT-TWIG-YR/ICELANDIC-YR/Q/X
16EB RUNIC SINGLE /PUNCTUATION
16EC RUNIC /MULTIPLE PUNCTUATION/CROSS PUNCTUATION/ARLAUG SYMBOL/TVIMADUR SYMBOL/BELGTHOR SYMBOL
16F1 RUNIC LETTER /K/SH/OO
16F4 RUNIC LETTER FRANKS CASKET /OS/IS/EH/AC/AESC
1700 TAGALOG LETTER /A/I/U/KA/GA/NGA/TA/DA/NA/PA/BA/MA/YA/RA/LA/WA/SA/HA
1712 TAGALOG VOWEL SIGN /I/U
1714 TAGALOG SIGN /VIRAMA/PAMUDPOD
171F TAGALOG LETTER ARCHAIC /RA
1720 HANUNOO LETTER /A/I/U/KA/GA/NGA/TA/DA/NA/PA/BA/MA/YA/RA/LA/WA/SA/HA
1732 HANUNOO /VOWEL SIGN I/VOWEL SIGN U/SIGN PAMUDPOD
1735 PHILIPPINE /SINGLE PUNCTUATION/DOUBLE PUNCTUATION
1740 BUHID LETTER /A/I/U/KA/GA/NGA/TA/DA/NA/PA/BA/MA/YA/RA/LA/WA/SA/HA
1752 BUHID VOWEL SIGN /I/U
1760 TAGBANWA LETTER /A/I/U/KA/GA/NGA/TA/DA/NA/PA/BA/MA/YA
176E TAGBANWA LETTER /LA/WA/SA
1772 TAGBANWA VOWEL SIGN /I/U
1780 KHMER LETTER /KA/KHA/KO/KHO/NGO/CA/CHA/CO/CHO/NYO/DA/TTHA
178C KHMER LETTER /DO/TTHO/NNO/TA/THA/TO/THO/NO/BA/PHA/PO/PHO/MO/YO/RO/LO/VO/SHA/SSO/SA/HA/LA/QA
17A3 KHMER INDEPENDENT VOWEL /QAQ/QAA/QI
17A6 KHMER INDEPENDENT VOWEL /QII/QU/QUK/QUU/QUUV/RY/RYY/LY/LYY/QE/QAI/QOO TYPE ONE/QOO TYPE TWO/QAU
17B4 KHMER VOWEL INHERENT /AQ/AA
17B6 KHMER VOWEL SIGN /AA/I/II/Y/YY/U/UU/UA/OE/YA/IE/E/AE/AI/OO/AU
17C6 KHMER SIGN /NIKAHIT/REAHMUK/YUUKALEAPINTU
17C9 KHMER SIGN /MUUSIKATOAN/TRIISAP/BANTOC/ROBAT/TOANDAKHIAT/KAKABAT/AHSDA/SAMYOK SANNYA/VIRIAM
17D2 KHMER SIGN /COENG/BATHAMASAT/KHAN/BARIYOOSAN/CAMNUC PII KUUH/LEK TOO/BEYYAL/PHNAEK MUAN/KOOMUUT
17DB KHMER /CURRENCY SYMBOL RIEL/SIGN AVAKRAHASANYA/SIGN ATTHACAN
17E0 KHMER DIGIT /ZERO/ONE/TWO/THREE/FOUR/FIVE/SIX/SEVEN/EIGHT/NINE
17F0 KHMER SYMBOL LEK ATTAK /SON/MUOY/PII/BEI/BUON/PRAM/PRAM-MUOY/PRAM-PII/PRAM-BEI/PRAM-BUON
1800 MONGOLIAN /BIRGA/ELLIPSIS/COMMA/FULL STOP/COLON/FOUR DOTS
1806 MONGOLIAN /TODO SOFT HYPHEN/SIBE SYLLABLE BOUNDARY MARKER/MANCHU COMMA/MANCHU FULL STOP/NIRUGU
180B MONGOLIAN FREE VARIATION SELECTOR /ONE/TWO/THREE
180E MONGOLIAN /VOWEL SEPARATOR/FREE VARIATION SELECTOR FOUR
1810 MONGOLIAN DIGIT /ZERO/ONE/TWO/THREE/FOUR/FIVE/SIX/SEVEN/EIGHT/NINE
1820 MONGOLIAN LETTER /A/E/I/O/U/OE/UE/EE/NA/ANG/BA/PA/QA/GA/MA/LA/SA/SHA/TA/DA/CHA/JA/YA/RA/WA/FA
183A MONGOLIAN LETTER /KA/KHA/TSA/ZA/HAA/ZRA/LHA/ZHI/CHI/TODO LONG VOWEL SIGN/TODO E/TODO I/TODO O
1847 MONGOLIAN LETTER TODO /U/OE/UE/ANG/BA/PA/QA/GA/MA/TA/DA/CHA/JA/TSA/YA/WA/KA/GAA/HAA/JIA/NIA/DZA
185D MONGOLIAN LETTER SIBE /E/I/IY/UE/U/ANG/KA/GA/HA/PA/SHA/TA/DA/JA/FA/GAA/HAA/TSA/ZA/RAA/CHA/ZHA
1873 MONGOLIAN LETTER MANCHU /I/KA/RA/FA/ZHA
1878 MONGOLIAN LETTER CHA WITH TWO /DOTS
1880 MONGOLIAN LETTER ALI GALI /ANUSVARA ONE/VISARGA ONE/DAMARU/UBADAMA/INVERTED UBADAMA/BALUDA
1886 MONGOLIAN LETTER ALI GALI /THREE BALUDA/A/I/KA/NGA/CA/TTA/TTHA/DDA/NNA/TA/DA/PA/PHA/SSA/ZHA/ZA
1897 MONGOLIAN LETTER /ALI GALI AH/TODO ALI GALI TA/TODO ALI GALI ZHA
189A MONGOLIAN LETTER MANCHU ALI GALI /GHA/NGA/CA/JHA/TTA/DDHA/TA/DHA/SSA/CYA/ZHA/ZA
18A6 MONGOLIAN LETTER ALI GALI HALF /U/YA
18A8 MONGOLIAN LETTER /MANCHU ALI GALI BHA/ALI GALI DAGALGA/MANCHU ALI GALI LHA
18B0 CANADIAN SYLLABICS /OY/AY/AAY/WAY/POY/PAY/PWOY/TAY/KAY/KWAY
18BA CANADIAN SYLLABICS /MAY/NOY/NAY/LAY/SOY/SAY/SHOY/SHAY/SHWOY/YOY/YAY/RAY/NWI/OJIBWAY NWI/NWII
18C9 CANADIAN SYLLABICS /OJIBWAY NWII/NWO/OJIBWAY NWO/NWOO/OJIBWAY NWOO/RWEE/RWI/RWII/RWO/RWOO/RWA
18D4 CANADIAN SYLLABICS OJIBWAY /P/T/K/C/M/N/S/SH
18DC CANADIAN SYLLABICS /EASTERN W/WESTERN W/FINAL SMALL RING/FINAL RAISED DOT/R-CREE RWE
18E1 CANADIAN SYLLABICS /WEST-CREE LOO/WEST-CREE LAA/THWE/THWA/TTHWE/TTHOO/TTHAA/TLHWE/TLHOO
18EA CANADIAN SYLLABICS SAYISI /SHWE/SHOO/HOO
18ED CANADIAN SYLLABICS CARRIER /GWU/DENE GEE/GAA/GWA
18F1 CANADIAN SYLLABICS /SAYISI JUU/CARRIER JWA/BEAVER DENE L/BEAVER DENE R/CARRIER DENTAL S
1900 LIMBU VOWEL-CARRIER /LETTER
1901 LIMBU LETTER /KA/KHA/GA/GHA/NGA/CA/CHA
1908 LIMBU LETTER /JA/JHA/YAN/TA/THA/DA/DHA/NA/PA/PHA/BA/BHA/MA/YA/RA/LA/WA/SHA/SSA/SA/HA/GYAN/TRA
1920 LIMBU VOWEL SIGN /A/I/U/EE/AI/OO/AU/E/O
1929 LIMBU SUBJOINED LETTER /YA/RA/WA
1930 LIMBU SMALL LETTER /KA/NGA/ANUSVARA/TA/NA/PA/MA/RA/LA
1939 LIMBU SIGN /MUKPHRENG/KEMPHRENG/SA-I
1940 LIMBU SIGN /LOO
1944 LIMBU /EXCLAMATION MARK/QUESTION MARK
1946 LIMBU DIGIT /ZERO/ONE/TWO/THREE/FOUR/FIVE/SIX/SEVEN/EIGHT/NINE
1950 TAI LE LETTER /KA/XA/NGA/TSA
1954 TAI LE LETTER /SA/YA/TA/THA/LA/PA/PHA/MA/FA/VA/HA/QA/KHA/TSHA/NA/A/I/EE/EH/U/OO/O/UE/E/AUE/AI
1970 TAI LE LETTER /TONE-2/TONE-3/TONE-4/TONE-5/TONE-6
1980 NEW TAI LUE LETTER /HIGH QA/LOW QA/HIGH KA/HIGH XA/HIGH NGA/LOW KA/LOW XA
1987 NEW TAI LUE LETTER /LOW NGA/HIGH TSA/HIGH SA/HIGH YA/LOW TSA/LOW SA/LOW YA/HIGH TA/HIGH THA
1990 NEW TAI LUE LETTER /HIGH NA/LOW TA/LOW THA/LOW NA/HIGH PA/HIGH PHA/HIGH MA/LOW PA/LOW PHA
1999 NEW TAI LUE LETTER /LOW MA/HIGH FA/HIGH VA/HIGH LA/LOW FA/LOW VA/LOW LA/HIGH HA/HIGH DA/HIGH BA
19A3 NEW TAI LUE LETTER /LOW HA/LOW DA/LOW BA/HIGH KVA/HIGH XVA/LOW KVA/LOW XVA/HIGH SUA/LOW SUA
19B0 NEW TAI LUE VOWEL SIGN /VOWEL SHORTENER/AA/II/U/UU/E/AE/O/OA/UE/AY/AAY/UY/OY/OAY/UEY/IY
19C1 NEW TAI LUE LETTER FINAL /V/NG/N/M/K/D/B
19C8 NEW TAI LUE TONE /MARK-1/MARK-2
19D0 NEW TAI LUE DIGIT /ZERO/ONE/TWO/THREE/FOUR/FIVE/SIX/SEVEN/EIGHT/NINE
19DA NEW TAI LUE THAM DIGIT /ONE
19DE NEW TAI LUE SIGN /LAE/LAEV
19E0 KHMER SYMBOL /PATHAMASAT/MUOY KOET/PII KOET/BEI KOET/BUON KOET/PRAM KOET
19E6 KHMER SYMBOL /PRAM-MUOY KOET/PRAM-PII KOET/PRAM-BEI KOET/PRAM-BUON KOET/DAP KOET/DAP-MUOY KOET
19EC KHMER SYMBOL /DAP-PII KOET/DAP-BEI KOET/DAP-BUON KOET/DAP-PRAM KOET/TUTEYASAT/MUOY ROC/PII ROC
19F3 KHMER SYMBOL /BEI ROC/BUON ROC/PRAM ROC/PRAM-MUOY ROC/PRAM-PII ROC/PRAM-BEI ROC/PRAM-BUON ROC
19FA KHMER SYMBOL /DAP ROC/DAP-MUOY ROC/DAP-PII ROC/DAP-BEI ROC/DAP-BUON ROC/DAP-PRAM ROC
1A00 BUGINESE LETTER /KA/GA/NGA/NGKA/PA/BA/MA/MPA/TA/DA/NA/NRA/CA/JA/NYA/NYCA/YA/RA/LA/VA/SA/A/HA
1A17 BUGINESE VOWEL SIGN /I/U/E/O/AE
1A1E BUGINESE /PALLAWA/END OF SECTION
1A20 TAI THAM LETTER HIGH /KA/KHA/KXA
1A23 TAI THAM LETTER /LOW KA/LOW KXA/LOW KHA/NGA/HIGH CA/HIGH CHA/LOW CA/LOW SA/LOW CHA
1A2C TAI THAM LETTER /NYA/RATA/HIGH RATHA/DA/LOW RATHA/RANA/HIGH TA/HIGH THA/LOW TA/LOW THA/NA/BA
1A38 TAI THAM LETTER /HIGH PA/HIGH PHA/HIGH FA/LOW PA/LOW FA/LOW PHA/MA/LOW YA/HIGH YA/RA/RUE/LA/LUE
1A45 TAI THAM LETTER /WA/HIGH SHA/HIGH SSA/HIGH SA/HIGH HA/LLA/A/LOW HA/I/II/U/UU/EE/OO/LAE/GREAT SA
1A55 TAI THAM CONSONANT SIGN /MEDIAL RA/MEDIAL LA/LA TANG LAI
1A58 TAI THAM SIGN MAI KANG /LAI
1A59 TAI THAM CONSONANT SIGN /FINAL NGA/LOW PA/HIGH RATHA OR LOW PA/MA/BA/SA
1A60 TAI THAM SIGN /SAKOT
1A61 TAI THAM VOWEL SIGN /A/MAI SAT/AA/TALL AA/I/II/UE/UUE/U/UU/O/OA BELOW/OY/E/AE/OO/AI/THAM AI
1A73 TAI THAM /VOWEL SIGN OA ABOVE/SIGN MAI KANG/SIGN TONE-1
1A76 TAI THAM SIGN /TONE-2/KHUEN TONE-3/KHUEN TONE-4/KHUEN TONE-5/RA HAAM/MAI SAM/KHUEN-LUE KARAN
1A7F TAI THAM COMBINING CRYPTOGRAMMIC /DOT
1A80 TAI THAM HORA DIGIT /ZERO/ONE/TWO/THREE/FOUR/FIVE/SIX/SEVEN/EIGHT/NINE
1A90 TAI THAM THAM DIGIT /ZERO/ONE/TWO/THREE/FOUR/FIVE/SIX/SEVEN/EIGHT/NINE
1AA0 TAI THAM SIGN /WIANG/WIANGWAAK/SAWAN/KEOW/HOY/DOKMAI
1AA6 TAI THAM SIGN /REVERSED ROTATED RANA/MAI YAMOK/KAAN/KAANKUU/SATKAAN/SATKAANKUU/HANG/CAANG
1AB0 COMBINING /DOUBLED CIRCUMFLEX ACCENT/DIAERESIS-RING/INFINITY/DOWNWARDS ARROW
1AB4 COMBINING /TRIPLE DOT/X-X BELOW/WIGGLY LINE BELOW/OPEN MARK BELOW/DOUBLE OPEN MARK BELOW
1AB9 COMBINING /LIGHT CENTRALIZATION STROKE BELOW/STRONG CENTRALIZATION STROKE BELOW
1ABB COMBINING /PARENTHESES ABOVE/DOUBLE PARENTHESES ABOVE/PARENTHESES BELOW/PARENTHESES OVERLAY
1ABF COMBINING LATIN SMALL LETTER /W BELOW/TURNED W BELOW
1AC1 COMBINING /LEFT PARENTHESIS ABOVE LEFT/RIGHT PARENTHESIS ABOVE RIGHT
1AC3 COMBINING /LEFT PARENTHESIS BELOW LEFT/RIGHT PARENTHESIS BELOW RIGHT
1AC5 COMBINING /SQUARE BRACKETS ABOVE/NUMBER SIGN ABOVE/INVERTED DOUBLE ARCH ABOVE/PLUS SIGN ABOVE
1AC9 COMBINING DOUBLE PLUS SIGN /ABOVE/BELOW
1ACB COMBINING TRIPLE ACUTE /ACCENT
1ACC COMBINING LATIN SMALL LETTER INSULAR /G/R/T
1B00 BALINESE SIGN /ULU RICEM/ULU CANDRA/CECEK/SURANG/BISAH
1B05 BALINESE LETTER /AKARA/AKARA TEDUNG/IKARA/IKARA TEDUNG/UKARA/UKARA TEDUNG
1B0B BALINESE LETTER /RA REPA/RA REPA TEDUNG/LA LENGA/LA LENGA TEDUNG/EKARA/AIKARA/OKARA
1B12 BALINESE LETTER /OKARA TEDUNG/KA/KA MAHAPRANA/GA/GA GORA/NGA/CA/CA LACA/JA/JA JERA/NYA/TA LATIK
1B1E BALINESE LETTER /TA MURDA MAHAPRANA/DA MURDA ALPAPRANA/DA MURDA MAHAPRANA/NA RAMBAT/TA/TA TAWA
1B24 BALINESE LETTER /DA/DA MADU/NA/PA/PA KAPAL/BA/BA KEMBANG/MA/YA/RA/LA/WA/SA SAGA/SA SAPA/SA/HA
1B34 BALINESE SIGN /REREKAN
1B35 BALINESE VOWEL SIGN /TEDUNG/ULU/ULU SARI/SUKU/SUKU ILUT/RA REPA/RA REPA TEDUNG/LA LENGA
1B3D BALINESE VOWEL SIGN /LA LENGA TEDUNG/TALING/TALING REPA/TALING TEDUNG/TALING REPA TEDUNG/PEPET
1B43 BALINESE /VOWEL SIGN PEPET TEDUNG/ADEG ADEG/LETTER KAF SASAK
1B46 BALINESE LETTER /KHOT SASAK/TZIR SASAK/EF SASAK/VE SASAK/ZAL SASAK/ASYURA SASAK/ARCHAIC JNYA
1B50 BALINESE DIGIT /ZERO/ONE/TWO/THREE/FOUR/FIVE/SIX/SEVEN/EIGHT/NINE
1B5A BALINESE /PANTI/PAMADA/WINDU/CARIK PAMUNGKAH/CARIK SIKI/CARIK PAREREN/PAMENENG
1B61 BALINESE MUSICAL SYMBOL /DONG/DENG/DUNG/DANG/DANG SURANG/DING/DAENG/DEUNG/DAING/DANG GEDE
1B6B BALINESE MUSICAL SYMBOL COMBINING /TEGEH/ENDEP/KEMPUL/KEMPLI
1B6F BALINESE MUSICAL SYMBOL COMBINING /JEGOGAN/KEMPUL WITH JEGOGAN/KEMPLI WITH JEGOGAN/BENDE/GONG
1B74 BALINESE MUSICAL SYMBOL RIGHT-HAND /OPEN DUG/OPEN DAG/CLOSED TUK/CLOSED TAK
1B78 BALINESE MUSICAL SYMBOL LEFT-HAND /OPEN PANG/OPEN PUNG/CLOSED PLAK/CLOSED PLUK/OPEN PING
1B7D BALINESE /PANTI LANTANG/PAMADA LANTANG
1B80 SUNDANESE SIGN /PANYECEK/PANGLAYAR/PANGWISAD
1B83 SUNDANESE LETTER /A/I/U/AE
1B87 SUNDANESE LETTER /O/E/EU/KA/QA/GA/NGA/CA/JA/ZA/NYA/TA/DA/NA/PA/FA/VA/BA/MA/YA/RA/LA/WA/SA/XA/HA
1BA1 SUNDANESE CONSONANT SIGN /PAMINGKAL/PANYAKRA/PANYIKU
1BA4 SUNDANESE VOWEL SIGN /PANGHULU/PANYUKU/PANAELAENG/PANOLONG/PAMEPET/PANEULEUNG
1BAA SUNDANESE SIGN /PAMAAEH/VIRAMA
1BAC SUNDANESE CONSONANT SIGN PASANGAN /MA/WA
1BAE SUNDANESE LETTER /KHA/SYA
1BB0 SUNDANESE DIGIT /ZERO/ONE/TWO/THREE/FOUR/FIVE/SIX/SEVEN/EIGHT/NINE
1BBA SUNDANESE /AVAGRAHA
1BBB SUNDANESE LETTER /REU/LEU/BHA/FINAL K/FINAL M
1BC0 BATAK LETTER /A/SIMALUNGUN A/HA/SIMALUNGUN HA/MANDAILING HA/BA/KARO BA
1BC7 BATAK LETTER /PA/SIMALUNGUN PA/NA/MANDAILING NA/WA/SIMALUNGUN WA/PAKPAK WA/GA/SIMALUNGUN GA
1BD0 BATAK LETTER /JA/DA/RA/SIMALUNGUN RA/MA/SIMALUNGUN MA/SOUTHERN TA/NORTHERN TA/SA/SIMALUNGUN SA
1BDA BATAK LETTER /MANDAILING SA/YA/SIMALUNGUN YA/NGA/LA/SIMALUNGUN LA/NYA/CA/NDA/MBA/I/U
1BE6 BATAK SIGN /TOMPI
1BE7 BATAK VOWEL SIGN /E/PAKPAK E/EE/I/KARO I/O/KARO O/U/U FOR SIMALUNGUN SA
1BF0 BATAK CONSONANT SIGN /NG/H
1BF2 BATAK /PANGOLAT/PANONGONAN
1BFC BATAK SYMBOL BINDU /NA METEK/PINARBORAS/JUDUL/PANGOLAT
1C00 LEPCHA LETTER /KA/KLA/KHA/GA/GLA/NGA/CA/CHA/JA/NYA/TA/THA/DA
1C0D LEPCHA LETTER /NA/PA/PLA/PHA/FA/FLA/BA/BLA/MA/MLA/TSA/TSHA/DZA/YA/RA/LA/HA/HLA/VA/SA/SHA/WA/A
1C24 LEPCHA SUBJOINED LETTER /YA/RA
1C26 LEPCHA VOWEL SIGN /AA/I/O/OO/U/UU/E
1C2D LEPCHA CONSONANT SIGN /K/M/L/N/P/R/T/NYIN-DO/KANG
1C36 LEPCHA SIGN /RAN/NUKTA
1C3B LEPCHA PUNCTUATION /TA-ROL/NYET THYOOM TA-ROL/CER-WA/TSHOOK CER-WA/TSHOOK
1C40 LEPCHA DIGIT /ZERO/ONE/TWO/THREE/FOUR/FIVE/SIX/SEVEN/EIGHT/NINE
1C4D LEPCHA LETTER /TTA/TTHA/DDA
1C50 OL CHIKI DIGIT /ZERO/ONE/TWO/THREE/FOUR/FIVE/SIX/SEVEN/EIGHT/NINE
1C5A OL CHIKI LETTER /LA/AT/AG/ANG/AL/LAA/AAK
1C61 OL CHIKI LETTER /AAJ/AAM/AAW/LI/IS/IH/INY/IR/LU/UC/UD/UNN/UY/LE/EP/EDD/EN/ERR/LO/OTT/OB/OV/OH
1C78 OL CHIKI /MU TTUDDAG/GAAHLAA TTUDDAAG/MU-GAAHLAA TTUDDAAG/RELAA/PHAARKAA/AHAD
1C7E OL CHIKI PUNCTUATION /MUCAAD/DOUBLE MUCAAD
1C80 CYRILLIC SMALL LETTER /ROUNDED VE/LONG-LEGGED DE/NARROW O
1C83 CYRILLIC SMALL LETTER /WIDE ES/TALL TE/THREE-LEGGED TE/TALL HARD SIGN/TALL YAT/UNBLENDED UK
1C90 GEORGIAN MTAVRULI CAPITAL LETTER /AN/BAN/GAN/DON/EN/VIN/ZEN/TAN/IN/KAN/LAS/MAN/NAR/ON/PAR/ZHAR
1CA0 GEORGIAN MTAVRULI CAPITAL LETTER /RAE/SAN/TAR/UN/PHAR/KHAR/GHAN/QAR/SHIN/CHIN/CAN/JIL/CIL/CHAR
1CAE GEORGIAN MTAVRULI CAPITAL LETTER /XAN/JHAN/HAE/HE/HIE/WE/HAR/HOE/FI/YN/ELIFI/TURNED GAN/AIN
1CBD GEORGIAN MTAVRULI CAPITAL LETTER /AEN/HARD SIGN/LABIAL SIGN
1CC0 SUNDANESE PUNCTUATION BINDU /SURYA/PANGLONG
1CC2 SUNDANESE PUNCTUATION BINDU /PURNAMA/CAKRA/LEU SATANGA/KA SATANGA/DA SATANGA/BA SATANGA
1CD0 VEDIC TONE /KARSHANA/SHARA/PRENKHA
1CD3 VEDIC SIGN /NIHSHVASA/YAJURVEDIC MIDLINE SVARITA
1CD5 VEDIC TONE YAJURVEDIC AGGRAVATED INDEPENDENT /SVARITA
1CD6 VEDIC TONE YAJURVEDIC /INDEPENDENT SVARITA/KATHAKA INDEPENDENT SVARITA
1CD8 VEDIC TONE /CANDRA BELOW/YAJURVEDIC KATHAKA INDEPENDENT SVARITA SCHROEDER/DOUBLE SVARITA
1CDB VEDIC TONE /TRIPLE SVARITA/KATHAKA ANUDATTA/DOT BELOW/TWO DOTS BELOW/THREE DOTS BELOW
1CE0 VEDIC TONE /RIGVEDIC KASHMIRI INDEPENDENT SVARITA/ATHARVAVEDIC INDEPENDENT SVARITA
1CE2 VEDIC SIGN /VISARGA SVARITA/VISARGA UDATTA/REVERSED VISARGA UDATTA/VISARGA ANUDATTA
1CE6 VEDIC SIGN /REVERSED VISARGA ANUDATTA/VISARGA UDATTA WITH TAIL/VISARGA ANUDATTA WITH TAIL
1CE9 VEDIC SIGN ANUSVARA /ANTARGOMUKHA/BAHIRGOMUKHA/VAMAGOMUKHA/VAMAGOMUKHA WITH TAIL
1CED VEDIC SIGN /TIRYAK/HEXIFORM LONG ANUSVARA/LONG ANUSVARA
1CF0 VEDIC SIGN /RTHANG LONG ANUSVARA/ANUSVARA UBHAYATO MUKHA/ARDHAVISARGA/ROTATED ARDHAVISARGA
1CF4 VEDIC /TONE CANDRA ABOVE/SIGN JIHVAMULIYA/SIGN UPADHMANIYA
1CF7 VEDIC /SIGN ATIKRAMA/TONE RING ABOVE/TONE DOUBLE RING ABOVE/SIGN DOUBLE ANUSVARA ANTARGOMUKHA
1D00 LATIN LETTER SMALL CAPITAL /A/AE
1D02 LATIN SMALL LETTER TURNED /AE
1D03 LATIN LETTER SMALL CAPITAL /BARRED B/C/D/ETH/E
1D08 LATIN SMALL LETTER TURNED /OPEN E/I
1D0A LATIN LETTER SMALL CAPITAL /J/K/L WITH STROKE/M/REVERSED N/O/OPEN O
1D11 LATIN SMALL LETTER SIDEWAYS /O/OPEN O/O WITH STROKE
1D14 LATIN /SMALL LETTER TURNED OE/LETTER SMALL CAPITAL OU
1D16 LATIN SMALL LETTER /TOP HALF O/BOTTOM HALF O
1D18 LATIN LETTER SMALL CAPITAL /P/REVERSED R/TURNED R/T/U
1D1D LATIN SMALL LETTER SIDEWAYS /U/DIAERESIZED U/TURNED M
1D20 LATIN LETTER SMALL CAPITAL /V/W/Z/EZH
1D24 LATIN LETTER /VOICED LARYNGEAL SPIRANT/AIN
1D26 GREEK LETTER SMALL CAPITAL /GAMMA/LAMDA/PI/RHO/PSI
1D2B /CYRILLIC LETTER SMALL CAPITAL EL/MODIFIER LETTER CAPITAL A
1D2D MODIFIER LETTER CAPITAL /AE/B/BARRED B/D/E/REVERSED E/G/H/I/J/K/L/M/N/REVERSED N/O/OU/P/R/T/U/W
1D43 MODIFIER LETTER SMALL /A/TURNED A/ALPHA/TURNED AE/B/D/E/SCHWA/OPEN E
1D4C MODIFIER LETTER SMALL /TURNED OPEN E/G/TURNED I/K/M/ENG/O/OPEN O/TOP HALF O/BOTTOM HALF O
1D56 MODIFIER LETTER SMALL /P/T/U/SIDEWAYS U/TURNED M/V/AIN/BETA/GREEK GAMMA/DELTA/GREEK PHI/CHI
1D62 LATIN SUBSCRIPT SMALL LETTER /I/R/U/V
1D66 GREEK SUBSCRIPT SMALL LETTER /BETA/GAMMA/RHO/PHI/CHI
1D6B LATIN SMALL LETTER /UE/B WITH MIDDLE TILDE/D WITH MIDDLE TILDE/F WITH MIDDLE TILDE
1D6F LATIN SMALL LETTER /M WITH MIDDLE TILDE/N WITH MIDDLE TILDE/P WITH MIDDLE TILDE
1D72 LATIN SMALL LETTER R WITH /MIDDLE TILDE/FISHHOOK AND MIDDLE TILDE
1D74 LATIN SMALL LETTER /S WITH MIDDLE TILDE/T WITH MIDDLE TILDE/Z WITH MIDDLE TILDE/TURNED G
1D78 MODIFIER LETTER CYRILLIC /EN
1D79 LATIN SMALL LETTER /INSULAR G/TH WITH STRIKETHROUGH
1D7B LATIN SMALL /CAPITAL LETTER I WITH STROKE/LETTER IOTA WITH STROKE/LETTER P WITH STROKE
1D7E LATIN SMALL /CAPITAL LETTER U WITH STROKE/LETTER UPSILON WITH STROKE/LETTER B WITH PALATAL HOOK
1D81 LATIN SMALL LETTER /D WITH PALATAL HOOK/F WITH PALATAL HOOK/G WITH PALATAL HOOK
1D84 LATIN SMALL LETTER /K WITH PALATAL HOOK/L WITH PALATAL HOOK/M WITH PALATAL HOOK
1D87 LATIN SMALL LETTER /N WITH PALATAL HOOK/P WITH PALATAL HOOK/R WITH PALATAL HOOK
1D8A LATIN SMALL LETTER /S WITH PALATAL HOOK/ESH WITH PALATAL HOOK/V WITH PALATAL HOOK
1D8D LATIN SMALL LETTER /X WITH PALATAL HOOK/Z WITH PALATAL HOOK/A WITH RETROFLEX HOOK
1D90 LATIN SMALL LETTER /ALPHA WITH RETROFLEX HOOK/D WITH HOOK AND TAIL/E WITH RETROFLEX HOOK
1D93 LATIN SMALL LETTER /OPEN E WITH RETROFLEX HOOK/REVERSED OPEN E WITH RETROFLEX HOOK
1D95 LATIN SMALL LETTER /SCHWA WITH RETROFLEX HOOK/I WITH RETROFLEX HOOK/OPEN O WITH RETROFLEX HOOK
1D98 LATIN SMALL LETTER /ESH WITH RETROFLEX HOOK/U WITH RETROFLEX HOOK/EZH WITH RETROFLEX HOOK
1D9B MODIFIER LETTER SMALL /TURNED ALPHA/C/C WITH CURL
1D9E MODIFIER LETTER SMALL /ETH/REVERSED OPEN E/F/DOTLESS J WITH STROKE/SCRIPT G/TURNED H
1DA4 MODIFIER LETTER SMALL /I WITH STROKE/IOTA/CAPITAL I/CAPITAL I WITH STROKE/J WITH CROSSED-TAIL
1DA9 MODIFIER LETTER SMALL /L WITH RETROFLEX HOOK/L WITH PALATAL HOOK/CAPITAL L/M WITH HOOK
1DAD MODIFIER LETTER SMALL /TURNED M WITH LONG LEG/N WITH LEFT HOOK/N WITH RETROFLEX HOOK/CAPITAL N
1DB1 MODIFIER LETTER SMALL /BARRED O/PHI/S WITH HOOK/ESH/T WITH PALATAL HOOK/U BAR/UPSILON/CAPITAL U
1DB9 MODIFIER LETTER SMALL /V WITH HOOK/TURNED V/Z/Z WITH RETROFLEX HOOK/Z WITH CURL/EZH/THETA
1DC0 COMBINING /DOTTED GRAVE ACCENT/DOTTED ACUTE ACCENT/SNAKE BELOW/SUSPENSION MARK
1DC4 COMBINING /MACRON-ACUTE/GRAVE-MACRON/MACRON-GRAVE/ACUTE-MACRON/GRAVE-ACUTE-GRAVE
1DC9 COMBINING /ACUTE-GRAVE-ACUTE/LATIN SMALL LETTER R BELOW/BREVE-MACRON/MACRON-BREVE
1DCD COMBINING /DOUBLE CIRCUMFLEX ABOVE/OGONEK ABOVE/ZIGZAG BELOW/IS BELOW/UR ABOVE/US ABOVE
1DD3 COMBINING LATIN SMALL LETTER /FLATTENED OPEN A ABOVE/AE/AO/AV/C CEDILLA/INSULAR D/ETH/G
1DDB COMBINING LATIN /LETTER SMALL CAPITAL G/SMALL LETTER K/SMALL LETTER L
1DDE COMBINING LATIN LETTER SMALL CAPITAL /L/M
1DE0 COMBINING LATIN /SMALL LETTER N/LETTER SMALL CAPITAL N/LETTER SMALL CAPITAL R
1DE3 COMBINING LATIN SMALL LETTER /R ROTUNDA/S/LONG S/Z/ALPHA/B/BETA/SCHWA
1DEB COMBINING LATIN SMALL LETTER /F/L WITH DOUBLE MIDDLE TILDE/O WITH LIGHT CENTRALIZATION STROKE
1DEE COMBINING LATIN SMALL LETTER /P/ESH/U WITH LIGHT CENTRALIZATION STROKE
1DF1 COMBINING LATIN SMALL LETTER /W/A WITH DIAERESIS/O WITH DIAERESIS/U WITH DIAERESIS
1DF5 COMBINING /UP TACK ABOVE/KAVYKA ABOVE RIGHT/KAVYKA ABOVE LEFT/DOT ABOVE LEFT
1DF9 COMBINING /WIDE INVERTED BRIDGE BELOW/DOT BELOW LEFT/DELETION MARK/DOUBLE INVERTED BREVE BELOW
1DFD COMBINING /ALMOST EQUAL TO BELOW/LEFT ARROWHEAD ABOVE/RIGHT ARROWHEAD AND DOWN ARROWHEAD BELOW
1E00 LATIN CAPITAL LETTER A WITH RING /BELOW
1E01 LATIN /SMALL LETTER A WITH RING BELOW/CAPITAL LETTER B WITH DOT ABOVE
1E03 LATIN /SMALL LETTER B WITH DOT ABOVE/CAPITAL LETTER B WITH DOT BELOW
1E05 LATIN /SMALL LETTER B WITH DOT BELOW/CAPITAL LETTER B WITH LINE BELOW
1E07 LATIN /SMALL LETTER B WITH LINE BELOW/CAPITAL LETTER C WITH CEDILLA AND ACUTE
1E09 LATIN /SMALL LETTER C WITH CEDILLA AND ACUTE/CAPITAL LETTER D WITH DOT ABOVE
1E0B LATIN /SMALL LETTER D WITH DOT ABOVE/CAPITAL LETTER D WITH DOT BELOW
1E0D LATIN /SMALL LETTER D WITH DOT BELOW/CAPITAL LETTER D WITH LINE BELOW
1E0F LATIN /SMALL LETTER D WITH LINE BELOW/CAPITAL LETTER D WITH CEDILLA/SMALL LETTER D WITH CEDILLA
1E12 LATIN /CAPITAL LETTER D WITH CIRCUMFLEX BELOW/SMALL LETTER D WITH CIRCUMFLEX BELOW
1E14 LATIN /CAPITAL LETTER E WITH MACRON AND GRAVE/SMALL LETTER E WITH MACRON AND GRAVE
1E16 LATIN /CAPITAL LETTER E WITH MACRON AND ACUTE/SMALL LETTER E WITH MACRON AND ACUTE
1E18 LATIN /CAPITAL LETTER E WITH CIRCUMFLEX BELOW/SMALL LETTER E WITH CIRCUMFLEX BELOW
1E1A LATIN /CAPITAL LETTER E WITH TILDE BELOW/SMALL LETTER E WITH TILDE BELOW
1E1C LATIN /CAPITAL LETTER E WITH CEDILLA AND BREVE/SMALL LETTER E WITH CEDILLA AND BREVE
1E1E LATIN /CAPITAL LETTER F WITH DOT ABOVE/SMALL LETTER F WITH DOT ABOVE
1E20 LATIN /CAPITAL LETTER G WITH MACRON/SMALL LETTER G WITH MACRON/CAPITAL LETTER H WITH DOT ABOVE
1E23 LATIN /SMALL LETTER H WITH DOT ABOVE/CAPITAL LETTER H WITH DOT BELOW
1E25 LATIN /SMALL LETTER H WITH DOT BELOW/CAPITAL LETTER H WITH DIAERESIS
1E27 LATIN /SMALL LETTER H WITH DIAERESIS/CAPITAL LETTER H WITH CEDILLA/SMALL LETTER H WITH CEDILLA
1E2A LATIN /CAPITAL LETTER H WITH BREVE BELOW/SMALL LETTER H WITH BREVE BELOW
1E2C LATIN /CAPITAL LETTER I WITH TILDE BELOW/SMALL LETTER I WITH TILDE BELOW
1E2E LATIN /CAPITAL LETTER I WITH DIAERESIS AND ACUTE/SMALL LETTER I WITH DIAERESIS AND ACUTE
1E30 LATIN /CAPITAL LETTER K WITH ACUTE/SMALL LETTER K WITH ACUTE/CAPITAL LETTER K WITH DOT BELOW
1E33 LATIN /SMALL LETTER K WITH DOT BELOW/CAPITAL LETTER K WITH LINE BELOW
1E35 LATIN /SMALL LETTER K WITH LINE BELOW/CAPITAL LETTER L WITH DOT BELOW
1E37 LATIN /SMALL LETTER L WITH DOT BELOW/CAPITAL LETTER L WITH DOT BELOW AND MACRON
1E39 LATIN /SMALL LETTER L WITH DOT BELOW AND MACRON/CAPITAL LETTER L WITH LINE BELOW
1E3B LATIN /SMALL LETTER L WITH LINE BELOW/CAPITAL LETTER L WITH CIRCUMFLEX BELOW
1E3D LATIN /SMALL LETTER L WITH CIRCUMFLEX BELOW/CAPITAL LETTER M WITH ACUTE
1E3F LATIN /SMALL LETTER M WITH ACUTE/CAPITAL LETTER M WITH DOT ABOVE/SMALL LETTER M WITH DOT ABOVE
1E42 LATIN /CAPITAL LETTER M WITH DOT BELOW/SMALL LETTER M WITH DOT BELOW
1E44 LATIN /CAPITAL LETTER N WITH DOT ABOVE/SMALL LETTER N WITH DOT ABOVE
1E46 LATIN /CAPITAL LETTER N WITH DOT BELOW/SMALL LETTER N WITH DOT BELOW
1E48 LATIN /CAPITAL LETTER N WITH LINE BELOW/SMALL LETTER N WITH LINE BELOW
1E4A LATIN /CAPITAL LETTER N WITH CIRCUMFLEX BELOW/SMALL LETTER N WITH CIRCUMFLEX BELOW
1E4C LATIN /CAPITAL LETTER O WITH TILDE AND ACUTE/SMALL LETTER O WITH TILDE AND ACUTE
1E4E LATIN /CAPITAL LETTER O WITH TILDE AND DIAERESIS/SMALL LETTER O WITH TILDE AND DIAERESIS
1E50 LATIN /CAPITAL LETTER O WITH MACRON AND GRAVE/SMALL LETTER O WITH MACRON AND GRAVE
1E52 LATIN /CAPITAL LETTER O WITH MACRON AND ACUTE/SMALL LETTER O WITH MACRON AND ACUTE
1E54 LATIN /CAPITAL LETTER P WITH ACUTE/SMALL LETTER P WITH ACUTE/CAPITAL LETTER P WITH DOT ABOVE
1E57 LATIN /SMALL LETTER P WITH DOT ABOVE/CAPITAL LETTER R WITH DOT ABOVE
1E59 LATIN /SMALL LETTER R WITH DOT ABOVE/CAPITAL LETTER R WITH DOT BELOW
1E5B LATIN /SMALL LETTER R WITH DOT BELOW/CAPITAL LETTER R WITH DOT BELOW AND MACRON
1E5D LATIN /SMALL LETTER R WITH DOT BELOW AND MACRON/CAPITAL LETTER R WITH LINE BELOW
1E5F LATIN /SMALL LETTER R WITH LINE BELOW/CAPITAL LETTER S WITH DOT ABOVE
1E61 LATIN /SMALL LETTER S WITH DOT ABOVE/CAPITAL LETTER S WITH DOT BELOW
1E63 LATIN /SMALL LETTER S WITH DOT BELOW/CAPITAL LETTER S WITH ACUTE AND DOT ABOVE
1E65 LATIN /SMALL LETTER S WITH ACUTE AND DOT ABOVE/CAPITAL LETTER S WITH CARON AND DOT ABOVE
1E67 LATIN /SMALL LETTER S WITH CARON AND DOT ABOVE/CAPITAL LETTER S WITH DOT BELOW AND DOT ABOVE
1E69 LATIN SMALL LETTER S WITH DOT BELOW AND DOT /ABOVE
1E6A LATIN /CAPITAL LETTER T WITH DOT ABOVE/SMALL LETTER T WITH DOT ABOVE
1E6C LATIN /CAPITAL LETTER T WITH DOT BELOW/SMALL LETTER T WITH DOT BELOW
1E6E LATIN /CAPITAL LETTER T WITH LINE BELOW/SMALL LETTER T WITH LINE BELOW
1E70 LATIN /CAPITAL LETTER T WITH CIRCUMFLEX BELOW/SMALL LETTER T WITH CIRCUMFLEX BELOW
1E72 LATIN /CAPITAL LETTER U WITH DIAERESIS BELOW/SMALL LETTER U WITH DIAERESIS BELOW
1E74 LATIN /CAPITAL LETTER U WITH TILDE BELOW/SMALL LETTER U WITH TILDE BELOW
1E76 LATIN /CAPITAL LETTER U WITH CIRCUMFLEX BELOW/SMALL LETTER U WITH CIRCUMFLEX BELOW
1E78 LATIN /CAPITAL LETTER U WITH TILDE AND ACUTE/SMALL LETTER U WITH TILDE AND ACUTE
1E7A LATIN /CAPITAL LETTER U WITH MACRON AND DIAERESIS/SMALL LETTER U WITH MACRON AND DIAERESIS
1E7C LATIN /CAPITAL LETTER V WITH TILDE/SMALL LETTER V WITH TILDE/CAPITAL LETTER V WITH DOT BELOW
1E7F LATIN /SMALL LETTER V WITH DOT BELOW/CAPITAL LETTER W WITH GRAVE/SMALL LETTER W WITH GRAVE
1E82 LATIN /CAPITAL LETTER W WITH ACUTE/SMALL LETTER W WITH ACUTE/CAPITAL LETTER W WITH DIAERESIS
1E85 LATIN /SMALL LETTER W WITH DIAERESIS/CAPITAL LETTER W WITH DOT ABOVE
1E87 LATIN /SMALL LETTER W WITH DOT ABOVE/CAPITAL LETTER W WITH DOT BELOW
1E89 LATIN /SMALL LETTER W WITH DOT BELOW/CAPITAL LETTER X WITH DOT ABOVE
1E8B LATIN /SMALL LETTER X WITH DOT ABOVE/CAPITAL LETTER X WITH DIAERESIS
1E8D LATIN /SMALL LETTER X WITH DIAERESIS/CAPITAL LETTER Y WITH DOT ABOVE
1E8F LATIN /SMALL LETTER Y WITH DOT ABOVE/CAPITAL LETTER Z WITH CIRCUMFLEX
1E91 LATIN /SMALL LETTER Z WITH CIRCUMFLEX/CAPITAL LETTER Z WITH DOT BELOW
1E93 LATIN /SMALL LETTER Z WITH DOT BELOW/CAPITAL LETTER Z WITH LINE BELOW
1E95 LATIN SMALL LETTER /Z WITH LINE BELOW/H WITH LINE BELOW
1E97 LATIN SMALL LETTER /T WITH DIAERESIS/W WITH RING ABOVE/Y WITH RING ABOVE/A WITH RIGHT HALF RING
1E9B LATIN SMALL LETTER LONG S WITH /DOT ABOVE/DIAGONAL STROKE/HIGH STROKE
1E9E LATIN /CAPITAL LETTER SHARP S/SMALL LETTER DELTA/CAPITAL LETTER A WITH DOT BELOW
1EA1 LATIN /SMALL LETTER A WITH DOT BELOW/CAPITAL LETTER A WITH HOOK ABOVE
1EA3 LATIN /SMALL LETTER A WITH HOOK ABOVE/CAPITAL LETTER A WITH CIRCUMFLEX AND ACUTE
1EA5 LATIN /SMALL LETTER A WITH CIRCUMFLEX AND ACUTE/CAPITAL LETTER A WITH CIRCUMFLEX AND GRAVE
1EA7 LATIN /SMALL LETTER A WITH CIRCUMFLEX AND GRAVE/CAPITAL LETTER A WITH CIRCUMFLEX AND HOOK ABOVE
1EA9 LATIN /SMALL LETTER A WITH CIRCUMFLEX AND HOOK ABOVE/CAPITAL LETTER A WITH CIRCUMFLEX AND TILDE
1EAB LATIN /SMALL LETTER A WITH CIRCUMFLEX AND TILDE/CAPITAL LETTER A WITH CIRCUMFLEX AND DOT BELOW
1EAD LATIN /SMALL LETTER A WITH CIRCUMFLEX AND DOT BELOW/CAPITAL LETTER A WITH BREVE AND ACUTE
1EAF LATIN /SMALL LETTER A WITH BREVE AND ACUTE/CAPITAL LETTER A WITH BREVE AND GRAVE
1EB1 LATIN /SMALL LETTER A WITH BREVE AND GRAVE/CAPITAL LETTER A WITH BREVE AND HOOK ABOVE
1EB3 LATIN /SMALL LETTER A WITH BREVE AND HOOK ABOVE/CAPITAL LETTER A WITH BREVE AND TILDE
1EB5 LATIN /SMALL LETTER A WITH BREVE AND TILDE/CAPITAL LETTER A WITH BREVE AND DOT BELOW
1EB7 LATIN /SMALL LETTER A WITH BREVE AND DOT BELOW/CAPITAL LETTER E WITH DOT BELOW
1EB9 LATIN /SMALL LETTER E WITH DOT BELOW/CAPITAL LETTER E WITH HOOK ABOVE
1EBB LATIN /SMALL LETTER E WITH HOOK ABOVE/CAPITAL LETTER E WITH TILDE
1EBD LATIN /SMALL LETTER E WITH TILDE/CAPITAL LETTER E WITH CIRCUMFLEX AND ACUTE
1EBF LATIN /SMALL LETTER E WITH CIRCUMFLEX AND ACUTE/CAPITAL LETTER E WITH CIRCUMFLEX AND GRAVE
1EC1 LATIN /SMALL LETTER E WITH CIRCUMFLEX AND GRAVE/CAPITAL LETTER E WITH CIRCUMFLEX AND HOOK ABOVE
1EC3 LATIN /SMALL LETTER E WITH CIRCUMFLEX AND HOOK ABOVE/CAPITAL LETTER E WITH CIRCUMFLEX AND TILDE
1EC5 LATIN /SMALL LETTER E WITH CIRCUMFLEX AND TILDE/CAPITAL LETTER E WITH CIRCUMFLEX AND DOT BELOW
1EC7 LATIN /SMALL LETTER E WITH CIRCUMFLEX AND DOT BELOW/CAPITAL LETTER I WITH HOOK ABOVE
1EC9 LATIN /SMALL LETTER I WITH HOOK ABOVE/CAPITAL LETTER I WITH DOT BELOW
1ECB LATIN /SMALL LETTER I WITH DOT BELOW/CAPITAL LETTER O WITH DOT BELOW
1ECD LATIN /SMALL LETTER O WITH DOT BELOW/CAPITAL LETTER O WITH HOOK ABOVE
1ECF LATIN /SMALL LETTER O WITH HOOK ABOVE/CAPITAL LETTER O WITH CIRCUMFLEX AND ACUTE
1ED1 LATIN /SMALL LETTER O WITH CIRCUMFLEX AND ACUTE/CAPITAL LETTER O WITH CIRCUMFLEX AND GRAVE
1ED3 LATIN /SMALL LETTER O WITH CIRCUMFLEX AND GRAVE/CAPITAL LETTER O WITH CIRCUMFLEX AND HOOK ABOVE
1ED5 LATIN /SMALL LETTER O WITH CIRCUMFLEX AND HOOK ABOVE/CAPITAL LETTER O WITH CIRCUMFLEX AND TILDE
1ED7 LATIN /SMALL LETTER O WITH CIRCUMFLEX AND TILDE/CAPITAL LETTER O WITH CIRCUMFLEX AND DOT BELOW
1ED9 LATIN /SMALL LETTER O WITH CIRCUMFLEX AND DOT BELOW/CAPITAL LETTER O WITH HORN AND ACUTE
1EDB LATIN /SMALL LETTER O WITH HORN AND ACUTE/CAPITAL LETTER O WITH HORN AND GRAVE
1EDD LATIN /SMALL LETTER O WITH HORN AND GRAVE/CAPITAL LETTER O WITH HORN AND HOOK ABOVE
1EDF LATIN /SMALL LETTER O WITH HORN AND HOOK ABOVE/CAPITAL LETTER O WITH HORN AND TILDE
1EE1 LATIN /SMALL LETTER O WITH HORN AND TILDE/CAPITAL LETTER O WITH HORN AND DOT BELOW
1EE3 LATIN /SMALL LETTER O WITH HORN AND DOT BELOW/CAPITAL LETTER U WITH DOT BELOW
1EE5 LATIN /SMALL LETTER U WITH DOT BELOW/CAPITAL LETTER U WITH HOOK ABOVE
1EE7 LATIN /SMALL LETTER U WITH HOOK ABOVE/CAPITAL LETTER U WITH HORN AND ACUTE
1EE9 LATIN /SMALL LETTER U WITH HORN AND ACUTE/CAPITAL LETTER U WITH HORN AND GRAVE
1EEB LATIN /SMALL LETTER U WITH HORN AND GRAVE/CAPITAL LETTER U WITH HORN AND HOOK ABOVE
1EED LATIN /SMALL LETTER U WITH HORN AND HOOK ABOVE/CAPITAL LETTER U WITH HORN AND TILDE
1EEF LATIN /SMALL LETTER U WITH HORN AND TILDE/CAPITAL LETTER U WITH HORN AND DOT BELOW
1EF1 LATIN /SMALL LETTER U WITH HORN AND DOT BELOW/CAPITAL LETTER Y WITH GRAVE
1EF3 LATIN /SMALL LETTER Y WITH GRAVE/CAPITAL LETTER Y WITH DOT BELOW/SMALL LETTER Y WITH DOT BELOW
1EF6 LATIN /CAPITAL LETTER Y WITH HOOK ABOVE/SMALL LETTER Y WITH HOOK ABOVE
1EF8 LATIN /CAPITAL LETTER Y WITH TILDE/SMALL LETTER Y WITH TILDE/CAPITAL LETTER MIDDLE-WELSH LL
1EFB LATIN /SMALL LETTER MIDDLE-WELSH LL/CAPITAL LETTER MIDDLE-WELSH V
1EFD LATIN /SMALL LETTER MIDDLE-WELSH V/CAPITAL LETTER Y WITH LOOP/SMALL LETTER Y WITH LOOP
1F00 GREEK SMALL LETTER ALPHA WITH /PSILI/DASIA/PSILI AND VARIA/DASIA AND VARIA/PSILI AND OXIA
1F05 GREEK SMALL LETTER ALPHA WITH /DASIA AND OXIA/PSILI AND PERISPOMENI/DASIA AND PERISPOMENI
1F08 GREEK CAPITAL LETTER ALPHA WITH /PSILI/DASIA/PSILI AND VARIA/DASIA AND VARIA/PSILI AND OXIA
1F0D GREEK CAPITAL LETTER ALPHA WITH /DASIA AND OXIA/PSILI AND PERISPOMENI/DASIA AND PERISPOMENI
1F10 GREEK SMALL LETTER EPSILON WITH /PSILI/DASIA
1F12 GREEK SMALL LETTER EPSILON WITH /PSILI AND VARIA/DASIA AND VARIA/PSILI AND OXIA/DASIA AND OXIA
1F18 GREEK CAPITAL LETTER EPSILON WITH /PSILI/DASIA/PSILI AND VARIA
1F1B GREEK CAPITAL LETTER EPSILON WITH /DASIA AND VARIA/PSILI AND OXIA/DASIA AND OXIA
1F20 GREEK SMALL LETTER ETA WITH /PSILI/DASIA/PSILI AND VARIA/DASIA AND VARIA/PSILI AND OXIA
1F25 GREEK SMALL LETTER ETA WITH /DASIA AND OXIA/PSILI AND PERISPOMENI/DASIA AND PERISPOMENI
1F28 GREEK CAPITAL LETTER ETA WITH /PSILI/DASIA/PSILI AND VARIA/DASIA AND VARIA/PSILI AND OXIA
1F2D GREEK CAPITAL LETTER ETA WITH /DASIA AND OXIA/PSILI AND PERISPOMENI/DASIA AND PERISPOMENI
1F30 GREEK SMALL LETTER IOTA WITH /PSILI/DASIA/PSILI AND VARIA/DASIA AND VARIA/PSILI AND OXIA
1F35 GREEK SMALL LETTER IOTA WITH /DASIA AND OXIA/PSILI AND PERISPOMENI/DASIA AND PERISPOMENI
1F38 GREEK CAPITAL LETTER IOTA WITH /PSILI/DASIA/PSILI AND VARIA/DASIA AND VARIA/PSILI AND OXIA
1F3D GREEK CAPITAL LETTER IOTA WITH /DASIA AND OXIA/PSILI AND PERISPOMENI/DASIA AND PERISPOMENI
1F40 GREEK SMALL LETTER OMICRON WITH /PSILI/DASIA
1F42 GREEK SMALL LETTER OMICRON WITH /PSILI AND VARIA/DASIA AND VARIA/PSILI AND OXIA/DASIA AND OXIA
1F48 GREEK CAPITAL LETTER OMICRON WITH /PSILI/DASIA/PSILI AND VARIA
1F4B GREEK CAPITAL LETTER OMICRON WITH /DASIA AND VARIA/PSILI AND OXIA/DASIA AND OXIA
1F50 GREEK SMALL LETTER UPSILON WITH /PSILI/DASIA/PSILI AND VARIA/DASIA AND VARIA/PSILI AND OXIA
1F55 GREEK SMALL LETTER UPSILON WITH /DASIA AND OXIA/PSILI AND PERISPOMENI/DASIA AND PERISPOMENI
1F59 GREEK CAPITAL LETTER UPSILON WITH /DASIA
1F5B GREEK CAPITAL LETTER UPSILON WITH DASIA AND /VARIA
1F5D GREEK CAPITAL LETTER UPSILON WITH DASIA AND /OXIA
1F5F GREEK CAPITAL LETTER UPSILON WITH DASIA AND /PERISPOMENI
1F60 GREEK SMALL LETTER OMEGA WITH /PSILI/DASIA/PSILI AND VARIA/DASIA AND VARIA/PSILI AND OXIA
1F65 GREEK SMALL LETTER OMEGA WITH /DASIA AND OXIA/PSILI AND PERISPOMENI/DASIA AND PERISPOMENI
1F68 GREEK CAPITAL LETTER OMEGA WITH /PSILI/DASIA/PSILI AND VARIA/DASIA AND VARIA/PSILI AND OXIA
1F6D GREEK CAPITAL LETTER OMEGA WITH /DASIA AND OXIA/PSILI AND PERISPOMENI/DASIA AND PERISPOMENI
1F70 GREEK SMALL LETTER /ALPHA WITH VARIA/ALPHA WITH OXIA/EPSILON WITH VARIA/EPSILON WITH OXIA
1F74 GREEK SMALL LETTER /ETA WITH VARIA/ETA WITH OXIA/IOTA WITH VARIA/IOTA WITH OXIA
1F78 GREEK SMALL LETTER OMICRON WITH /VARIA/OXIA
1F7A GREEK SMALL LETTER /UPSILON WITH VARIA/UPSILON WITH OXIA/OMEGA WITH VARIA/OMEGA WITH OXIA
1F80 GREEK SMALL LETTER ALPHA WITH PSILI AND /YPOGEGRAMMENI
1F81 GREEK SMALL LETTER ALPHA WITH /DASIA AND YPOGEGRAMMENI/PSILI AND VARIA AND YPOGEGRAMMENI
1F83 GREEK SMALL LETTER ALPHA WITH DASIA AND VARIA AND /YPOGEGRAMMENI
1F84 GREEK SMALL LETTER ALPHA WITH PSILI AND OXIA AND /YPOGEGRAMMENI
1F85 GREEK SMALL LETTER ALPHA WITH DASIA AND OXIA AND /YPOGEGRAMMENI
1F86 GREEK SMALL LETTER ALPHA WITH PSILI AND PERISPOMENI AND /YPOGEGRAMMENI
1F87 GREEK SMALL LETTER ALPHA WITH DASIA AND PERISPOMENI AND /YPOGEGRAMMENI
1F88 GREEK CAPITAL LETTER ALPHA WITH PSILI AND /PROSGEGRAMMENI
1F89 GREEK CAPITAL LETTER ALPHA WITH /DASIA AND PROSGEGRAMMENI/PSILI AND VARIA AND PROSGEGRAMMENI
1F8B GREEK CAPITAL LETTER ALPHA WITH DASIA AND VARIA AND /PROSGEGRAMMENI
1F8C GREEK CAPITAL LETTER ALPHA WITH PSILI AND OXIA AND /PROSGEGRAMMENI
1F8D GREEK CAPITAL LETTER ALPHA WITH DASIA AND OXIA AND /PROSGEGRAMMENI
1F8E GREEK CAPITAL LETTER ALPHA WITH PSILI AND PERISPOMENI AND /PROSGEGRAMMENI
1F8F GREEK CAPITAL LETTER ALPHA WITH DASIA AND PERISPOMENI AND /PROSGEGRAMMENI
1F90 GREEK SMALL LETTER ETA WITH PSILI AND /YPOGEGRAMMENI
1F91 GREEK SMALL LETTER ETA WITH /DASIA AND YPOGEGRAMMENI/PSILI AND VARIA AND YPOGEGRAMMENI
1F93 GREEK SMALL LETTER ETA WITH DASIA AND VARIA AND /YPOGEGRAMMENI
1F94 GREEK SMALL LETTER ETA WITH /PSILI AND OXIA AND YPOGEGRAMMENI/DASIA AND OXIA AND YPOGEGRAMMENI
1F96 GREEK SMALL LETTER ETA WITH PSILI AND PERISPOMENI AND /YPOGEGRAMMENI
1F97 GREEK SMALL LETTER ETA WITH DASIA AND PERISPOMENI AND /YPOGEGRAMMENI
1F98 GREEK CAPITAL LETTER ETA WITH PSILI AND /PROSGEGRAMMENI
1F99 GREEK CAPITAL LETTER ETA WITH /DASIA AND PROSGEGRAMMENI/PSILI AND VARIA AND PROSGEGRAMMENI
1F9B GREEK CAPITAL LETTER ETA WITH DASIA AND VARIA AND /PROSGEGRAMMENI
1F9C GREEK CAPITAL LETTER ETA WITH PSILI AND OXIA AND /PROSGEGRAMMENI
1F9D GREEK CAPITAL LETTER ETA WITH DASIA AND OXIA AND /PROSGEGRAMMENI
1F9E GREEK CAPITAL LETTER ETA WITH PSILI AND PERISPOMENI AND /PROSGEGRAMMENI
1F9F GREEK CAPITAL LETTER ETA WITH DASIA AND PERISPOMENI AND /PROSGEGRAMMENI
1FA0 GREEK SMALL LETTER OMEGA WITH PSILI AND /YPOGEGRAMMENI
1FA1 GREEK SMALL LETTER OMEGA WITH /DASIA AND YPOGEGRAMMENI/PSILI AND VARIA AND YPOGEGRAMMENI
1FA3 GREEK SMALL LETTER OMEGA WITH DASIA AND VARIA AND /YPOGEGRAMMENI
1FA4 GREEK SMALL LETTER OMEGA WITH PSILI AND OXIA AND /YPOGEGRAMMENI
1FA5 GREEK SMALL LETTER OMEGA WITH DASIA AND OXIA AND /YPOGEGRAMMENI
1FA6 GREEK SMALL LETTER OMEGA WITH PSILI AND PERISPOMENI AND /YPOGEGRAMMENI
1FA7 GREEK SMALL LETTER OMEGA WITH DASIA AND PERISPOMENI AND /YPOGEGRAMMENI
1FA8 GREEK CAPITAL LETTER OMEGA WITH PSILI AND /PROSGEGRAMMENI
1FA9 GREEK CAPITAL LETTER OMEGA WITH /DASIA AND PROSGEGRAMMENI/PSILI AND VARIA AND PROSGEGRAMMENI
1FAB GREEK CAPITAL LETTER OMEGA WITH DASIA AND VARIA AND /PROSGEGRAMMENI
1FAC GREEK CAPITAL LETTER OMEGA WITH PSILI AND OXIA AND /PROSGEGRAMMENI
1FAD GREEK CAPITAL LETTER OMEGA WITH DASIA AND OXIA AND /PROSGEGRAMMENI
1FAE GREEK CAPITAL LETTER OMEGA WITH PSILI AND PERISPOMENI AND /PROSGEGRAMMENI
1FAF GREEK CAPITAL LETTER OMEGA WITH DASIA AND PERISPOMENI AND /PROSGEGRAMMENI
1FB0 GREEK SMALL LETTER ALPHA WITH /VRACHY/MACRON
1FB2 GREEK SMALL LETTER ALPHA WITH /VARIA AND YPOGEGRAMMENI/YPOGEGRAMMENI/OXIA AND YPOGEGRAMMENI
1FB6 GREEK SMALL LETTER ALPHA WITH /PERISPOMENI/PERISPOMENI AND YPOGEGRAMMENI
1FB8 GREEK CAPITAL LETTER ALPHA WITH /VRACHY/MACRON/VARIA/OXIA/PROSGEGRAMMENI
1FBD GREEK /KORONIS/PROSGEGRAMMENI/PSILI/PERISPOMENI/DIALYTIKA AND PERISPOMENI
1FC2 GREEK SMALL LETTER ETA WITH /VARIA AND YPOGEGRAMMENI/YPOGEGRAMMENI/OXIA AND YPOGEGRAMMENI
1FC6 GREEK SMALL LETTER ETA WITH /PERISPOMENI/PERISPOMENI AND YPOGEGRAMMENI
1FC8 GREEK CAPITAL LETTER EPSILON WITH /VARIA/OXIA
1FCA GREEK CAPITAL LETTER ETA WITH /VARIA/OXIA/PROSGEGRAMMENI
1FCD GREEK PSILI AND /VARIA/OXIA/PERISPOMENI
1FD0 GREEK SMALL LETTER IOTA WITH /VRACHY/MACRON/DIALYTIKA AND VARIA/DIALYTIKA AND OXIA
1FD6 GREEK SMALL LETTER IOTA WITH /PERISPOMENI/DIALYTIKA AND PERISPOMENI
1FD8 GREEK CAPITAL LETTER IOTA WITH /VRACHY/MACRON/VARIA/OXIA
1FDD GREEK DASIA AND /VARIA/OXIA/PERISPOMENI
1FE0 GREEK SMALL LETTER UPSILON WITH /VRACHY/MACRON/DIALYTIKA AND VARIA/DIALYTIKA AND OXIA
1FE4 GREEK SMALL LETTER RHO WITH /PSILI/DASIA
1FE6 GREEK SMALL LETTER UPSILON WITH /PERISPOMENI/DIALYTIKA AND PERISPOMENI
1FE8 GREEK CAPITAL LETTER UPSILON WITH /VRACHY/MACRON/VARIA/OXIA
1FEC GREEK /CAPITAL LETTER RHO WITH DASIA/DIALYTIKA AND VARIA/DIALYTIKA AND OXIA/VARIA
1FF2 GREEK SMALL LETTER OMEGA WITH /VARIA AND YPOGEGRAMMENI/YPOGEGRAMMENI/OXIA AND YPOGEGRAMMENI
1FF6 GREEK SMALL LETTER OMEGA WITH /PERISPOMENI/PERISPOMENI AND YPOGEGRAMMENI
1FF8 GREEK CAPITAL LETTER OMICRON WITH /VARIA/OXIA
1FFA GREEK CAPITAL LETTER OMEGA WITH /VARIA/OXIA/PROSGEGRAMMENI
1FFD GREEK /OXIA/DASIA"

end PerlCalls.Text
