/-!
# Names of letters and marks

The standard names of the characters of the Latin, Greek and Cyrillic blocks, of general
punctuation, of the currency signs and of the letterlike symbols.
-/

set_option autoImplicit false
set_option relaxedAutoImplicit false

namespace Scriptorium.Text

/-- The names from U+0020 on, in order; a code without a name has an empty one. -/
def letterNames0020 : String :=
  "SPACE;EXCLAMATION MARK;QUOTATION MARK;NUMBER SIGN;DOLLAR SIGN;PERCENT SIGN;AMPERSAND;APOSTROPHE;
LEFT PARENTHESIS;RIGHT PARENTHESIS;ASTERISK;PLUS SIGN;COMMA;HYPHEN-MINUS;FULL STOP;SOLIDUS;
DIGIT ZERO;DIGIT ONE;DIGIT TWO;DIGIT THREE;DIGIT FOUR;DIGIT FIVE;DIGIT SIX;DIGIT SEVEN;DIGIT EIGHT;
DIGIT NINE;COLON;SEMICOLON;LESS-THAN SIGN;EQUALS SIGN;GREATER-THAN SIGN;QUESTION MARK;COMMERCIAL AT;
LATIN CAPITAL LETTER A;LATIN CAPITAL LETTER B;LATIN CAPITAL LETTER C;LATIN CAPITAL LETTER D;
LATIN CAPITAL LETTER E;LATIN CAPITAL LETTER F;LATIN CAPITAL LETTER G;LATIN CAPITAL LETTER H;
LATIN CAPITAL LETTER I;LATIN CAPITAL LETTER J;LATIN CAPITAL LETTER K;LATIN CAPITAL LETTER L;
LATIN CAPITAL LETTER M;LATIN CAPITAL LETTER N;LATIN CAPITAL LETTER O;LATIN CAPITAL LETTER P;
LATIN CAPITAL LETTER Q;LATIN CAPITAL LETTER R;LATIN CAPITAL LETTER S;LATIN CAPITAL LETTER T;
LATIN CAPITAL LETTER U;LATIN CAPITAL LETTER V;LATIN CAPITAL LETTER W;LATIN CAPITAL LETTER X;
LATIN CAPITAL LETTER Y;LATIN CAPITAL LETTER Z;LEFT SQUARE BRACKET;REVERSE SOLIDUS;
RIGHT SQUARE BRACKET;CIRCUMFLEX ACCENT;LOW LINE;GRAVE ACCENT;LATIN SMALL LETTER A;
LATIN SMALL LETTER B;LATIN SMALL LETTER C;LATIN SMALL LETTER D;LATIN SMALL LETTER E;
LATIN SMALL LETTER F;LATIN SMALL LETTER G;LATIN SMALL LETTER H;LATIN SMALL LETTER I;
LATIN SMALL LETTER J;LATIN SMALL LETTER K;LATIN SMALL LETTER L;LATIN SMALL LETTER M;
LATIN SMALL LETTER N;LATIN SMALL LETTER O;LATIN SMALL LETTER P;LATIN SMALL LETTER Q;
LATIN SMALL LETTER R;LATIN SMALL LETTER S;LATIN SMALL LETTER T;LATIN SMALL LETTER U;
LATIN SMALL LETTER V;LATIN SMALL LETTER W;LATIN SMALL LETTER X;LATIN SMALL LETTER Y;
LATIN SMALL LETTER Z;LEFT CURLY BRACKET;VERTICAL LINE;RIGHT CURLY BRACKET;TILDE"

/-- The names from U+00A0 on, in order; a code without a name has an empty one. -/
def letterNames00a0 : String :=
  "NO-BREAK SPACE;INVERTED EXCLAMATION MARK;CENT SIGN;POUND SIGN;CURRENCY SIGN;YEN SIGN;BROKEN BAR;
SECTION SIGN;DIAERESIS;COPYRIGHT SIGN;FEMININE ORDINAL INDICATOR;
LEFT-POINTING DOUBLE ANGLE QUOTATION MARK;NOT SIGN;SOFT HYPHEN;REGISTERED SIGN;MACRON;DEGREE SIGN;
PLUS-MINUS SIGN;SUPERSCRIPT TWO;SUPERSCRIPT THREE;ACUTE ACCENT;MICRO SIGN;PILCROW SIGN;MIDDLE DOT;
CEDILLA;SUPERSCRIPT ONE;MASCULINE ORDINAL INDICATOR;RIGHT-POINTING DOUBLE ANGLE QUOTATION MARK;
VULGAR FRACTION ONE QUARTER;VULGAR FRACTION ONE HALF;VULGAR FRACTION THREE QUARTERS;
INVERTED QUESTION MARK;LATIN CAPITAL LETTER A WITH GRAVE;LATIN CAPITAL LETTER A WITH ACUTE;
LATIN CAPITAL LETTER A WITH CIRCUMFLEX;LATIN CAPITAL LETTER A WITH TILDE;
LATIN CAPITAL LETTER A WITH DIAERESIS;LATIN CAPITAL LETTER A WITH RING ABOVE;
LATIN CAPITAL LETTER AE;LATIN CAPITAL LETTER C WITH CEDILLA;LATIN CAPITAL LETTER E WITH GRAVE;
LATIN CAPITAL LETTER E WITH ACUTE;LATIN CAPITAL LETTER E WITH CIRCUMFLEX;
LATIN CAPITAL LETTER E WITH DIAERESIS;LATIN CAPITAL LETTER I WITH GRAVE;
LATIN CAPITAL LETTER I WITH ACUTE;LATIN CAPITAL LETTER I WITH CIRCUMFLEX;
LATIN CAPITAL LETTER I WITH DIAERESIS;LATIN CAPITAL LETTER ETH;LATIN CAPITAL LETTER N WITH TILDE;
LATIN CAPITAL LETTER O WITH GRAVE;LATIN CAPITAL LETTER O WITH ACUTE;
LATIN CAPITAL LETTER O WITH CIRCUMFLEX;LATIN CAPITAL LETTER O WITH TILDE;
LATIN CAPITAL LETTER O WITH DIAERESIS;MULTIPLICATION SIGN;LATIN CAPITAL LETTER O WITH STROKE;
LATIN CAPITAL LETTER U WITH GRAVE;LATIN CAPITAL LETTER U WITH ACUTE;
LATIN CAPITAL LETTER U WITH CIRCUMFLEX;LATIN CAPITAL LETTER U WITH DIAERESIS;
LATIN CAPITAL LETTER Y WITH ACUTE;LATIN CAPITAL LETTER THORN;LATIN SMALL LETTER SHARP S;
LATIN SMALL LETTER A WITH GRAVE;LATIN SMALL LETTER A WITH ACUTE;
LATIN SMALL LETTER A WITH CIRCUMFLEX;LATIN SMALL LETTER A WITH TILDE;
LATIN SMALL LETTER A WITH DIAERESIS;LATIN SMALL LETTER A WITH RING ABOVE;LATIN SMALL LETTER AE;
LATIN SMALL LETTER C WITH CEDILLA;LATIN SMALL LETTER E WITH GRAVE;LATIN SMALL LETTER E WITH ACUTE;
LATIN SMALL LETTER E WITH CIRCUMFLEX;LATIN SMALL LETTER E WITH DIAERESIS;
LATIN SMALL LETTER I WITH GRAVE;LATIN SMALL LETTER I WITH ACUTE;
LATIN SMALL LETTER I WITH CIRCUMFLEX;LATIN SMALL LETTER I WITH DIAERESIS;LATIN SMALL LETTER ETH;
LATIN SMALL LETTER N WITH TILDE;LATIN SMALL LETTER O WITH GRAVE;LATIN SMALL LETTER O WITH ACUTE;
LATIN SMALL LETTER O WITH CIRCUMFLEX;LATIN SMALL LETTER O WITH TILDE;
LATIN SMALL LETTER O WITH DIAERESIS;DIVISION SIGN;LATIN SMALL LETTER O WITH STROKE;
LATIN SMALL LETTER U WITH GRAVE;LATIN SMALL LETTER U WITH ACUTE;
LATIN SMALL LETTER U WITH CIRCUMFLEX;LATIN SMALL LETTER U WITH DIAERESIS;
LATIN SMALL LETTER Y WITH ACUTE;LATIN SMALL LETTER THORN;LATIN SMALL LETTER Y WITH DIAERESIS;
LATIN CAPITAL LETTER A WITH MACRON;LATIN SMALL LETTER A WITH MACRON;
LATIN CAPITAL LETTER A WITH BREVE;LATIN SMALL LETTER A WITH BREVE;
LATIN CAPITAL LETTER A WITH OGONEK;LATIN SMALL LETTER A WITH OGONEK;
LATIN CAPITAL LETTER C WITH ACUTE;LATIN SMALL LETTER C WITH ACUTE;
LATIN CAPITAL LETTER C WITH CIRCUMFLEX;LATIN SMALL LETTER C WITH CIRCUMFLEX;
LATIN CAPITAL LETTER C WITH DOT ABOVE;LATIN SMALL LETTER C WITH DOT ABOVE;
LATIN CAPITAL LETTER C WITH CARON;LATIN SMALL LETTER C WITH CARON;LATIN CAPITAL LETTER D WITH CARON;
LATIN SMALL LETTER D WITH CARON;LATIN CAPITAL LETTER D WITH STROKE;LATIN SMALL LETTER D WITH STROKE;
LATIN CAPITAL LETTER E WITH MACRON;LATIN SMALL LETTER E WITH MACRON;
LATIN CAPITAL LETTER E WITH BREVE;LATIN SMALL LETTER E WITH BREVE;
LATIN CAPITAL LETTER E WITH DOT ABOVE;LATIN SMALL LETTER E WITH DOT ABOVE;
LATIN CAPITAL LETTER E WITH OGONEK;LATIN SMALL LETTER E WITH OGONEK;
LATIN CAPITAL LETTER E WITH CARON;LATIN SMALL LETTER E WITH CARON;
LATIN CAPITAL LETTER G WITH CIRCUMFLEX;LATIN SMALL LETTER G WITH CIRCUMFLEX;
LATIN CAPITAL LETTER G WITH BREVE;LATIN SMALL LETTER G WITH BREVE;
LATIN CAPITAL LETTER G WITH DOT ABOVE;LATIN SMALL LETTER G WITH DOT ABOVE;
LATIN CAPITAL LETTER G WITH CEDILLA;LATIN SMALL LETTER G WITH CEDILLA;
LATIN CAPITAL LETTER H WITH CIRCUMFLEX;LATIN SMALL LETTER H WITH CIRCUMFLEX;
LATIN CAPITAL LETTER H WITH STROKE;LATIN SMALL LETTER H WITH STROKE;
LATIN CAPITAL LETTER I WITH TILDE;LATIN SMALL LETTER I WITH TILDE;
LATIN CAPITAL LETTER I WITH MACRON;LATIN SMALL LETTER I WITH MACRON;
LATIN CAPITAL LETTER I WITH BREVE;LATIN SMALL LETTER I WITH BREVE;
LATIN CAPITAL LETTER I WITH OGONEK;LATIN SMALL LETTER I WITH OGONEK;
LATIN CAPITAL LETTER I WITH DOT ABOVE;LATIN SMALL LETTER DOTLESS I;LATIN CAPITAL LIGATURE IJ;
LATIN SMALL LIGATURE IJ;LATIN CAPITAL LETTER J WITH CIRCUMFLEX;LATIN SMALL LETTER J WITH CIRCUMFLEX;
LATIN CAPITAL LETTER K WITH CEDILLA;LATIN SMALL LETTER K WITH CEDILLA;LATIN SMALL LETTER KRA;
LATIN CAPITAL LETTER L WITH ACUTE;LATIN SMALL LETTER L WITH ACUTE;
LATIN CAPITAL LETTER L WITH CEDILLA;LATIN SMALL LETTER L WITH CEDILLA;
LATIN CAPITAL LETTER L WITH CARON;LATIN SMALL LETTER L WITH CARON;
LATIN CAPITAL LETTER L WITH MIDDLE DOT;LATIN SMALL LETTER L WITH MIDDLE DOT;
LATIN CAPITAL LETTER L WITH STROKE;LATIN SMALL LETTER L WITH STROKE;
LATIN CAPITAL LETTER N WITH ACUTE;LATIN SMALL LETTER N WITH ACUTE;
LATIN CAPITAL LETTER N WITH CEDILLA;LATIN SMALL LETTER N WITH CEDILLA;
LATIN CAPITAL LETTER N WITH CARON;LATIN SMALL LETTER N WITH CARON;
LATIN SMALL LETTER N PRECEDED BY APOSTROPHE;LATIN CAPITAL LETTER ENG;LATIN SMALL LETTER ENG;
LATIN CAPITAL LETTER O WITH MACRON;LATIN SMALL LETTER O WITH MACRON;
LATIN CAPITAL LETTER O WITH BREVE;LATIN SMALL LETTER O WITH BREVE;
LATIN CAPITAL LETTER O WITH DOUBLE ACUTE;LATIN SMALL LETTER O WITH DOUBLE ACUTE;
LATIN CAPITAL LIGATURE OE;LATIN SMALL LIGATURE OE;LATIN CAPITAL LETTER R WITH ACUTE;
LATIN SMALL LETTER R WITH ACUTE;LATIN CAPITAL LETTER R WITH CEDILLA;
LATIN SMALL LETTER R WITH CEDILLA;LATIN CAPITAL LETTER R WITH CARON;LATIN SMALL LETTER R WITH CARON;
LATIN CAPITAL LETTER S WITH ACUTE;LATIN SMALL LETTER S WITH ACUTE;
LATIN CAPITAL LETTER S WITH CIRCUMFLEX;LATIN SMALL LETTER S WITH CIRCUMFLEX;
LATIN CAPITAL LETTER S WITH CEDILLA;LATIN SMALL LETTER S WITH CEDILLA;
LATIN CAPITAL LETTER S WITH CARON;LATIN SMALL LETTER S WITH CARON;
LATIN CAPITAL LETTER T WITH CEDILLA;LATIN SMALL LETTER T WITH CEDILLA;
LATIN CAPITAL LETTER T WITH CARON;LATIN SMALL LETTER T WITH CARON;
LATIN CAPITAL LETTER T WITH STROKE;LATIN SMALL LETTER T WITH STROKE;
LATIN CAPITAL LETTER U WITH TILDE;LATIN SMALL LETTER U WITH TILDE;
LATIN CAPITAL LETTER U WITH MACRON;LATIN SMALL LETTER U WITH MACRON;
LATIN CAPITAL LETTER U WITH BREVE;LATIN SMALL LETTER U WITH BREVE;
LATIN CAPITAL LETTER U WITH RING ABOVE;LATIN SMALL LETTER U WITH RING ABOVE;
LATIN CAPITAL LETTER U WITH DOUBLE ACUTE;LATIN SMALL LETTER U WITH DOUBLE ACUTE;
LATIN CAPITAL LETTER U WITH OGONEK;LATIN SMALL LETTER U WITH OGONEK;
LATIN CAPITAL LETTER W WITH CIRCUMFLEX;LATIN SMALL LETTER W WITH CIRCUMFLEX;
LATIN CAPITAL LETTER Y WITH CIRCUMFLEX;LATIN SMALL LETTER Y WITH CIRCUMFLEX;
LATIN CAPITAL LETTER Y WITH DIAERESIS;LATIN CAPITAL LETTER Z WITH ACUTE;
LATIN SMALL LETTER Z WITH ACUTE;LATIN CAPITAL LETTER Z WITH DOT ABOVE;
LATIN SMALL LETTER Z WITH DOT ABOVE;LATIN CAPITAL LETTER Z WITH CARON;
LATIN SMALL LETTER Z WITH CARON;LATIN SMALL LETTER LONG S;LATIN SMALL LETTER B WITH STROKE;
LATIN CAPITAL LETTER B WITH HOOK;LATIN CAPITAL LETTER B WITH TOPBAR;
LATIN SMALL LETTER B WITH TOPBAR;LATIN CAPITAL LETTER TONE SIX;LATIN SMALL LETTER TONE SIX;
LATIN CAPITAL LETTER OPEN O;LATIN CAPITAL LETTER C WITH HOOK;LATIN SMALL LETTER C WITH HOOK;
LATIN CAPITAL LETTER AFRICAN D;LATIN CAPITAL LETTER D WITH HOOK;LATIN CAPITAL LETTER D WITH TOPBAR;
LATIN SMALL LETTER D WITH TOPBAR;LATIN SMALL LETTER TURNED DELTA;LATIN CAPITAL LETTER REVERSED E;
LATIN CAPITAL LETTER SCHWA;LATIN CAPITAL LETTER OPEN E;LATIN CAPITAL LETTER F WITH HOOK;
LATIN SMALL LETTER F WITH HOOK;LATIN CAPITAL LETTER G WITH HOOK;LATIN CAPITAL LETTER GAMMA;
LATIN SMALL LETTER HV;LATIN CAPITAL LETTER IOTA;LATIN CAPITAL LETTER I WITH STROKE;
LATIN CAPITAL LETTER K WITH HOOK;LATIN SMALL LETTER K WITH HOOK;LATIN SMALL LETTER L WITH BAR;
LATIN SMALL LETTER LAMBDA WITH STROKE;LATIN CAPITAL LETTER TURNED M;
LATIN CAPITAL LETTER N WITH LEFT HOOK;LATIN SMALL LETTER N WITH LONG RIGHT LEG;
LATIN CAPITAL LETTER O WITH MIDDLE TILDE;LATIN CAPITAL LETTER O WITH HORN;
LATIN SMALL LETTER O WITH HORN;LATIN CAPITAL LETTER OI;LATIN SMALL LETTER OI;
LATIN CAPITAL LETTER P WITH HOOK;LATIN SMALL LETTER P WITH HOOK;LATIN LETTER YR;
LATIN CAPITAL LETTER TONE TWO;LATIN SMALL LETTER TONE TWO;LATIN CAPITAL LETTER ESH;
LATIN LETTER REVERSED ESH LOOP;LATIN SMALL LETTER T WITH PALATAL HOOK;
LATIN CAPITAL LETTER T WITH HOOK;LATIN SMALL LETTER T WITH HOOK;
LATIN CAPITAL LETTER T WITH RETROFLEX HOOK;LATIN CAPITAL LETTER U WITH HORN;
LATIN SMALL LETTER U WITH HORN;LATIN CAPITAL LETTER UPSILON;LATIN CAPITAL LETTER V WITH HOOK;
LATIN CAPITAL LETTER Y WITH HOOK;LATIN SMALL LETTER Y WITH HOOK;LATIN CAPITAL LETTER Z WITH STROKE;
LATIN SMALL LETTER Z WITH STROKE;LATIN CAPITAL LETTER EZH;LATIN CAPITAL LETTER EZH REVERSED;
LATIN SMALL LETTER EZH REVERSED;LATIN SMALL LETTER EZH WITH TAIL;LATIN LETTER TWO WITH STROKE;
LATIN CAPITAL LETTER TONE FIVE;LATIN SMALL LETTER TONE FIVE;
LATIN LETTER INVERTED GLOTTAL STOP WITH STROKE;LATIN LETTER WYNN;LATIN LETTER DENTAL CLICK;
LATIN LETTER LATERAL CLICK;LATIN LETTER ALVEOLAR CLICK;LATIN LETTER RETROFLEX CLICK;
LATIN CAPITAL LETTER DZ WITH CARON;LATIN CAPITAL LETTER D WITH SMALL LETTER Z WITH CARON;
LATIN SMALL LETTER DZ WITH CARON;LATIN CAPITAL LETTER LJ;LATIN CAPITAL LETTER L WITH SMALL LETTER J;
LATIN SMALL LETTER LJ;LATIN CAPITAL LETTER NJ;LATIN CAPITAL LETTER N WITH SMALL LETTER J;
LATIN SMALL LETTER NJ;LATIN CAPITAL LETTER A WITH CARON;LATIN SMALL LETTER A WITH CARON;
LATIN CAPITAL LETTER I WITH CARON;LATIN SMALL LETTER I WITH CARON;LATIN CAPITAL LETTER O WITH CARON;
LATIN SMALL LETTER O WITH CARON;LATIN CAPITAL LETTER U WITH CARON;LATIN SMALL LETTER U WITH CARON;
LATIN CAPITAL LETTER U WITH DIAERESIS AND MACRON;LATIN SMALL LETTER U WITH DIAERESIS AND MACRON;
LATIN CAPITAL LETTER U WITH DIAERESIS AND ACUTE;LATIN SMALL LETTER U WITH DIAERESIS AND ACUTE;
LATIN CAPITAL LETTER U WITH DIAERESIS AND CARON;LATIN SMALL LETTER U WITH DIAERESIS AND CARON;
LATIN CAPITAL LETTER U WITH DIAERESIS AND GRAVE;LATIN SMALL LETTER U WITH DIAERESIS AND GRAVE;
LATIN SMALL LETTER TURNED E;LATIN CAPITAL LETTER A WITH DIAERESIS AND MACRON;
LATIN SMALL LETTER A WITH DIAERESIS AND MACRON;LATIN CAPITAL LETTER A WITH DOT ABOVE AND MACRON;
LATIN SMALL LETTER A WITH DOT ABOVE AND MACRON;LATIN CAPITAL LETTER AE WITH MACRON;
LATIN SMALL LETTER AE WITH MACRON;LATIN CAPITAL LETTER G WITH STROKE;
LATIN SMALL LETTER G WITH STROKE;LATIN CAPITAL LETTER G WITH CARON;LATIN SMALL LETTER G WITH CARON;
LATIN CAPITAL LETTER K WITH CARON;LATIN SMALL LETTER K WITH CARON;
LATIN CAPITAL LETTER O WITH OGONEK;LATIN SMALL LETTER O WITH OGONEK;
LATIN CAPITAL LETTER O WITH OGONEK AND MACRON;LATIN SMALL LETTER O WITH OGONEK AND MACRON;
LATIN CAPITAL LETTER EZH WITH CARON;LATIN SMALL LETTER EZH WITH CARON;
LATIN SMALL LETTER J WITH CARON;LATIN CAPITAL LETTER DZ;LATIN CAPITAL LETTER D WITH SMALL LETTER Z;
LATIN SMALL LETTER DZ;LATIN CAPITAL LETTER G WITH ACUTE;LATIN SMALL LETTER G WITH ACUTE;
LATIN CAPITAL LETTER HWAIR;LATIN CAPITAL LETTER WYNN;LATIN CAPITAL LETTER N WITH GRAVE;
LATIN SMALL LETTER N WITH GRAVE;LATIN CAPITAL LETTER A WITH RING ABOVE AND ACUTE;
LATIN SMALL LETTER A WITH RING ABOVE AND ACUTE;LATIN CAPITAL LETTER AE WITH ACUTE;
LATIN SMALL LETTER AE WITH ACUTE;LATIN CAPITAL LETTER O WITH STROKE AND ACUTE;
LATIN SMALL LETTER O WITH STROKE AND ACUTE;LATIN CAPITAL LETTER A WITH DOUBLE GRAVE;
LATIN SMALL LETTER A WITH DOUBLE GRAVE;LATIN CAPITAL LETTER A WITH INVERTED BREVE;
LATIN SMALL LETTER A WITH INVERTED BREVE;LATIN CAPITAL LETTER E WITH DOUBLE GRAVE;
LATIN SMALL LETTER E WITH DOUBLE GRAVE;LATIN CAPITAL LETTER E WITH INVERTED BREVE;
LATIN SMALL LETTER E WITH INVERTED BREVE;LATIN CAPITAL LETTER I WITH DOUBLE GRAVE;
LATIN SMALL LETTER I WITH DOUBLE GRAVE;LATIN CAPITAL LETTER I WITH INVERTED BREVE;
LATIN SMALL LETTER I WITH INVERTED BREVE;LATIN CAPITAL LETTER O WITH DOUBLE GRAVE;
LATIN SMALL LETTER O WITH DOUBLE GRAVE;LATIN CAPITAL LETTER O WITH INVERTED BREVE;
LATIN SMALL LETTER O WITH INVERTED BREVE;LATIN CAPITAL LETTER R WITH DOUBLE GRAVE;
LATIN SMALL LETTER R WITH DOUBLE GRAVE;LATIN CAPITAL LETTER R WITH INVERTED BREVE;
LATIN SMALL LETTER R WITH INVERTED BREVE;LATIN CAPITAL LETTER U WITH DOUBLE GRAVE;
LATIN SMALL LETTER U WITH DOUBLE GRAVE;LATIN CAPITAL LETTER U WITH INVERTED BREVE;
LATIN SMALL LETTER U WITH INVERTED BREVE;LATIN CAPITAL LETTER S WITH COMMA BELOW;
LATIN SMALL LETTER S WITH COMMA BELOW;LATIN CAPITAL LETTER T WITH COMMA BELOW;
LATIN SMALL LETTER T WITH COMMA BELOW;LATIN CAPITAL LETTER YOGH;LATIN SMALL LETTER YOGH;
LATIN CAPITAL LETTER H WITH CARON;LATIN SMALL LETTER H WITH CARON;
LATIN CAPITAL LETTER N WITH LONG RIGHT LEG;LATIN SMALL LETTER D WITH CURL;LATIN CAPITAL LETTER OU;
LATIN SMALL LETTER OU;LATIN CAPITAL LETTER Z WITH HOOK;LATIN SMALL LETTER Z WITH HOOK;
LATIN CAPITAL LETTER A WITH DOT ABOVE;LATIN SMALL LETTER A WITH DOT ABOVE;
LATIN CAPITAL LETTER E WITH CEDILLA;LATIN SMALL LETTER E WITH CEDILLA;
LATIN CAPITAL LETTER O WITH DIAERESIS AND MACRON;LATIN SMALL LETTER O WITH DIAERESIS AND MACRON;
LATIN CAPITAL LETTER O WITH TILDE AND MACRON;LATIN SMALL LETTER O WITH TILDE AND MACRON;
LATIN CAPITAL LETTER O WITH DOT ABOVE;LATIN SMALL LETTER O WITH DOT ABOVE;
LATIN CAPITAL LETTER O WITH DOT ABOVE AND MACRON;LATIN SMALL LETTER O WITH DOT ABOVE AND MACRON;
LATIN CAPITAL LETTER Y WITH MACRON;LATIN SMALL LETTER Y WITH MACRON;LATIN SMALL LETTER L WITH CURL;
LATIN SMALL LETTER N WITH CURL;LATIN SMALL LETTER T WITH CURL;LATIN SMALL LETTER DOTLESS J;
LATIN SMALL LETTER DB DIGRAPH;LATIN SMALL LETTER QP DIGRAPH;LATIN CAPITAL LETTER A WITH STROKE;
LATIN CAPITAL LETTER C WITH STROKE;LATIN SMALL LETTER C WITH STROKE;LATIN CAPITAL LETTER L WITH BAR;
LATIN CAPITAL LETTER T WITH DIAGONAL STROKE;LATIN SMALL LETTER S WITH SWASH TAIL;
LATIN SMALL LETTER Z WITH SWASH TAIL;LATIN CAPITAL LETTER GLOTTAL STOP;
LATIN SMALL LETTER GLOTTAL STOP;LATIN CAPITAL LETTER B WITH STROKE;LATIN CAPITAL LETTER U BAR;
LATIN CAPITAL LETTER TURNED V;LATIN CAPITAL LETTER E WITH STROKE;LATIN SMALL LETTER E WITH STROKE;
LATIN CAPITAL LETTER J WITH STROKE;LATIN SMALL LETTER J WITH STROKE;
LATIN CAPITAL LETTER SMALL Q WITH HOOK TAIL;LATIN SMALL LETTER Q WITH HOOK TAIL;
LATIN CAPITAL LETTER R WITH STROKE;LATIN SMALL LETTER R WITH STROKE;
LATIN CAPITAL LETTER Y WITH STROKE;LATIN SMALL LETTER Y WITH STROKE"

/-- The names from U+02B0 on, in order; a code without a name has an empty one. -/
def letterNames02b0 : String :=
  "MODIFIER LETTER SMALL H;MODIFIER LETTER SMALL H WITH HOOK;MODIFIER LETTER SMALL J;
MODIFIER LETTER SMALL R;MODIFIER LETTER SMALL TURNED R;MODIFIER LETTER SMALL TURNED R WITH HOOK;
MODIFIER LETTER SMALL CAPITAL INVERTED R;MODIFIER LETTER SMALL W;MODIFIER LETTER SMALL Y;
MODIFIER LETTER PRIME;MODIFIER LETTER DOUBLE PRIME;MODIFIER LETTER TURNED COMMA;
MODIFIER LETTER APOSTROPHE;MODIFIER LETTER REVERSED COMMA;MODIFIER LETTER RIGHT HALF RING;
MODIFIER LETTER LEFT HALF RING;MODIFIER LETTER GLOTTAL STOP;MODIFIER LETTER REVERSED GLOTTAL STOP;
MODIFIER LETTER LEFT ARROWHEAD;MODIFIER LETTER RIGHT ARROWHEAD;MODIFIER LETTER UP ARROWHEAD;
MODIFIER LETTER DOWN ARROWHEAD;MODIFIER LETTER CIRCUMFLEX ACCENT;CARON;
MODIFIER LETTER VERTICAL LINE;MODIFIER LETTER MACRON;MODIFIER LETTER ACUTE ACCENT;
MODIFIER LETTER GRAVE ACCENT;MODIFIER LETTER LOW VERTICAL LINE;MODIFIER LETTER LOW MACRON;
MODIFIER LETTER LOW GRAVE ACCENT;MODIFIER LETTER LOW ACUTE ACCENT;MODIFIER LETTER TRIANGULAR COLON;
MODIFIER LETTER HALF TRIANGULAR COLON;MODIFIER LETTER CENTRED RIGHT HALF RING;
MODIFIER LETTER CENTRED LEFT HALF RING;MODIFIER LETTER UP TACK;MODIFIER LETTER DOWN TACK;
MODIFIER LETTER PLUS SIGN;MODIFIER LETTER MINUS SIGN;BREVE;DOT ABOVE;RING ABOVE;OGONEK;SMALL TILDE;
DOUBLE ACUTE ACCENT;MODIFIER LETTER RHOTIC HOOK;MODIFIER LETTER CROSS ACCENT;
MODIFIER LETTER SMALL GAMMA;MODIFIER LETTER SMALL L;MODIFIER LETTER SMALL S;MODIFIER LETTER SMALL X;
MODIFIER LETTER SMALL REVERSED GLOTTAL STOP;MODIFIER LETTER EXTRA-HIGH TONE BAR;
MODIFIER LETTER HIGH TONE BAR;MODIFIER LETTER MID TONE BAR;MODIFIER LETTER LOW TONE BAR;
MODIFIER LETTER EXTRA-LOW TONE BAR;MODIFIER LETTER YIN DEPARTING TONE MARK;
MODIFIER LETTER YANG DEPARTING TONE MARK;MODIFIER LETTER VOICING;MODIFIER LETTER UNASPIRATED;
MODIFIER LETTER DOUBLE APOSTROPHE;MODIFIER LETTER LOW DOWN ARROWHEAD;
MODIFIER LETTER LOW UP ARROWHEAD;MODIFIER LETTER LOW LEFT ARROWHEAD;
MODIFIER LETTER LOW RIGHT ARROWHEAD;MODIFIER LETTER LOW RING;MODIFIER LETTER MIDDLE GRAVE ACCENT;
MODIFIER LETTER MIDDLE DOUBLE GRAVE ACCENT;MODIFIER LETTER MIDDLE DOUBLE ACUTE ACCENT;
MODIFIER LETTER LOW TILDE;MODIFIER LETTER RAISED COLON;MODIFIER LETTER BEGIN HIGH TONE;
MODIFIER LETTER END HIGH TONE;MODIFIER LETTER BEGIN LOW TONE;MODIFIER LETTER END LOW TONE;
MODIFIER LETTER SHELF;MODIFIER LETTER OPEN SHELF;MODIFIER LETTER LOW LEFT ARROW"

/-- The names from U+0370 on, in order; a code without a name has an empty one. -/
def letterNames0370 : String :=
  "GREEK CAPITAL LETTER HETA;GREEK SMALL LETTER HETA;GREEK CAPITAL LETTER ARCHAIC SAMPI;
GREEK SMALL LETTER ARCHAIC SAMPI;GREEK NUMERAL SIGN;GREEK LOWER NUMERAL SIGN;
GREEK CAPITAL LETTER PAMPHYLIAN DIGAMMA;GREEK SMALL LETTER PAMPHYLIAN DIGAMMA;;;GREEK YPOGEGRAMMENI;
GREEK SMALL REVERSED LUNATE SIGMA SYMBOL;GREEK SMALL DOTTED LUNATE SIGMA SYMBOL;
GREEK SMALL REVERSED DOTTED LUNATE SIGMA SYMBOL;GREEK QUESTION MARK;GREEK CAPITAL LETTER YOT;;;;;
GREEK TONOS;GREEK DIALYTIKA TONOS;GREEK CAPITAL LETTER ALPHA WITH TONOS;GREEK ANO TELEIA;
GREEK CAPITAL LETTER EPSILON WITH TONOS;GREEK CAPITAL LETTER ETA WITH TONOS;
GREEK CAPITAL LETTER IOTA WITH TONOS;;GREEK CAPITAL LETTER OMICRON WITH TONOS;;
GREEK CAPITAL LETTER UPSILON WITH TONOS;GREEK CAPITAL LETTER OMEGA WITH TONOS;
GREEK SMALL LETTER IOTA WITH DIALYTIKA AND TONOS;GREEK CAPITAL LETTER ALPHA;
GREEK CAPITAL LETTER BETA;GREEK CAPITAL LETTER GAMMA;GREEK CAPITAL LETTER DELTA;
GREEK CAPITAL LETTER EPSILON;GREEK CAPITAL LETTER ZETA;GREEK CAPITAL LETTER ETA;
GREEK CAPITAL LETTER THETA;GREEK CAPITAL LETTER IOTA;GREEK CAPITAL LETTER KAPPA;
GREEK CAPITAL LETTER LAMDA;GREEK CAPITAL LETTER MU;GREEK CAPITAL LETTER NU;GREEK CAPITAL LETTER XI;
GREEK CAPITAL LETTER OMICRON;GREEK CAPITAL LETTER PI;GREEK CAPITAL LETTER RHO;;
GREEK CAPITAL LETTER SIGMA;GREEK CAPITAL LETTER TAU;GREEK CAPITAL LETTER UPSILON;
GREEK CAPITAL LETTER PHI;GREEK CAPITAL LETTER CHI;GREEK CAPITAL LETTER PSI;
GREEK CAPITAL LETTER OMEGA;GREEK CAPITAL LETTER IOTA WITH DIALYTIKA;
GREEK CAPITAL LETTER UPSILON WITH DIALYTIKA;GREEK SMALL LETTER ALPHA WITH TONOS;
GREEK SMALL LETTER EPSILON WITH TONOS;GREEK SMALL LETTER ETA WITH TONOS;
GREEK SMALL LETTER IOTA WITH TONOS;GREEK SMALL LETTER UPSILON WITH DIALYTIKA AND TONOS;
GREEK SMALL LETTER ALPHA;GREEK SMALL LETTER BETA;GREEK SMALL LETTER GAMMA;GREEK SMALL LETTER DELTA;
GREEK SMALL LETTER EPSILON;GREEK SMALL LETTER ZETA;GREEK SMALL LETTER ETA;GREEK SMALL LETTER THETA;
GREEK SMALL LETTER IOTA;GREEK SMALL LETTER KAPPA;GREEK SMALL LETTER LAMDA;GREEK SMALL LETTER MU;
GREEK SMALL LETTER NU;GREEK SMALL LETTER XI;GREEK SMALL LETTER OMICRON;GREEK SMALL LETTER PI;
GREEK SMALL LETTER RHO;GREEK SMALL LETTER FINAL SIGMA;GREEK SMALL LETTER SIGMA;
GREEK SMALL LETTER TAU;GREEK SMALL LETTER UPSILON;GREEK SMALL LETTER PHI;GREEK SMALL LETTER CHI;
GREEK SMALL LETTER PSI;GREEK SMALL LETTER OMEGA;GREEK SMALL LETTER IOTA WITH DIALYTIKA;
GREEK SMALL LETTER UPSILON WITH DIALYTIKA;GREEK SMALL LETTER OMICRON WITH TONOS;
GREEK SMALL LETTER UPSILON WITH TONOS;GREEK SMALL LETTER OMEGA WITH TONOS;GREEK CAPITAL KAI SYMBOL;
GREEK BETA SYMBOL;GREEK THETA SYMBOL;GREEK UPSILON WITH HOOK SYMBOL;
GREEK UPSILON WITH ACUTE AND HOOK SYMBOL;GREEK UPSILON WITH DIAERESIS AND HOOK SYMBOL;
GREEK PHI SYMBOL;GREEK PI SYMBOL;GREEK KAI SYMBOL;GREEK LETTER ARCHAIC KOPPA;
GREEK SMALL LETTER ARCHAIC KOPPA;GREEK LETTER STIGMA;GREEK SMALL LETTER STIGMA;GREEK LETTER DIGAMMA;
GREEK SMALL LETTER DIGAMMA;GREEK LETTER KOPPA;GREEK SMALL LETTER KOPPA;GREEK LETTER SAMPI;
GREEK SMALL LETTER SAMPI;COPTIC CAPITAL LETTER SHEI;COPTIC SMALL LETTER SHEI;
COPTIC CAPITAL LETTER FEI;COPTIC SMALL LETTER FEI;COPTIC CAPITAL LETTER KHEI;
COPTIC SMALL LETTER KHEI;COPTIC CAPITAL LETTER HORI;COPTIC SMALL LETTER HORI;
COPTIC CAPITAL LETTER GANGIA;COPTIC SMALL LETTER GANGIA;COPTIC CAPITAL LETTER SHIMA;
COPTIC SMALL LETTER SHIMA;COPTIC CAPITAL LETTER DEI;COPTIC SMALL LETTER DEI;GREEK KAPPA SYMBOL;
GREEK RHO SYMBOL;GREEK LUNATE SIGMA SYMBOL;GREEK LETTER YOT;GREEK CAPITAL THETA SYMBOL;
GREEK LUNATE EPSILON SYMBOL;GREEK REVERSED LUNATE EPSILON SYMBOL;GREEK CAPITAL LETTER SHO;
GREEK SMALL LETTER SHO;GREEK CAPITAL LUNATE SIGMA SYMBOL;GREEK CAPITAL LETTER SAN;
GREEK SMALL LETTER SAN;GREEK RHO WITH STROKE SYMBOL;GREEK CAPITAL REVERSED LUNATE SIGMA SYMBOL;
GREEK CAPITAL DOTTED LUNATE SIGMA SYMBOL;GREEK CAPITAL REVERSED DOTTED LUNATE SIGMA SYMBOL;
CYRILLIC CAPITAL LETTER IE WITH GRAVE;CYRILLIC CAPITAL LETTER IO;CYRILLIC CAPITAL LETTER DJE;
CYRILLIC CAPITAL LETTER GJE;CYRILLIC CAPITAL LETTER UKRAINIAN IE;CYRILLIC CAPITAL LETTER DZE;
CYRILLIC CAPITAL LETTER BYELORUSSIAN-UKRAINIAN I;CYRILLIC CAPITAL LETTER YI;
CYRILLIC CAPITAL LETTER JE;CYRILLIC CAPITAL LETTER LJE;CYRILLIC CAPITAL LETTER NJE;
CYRILLIC CAPITAL LETTER TSHE;CYRILLIC CAPITAL LETTER KJE;CYRILLIC CAPITAL LETTER I WITH GRAVE;
CYRILLIC CAPITAL LETTER SHORT U;CYRILLIC CAPITAL LETTER DZHE;CYRILLIC CAPITAL LETTER A;
CYRILLIC CAPITAL LETTER BE;CYRILLIC CAPITAL LETTER VE;CYRILLIC CAPITAL LETTER GHE;
CYRILLIC CAPITAL LETTER DE;CYRILLIC CAPITAL LETTER IE;CYRILLIC CAPITAL LETTER ZHE;
CYRILLIC CAPITAL LETTER ZE;CYRILLIC CAPITAL LETTER I;CYRILLIC CAPITAL LETTER SHORT I;
CYRILLIC CAPITAL LETTER KA;CYRILLIC CAPITAL LETTER EL;CYRILLIC CAPITAL LETTER EM;
CYRILLIC CAPITAL LETTER EN;CYRILLIC CAPITAL LETTER O;CYRILLIC CAPITAL LETTER PE;
CYRILLIC CAPITAL LETTER ER;CYRILLIC CAPITAL LETTER ES;CYRILLIC CAPITAL LETTER TE;
CYRILLIC CAPITAL LETTER U;CYRILLIC CAPITAL LETTER EF;CYRILLIC CAPITAL LETTER HA;
CYRILLIC CAPITAL LETTER TSE;CYRILLIC CAPITAL LETTER CHE;CYRILLIC CAPITAL LETTER SHA;
CYRILLIC CAPITAL LETTER SHCHA;CYRILLIC CAPITAL LETTER HARD SIGN;CYRILLIC CAPITAL LETTER YERU;
CYRILLIC CAPITAL LETTER SOFT SIGN;CYRILLIC CAPITAL LETTER E;CYRILLIC CAPITAL LETTER YU;
CYRILLIC CAPITAL LETTER YA;CYRILLIC SMALL LETTER A;CYRILLIC SMALL LETTER BE;
CYRILLIC SMALL LETTER VE;CYRILLIC SMALL LETTER GHE;CYRILLIC SMALL LETTER DE;
CYRILLIC SMALL LETTER IE;CYRILLIC SMALL LETTER ZHE;CYRILLIC SMALL LETTER ZE;CYRILLIC SMALL LETTER I;
CYRILLIC SMALL LETTER SHORT I;CYRILLIC SMALL LETTER KA;CYRILLIC SMALL LETTER EL;
CYRILLIC SMALL LETTER EM;CYRILLIC SMALL LETTER EN;CYRILLIC SMALL LETTER O;CYRILLIC SMALL LETTER PE;
CYRILLIC SMALL LETTER ER;CYRILLIC SMALL LETTER ES;CYRILLIC SMALL LETTER TE;CYRILLIC SMALL LETTER U;
CYRILLIC SMALL LETTER EF;CYRILLIC SMALL LETTER HA;CYRILLIC SMALL LETTER TSE;
CYRILLIC SMALL LETTER CHE;CYRILLIC SMALL LETTER SHA;CYRILLIC SMALL LETTER SHCHA;
CYRILLIC SMALL LETTER HARD SIGN;CYRILLIC SMALL LETTER YERU;CYRILLIC SMALL LETTER SOFT SIGN;
CYRILLIC SMALL LETTER E;CYRILLIC SMALL LETTER YU;CYRILLIC SMALL LETTER YA;
CYRILLIC SMALL LETTER IE WITH GRAVE;CYRILLIC SMALL LETTER IO;CYRILLIC SMALL LETTER DJE;
CYRILLIC SMALL LETTER GJE;CYRILLIC SMALL LETTER UKRAINIAN IE;CYRILLIC SMALL LETTER DZE;
CYRILLIC SMALL LETTER BYELORUSSIAN-UKRAINIAN I;CYRILLIC SMALL LETTER YI;CYRILLIC SMALL LETTER JE;
CYRILLIC SMALL LETTER LJE;CYRILLIC SMALL LETTER NJE;CYRILLIC SMALL LETTER TSHE;
CYRILLIC SMALL LETTER KJE;CYRILLIC SMALL LETTER I WITH GRAVE;CYRILLIC SMALL LETTER SHORT U;
CYRILLIC SMALL LETTER DZHE;CYRILLIC CAPITAL LETTER OMEGA;CYRILLIC SMALL LETTER OMEGA;
CYRILLIC CAPITAL LETTER YAT;CYRILLIC SMALL LETTER YAT;CYRILLIC CAPITAL LETTER IOTIFIED E;
CYRILLIC SMALL LETTER IOTIFIED E;CYRILLIC CAPITAL LETTER LITTLE YUS;
CYRILLIC SMALL LETTER LITTLE YUS;CYRILLIC CAPITAL LETTER IOTIFIED LITTLE YUS;
CYRILLIC SMALL LETTER IOTIFIED LITTLE YUS;CYRILLIC CAPITAL LETTER BIG YUS;
CYRILLIC SMALL LETTER BIG YUS;CYRILLIC CAPITAL LETTER IOTIFIED BIG YUS;
CYRILLIC SMALL LETTER IOTIFIED BIG YUS;CYRILLIC CAPITAL LETTER KSI;CYRILLIC SMALL LETTER KSI;
CYRILLIC CAPITAL LETTER PSI;CYRILLIC SMALL LETTER PSI;CYRILLIC CAPITAL LETTER FITA;
CYRILLIC SMALL LETTER FITA;CYRILLIC CAPITAL LETTER IZHITSA;CYRILLIC SMALL LETTER IZHITSA;
CYRILLIC CAPITAL LETTER IZHITSA WITH DOUBLE GRAVE ACCENT;
CYRILLIC SMALL LETTER IZHITSA WITH DOUBLE GRAVE ACCENT;CYRILLIC CAPITAL LETTER UK;
CYRILLIC SMALL LETTER UK;CYRILLIC CAPITAL LETTER ROUND OMEGA;CYRILLIC SMALL LETTER ROUND OMEGA;
CYRILLIC CAPITAL LETTER OMEGA WITH TITLO;CYRILLIC SMALL LETTER OMEGA WITH TITLO;
CYRILLIC CAPITAL LETTER OT;CYRILLIC SMALL LETTER OT;CYRILLIC CAPITAL LETTER KOPPA;
CYRILLIC SMALL LETTER KOPPA;CYRILLIC THOUSANDS SIGN;COMBINING CYRILLIC TITLO;
COMBINING CYRILLIC PALATALIZATION;COMBINING CYRILLIC DASIA PNEUMATA;
COMBINING CYRILLIC PSILI PNEUMATA;COMBINING CYRILLIC POKRYTIE;
COMBINING CYRILLIC HUNDRED THOUSANDS SIGN;COMBINING CYRILLIC MILLIONS SIGN;
CYRILLIC CAPITAL LETTER SHORT I WITH TAIL;CYRILLIC SMALL LETTER SHORT I WITH TAIL;
CYRILLIC CAPITAL LETTER SEMISOFT SIGN;CYRILLIC SMALL LETTER SEMISOFT SIGN;
CYRILLIC CAPITAL LETTER ER WITH TICK;CYRILLIC SMALL LETTER ER WITH TICK;
CYRILLIC CAPITAL LETTER GHE WITH UPTURN;CYRILLIC SMALL LETTER GHE WITH UPTURN;
CYRILLIC CAPITAL LETTER GHE WITH STROKE;CYRILLIC SMALL LETTER GHE WITH STROKE;
CYRILLIC CAPITAL LETTER GHE WITH MIDDLE HOOK;CYRILLIC SMALL LETTER GHE WITH MIDDLE HOOK;
CYRILLIC CAPITAL LETTER ZHE WITH DESCENDER;CYRILLIC SMALL LETTER ZHE WITH DESCENDER;
CYRILLIC CAPITAL LETTER ZE WITH DESCENDER;CYRILLIC SMALL LETTER ZE WITH DESCENDER;
CYRILLIC CAPITAL LETTER KA WITH DESCENDER;CYRILLIC SMALL LETTER KA WITH DESCENDER;
CYRILLIC CAPITAL LETTER KA WITH VERTICAL STROKE;CYRILLIC SMALL LETTER KA WITH VERTICAL STROKE;
CYRILLIC CAPITAL LETTER KA WITH STROKE;CYRILLIC SMALL LETTER KA WITH STROKE;
CYRILLIC CAPITAL LETTER BASHKIR KA;CYRILLIC SMALL LETTER BASHKIR KA;
CYRILLIC CAPITAL LETTER EN WITH DESCENDER;CYRILLIC SMALL LETTER EN WITH DESCENDER;
CYRILLIC CAPITAL LIGATURE EN GHE;CYRILLIC SMALL LIGATURE EN GHE;
CYRILLIC CAPITAL LETTER PE WITH MIDDLE HOOK;CYRILLIC SMALL LETTER PE WITH MIDDLE HOOK;
CYRILLIC CAPITAL LETTER ABKHASIAN HA;CYRILLIC SMALL LETTER ABKHASIAN HA;
CYRILLIC CAPITAL LETTER ES WITH DESCENDER;CYRILLIC SMALL LETTER ES WITH DESCENDER;
CYRILLIC CAPITAL LETTER TE WITH DESCENDER;CYRILLIC SMALL LETTER TE WITH DESCENDER;
CYRILLIC CAPITAL LETTER STRAIGHT U;CYRILLIC SMALL LETTER STRAIGHT U;
CYRILLIC CAPITAL LETTER STRAIGHT U WITH STROKE;CYRILLIC SMALL LETTER STRAIGHT U WITH STROKE;
CYRILLIC CAPITAL LETTER HA WITH DESCENDER;CYRILLIC SMALL LETTER HA WITH DESCENDER;
CYRILLIC CAPITAL LIGATURE TE TSE;CYRILLIC SMALL LIGATURE TE TSE;
CYRILLIC CAPITAL LETTER CHE WITH DESCENDER;CYRILLIC SMALL LETTER CHE WITH DESCENDER;
CYRILLIC CAPITAL LETTER CHE WITH VERTICAL STROKE;CYRILLIC SMALL LETTER CHE WITH VERTICAL STROKE;
CYRILLIC CAPITAL LETTER SHHA;CYRILLIC SMALL LETTER SHHA;CYRILLIC CAPITAL LETTER ABKHASIAN CHE;
CYRILLIC SMALL LETTER ABKHASIAN CHE;CYRILLIC CAPITAL LETTER ABKHASIAN CHE WITH DESCENDER;
CYRILLIC SMALL LETTER ABKHASIAN CHE WITH DESCENDER;CYRILLIC LETTER PALOCHKA;
CYRILLIC CAPITAL LETTER ZHE WITH BREVE;CYRILLIC SMALL LETTER ZHE WITH BREVE;
CYRILLIC CAPITAL LETTER KA WITH HOOK;CYRILLIC SMALL LETTER KA WITH HOOK;
CYRILLIC CAPITAL LETTER EL WITH TAIL;CYRILLIC SMALL LETTER EL WITH TAIL;
CYRILLIC CAPITAL LETTER EN WITH HOOK;CYRILLIC SMALL LETTER EN WITH HOOK;
CYRILLIC CAPITAL LETTER EN WITH TAIL;CYRILLIC SMALL LETTER EN WITH TAIL;
CYRILLIC CAPITAL LETTER KHAKASSIAN CHE;CYRILLIC SMALL LETTER KHAKASSIAN CHE;
CYRILLIC CAPITAL LETTER EM WITH TAIL;CYRILLIC SMALL LETTER EM WITH TAIL;
CYRILLIC SMALL LETTER PALOCHKA;CYRILLIC CAPITAL LETTER A WITH BREVE;
CYRILLIC SMALL LETTER A WITH BREVE;CYRILLIC CAPITAL LETTER A WITH DIAERESIS;
CYRILLIC SMALL LETTER A WITH DIAERESIS;CYRILLIC CAPITAL LIGATURE A IE;CYRILLIC SMALL LIGATURE A IE;
CYRILLIC CAPITAL LETTER IE WITH BREVE;CYRILLIC SMALL LETTER IE WITH BREVE;
CYRILLIC CAPITAL LETTER SCHWA;CYRILLIC SMALL LETTER SCHWA;
CYRILLIC CAPITAL LETTER SCHWA WITH DIAERESIS;CYRILLIC SMALL LETTER SCHWA WITH DIAERESIS;
CYRILLIC CAPITAL LETTER ZHE WITH DIAERESIS;CYRILLIC SMALL LETTER ZHE WITH DIAERESIS;
CYRILLIC CAPITAL LETTER ZE WITH DIAERESIS;CYRILLIC SMALL LETTER ZE WITH DIAERESIS;
CYRILLIC CAPITAL LETTER ABKHASIAN DZE;CYRILLIC SMALL LETTER ABKHASIAN DZE;
CYRILLIC CAPITAL LETTER I WITH MACRON;CYRILLIC SMALL LETTER I WITH MACRON;
CYRILLIC CAPITAL LETTER I WITH DIAERESIS;CYRILLIC SMALL LETTER I WITH DIAERESIS;
CYRILLIC CAPITAL LETTER O WITH DIAERESIS;CYRILLIC SMALL LETTER O WITH DIAERESIS;
CYRILLIC CAPITAL LETTER BARRED O;CYRILLIC SMALL LETTER BARRED O;
CYRILLIC CAPITAL LETTER BARRED O WITH DIAERESIS;CYRILLIC SMALL LETTER BARRED O WITH DIAERESIS;
CYRILLIC CAPITAL LETTER E WITH DIAERESIS;CYRILLIC SMALL LETTER E WITH DIAERESIS;
CYRILLIC CAPITAL LETTER U WITH MACRON;CYRILLIC SMALL LETTER U WITH MACRON;
CYRILLIC CAPITAL LETTER U WITH DIAERESIS;CYRILLIC SMALL LETTER U WITH DIAERESIS;
CYRILLIC CAPITAL LETTER U WITH DOUBLE ACUTE;CYRILLIC SMALL LETTER U WITH DOUBLE ACUTE;
CYRILLIC CAPITAL LETTER CHE WITH DIAERESIS;CYRILLIC SMALL LETTER CHE WITH DIAERESIS;
CYRILLIC CAPITAL LETTER GHE WITH DESCENDER;CYRILLIC SMALL LETTER GHE WITH DESCENDER;
CYRILLIC CAPITAL LETTER YERU WITH DIAERESIS;CYRILLIC SMALL LETTER YERU WITH DIAERESIS;
CYRILLIC CAPITAL LETTER GHE WITH STROKE AND HOOK;CYRILLIC SMALL LETTER GHE WITH STROKE AND HOOK;
CYRILLIC CAPITAL LETTER HA WITH HOOK;CYRILLIC SMALL LETTER HA WITH HOOK;
CYRILLIC CAPITAL LETTER HA WITH STROKE;CYRILLIC SMALL LETTER HA WITH STROKE;
CYRILLIC CAPITAL LETTER KOMI DE;CYRILLIC SMALL LETTER KOMI DE;CYRILLIC CAPITAL LETTER KOMI DJE;
CYRILLIC SMALL LETTER KOMI DJE;CYRILLIC CAPITAL LETTER KOMI ZJE;CYRILLIC SMALL LETTER KOMI ZJE;
CYRILLIC CAPITAL LETTER KOMI DZJE;CYRILLIC SMALL LETTER KOMI DZJE;CYRILLIC CAPITAL LETTER KOMI LJE;
CYRILLIC SMALL LETTER KOMI LJE;CYRILLIC CAPITAL LETTER KOMI NJE;CYRILLIC SMALL LETTER KOMI NJE;
CYRILLIC CAPITAL LETTER KOMI SJE;CYRILLIC SMALL LETTER KOMI SJE;CYRILLIC CAPITAL LETTER KOMI TJE;
CYRILLIC SMALL LETTER KOMI TJE;CYRILLIC CAPITAL LETTER REVERSED ZE;
CYRILLIC SMALL LETTER REVERSED ZE;CYRILLIC CAPITAL LETTER EL WITH HOOK;
CYRILLIC SMALL LETTER EL WITH HOOK;CYRILLIC CAPITAL LETTER LHA;CYRILLIC SMALL LETTER LHA;
CYRILLIC CAPITAL LETTER RHA;CYRILLIC SMALL LETTER RHA;CYRILLIC CAPITAL LETTER YAE;
CYRILLIC SMALL LETTER YAE;CYRILLIC CAPITAL LETTER QA;CYRILLIC SMALL LETTER QA;
CYRILLIC CAPITAL LETTER WE;CYRILLIC SMALL LETTER WE;CYRILLIC CAPITAL LETTER ALEUT KA;
CYRILLIC SMALL LETTER ALEUT KA;CYRILLIC CAPITAL LETTER EL WITH MIDDLE HOOK;
CYRILLIC SMALL LETTER EL WITH MIDDLE HOOK;CYRILLIC CAPITAL LETTER EN WITH MIDDLE HOOK;
CYRILLIC SMALL LETTER EN WITH MIDDLE HOOK;CYRILLIC CAPITAL LETTER PE WITH DESCENDER;
CYRILLIC SMALL LETTER PE WITH DESCENDER;CYRILLIC CAPITAL LETTER SHHA WITH DESCENDER;
CYRILLIC SMALL LETTER SHHA WITH DESCENDER;CYRILLIC CAPITAL LETTER EN WITH LEFT HOOK;
CYRILLIC SMALL LETTER EN WITH LEFT HOOK;CYRILLIC CAPITAL LETTER DZZHE;CYRILLIC SMALL LETTER DZZHE;
CYRILLIC CAPITAL LETTER DCHE;CYRILLIC SMALL LETTER DCHE;CYRILLIC CAPITAL LETTER EL WITH DESCENDER;
CYRILLIC SMALL LETTER EL WITH DESCENDER"

/-- The names from U+1E00 on, in order; a code without a name has an empty one. -/
def letterNames1e00 : String :=
  "LATIN CAPITAL LETTER A WITH RING BELOW;LATIN SMALL LETTER A WITH RING BELOW;
LATIN CAPITAL LETTER B WITH DOT ABOVE;LATIN SMALL LETTER B WITH DOT ABOVE;
LATIN CAPITAL LETTER B WITH DOT BELOW;LATIN SMALL LETTER B WITH DOT BELOW;
LATIN CAPITAL LETTER B WITH LINE BELOW;LATIN SMALL LETTER B WITH LINE BELOW;
LATIN CAPITAL LETTER C WITH CEDILLA AND ACUTE;LATIN SMALL LETTER C WITH CEDILLA AND ACUTE;
LATIN CAPITAL LETTER D WITH DOT ABOVE;LATIN SMALL LETTER D WITH DOT ABOVE;
LATIN CAPITAL LETTER D WITH DOT BELOW;LATIN SMALL LETTER D WITH DOT BELOW;
LATIN CAPITAL LETTER D WITH LINE BELOW;LATIN SMALL LETTER D WITH LINE BELOW;
LATIN CAPITAL LETTER D WITH CEDILLA;LATIN SMALL LETTER D WITH CEDILLA;
LATIN CAPITAL LETTER D WITH CIRCUMFLEX BELOW;LATIN SMALL LETTER D WITH CIRCUMFLEX BELOW;
LATIN CAPITAL LETTER E WITH MACRON AND GRAVE;LATIN SMALL LETTER E WITH MACRON AND GRAVE;
LATIN CAPITAL LETTER E WITH MACRON AND ACUTE;LATIN SMALL LETTER E WITH MACRON AND ACUTE;
LATIN CAPITAL LETTER E WITH CIRCUMFLEX BELOW;LATIN SMALL LETTER E WITH CIRCUMFLEX BELOW;
LATIN CAPITAL LETTER E WITH TILDE BELOW;LATIN SMALL LETTER E WITH TILDE BELOW;
LATIN CAPITAL LETTER E WITH CEDILLA AND BREVE;LATIN SMALL LETTER E WITH CEDILLA AND BREVE;
LATIN CAPITAL LETTER F WITH DOT ABOVE;LATIN SMALL LETTER F WITH DOT ABOVE;
LATIN CAPITAL LETTER G WITH MACRON;LATIN SMALL LETTER G WITH MACRON;
LATIN CAPITAL LETTER H WITH DOT ABOVE;LATIN SMALL LETTER H WITH DOT ABOVE;
LATIN CAPITAL LETTER H WITH DOT BELOW;LATIN SMALL LETTER H WITH DOT BELOW;
LATIN CAPITAL LETTER H WITH DIAERESIS;LATIN SMALL LETTER H WITH DIAERESIS;
LATIN CAPITAL LETTER H WITH CEDILLA;LATIN SMALL LETTER H WITH CEDILLA;
LATIN CAPITAL LETTER H WITH BREVE BELOW;LATIN SMALL LETTER H WITH BREVE BELOW;
LATIN CAPITAL LETTER I WITH TILDE BELOW;LATIN SMALL LETTER I WITH TILDE BELOW;
LATIN CAPITAL LETTER I WITH DIAERESIS AND ACUTE;LATIN SMALL LETTER I WITH DIAERESIS AND ACUTE;
LATIN CAPITAL LETTER K WITH ACUTE;LATIN SMALL LETTER K WITH ACUTE;
LATIN CAPITAL LETTER K WITH DOT BELOW;LATIN SMALL LETTER K WITH DOT BELOW;
LATIN CAPITAL LETTER K WITH LINE BELOW;LATIN SMALL LETTER K WITH LINE BELOW;
LATIN CAPITAL LETTER L WITH DOT BELOW;LATIN SMALL LETTER L WITH DOT BELOW;
LATIN CAPITAL LETTER L WITH DOT BELOW AND MACRON;LATIN SMALL LETTER L WITH DOT BELOW AND MACRON;
LATIN CAPITAL LETTER L WITH LINE BELOW;LATIN SMALL LETTER L WITH LINE BELOW;
LATIN CAPITAL LETTER L WITH CIRCUMFLEX BELOW;LATIN SMALL LETTER L WITH CIRCUMFLEX BELOW;
LATIN CAPITAL LETTER M WITH ACUTE;LATIN SMALL LETTER M WITH ACUTE;
LATIN CAPITAL LETTER M WITH DOT ABOVE;LATIN SMALL LETTER M WITH DOT ABOVE;
LATIN CAPITAL LETTER M WITH DOT BELOW;LATIN SMALL LETTER M WITH DOT BELOW;
LATIN CAPITAL LETTER N WITH DOT ABOVE;LATIN SMALL LETTER N WITH DOT ABOVE;
LATIN CAPITAL LETTER N WITH DOT BELOW;LATIN SMALL LETTER N WITH DOT BELOW;
LATIN CAPITAL LETTER N WITH LINE BELOW;LATIN SMALL LETTER N WITH LINE BELOW;
LATIN CAPITAL LETTER N WITH CIRCUMFLEX BELOW;LATIN SMALL LETTER N WITH CIRCUMFLEX BELOW;
LATIN CAPITAL LETTER O WITH TILDE AND ACUTE;LATIN SMALL LETTER O WITH TILDE AND ACUTE;
LATIN CAPITAL LETTER O WITH TILDE AND DIAERESIS;LATIN SMALL LETTER O WITH TILDE AND DIAERESIS;
LATIN CAPITAL LETTER O WITH MACRON AND GRAVE;LATIN SMALL LETTER O WITH MACRON AND GRAVE;
LATIN CAPITAL LETTER O WITH MACRON AND ACUTE;LATIN SMALL LETTER O WITH MACRON AND ACUTE;
LATIN CAPITAL LETTER P WITH ACUTE;LATIN SMALL LETTER P WITH ACUTE;
LATIN CAPITAL LETTER P WITH DOT ABOVE;LATIN SMALL LETTER P WITH DOT ABOVE;
LATIN CAPITAL LETTER R WITH DOT ABOVE;LATIN SMALL LETTER R WITH DOT ABOVE;
LATIN CAPITAL LETTER R WITH DOT BELOW;LATIN SMALL LETTER R WITH DOT BELOW;
LATIN CAPITAL LETTER R WITH DOT BELOW AND MACRON;LATIN SMALL LETTER R WITH DOT BELOW AND MACRON;
LATIN CAPITAL LETTER R WITH LINE BELOW;LATIN SMALL LETTER R WITH LINE BELOW;
LATIN CAPITAL LETTER S WITH DOT ABOVE;LATIN SMALL LETTER S WITH DOT ABOVE;
LATIN CAPITAL LETTER S WITH DOT BELOW;LATIN SMALL LETTER S WITH DOT BELOW;
LATIN CAPITAL LETTER S WITH ACUTE AND DOT ABOVE;LATIN SMALL LETTER S WITH ACUTE AND DOT ABOVE;
LATIN CAPITAL LETTER S WITH CARON AND DOT ABOVE;LATIN SMALL LETTER S WITH CARON AND DOT ABOVE;
LATIN CAPITAL LETTER S WITH DOT BELOW AND DOT ABOVE;
LATIN SMALL LETTER S WITH DOT BELOW AND DOT ABOVE;LATIN CAPITAL LETTER T WITH DOT ABOVE;
LATIN SMALL LETTER T WITH DOT ABOVE;LATIN CAPITAL LETTER T WITH DOT BELOW;
LATIN SMALL LETTER T WITH DOT BELOW;LATIN CAPITAL LETTER T WITH LINE BELOW;
LATIN SMALL LETTER T WITH LINE BELOW;LATIN CAPITAL LETTER T WITH CIRCUMFLEX BELOW;
LATIN SMALL LETTER T WITH CIRCUMFLEX BELOW;LATIN CAPITAL LETTER U WITH DIAERESIS BELOW;
LATIN SMALL LETTER U WITH DIAERESIS BELOW;LATIN CAPITAL LETTER U WITH TILDE BELOW;
LATIN SMALL LETTER U WITH TILDE BELOW;LATIN CAPITAL LETTER U WITH CIRCUMFLEX BELOW;
LATIN SMALL LETTER U WITH CIRCUMFLEX BELOW;LATIN CAPITAL LETTER U WITH TILDE AND ACUTE;
LATIN SMALL LETTER U WITH TILDE AND ACUTE;LATIN CAPITAL LETTER U WITH MACRON AND DIAERESIS;
LATIN SMALL LETTER U WITH MACRON AND DIAERESIS;LATIN CAPITAL LETTER V WITH TILDE;
LATIN SMALL LETTER V WITH TILDE;LATIN CAPITAL LETTER V WITH DOT BELOW;
LATIN SMALL LETTER V WITH DOT BELOW;LATIN CAPITAL LETTER W WITH GRAVE;
LATIN SMALL LETTER W WITH GRAVE;LATIN CAPITAL LETTER W WITH ACUTE;LATIN SMALL LETTER W WITH ACUTE;
LATIN CAPITAL LETTER W WITH DIAERESIS;LATIN SMALL LETTER W WITH DIAERESIS;
LATIN CAPITAL LETTER W WITH DOT ABOVE;LATIN SMALL LETTER W WITH DOT ABOVE;
LATIN CAPITAL LETTER W WITH DOT BELOW;LATIN SMALL LETTER W WITH DOT BELOW;
LATIN CAPITAL LETTER X WITH DOT ABOVE;LATIN SMALL LETTER X WITH DOT ABOVE;
LATIN CAPITAL LETTER X WITH DIAERESIS;LATIN SMALL LETTER X WITH DIAERESIS;
LATIN CAPITAL LETTER Y WITH DOT ABOVE;LATIN SMALL LETTER Y WITH DOT ABOVE;
LATIN CAPITAL LETTER Z WITH CIRCUMFLEX;LATIN SMALL LETTER Z WITH CIRCUMFLEX;
LATIN CAPITAL LETTER Z WITH DOT BELOW;LATIN SMALL LETTER Z WITH DOT BELOW;
LATIN CAPITAL LETTER Z WITH LINE BELOW;LATIN SMALL LETTER Z WITH LINE BELOW;
LATIN SMALL LETTER H WITH LINE BELOW;LATIN SMALL LETTER T WITH DIAERESIS;
LATIN SMALL LETTER W WITH RING ABOVE;LATIN SMALL LETTER Y WITH RING ABOVE;
LATIN SMALL LETTER A WITH RIGHT HALF RING;LATIN SMALL LETTER LONG S WITH DOT ABOVE;
LATIN SMALL LETTER LONG S WITH DIAGONAL STROKE;LATIN SMALL LETTER LONG S WITH HIGH STROKE;
LATIN CAPITAL LETTER SHARP S;LATIN SMALL LETTER DELTA;LATIN CAPITAL LETTER A WITH DOT BELOW;
LATIN SMALL LETTER A WITH DOT BELOW;LATIN CAPITAL LETTER A WITH HOOK ABOVE;
LATIN SMALL LETTER A WITH HOOK ABOVE;LATIN CAPITAL LETTER A WITH CIRCUMFLEX AND ACUTE;
LATIN SMALL LETTER A WITH CIRCUMFLEX AND ACUTE;LATIN CAPITAL LETTER A WITH CIRCUMFLEX AND GRAVE;
LATIN SMALL LETTER A WITH CIRCUMFLEX AND GRAVE;
LATIN CAPITAL LETTER A WITH CIRCUMFLEX AND HOOK ABOVE;
LATIN SMALL LETTER A WITH CIRCUMFLEX AND HOOK ABOVE;
LATIN CAPITAL LETTER A WITH CIRCUMFLEX AND TILDE;LATIN SMALL LETTER A WITH CIRCUMFLEX AND TILDE;
LATIN CAPITAL LETTER A WITH CIRCUMFLEX AND DOT BELOW;
LATIN SMALL LETTER A WITH CIRCUMFLEX AND DOT BELOW;LATIN CAPITAL LETTER A WITH BREVE AND ACUTE;
LATIN SMALL LETTER A WITH BREVE AND ACUTE;LATIN CAPITAL LETTER A WITH BREVE AND GRAVE;
LATIN SMALL LETTER A WITH BREVE AND GRAVE;LATIN CAPITAL LETTER A WITH BREVE AND HOOK ABOVE;
LATIN SMALL LETTER A WITH BREVE AND HOOK ABOVE;LATIN CAPITAL LETTER A WITH BREVE AND TILDE;
LATIN SMALL LETTER A WITH BREVE AND TILDE;LATIN CAPITAL LETTER A WITH BREVE AND DOT BELOW;
LATIN SMALL LETTER A WITH BREVE AND DOT BELOW;LATIN CAPITAL LETTER E WITH DOT BELOW;
LATIN SMALL LETTER E WITH DOT BELOW;LATIN CAPITAL LETTER E WITH HOOK ABOVE;
LATIN SMALL LETTER E WITH HOOK ABOVE;LATIN CAPITAL LETTER E WITH TILDE;
LATIN SMALL LETTER E WITH TILDE;LATIN CAPITAL LETTER E WITH CIRCUMFLEX AND ACUTE;
LATIN SMALL LETTER E WITH CIRCUMFLEX AND ACUTE;LATIN CAPITAL LETTER E WITH CIRCUMFLEX AND GRAVE;
LATIN SMALL LETTER E WITH CIRCUMFLEX AND GRAVE;
LATIN CAPITAL LETTER E WITH CIRCUMFLEX AND HOOK ABOVE;
LATIN SMALL LETTER E WITH CIRCUMFLEX AND HOOK ABOVE;
LATIN CAPITAL LETTER E WITH CIRCUMFLEX AND TILDE;LATIN SMALL LETTER E WITH CIRCUMFLEX AND TILDE;
LATIN CAPITAL LETTER E WITH CIRCUMFLEX AND DOT BELOW;
LATIN SMALL LETTER E WITH CIRCUMFLEX AND DOT BELOW;LATIN CAPITAL LETTER I WITH HOOK ABOVE;
LATIN SMALL LETTER I WITH HOOK ABOVE;LATIN CAPITAL LETTER I WITH DOT BELOW;
LATIN SMALL LETTER I WITH DOT BELOW;LATIN CAPITAL LETTER O WITH DOT BELOW;
LATIN SMALL LETTER O WITH DOT BELOW;LATIN CAPITAL LETTER O WITH HOOK ABOVE;
LATIN SMALL LETTER O WITH HOOK ABOVE;LATIN CAPITAL LETTER O WITH CIRCUMFLEX AND ACUTE;
LATIN SMALL LETTER O WITH CIRCUMFLEX AND ACUTE;LATIN CAPITAL LETTER O WITH CIRCUMFLEX AND GRAVE;
LATIN SMALL LETTER O WITH CIRCUMFLEX AND GRAVE;
LATIN CAPITAL LETTER O WITH CIRCUMFLEX AND HOOK ABOVE;
LATIN SMALL LETTER O WITH CIRCUMFLEX AND HOOK ABOVE;
LATIN CAPITAL LETTER O WITH CIRCUMFLEX AND TILDE;LATIN SMALL LETTER O WITH CIRCUMFLEX AND TILDE;
LATIN CAPITAL LETTER O WITH CIRCUMFLEX AND DOT BELOW;
LATIN SMALL LETTER O WITH CIRCUMFLEX AND DOT BELOW;LATIN CAPITAL LETTER O WITH HORN AND ACUTE;
LATIN SMALL LETTER O WITH HORN AND ACUTE;LATIN CAPITAL LETTER O WITH HORN AND GRAVE;
LATIN SMALL LETTER O WITH HORN AND GRAVE;LATIN CAPITAL LETTER O WITH HORN AND HOOK ABOVE;
LATIN SMALL LETTER O WITH HORN AND HOOK ABOVE;LATIN CAPITAL LETTER O WITH HORN AND TILDE;
LATIN SMALL LETTER O WITH HORN AND TILDE;LATIN CAPITAL LETTER O WITH HORN AND DOT BELOW;
LATIN SMALL LETTER O WITH HORN AND DOT BELOW;LATIN CAPITAL LETTER U WITH DOT BELOW;
LATIN SMALL LETTER U WITH DOT BELOW;LATIN CAPITAL LETTER U WITH HOOK ABOVE;
LATIN SMALL LETTER U WITH HOOK ABOVE;LATIN CAPITAL LETTER U WITH HORN AND ACUTE;
LATIN SMALL LETTER U WITH HORN AND ACUTE;LATIN CAPITAL LETTER U WITH HORN AND GRAVE;
LATIN SMALL LETTER U WITH HORN AND GRAVE;LATIN CAPITAL LETTER U WITH HORN AND HOOK ABOVE;
LATIN SMALL LETTER U WITH HORN AND HOOK ABOVE;LATIN CAPITAL LETTER U WITH HORN AND TILDE;
LATIN SMALL LETTER U WITH HORN AND TILDE;LATIN CAPITAL LETTER U WITH HORN AND DOT BELOW;
LATIN SMALL LETTER U WITH HORN AND DOT BELOW;LATIN CAPITAL LETTER Y WITH GRAVE;
LATIN SMALL LETTER Y WITH GRAVE;LATIN CAPITAL LETTER Y WITH DOT BELOW;
LATIN SMALL LETTER Y WITH DOT BELOW;LATIN CAPITAL LETTER Y WITH HOOK ABOVE;
LATIN SMALL LETTER Y WITH HOOK ABOVE;LATIN CAPITAL LETTER Y WITH TILDE;
LATIN SMALL LETTER Y WITH TILDE;LATIN CAPITAL LETTER MIDDLE-WELSH LL;
LATIN SMALL LETTER MIDDLE-WELSH LL;LATIN CAPITAL LETTER MIDDLE-WELSH V;
LATIN SMALL LETTER MIDDLE-WELSH V;LATIN CAPITAL LETTER Y WITH LOOP;LATIN SMALL LETTER Y WITH LOOP;
GREEK SMALL LETTER ALPHA WITH PSILI;GREEK SMALL LETTER ALPHA WITH DASIA;
GREEK SMALL LETTER ALPHA WITH PSILI AND VARIA;GREEK SMALL LETTER ALPHA WITH DASIA AND VARIA;
GREEK SMALL LETTER ALPHA WITH PSILI AND OXIA;GREEK SMALL LETTER ALPHA WITH DASIA AND OXIA;
GREEK SMALL LETTER ALPHA WITH PSILI AND PERISPOMENI;
GREEK SMALL LETTER ALPHA WITH DASIA AND PERISPOMENI;GREEK CAPITAL LETTER ALPHA WITH PSILI;
GREEK CAPITAL LETTER ALPHA WITH DASIA;GREEK CAPITAL LETTER ALPHA WITH PSILI AND VARIA;
GREEK CAPITAL LETTER ALPHA WITH DASIA AND VARIA;GREEK CAPITAL LETTER ALPHA WITH PSILI AND OXIA;
GREEK CAPITAL LETTER ALPHA WITH DASIA AND OXIA;
GREEK CAPITAL LETTER ALPHA WITH PSILI AND PERISPOMENI;
GREEK CAPITAL LETTER ALPHA WITH DASIA AND PERISPOMENI;GREEK SMALL LETTER EPSILON WITH PSILI;
GREEK SMALL LETTER EPSILON WITH DASIA;GREEK SMALL LETTER EPSILON WITH PSILI AND VARIA;
GREEK SMALL LETTER EPSILON WITH DASIA AND VARIA;GREEK SMALL LETTER EPSILON WITH PSILI AND OXIA;
GREEK SMALL LETTER EPSILON WITH DASIA AND OXIA;;;GREEK CAPITAL LETTER EPSILON WITH PSILI;
GREEK CAPITAL LETTER EPSILON WITH DASIA;GREEK CAPITAL LETTER EPSILON WITH PSILI AND VARIA;
GREEK CAPITAL LETTER EPSILON WITH DASIA AND VARIA;GREEK CAPITAL LETTER EPSILON WITH PSILI AND OXIA;
GREEK CAPITAL LETTER EPSILON WITH DASIA AND OXIA;;;GREEK SMALL LETTER ETA WITH PSILI;
GREEK SMALL LETTER ETA WITH DASIA;GREEK SMALL LETTER ETA WITH PSILI AND VARIA;
GREEK SMALL LETTER ETA WITH DASIA AND VARIA;GREEK SMALL LETTER ETA WITH PSILI AND OXIA;
GREEK SMALL LETTER ETA WITH DASIA AND OXIA;GREEK SMALL LETTER ETA WITH PSILI AND PERISPOMENI;
GREEK SMALL LETTER ETA WITH DASIA AND PERISPOMENI;GREEK CAPITAL LETTER ETA WITH PSILI;
GREEK CAPITAL LETTER ETA WITH DASIA;GREEK CAPITAL LETTER ETA WITH PSILI AND VARIA;
GREEK CAPITAL LETTER ETA WITH DASIA AND VARIA;GREEK CAPITAL LETTER ETA WITH PSILI AND OXIA;
GREEK CAPITAL LETTER ETA WITH DASIA AND OXIA;GREEK CAPITAL LETTER ETA WITH PSILI AND PERISPOMENI;
GREEK CAPITAL LETTER ETA WITH DASIA AND PERISPOMENI;GREEK SMALL LETTER IOTA WITH PSILI;
GREEK SMALL LETTER IOTA WITH DASIA;GREEK SMALL LETTER IOTA WITH PSILI AND VARIA;
GREEK SMALL LETTER IOTA WITH DASIA AND VARIA;GREEK SMALL LETTER IOTA WITH PSILI AND OXIA;
GREEK SMALL LETTER IOTA WITH DASIA AND OXIA;GREEK SMALL LETTER IOTA WITH PSILI AND PERISPOMENI;
GREEK SMALL LETTER IOTA WITH DASIA AND PERISPOMENI;GREEK CAPITAL LETTER IOTA WITH PSILI;
GREEK CAPITAL LETTER IOTA WITH DASIA;GREEK CAPITAL LETTER IOTA WITH PSILI AND VARIA;
GREEK CAPITAL LETTER IOTA WITH DASIA AND VARIA;GREEK CAPITAL LETTER IOTA WITH PSILI AND OXIA;
GREEK CAPITAL LETTER IOTA WITH DASIA AND OXIA;GREEK CAPITAL LETTER IOTA WITH PSILI AND PERISPOMENI;
GREEK CAPITAL LETTER IOTA WITH DASIA AND PERISPOMENI;GREEK SMALL LETTER OMICRON WITH PSILI;
GREEK SMALL LETTER OMICRON WITH DASIA;GREEK SMALL LETTER OMICRON WITH PSILI AND VARIA;
GREEK SMALL LETTER OMICRON WITH DASIA AND VARIA;GREEK SMALL LETTER OMICRON WITH PSILI AND OXIA;
GREEK SMALL LETTER OMICRON WITH DASIA AND OXIA;;;GREEK CAPITAL LETTER OMICRON WITH PSILI;
GREEK CAPITAL LETTER OMICRON WITH DASIA;GREEK CAPITAL LETTER OMICRON WITH PSILI AND VARIA;
GREEK CAPITAL LETTER OMICRON WITH DASIA AND VARIA;GREEK CAPITAL LETTER OMICRON WITH PSILI AND OXIA;
GREEK CAPITAL LETTER OMICRON WITH DASIA AND OXIA;;;GREEK SMALL LETTER UPSILON WITH PSILI;
GREEK SMALL LETTER UPSILON WITH DASIA;GREEK SMALL LETTER UPSILON WITH PSILI AND VARIA;
GREEK SMALL LETTER UPSILON WITH DASIA AND VARIA;GREEK SMALL LETTER UPSILON WITH PSILI AND OXIA;
GREEK SMALL LETTER UPSILON WITH DASIA AND OXIA;
GREEK SMALL LETTER UPSILON WITH PSILI AND PERISPOMENI;
GREEK SMALL LETTER UPSILON WITH DASIA AND PERISPOMENI;;GREEK CAPITAL LETTER UPSILON WITH DASIA;;
GREEK CAPITAL LETTER UPSILON WITH DASIA AND VARIA;;GREEK CAPITAL LETTER UPSILON WITH DASIA AND OXIA;
;GREEK CAPITAL LETTER UPSILON WITH DASIA AND PERISPOMENI;GREEK SMALL LETTER OMEGA WITH PSILI;
GREEK SMALL LETTER OMEGA WITH DASIA;GREEK SMALL LETTER OMEGA WITH PSILI AND VARIA;
GREEK SMALL LETTER OMEGA WITH DASIA AND VARIA;GREEK SMALL LETTER OMEGA WITH PSILI AND OXIA;
GREEK SMALL LETTER OMEGA WITH DASIA AND OXIA;GREEK SMALL LETTER OMEGA WITH PSILI AND PERISPOMENI;
GREEK SMALL LETTER OMEGA WITH DASIA AND PERISPOMENI;GREEK CAPITAL LETTER OMEGA WITH PSILI;
GREEK CAPITAL LETTER OMEGA WITH DASIA;GREEK CAPITAL LETTER OMEGA WITH PSILI AND VARIA;
GREEK CAPITAL LETTER OMEGA WITH DASIA AND VARIA;GREEK CAPITAL LETTER OMEGA WITH PSILI AND OXIA;
GREEK CAPITAL LETTER OMEGA WITH DASIA AND OXIA;
GREEK CAPITAL LETTER OMEGA WITH PSILI AND PERISPOMENI;
GREEK CAPITAL LETTER OMEGA WITH DASIA AND PERISPOMENI;GREEK SMALL LETTER ALPHA WITH VARIA;
GREEK SMALL LETTER ALPHA WITH OXIA;GREEK SMALL LETTER EPSILON WITH VARIA;
GREEK SMALL LETTER EPSILON WITH OXIA;GREEK SMALL LETTER ETA WITH VARIA;
GREEK SMALL LETTER ETA WITH OXIA;GREEK SMALL LETTER IOTA WITH VARIA;
GREEK SMALL LETTER IOTA WITH OXIA;GREEK SMALL LETTER OMICRON WITH VARIA;
GREEK SMALL LETTER OMICRON WITH OXIA;GREEK SMALL LETTER UPSILON WITH VARIA;
GREEK SMALL LETTER UPSILON WITH OXIA;GREEK SMALL LETTER OMEGA WITH VARIA;
GREEK SMALL LETTER OMEGA WITH OXIA;;;GREEK SMALL LETTER ALPHA WITH PSILI AND YPOGEGRAMMENI;
GREEK SMALL LETTER ALPHA WITH DASIA AND YPOGEGRAMMENI;
GREEK SMALL LETTER ALPHA WITH PSILI AND VARIA AND YPOGEGRAMMENI;
GREEK SMALL LETTER ALPHA WITH DASIA AND VARIA AND YPOGEGRAMMENI;
GREEK SMALL LETTER ALPHA WITH PSILI AND OXIA AND YPOGEGRAMMENI;
GREEK SMALL LETTER ALPHA WITH DASIA AND OXIA AND YPOGEGRAMMENI;
GREEK SMALL LETTER ALPHA WITH PSILI AND PERISPOMENI AND YPOGEGRAMMENI;
GREEK SMALL LETTER ALPHA WITH DASIA AND PERISPOMENI AND YPOGEGRAMMENI;
GREEK CAPITAL LETTER ALPHA WITH PSILI AND PROSGEGRAMMENI;
GREEK CAPITAL LETTER ALPHA WITH DASIA AND PROSGEGRAMMENI;
GREEK CAPITAL LETTER ALPHA WITH PSILI AND VARIA AND PROSGEGRAMMENI;
GREEK CAPITAL LETTER ALPHA WITH DASIA AND VARIA AND PROSGEGRAMMENI;
GREEK CAPITAL LETTER ALPHA WITH PSILI AND OXIA AND PROSGEGRAMMENI;
GREEK CAPITAL LETTER ALPHA WITH DASIA AND OXIA AND PROSGEGRAMMENI;
GREEK CAPITAL LETTER ALPHA WITH PSILI AND PERISPOMENI AND PROSGEGRAMMENI;
GREEK CAPITAL LETTER ALPHA WITH DASIA AND PERISPOMENI AND PROSGEGRAMMENI;
GREEK SMALL LETTER ETA WITH PSILI AND YPOGEGRAMMENI;
GREEK SMALL LETTER ETA WITH DASIA AND YPOGEGRAMMENI;
GREEK SMALL LETTER ETA WITH PSILI AND VARIA AND YPOGEGRAMMENI;
GREEK SMALL LETTER ETA WITH DASIA AND VARIA AND YPOGEGRAMMENI;
GREEK SMALL LETTER ETA WITH PSILI AND OXIA AND YPOGEGRAMMENI;
GREEK SMALL LETTER ETA WITH DASIA AND OXIA AND YPOGEGRAMMENI;
GREEK SMALL LETTER ETA WITH PSILI AND PERISPOMENI AND YPOGEGRAMMENI;
GREEK SMALL LETTER ETA WITH DASIA AND PERISPOMENI AND YPOGEGRAMMENI;
GREEK CAPITAL LETTER ETA WITH PSILI AND PROSGEGRAMMENI;
GREEK CAPITAL LETTER ETA WITH DASIA AND PROSGEGRAMMENI;
GREEK CAPITAL LETTER ETA WITH PSILI AND VARIA AND PROSGEGRAMMENI;
GREEK CAPITAL LETTER ETA WITH DASIA AND VARIA AND PROSGEGRAMMENI;
GREEK CAPITAL LETTER ETA WITH PSILI AND OXIA AND PROSGEGRAMMENI;
GREEK CAPITAL LETTER ETA WITH DASIA AND OXIA AND PROSGEGRAMMENI;
GREEK CAPITAL LETTER ETA WITH PSILI AND PERISPOMENI AND PROSGEGRAMMENI;
GREEK CAPITAL LETTER ETA WITH DASIA AND PERISPOMENI AND PROSGEGRAMMENI;
GREEK SMALL LETTER OMEGA WITH PSILI AND YPOGEGRAMMENI;
GREEK SMALL LETTER OMEGA WITH DASIA AND YPOGEGRAMMENI;
GREEK SMALL LETTER OMEGA WITH PSILI AND VARIA AND YPOGEGRAMMENI;
GREEK SMALL LETTER OMEGA WITH DASIA AND VARIA AND YPOGEGRAMMENI;
GREEK SMALL LETTER OMEGA WITH PSILI AND OXIA AND YPOGEGRAMMENI;
GREEK SMALL LETTER OMEGA WITH DASIA AND OXIA AND YPOGEGRAMMENI;
GREEK SMALL LETTER OMEGA WITH PSILI AND PERISPOMENI AND YPOGEGRAMMENI;
GREEK SMALL LETTER OMEGA WITH DASIA AND PERISPOMENI AND YPOGEGRAMMENI;
GREEK CAPITAL LETTER OMEGA WITH PSILI AND PROSGEGRAMMENI;
GREEK CAPITAL LETTER OMEGA WITH DASIA AND PROSGEGRAMMENI;
GREEK CAPITAL LETTER OMEGA WITH PSILI AND VARIA AND PROSGEGRAMMENI;
GREEK CAPITAL LETTER OMEGA WITH DASIA AND VARIA AND PROSGEGRAMMENI;
GREEK CAPITAL LETTER OMEGA WITH PSILI AND OXIA AND PROSGEGRAMMENI;
GREEK CAPITAL LETTER OMEGA WITH DASIA AND OXIA AND PROSGEGRAMMENI;
GREEK CAPITAL LETTER OMEGA WITH PSILI AND PERISPOMENI AND PROSGEGRAMMENI;
GREEK CAPITAL LETTER OMEGA WITH DASIA AND PERISPOMENI AND PROSGEGRAMMENI;
GREEK SMALL LETTER ALPHA WITH VRACHY;GREEK SMALL LETTER ALPHA WITH MACRON;
GREEK SMALL LETTER ALPHA WITH VARIA AND YPOGEGRAMMENI;GREEK SMALL LETTER ALPHA WITH YPOGEGRAMMENI;
GREEK SMALL LETTER ALPHA WITH OXIA AND YPOGEGRAMMENI;;GREEK SMALL LETTER ALPHA WITH PERISPOMENI;
GREEK SMALL LETTER ALPHA WITH PERISPOMENI AND YPOGEGRAMMENI;GREEK CAPITAL LETTER ALPHA WITH VRACHY;
GREEK CAPITAL LETTER ALPHA WITH MACRON;GREEK CAPITAL LETTER ALPHA WITH VARIA;
GREEK CAPITAL LETTER ALPHA WITH OXIA;GREEK CAPITAL LETTER ALPHA WITH PROSGEGRAMMENI;GREEK KORONIS;
GREEK PROSGEGRAMMENI;GREEK PSILI;GREEK PERISPOMENI;GREEK DIALYTIKA AND PERISPOMENI;
GREEK SMALL LETTER ETA WITH VARIA AND YPOGEGRAMMENI;GREEK SMALL LETTER ETA WITH YPOGEGRAMMENI;
GREEK SMALL LETTER ETA WITH OXIA AND YPOGEGRAMMENI;;GREEK SMALL LETTER ETA WITH PERISPOMENI;
GREEK SMALL LETTER ETA WITH PERISPOMENI AND YPOGEGRAMMENI;GREEK CAPITAL LETTER EPSILON WITH VARIA;
GREEK CAPITAL LETTER EPSILON WITH OXIA;GREEK CAPITAL LETTER ETA WITH VARIA;
GREEK CAPITAL LETTER ETA WITH OXIA;GREEK CAPITAL LETTER ETA WITH PROSGEGRAMMENI;
GREEK PSILI AND VARIA;GREEK PSILI AND OXIA;GREEK PSILI AND PERISPOMENI;
GREEK SMALL LETTER IOTA WITH VRACHY;GREEK SMALL LETTER IOTA WITH MACRON;
GREEK SMALL LETTER IOTA WITH DIALYTIKA AND VARIA;GREEK SMALL LETTER IOTA WITH DIALYTIKA AND OXIA;;;
GREEK SMALL LETTER IOTA WITH PERISPOMENI;GREEK SMALL LETTER IOTA WITH DIALYTIKA AND PERISPOMENI;
GREEK CAPITAL LETTER IOTA WITH VRACHY;GREEK CAPITAL LETTER IOTA WITH MACRON;
GREEK CAPITAL LETTER IOTA WITH VARIA;GREEK CAPITAL LETTER IOTA WITH OXIA;;GREEK DASIA AND VARIA;
GREEK DASIA AND OXIA;GREEK DASIA AND PERISPOMENI;GREEK SMALL LETTER UPSILON WITH VRACHY;
GREEK SMALL LETTER UPSILON WITH MACRON;GREEK SMALL LETTER UPSILON WITH DIALYTIKA AND VARIA;
GREEK SMALL LETTER UPSILON WITH DIALYTIKA AND OXIA;GREEK SMALL LETTER RHO WITH PSILI;
GREEK SMALL LETTER RHO WITH DASIA;GREEK SMALL LETTER UPSILON WITH PERISPOMENI;
GREEK SMALL LETTER UPSILON WITH DIALYTIKA AND PERISPOMENI;GREEK CAPITAL LETTER UPSILON WITH VRACHY;
GREEK CAPITAL LETTER UPSILON WITH MACRON;GREEK CAPITAL LETTER UPSILON WITH VARIA;
GREEK CAPITAL LETTER UPSILON WITH OXIA;GREEK CAPITAL LETTER RHO WITH DASIA;
GREEK DIALYTIKA AND VARIA;GREEK DIALYTIKA AND OXIA;GREEK VARIA;;;
GREEK SMALL LETTER OMEGA WITH VARIA AND YPOGEGRAMMENI;GREEK SMALL LETTER OMEGA WITH YPOGEGRAMMENI;
GREEK SMALL LETTER OMEGA WITH OXIA AND YPOGEGRAMMENI;;GREEK SMALL LETTER OMEGA WITH PERISPOMENI;
GREEK SMALL LETTER OMEGA WITH PERISPOMENI AND YPOGEGRAMMENI;GREEK CAPITAL LETTER OMICRON WITH VARIA;
GREEK CAPITAL LETTER OMICRON WITH OXIA;GREEK CAPITAL LETTER OMEGA WITH VARIA;
GREEK CAPITAL LETTER OMEGA WITH OXIA;GREEK CAPITAL LETTER OMEGA WITH PROSGEGRAMMENI;GREEK OXIA;
GREEK DASIA;"

/-- The names from U+2000 on, in order; a code without a name has an empty one. -/
def letterNames2000 : String :=
  "EN QUAD;EM QUAD;EN SPACE;EM SPACE;THREE-PER-EM SPACE;FOUR-PER-EM SPACE;SIX-PER-EM SPACE;
FIGURE SPACE;PUNCTUATION SPACE;THIN SPACE;HAIR SPACE;ZERO WIDTH SPACE;ZERO WIDTH NON-JOINER;
ZERO WIDTH JOINER;LEFT-TO-RIGHT MARK;RIGHT-TO-LEFT MARK;HYPHEN;NON-BREAKING HYPHEN;FIGURE DASH;
EN DASH;EM DASH;HORIZONTAL BAR;DOUBLE VERTICAL LINE;DOUBLE LOW LINE;LEFT SINGLE QUOTATION MARK;
RIGHT SINGLE QUOTATION MARK;SINGLE LOW-9 QUOTATION MARK;SINGLE HIGH-REVERSED-9 QUOTATION MARK;
LEFT DOUBLE QUOTATION MARK;RIGHT DOUBLE QUOTATION MARK;DOUBLE LOW-9 QUOTATION MARK;
DOUBLE HIGH-REVERSED-9 QUOTATION MARK;DAGGER;DOUBLE DAGGER;BULLET;TRIANGULAR BULLET;ONE DOT LEADER;
TWO DOT LEADER;HORIZONTAL ELLIPSIS;HYPHENATION POINT;LINE SEPARATOR;PARAGRAPH SEPARATOR;
LEFT-TO-RIGHT EMBEDDING;RIGHT-TO-LEFT EMBEDDING;POP DIRECTIONAL FORMATTING;LEFT-TO-RIGHT OVERRIDE;
RIGHT-TO-LEFT OVERRIDE;NARROW NO-BREAK SPACE;PER MILLE SIGN;PER TEN THOUSAND SIGN;PRIME;
DOUBLE PRIME;TRIPLE PRIME;REVERSED PRIME;REVERSED DOUBLE PRIME;REVERSED TRIPLE PRIME;CARET;
SINGLE LEFT-POINTING ANGLE QUOTATION MARK;SINGLE RIGHT-POINTING ANGLE QUOTATION MARK;REFERENCE MARK;
DOUBLE EXCLAMATION MARK;INTERROBANG;OVERLINE;UNDERTIE;CHARACTER TIE;CARET INSERTION POINT;ASTERISM;
HYPHEN BULLET;FRACTION SLASH;LEFT SQUARE BRACKET WITH QUILL;RIGHT SQUARE BRACKET WITH QUILL;
DOUBLE QUESTION MARK;QUESTION EXCLAMATION MARK;EXCLAMATION QUESTION MARK;TIRONIAN SIGN ET;
REVERSED PILCROW SIGN;BLACK LEFTWARDS BULLET;BLACK RIGHTWARDS BULLET;LOW ASTERISK;
REVERSED SEMICOLON;CLOSE UP;TWO ASTERISKS ALIGNED VERTICALLY;COMMERCIAL MINUS SIGN;SWUNG DASH;
INVERTED UNDERTIE;FLOWER PUNCTUATION MARK;THREE DOT PUNCTUATION;QUADRUPLE PRIME;
FOUR DOT PUNCTUATION;FIVE DOT PUNCTUATION;TWO DOT PUNCTUATION;FOUR DOT MARK;DOTTED CROSS;TRICOLON;
VERTICAL FOUR DOTS;MEDIUM MATHEMATICAL SPACE;WORD JOINER;FUNCTION APPLICATION;INVISIBLE TIMES;
INVISIBLE SEPARATOR;INVISIBLE PLUS;;LEFT-TO-RIGHT ISOLATE;RIGHT-TO-LEFT ISOLATE;
FIRST STRONG ISOLATE;POP DIRECTIONAL ISOLATE;INHIBIT SYMMETRIC SWAPPING;ACTIVATE SYMMETRIC SWAPPING;
INHIBIT ARABIC FORM SHAPING;ACTIVATE ARABIC FORM SHAPING;NATIONAL DIGIT SHAPES;NOMINAL DIGIT SHAPES"

/-- The names from U+2070 on, in order; a code without a name has an empty one. -/
def letterNames2070 : String :=
  "SUPERSCRIPT ZERO;SUPERSCRIPT LATIN SMALL LETTER I;;;SUPERSCRIPT FOUR;SUPERSCRIPT FIVE;
SUPERSCRIPT SIX;SUPERSCRIPT SEVEN;SUPERSCRIPT EIGHT;SUPERSCRIPT NINE;SUPERSCRIPT PLUS SIGN;
SUPERSCRIPT MINUS;SUPERSCRIPT EQUALS SIGN;SUPERSCRIPT LEFT PARENTHESIS;
SUPERSCRIPT RIGHT PARENTHESIS;SUPERSCRIPT LATIN SMALL LETTER N;SUBSCRIPT ZERO;SUBSCRIPT ONE;
SUBSCRIPT TWO;SUBSCRIPT THREE;SUBSCRIPT FOUR;SUBSCRIPT FIVE;SUBSCRIPT SIX;SUBSCRIPT SEVEN;
SUBSCRIPT EIGHT;SUBSCRIPT NINE;SUBSCRIPT PLUS SIGN;SUBSCRIPT MINUS;SUBSCRIPT EQUALS SIGN;
SUBSCRIPT LEFT PARENTHESIS;SUBSCRIPT RIGHT PARENTHESIS;;LATIN SUBSCRIPT SMALL LETTER A;
LATIN SUBSCRIPT SMALL LETTER E;LATIN SUBSCRIPT SMALL LETTER O;LATIN SUBSCRIPT SMALL LETTER X;
LATIN SUBSCRIPT SMALL LETTER SCHWA;LATIN SUBSCRIPT SMALL LETTER H;LATIN SUBSCRIPT SMALL LETTER K;
LATIN SUBSCRIPT SMALL LETTER L;LATIN SUBSCRIPT SMALL LETTER M;LATIN SUBSCRIPT SMALL LETTER N;
LATIN SUBSCRIPT SMALL LETTER P;LATIN SUBSCRIPT SMALL LETTER S;LATIN SUBSCRIPT SMALL LETTER T;;;;
EURO-CURRENCY SIGN;COLON SIGN;CRUZEIRO SIGN;FRENCH FRANC SIGN;LIRA SIGN;MILL SIGN;NAIRA SIGN;
PESETA SIGN;RUPEE SIGN;WON SIGN;NEW SHEQEL SIGN;DONG SIGN;EURO SIGN;KIP SIGN;TUGRIK SIGN;
DRACHMA SIGN;GERMAN PENNY SIGN;PESO SIGN;GUARANI SIGN;AUSTRAL SIGN;HRYVNIA SIGN;CEDI SIGN;
LIVRE TOURNOIS SIGN;SPESMILO SIGN;TENGE SIGN;INDIAN RUPEE SIGN;TURKISH LIRA SIGN;NORDIC MARK SIGN;
MANAT SIGN;RUBLE SIGN;LARI SIGN;BITCOIN SIGN;SOM SIGN;;;;;;;;;;;;;;;"

/-- The names from U+2100 on, in order; a code without a name has an empty one. -/
def letterNames2100 : String :=
  "ACCOUNT OF;ADDRESSED TO THE SUBJECT;DOUBLE-STRUCK CAPITAL C;DEGREE CELSIUS;CENTRE LINE SYMBOL;
CARE OF;CADA UNA;EULER CONSTANT;SCRUPLE;DEGREE FAHRENHEIT;SCRIPT SMALL G;SCRIPT CAPITAL H;
BLACK-LETTER CAPITAL H;DOUBLE-STRUCK CAPITAL H;PLANCK CONSTANT;PLANCK CONSTANT OVER TWO PI;
SCRIPT CAPITAL I;BLACK-LETTER CAPITAL I;SCRIPT CAPITAL L;SCRIPT SMALL L;L B BAR SYMBOL;
DOUBLE-STRUCK CAPITAL N;NUMERO SIGN;SOUND RECORDING COPYRIGHT;SCRIPT CAPITAL P;
DOUBLE-STRUCK CAPITAL P;DOUBLE-STRUCK CAPITAL Q;SCRIPT CAPITAL R;BLACK-LETTER CAPITAL R;
DOUBLE-STRUCK CAPITAL R;PRESCRIPTION TAKE;RESPONSE;SERVICE MARK;TELEPHONE SIGN;TRADE MARK SIGN;
VERSICLE;DOUBLE-STRUCK CAPITAL Z;OUNCE SIGN;OHM SIGN;INVERTED OHM SIGN;BLACK-LETTER CAPITAL Z;
TURNED GREEK SMALL LETTER IOTA;KELVIN SIGN;ANGSTROM SIGN;SCRIPT CAPITAL B;BLACK-LETTER CAPITAL C;
ESTIMATED SYMBOL;SCRIPT SMALL E;SCRIPT CAPITAL E;SCRIPT CAPITAL F;TURNED CAPITAL F;SCRIPT CAPITAL M;
SCRIPT SMALL O;ALEF SYMBOL;BET SYMBOL;GIMEL SYMBOL;DALET SYMBOL;INFORMATION SOURCE;
ROTATED CAPITAL Q;FACSIMILE SIGN;DOUBLE-STRUCK SMALL PI;DOUBLE-STRUCK SMALL GAMMA;
DOUBLE-STRUCK CAPITAL GAMMA;DOUBLE-STRUCK CAPITAL PI;DOUBLE-STRUCK N-ARY SUMMATION;
TURNED SANS-SERIF CAPITAL G;TURNED SANS-SERIF CAPITAL L;REVERSED SANS-SERIF CAPITAL L;
TURNED SANS-SERIF CAPITAL Y;DOUBLE-STRUCK ITALIC CAPITAL D;DOUBLE-STRUCK ITALIC SMALL D;
DOUBLE-STRUCK ITALIC SMALL E;DOUBLE-STRUCK ITALIC SMALL I;DOUBLE-STRUCK ITALIC SMALL J;
PROPERTY LINE;TURNED AMPERSAND;PER SIGN;AKTIESELSKAB;TURNED SMALL F;SYMBOL FOR SAMARITAN SOURCE;
VULGAR FRACTION ONE SEVENTH;VULGAR FRACTION ONE NINTH;VULGAR FRACTION ONE TENTH;
VULGAR FRACTION ONE THIRD;VULGAR FRACTION TWO THIRDS;VULGAR FRACTION ONE FIFTH;
VULGAR FRACTION TWO FIFTHS;VULGAR FRACTION THREE FIFTHS;VULGAR FRACTION FOUR FIFTHS;
VULGAR FRACTION ONE SIXTH;VULGAR FRACTION FIVE SIXTHS;VULGAR FRACTION ONE EIGHTH;
VULGAR FRACTION THREE EIGHTHS;VULGAR FRACTION FIVE EIGHTHS;VULGAR FRACTION SEVEN EIGHTHS;
FRACTION NUMERATOR ONE;ROMAN NUMERAL ONE;ROMAN NUMERAL TWO;ROMAN NUMERAL THREE;ROMAN NUMERAL FOUR;
ROMAN NUMERAL FIVE;ROMAN NUMERAL SIX;ROMAN NUMERAL SEVEN;ROMAN NUMERAL EIGHT;ROMAN NUMERAL NINE;
ROMAN NUMERAL TEN;ROMAN NUMERAL ELEVEN;ROMAN NUMERAL TWELVE;ROMAN NUMERAL FIFTY;
ROMAN NUMERAL ONE HUNDRED;ROMAN NUMERAL FIVE HUNDRED;ROMAN NUMERAL ONE THOUSAND;
SMALL ROMAN NUMERAL ONE;SMALL ROMAN NUMERAL TWO;SMALL ROMAN NUMERAL THREE;SMALL ROMAN NUMERAL FOUR;
SMALL ROMAN NUMERAL FIVE;SMALL ROMAN NUMERAL SIX;SMALL ROMAN NUMERAL SEVEN;
SMALL ROMAN NUMERAL EIGHT;SMALL ROMAN NUMERAL NINE;SMALL ROMAN NUMERAL TEN;
SMALL ROMAN NUMERAL ELEVEN;SMALL ROMAN NUMERAL TWELVE;SMALL ROMAN NUMERAL FIFTY;
SMALL ROMAN NUMERAL ONE HUNDRED;SMALL ROMAN NUMERAL FIVE HUNDRED;SMALL ROMAN NUMERAL ONE THOUSAND;
ROMAN NUMERAL ONE THOUSAND C D;ROMAN NUMERAL FIVE THOUSAND;ROMAN NUMERAL TEN THOUSAND;
ROMAN NUMERAL REVERSED ONE HUNDRED;LATIN SMALL LETTER REVERSED C;ROMAN NUMERAL SIX LATE FORM;
ROMAN NUMERAL FIFTY EARLY FORM;ROMAN NUMERAL FIFTY THOUSAND;ROMAN NUMERAL ONE HUNDRED THOUSAND;
VULGAR FRACTION ZERO THIRDS;TURNED DIGIT TWO;TURNED DIGIT THREE;;;;"

/-- The first codes of these blocks with the names from there on. -/
def letterNames : List (Nat × String) :=
  [(0x20, letterNames0020),
   (0xa0, letterNames00a0),
   (0x2b0, letterNames02b0),
   (0x370, letterNames0370),
   (0x1e00, letterNames1e00),
   (0x2000, letterNames2000),
   (0x2070, letterNames2070),
   (0x2100, letterNames2100)]

end Scriptorium.Text
