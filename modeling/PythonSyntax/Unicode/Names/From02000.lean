/-
The names of the Unicode characters from U+2000 up to U+24FF, version 16, in the order of their
code points.  Entries end in a semicolon; an at sign gives the code point of the next name,
and a plus sign what the names after it begin with.
-/

namespace PythonSyntax.Unicode

/-- Names of characters from U+2000 up to U+24FF. -/
def namesFrom02000 : String := "
@2000; EN QUAD; EM QUAD; EN SPACE; EM SPACE; THREE-PER-EM SPACE; FOUR-PER-EM SPACE;
SIX-PER-EM SPACE; FIGURE SPACE; PUNCTUATION SPACE; THIN SPACE; HAIR SPACE; +ZERO WIDTH ; SPACE;
NON-JOINER; JOINER; +; LEFT-TO-RIGHT MARK; RIGHT-TO-LEFT MARK; HYPHEN; NON-BREAKING HYPHEN;
FIGURE DASH; EN DASH; EM DASH; HORIZONTAL BAR; +DOUBLE ; VERTICAL LINE; LOW LINE; +;
LEFT SINGLE QUOTATION MARK; RIGHT SINGLE QUOTATION MARK; +SINGLE ; LOW-9 QUOTATION MARK;
HIGH-REVERSED-9 QUOTATION MARK; +; LEFT DOUBLE QUOTATION MARK; RIGHT DOUBLE QUOTATION MARK;
+DOUBLE ; LOW-9 QUOTATION MARK; HIGH-REVERSED-9 QUOTATION MARK; +; DAGGER; DOUBLE DAGGER; BULLET;
TRIANGULAR BULLET; ONE DOT LEADER; TWO DOT LEADER; HORIZONTAL ELLIPSIS; HYPHENATION POINT;
LINE SEPARATOR; PARAGRAPH SEPARATOR; LEFT-TO-RIGHT EMBEDDING; RIGHT-TO-LEFT EMBEDDING;
POP DIRECTIONAL FORMATTING; LEFT-TO-RIGHT OVERRIDE; RIGHT-TO-LEFT OVERRIDE; NARROW NO-BREAK SPACE;
PER MILLE SIGN; PER TEN THOUSAND SIGN; PRIME; DOUBLE PRIME; TRIPLE PRIME; +REVERSED ; PRIME;
DOUBLE PRIME; TRIPLE PRIME; +; CARET; +SINGLE ; LEFT-POINTING ANGLE QUOTATION MARK;
RIGHT-POINTING ANGLE QUOTATION MARK; +; REFERENCE MARK; DOUBLE EXCLAMATION MARK; INTERROBANG;
OVERLINE; UNDERTIE; CHARACTER TIE; CARET INSERTION POINT; ASTERISM; HYPHEN BULLET; FRACTION SLASH;
LEFT SQUARE BRACKET WITH QUILL; RIGHT SQUARE BRACKET WITH QUILL; DOUBLE QUESTION MARK;
QUESTION EXCLAMATION MARK; EXCLAMATION QUESTION MARK; TIRONIAN SIGN ET; REVERSED PILCROW SIGN;
BLACK LEFTWARDS BULLET; BLACK RIGHTWARDS BULLET; LOW ASTERISK; REVERSED SEMICOLON; CLOSE UP;
TWO ASTERISKS ALIGNED VERTICALLY; COMMERCIAL MINUS SIGN; SWUNG DASH; INVERTED UNDERTIE;
FLOWER PUNCTUATION MARK; THREE DOT PUNCTUATION; QUADRUPLE PRIME; FOUR DOT PUNCTUATION;
FIVE DOT PUNCTUATION; TWO DOT PUNCTUATION; FOUR DOT MARK; DOTTED CROSS; TRICOLON;
VERTICAL FOUR DOTS; MEDIUM MATHEMATICAL SPACE; WORD JOINER; FUNCTION APPLICATION; +INVISIBLE ;
TIMES; SEPARATOR; PLUS; @2066; +; LEFT-TO-RIGHT ISOLATE; RIGHT-TO-LEFT ISOLATE;
FIRST STRONG ISOLATE; POP DIRECTIONAL ISOLATE; INHIBIT SYMMETRIC SWAPPING;
ACTIVATE SYMMETRIC SWAPPING; INHIBIT ARABIC FORM SHAPING; ACTIVATE ARABIC FORM SHAPING;
NATIONAL DIGIT SHAPES; NOMINAL DIGIT SHAPES; +SUPERSCRIPT ; ZERO; LATIN SMALL LETTER I; @2074; FOUR;
FIVE; SIX; SEVEN; EIGHT; NINE; PLUS SIGN; MINUS; EQUALS SIGN; LEFT PARENTHESIS; RIGHT PARENTHESIS;
LATIN SMALL LETTER N; +SUBSCRIPT ; ZERO; ONE; TWO; THREE; FOUR; FIVE; SIX; SEVEN; EIGHT; NINE;
PLUS SIGN; MINUS; EQUALS SIGN; LEFT PARENTHESIS; RIGHT PARENTHESIS; @2090;
+LATIN SUBSCRIPT SMALL LETTER ; A; E; O; X; SCHWA; H; K; L; M; N; P; S; T; @20A0; +;
EURO-CURRENCY SIGN; COLON SIGN; CRUZEIRO SIGN; FRENCH FRANC SIGN; LIRA SIGN; MILL SIGN; NAIRA SIGN;
PESETA SIGN; RUPEE SIGN; WON SIGN; NEW SHEQEL SIGN; DONG SIGN; EURO SIGN; KIP SIGN; TUGRIK SIGN;
DRACHMA SIGN; GERMAN PENNY SIGN; PESO SIGN; GUARANI SIGN; AUSTRAL SIGN; HRYVNIA SIGN; CEDI SIGN;
LIVRE TOURNOIS SIGN; SPESMILO SIGN; TENGE SIGN; INDIAN RUPEE SIGN; TURKISH LIRA SIGN;
NORDIC MARK SIGN; MANAT SIGN; RUBLE SIGN; LARI SIGN; BITCOIN SIGN; SOM SIGN; @20D0; +COMBINING ;
LEFT HARPOON ABOVE; RIGHT HARPOON ABOVE; LONG VERTICAL LINE OVERLAY; SHORT VERTICAL LINE OVERLAY;
ANTICLOCKWISE ARROW ABOVE; CLOCKWISE ARROW ABOVE; LEFT ARROW ABOVE; RIGHT ARROW ABOVE; RING OVERLAY;
CLOCKWISE RING OVERLAY; ANTICLOCKWISE RING OVERLAY; THREE DOTS ABOVE; FOUR DOTS ABOVE;
+COMBINING ENCLOSING ; CIRCLE; SQUARE; DIAMOND; CIRCLE BACKSLASH; +COMBINING ;
LEFT RIGHT ARROW ABOVE; ENCLOSING SCREEN; ENCLOSING KEYCAP; ENCLOSING UPWARD POINTING TRIANGLE;
REVERSE SOLIDUS OVERLAY; DOUBLE VERTICAL STROKE OVERLAY; ANNUITY SYMBOL; TRIPLE UNDERDOT;
WIDE BRIDGE ABOVE; LEFTWARDS ARROW OVERLAY; LONG DOUBLE SOLIDUS OVERLAY;
RIGHTWARDS HARPOON WITH BARB DOWNWARDS; LEFTWARDS HARPOON WITH BARB DOWNWARDS; LEFT ARROW BELOW;
RIGHT ARROW BELOW; ASTERISK ABOVE; @2100; +; ACCOUNT OF; ADDRESSED TO THE SUBJECT;
DOUBLE-STRUCK CAPITAL C; DEGREE CELSIUS; CENTRE LINE SYMBOL; CARE OF; CADA UNA; EULER CONSTANT;
SCRUPLE; DEGREE FAHRENHEIT; +SCRIPT ; SMALL G; CAPITAL H; +; BLACK-LETTER CAPITAL H;
DOUBLE-STRUCK CAPITAL H; +PLANCK ; CONSTANT; CONSTANT OVER TWO PI; +; SCRIPT CAPITAL I;
BLACK-LETTER CAPITAL I; +SCRIPT ; CAPITAL L; SMALL L; +; L B BAR SYMBOL; DOUBLE-STRUCK CAPITAL N;
NUMERO SIGN; SOUND RECORDING COPYRIGHT; SCRIPT CAPITAL P; +DOUBLE-STRUCK CAPITAL ; P; Q; +;
SCRIPT CAPITAL R; BLACK-LETTER CAPITAL R; DOUBLE-STRUCK CAPITAL R; PRESCRIPTION TAKE; RESPONSE;
SERVICE MARK; TELEPHONE SIGN; TRADE MARK SIGN; VERSICLE; DOUBLE-STRUCK CAPITAL Z; OUNCE SIGN;
OHM SIGN; INVERTED OHM SIGN; BLACK-LETTER CAPITAL Z; TURNED GREEK SMALL LETTER IOTA; KELVIN SIGN;
ANGSTROM SIGN; SCRIPT CAPITAL B; BLACK-LETTER CAPITAL C; ESTIMATED SYMBOL; SCRIPT SMALL E;
+SCRIPT CAPITAL ; E; F; +TURNED CAPITAL ; F; +SCRIPT ; CAPITAL M; SMALL O; +; ALEF SYMBOL;
BET SYMBOL; GIMEL SYMBOL; DALET SYMBOL; INFORMATION SOURCE; ROTATED CAPITAL Q; FACSIMILE SIGN;
+DOUBLE-STRUCK ; SMALL PI; SMALL GAMMA; CAPITAL GAMMA; CAPITAL PI; N-ARY SUMMATION;
+TURNED SANS-SERIF CAPITAL ; G; L; +; REVERSED SANS-SERIF CAPITAL L; TURNED SANS-SERIF CAPITAL Y;
+DOUBLE-STRUCK ITALIC ; CAPITAL D; SMALL D; SMALL E; SMALL I; SMALL J; +; PROPERTY LINE;
TURNED AMPERSAND; PER SIGN; AKTIESELSKAB; TURNED SMALL F; SYMBOL FOR SAMARITAN SOURCE;
+VULGAR FRACTION ; ONE SEVENTH; ONE NINTH; ONE TENTH; ONE THIRD; TWO THIRDS; ONE FIFTH; TWO FIFTHS;
THREE FIFTHS; FOUR FIFTHS; ONE SIXTH; FIVE SIXTHS; ONE EIGHTH; THREE EIGHTHS; FIVE EIGHTHS;
SEVEN EIGHTHS; +FRACTION NUMERATOR ; ONE; +ROMAN NUMERAL ; ONE; TWO; THREE; FOUR; FIVE; SIX; SEVEN;
EIGHT; NINE; TEN; ELEVEN; TWELVE; FIFTY; ONE HUNDRED; FIVE HUNDRED; ONE THOUSAND;
+SMALL ROMAN NUMERAL ; ONE; TWO; THREE; FOUR; FIVE; SIX; SEVEN; EIGHT; NINE; TEN; ELEVEN; TWELVE;
FIFTY; ONE HUNDRED; FIVE HUNDRED; ONE THOUSAND; +ROMAN NUMERAL ; ONE THOUSAND C D; FIVE THOUSAND;
TEN THOUSAND; REVERSED ONE HUNDRED; +LATIN SMALL LETTER REVERSED ; C; +ROMAN NUMERAL ;
SIX LATE FORM; FIFTY EARLY FORM; FIFTY THOUSAND; ONE HUNDRED THOUSAND; +VULGAR FRACTION ZERO ;
THIRDS; +TURNED DIGIT ; TWO; THREE; @2190; +; LEFTWARDS ARROW; UPWARDS ARROW; RIGHTWARDS ARROW;
DOWNWARDS ARROW; LEFT RIGHT ARROW; UP DOWN ARROW; +NORTH ; WEST ARROW; EAST ARROW; +SOUTH ;
EAST ARROW; WEST ARROW; +; LEFTWARDS ARROW WITH STROKE; RIGHTWARDS ARROW WITH STROKE;
LEFTWARDS WAVE ARROW; RIGHTWARDS WAVE ARROW; LEFTWARDS TWO HEADED ARROW; UPWARDS TWO HEADED ARROW;
RIGHTWARDS TWO HEADED ARROW; DOWNWARDS TWO HEADED ARROW; LEFTWARDS ARROW WITH TAIL;
RIGHTWARDS ARROW WITH TAIL; LEFTWARDS ARROW FROM BAR; UPWARDS ARROW FROM BAR;
RIGHTWARDS ARROW FROM BAR; DOWNWARDS ARROW FROM BAR; UP DOWN ARROW WITH BASE;
LEFTWARDS ARROW WITH HOOK; RIGHTWARDS ARROW WITH HOOK; LEFTWARDS ARROW WITH LOOP;
RIGHTWARDS ARROW WITH LOOP; +LEFT RIGHT ; WAVE ARROW; ARROW WITH STROKE; +DOWNWARDS ZIGZAG ; ARROW;
+UPWARDS ARROW WITH TIP ; LEFTWARDS; RIGHTWARDS; +DOWNWARDS ARROW WITH TIP ; LEFTWARDS; RIGHTWARDS;
+; RIGHTWARDS ARROW WITH CORNER DOWNWARDS; DOWNWARDS ARROW WITH CORNER LEFTWARDS;
ANTICLOCKWISE TOP SEMICIRCLE ARROW; CLOCKWISE TOP SEMICIRCLE ARROW; NORTH WEST ARROW TO LONG BAR;
LEFTWARDS ARROW TO BAR OVER RIGHTWARDS ARROW TO BAR; ANTICLOCKWISE OPEN CIRCLE ARROW;
CLOCKWISE OPEN CIRCLE ARROW; +LEFTWARDS HARPOON WITH BARB ; UPWARDS; DOWNWARDS;
+UPWARDS HARPOON WITH BARB ; RIGHTWARDS; LEFTWARDS; +RIGHTWARDS HARPOON WITH BARB ; UPWARDS;
DOWNWARDS; +DOWNWARDS HARPOON WITH BARB ; RIGHTWARDS; LEFTWARDS; +;
RIGHTWARDS ARROW OVER LEFTWARDS ARROW; UPWARDS ARROW LEFTWARDS OF DOWNWARDS ARROW; +LEFTWARDS ;
ARROW OVER RIGHTWARDS ARROW; PAIRED ARROWS; +; UPWARDS PAIRED ARROWS; RIGHTWARDS PAIRED ARROWS;
DOWNWARDS PAIRED ARROWS; LEFTWARDS HARPOON OVER RIGHTWARDS HARPOON;
RIGHTWARDS HARPOON OVER LEFTWARDS HARPOON; LEFTWARDS DOUBLE ARROW WITH STROKE;
LEFT RIGHT DOUBLE ARROW WITH STROKE; RIGHTWARDS DOUBLE ARROW WITH STROKE; LEFTWARDS DOUBLE ARROW;
UPWARDS DOUBLE ARROW; RIGHTWARDS DOUBLE ARROW; DOWNWARDS DOUBLE ARROW; LEFT RIGHT DOUBLE ARROW;
UP DOWN DOUBLE ARROW; +NORTH ; WEST DOUBLE ARROW; EAST DOUBLE ARROW; +SOUTH ; EAST DOUBLE ARROW;
WEST DOUBLE ARROW; +; LEFTWARDS TRIPLE ARROW; RIGHTWARDS TRIPLE ARROW; LEFTWARDS SQUIGGLE ARROW;
RIGHTWARDS SQUIGGLE ARROW; UPWARDS ARROW WITH DOUBLE STROKE; DOWNWARDS ARROW WITH DOUBLE STROKE;
LEFTWARDS DASHED ARROW; UPWARDS DASHED ARROW; RIGHTWARDS DASHED ARROW; DOWNWARDS DASHED ARROW;
LEFTWARDS ARROW TO BAR; RIGHTWARDS ARROW TO BAR; LEFTWARDS WHITE ARROW; UPWARDS WHITE ARROW;
RIGHTWARDS WHITE ARROW; DOWNWARDS WHITE ARROW; +UPWARDS WHITE ARROW ; FROM BAR; ON PEDESTAL;
ON PEDESTAL WITH HORIZONTAL BAR; ON PEDESTAL WITH VERTICAL BAR; +UPWARDS WHITE DOUBLE ; ARROW;
ARROW ON PEDESTAL; +; RIGHTWARDS WHITE ARROW FROM WALL; NORTH WEST ARROW TO CORNER;
SOUTH EAST ARROW TO CORNER; UP DOWN WHITE ARROW; RIGHT ARROW WITH SMALL CIRCLE;
DOWNWARDS ARROW LEFTWARDS OF UPWARDS ARROW; THREE RIGHTWARDS ARROWS;
LEFTWARDS ARROW WITH VERTICAL STROKE; RIGHTWARDS ARROW WITH VERTICAL STROKE;
LEFT RIGHT ARROW WITH VERTICAL STROKE; LEFTWARDS ARROW WITH DOUBLE VERTICAL STROKE;
RIGHTWARDS ARROW WITH DOUBLE VERTICAL STROKE; LEFT RIGHT ARROW WITH DOUBLE VERTICAL STROKE;
LEFTWARDS OPEN-HEADED ARROW; RIGHTWARDS OPEN-HEADED ARROW; LEFT RIGHT OPEN-HEADED ARROW; FOR ALL;
COMPLEMENT; PARTIAL DIFFERENTIAL; THERE EXISTS; THERE DOES NOT EXIST; EMPTY SET; INCREMENT; NABLA;
ELEMENT OF; NOT AN ELEMENT OF; SMALL ELEMENT OF; CONTAINS AS MEMBER; DOES NOT CONTAIN AS MEMBER;
SMALL CONTAINS AS MEMBER; END OF PROOF; +N-ARY ; PRODUCT; COPRODUCT; SUMMATION; +; MINUS SIGN;
MINUS-OR-PLUS SIGN; DOT PLUS; DIVISION SLASH; SET MINUS; ASTERISK OPERATOR; RING OPERATOR;
BULLET OPERATOR; SQUARE ROOT; CUBE ROOT; FOURTH ROOT; PROPORTIONAL TO; INFINITY; RIGHT ANGLE; ANGLE;
MEASURED ANGLE; SPHERICAL ANGLE; DIVIDES; DOES NOT DIVIDE; PARALLEL TO; NOT PARALLEL TO; +LOGICAL ;
AND; OR; +; INTERSECTION; UNION; INTEGRAL; DOUBLE INTEGRAL; TRIPLE INTEGRAL; CONTOUR INTEGRAL;
SURFACE INTEGRAL; VOLUME INTEGRAL; +CLOCKWISE ; INTEGRAL; CONTOUR INTEGRAL; +;
ANTICLOCKWISE CONTOUR INTEGRAL; THEREFORE; BECAUSE; RATIO; PROPORTION; DOT MINUS; EXCESS;
GEOMETRIC PROPORTION; HOMOTHETIC; TILDE OPERATOR; REVERSED TILDE; INVERTED LAZY S; SINE WAVE;
WREATH PRODUCT; NOT TILDE; MINUS TILDE; ASYMPTOTICALLY EQUAL TO; NOT ASYMPTOTICALLY EQUAL TO;
+APPROXIMATELY ; EQUAL TO; BUT NOT ACTUALLY EQUAL TO; +;
NEITHER APPROXIMATELY NOR ACTUALLY EQUAL TO; ALMOST EQUAL TO; NOT ALMOST EQUAL TO;
ALMOST EQUAL OR EQUAL TO; TRIPLE TILDE; ALL EQUAL TO; EQUIVALENT TO; GEOMETRICALLY EQUIVALENT TO;
DIFFERENCE BETWEEN; APPROACHES THE LIMIT; GEOMETRICALLY EQUAL TO;
APPROXIMATELY EQUAL TO OR THE IMAGE OF; IMAGE OF OR APPROXIMATELY EQUAL TO; COLON EQUALS;
EQUALS COLON; RING IN EQUAL TO; RING EQUAL TO; CORRESPONDS TO; ESTIMATES; EQUIANGULAR TO;
STAR EQUALS; DELTA EQUAL TO; EQUAL TO BY DEFINITION; MEASURED BY; QUESTIONED EQUAL TO; NOT EQUAL TO;
IDENTICAL TO; NOT IDENTICAL TO; STRICTLY EQUIVALENT TO; LESS-THAN OR EQUAL TO;
GREATER-THAN OR EQUAL TO; LESS-THAN OVER EQUAL TO; GREATER-THAN OVER EQUAL TO;
LESS-THAN BUT NOT EQUAL TO; GREATER-THAN BUT NOT EQUAL TO; MUCH LESS-THAN; MUCH GREATER-THAN;
BETWEEN; +NOT ; EQUIVALENT TO; LESS-THAN; GREATER-THAN; +NEITHER ; LESS-THAN NOR EQUAL TO;
GREATER-THAN NOR EQUAL TO; +; LESS-THAN OR EQUIVALENT TO; GREATER-THAN OR EQUIVALENT TO; +NEITHER ;
LESS-THAN NOR EQUIVALENT TO; GREATER-THAN NOR EQUIVALENT TO; +; LESS-THAN OR GREATER-THAN;
GREATER-THAN OR LESS-THAN; +NEITHER ; LESS-THAN NOR GREATER-THAN; GREATER-THAN NOR LESS-THAN; +;
PRECEDES; SUCCEEDS; PRECEDES OR EQUAL TO; SUCCEEDS OR EQUAL TO; PRECEDES OR EQUIVALENT TO;
SUCCEEDS OR EQUIVALENT TO; +DOES NOT ; PRECEDE; SUCCEED; +; SUBSET OF; SUPERSET OF; NOT A SUBSET OF;
NOT A SUPERSET OF; SUBSET OF OR EQUAL TO; SUPERSET OF OR EQUAL TO; +NEITHER A ;
SUBSET OF NOR EQUAL TO; SUPERSET OF NOR EQUAL TO; +; SUBSET OF WITH NOT EQUAL TO;
SUPERSET OF WITH NOT EQUAL TO; MULTISET; +MULTISET ; MULTIPLICATION; UNION; +SQUARE ; IMAGE OF;
ORIGINAL OF; IMAGE OF OR EQUAL TO; ORIGINAL OF OR EQUAL TO; CAP; CUP; +CIRCLED ; PLUS; MINUS; TIMES;
DIVISION SLASH; DOT OPERATOR; RING OPERATOR; ASTERISK OPERATOR; EQUALS; DASH; +SQUARED ; PLUS;
MINUS; TIMES; DOT OPERATOR; +; RIGHT TACK; LEFT TACK; DOWN TACK; UP TACK; ASSERTION; MODELS; TRUE;
FORCES; TRIPLE VERTICAL BAR RIGHT TURNSTILE; DOUBLE VERTICAL BAR DOUBLE RIGHT TURNSTILE;
DOES NOT PROVE; NOT TRUE; DOES NOT FORCE; NEGATED DOUBLE VERTICAL BAR DOUBLE RIGHT TURNSTILE;
PRECEDES UNDER RELATION; SUCCEEDS UNDER RELATION; NORMAL SUBGROUP OF; CONTAINS AS NORMAL SUBGROUP;
NORMAL SUBGROUP OF OR EQUAL TO; CONTAINS AS NORMAL SUBGROUP OR EQUAL TO; ORIGINAL OF; IMAGE OF;
MULTIMAP; HERMITIAN CONJUGATE MATRIX; INTERCALATE; XOR; NAND; NOR; +RIGHT ; ANGLE WITH ARC;
TRIANGLE; +N-ARY ; LOGICAL AND; LOGICAL OR; INTERSECTION; UNION; +; DIAMOND OPERATOR; DOT OPERATOR;
STAR OPERATOR; DIVISION TIMES; BOWTIE; LEFT NORMAL FACTOR SEMIDIRECT PRODUCT;
RIGHT NORMAL FACTOR SEMIDIRECT PRODUCT; LEFT SEMIDIRECT PRODUCT; RIGHT SEMIDIRECT PRODUCT;
REVERSED TILDE EQUALS; +CURLY LOGICAL ; OR; AND; +DOUBLE ; SUBSET; SUPERSET; INTERSECTION; UNION; +;
PITCHFORK; EQUAL AND PARALLEL TO; LESS-THAN WITH DOT; GREATER-THAN WITH DOT; +VERY MUCH ; LESS-THAN;
GREATER-THAN; +; LESS-THAN EQUAL TO OR GREATER-THAN; GREATER-THAN EQUAL TO OR LESS-THAN;
+EQUAL TO OR ; LESS-THAN; GREATER-THAN; PRECEDES; SUCCEEDS; +DOES NOT ; PRECEDE OR EQUAL;
SUCCEED OR EQUAL; +NOT SQUARE ; IMAGE OF OR EQUAL TO; ORIGINAL OF OR EQUAL TO; +SQUARE ;
IMAGE OF OR NOT EQUAL TO; ORIGINAL OF OR NOT EQUAL TO; +; LESS-THAN BUT NOT EQUIVALENT TO;
GREATER-THAN BUT NOT EQUIVALENT TO; PRECEDES BUT NOT EQUIVALENT TO; SUCCEEDS BUT NOT EQUIVALENT TO;
NOT NORMAL SUBGROUP OF; DOES NOT CONTAIN AS NORMAL SUBGROUP; NOT NORMAL SUBGROUP OF OR EQUAL TO;
DOES NOT CONTAIN AS NORMAL SUBGROUP OR EQUAL; VERTICAL ELLIPSIS; MIDLINE HORIZONTAL ELLIPSIS;
UP RIGHT DIAGONAL ELLIPSIS; DOWN RIGHT DIAGONAL ELLIPSIS; +ELEMENT OF WITH ; LONG HORIZONTAL STROKE;
VERTICAL BAR AT END OF HORIZONTAL STROKE; +SMALL ELEMENT OF WITH VERTICAL BAR AT END OF HORIZONTAL ;
STROKE; +ELEMENT OF WITH ; DOT ABOVE; OVERBAR; +SMALL ELEMENT OF WITH ; OVERBAR; +ELEMENT OF WITH ;
UNDERBAR; TWO HORIZONTAL STROKES; +CONTAINS WITH ; LONG HORIZONTAL STROKE;
VERTICAL BAR AT END OF HORIZONTAL STROKE; +;
SMALL CONTAINS WITH VERTICAL BAR AT END OF HORIZONTAL STROKE; CONTAINS WITH OVERBAR;
SMALL CONTAINS WITH OVERBAR; Z NOTATION BAG MEMBERSHIP; DIAMETER SIGN; ELECTRIC ARROW; HOUSE;
UP ARROWHEAD; DOWN ARROWHEAD; PROJECTIVE; PERSPECTIVE; WAVY LINE; LEFT CEILING; RIGHT CEILING;
LEFT FLOOR; RIGHT FLOOR; +BOTTOM ; RIGHT CROP; LEFT CROP; +TOP ; RIGHT CROP; LEFT CROP; +;
REVERSED NOT SIGN; SQUARE LOZENGE; ARC; SEGMENT; SECTOR; TELEPHONE RECORDER; POSITION INDICATOR;
VIEWDATA SQUARE; PLACE OF INTEREST SIGN; TURNED NOT SIGN; WATCH; HOURGLASS; +TOP ; LEFT CORNER;
RIGHT CORNER; +BOTTOM ; LEFT CORNER; RIGHT CORNER; +; TOP HALF INTEGRAL; BOTTOM HALF INTEGRAL;
FROWN; SMILE; UP ARROWHEAD BETWEEN TWO HORIZONTAL BARS; OPTION KEY; ERASE TO THE RIGHT;
X IN A RECTANGLE BOX; KEYBOARD; LEFT-POINTING ANGLE BRACKET; RIGHT-POINTING ANGLE BRACKET;
ERASE TO THE LEFT; BENZENE RING; CYLINDRICITY; ALL AROUND-PROFILE; SYMMETRY; TOTAL RUNOUT;
DIMENSION ORIGIN; CONICAL TAPER; SLOPE; COUNTERBORE; COUNTERSINK; +APL FUNCTIONAL SYMBOL ; I-BEAM;
SQUISH QUAD; QUAD EQUAL; QUAD DIVIDE; QUAD DIAMOND; QUAD JOT; QUAD CIRCLE; CIRCLE STILE; CIRCLE JOT;
SLASH BAR; BACKSLASH BAR; QUAD SLASH; QUAD BACKSLASH; QUAD LESS-THAN; QUAD GREATER-THAN;
LEFTWARDS VANE; RIGHTWARDS VANE; QUAD LEFTWARDS ARROW; QUAD RIGHTWARDS ARROW; CIRCLE BACKSLASH;
DOWN TACK UNDERBAR; DELTA STILE; QUAD DOWN CARET; QUAD DELTA; DOWN TACK JOT; UPWARDS VANE;
QUAD UPWARDS ARROW; UP TACK OVERBAR; DEL STILE; QUAD UP CARET; QUAD DEL; UP TACK JOT;
DOWNWARDS VANE; QUAD DOWNWARDS ARROW; QUOTE UNDERBAR; DELTA UNDERBAR; DIAMOND UNDERBAR;
JOT UNDERBAR; CIRCLE UNDERBAR; UP SHOE JOT; QUOTE QUAD; CIRCLE STAR; QUAD COLON; UP TACK DIAERESIS;
DEL DIAERESIS; STAR DIAERESIS; JOT DIAERESIS; CIRCLE DIAERESIS; DOWN SHOE STILE; LEFT SHOE STILE;
TILDE DIAERESIS; GREATER-THAN DIAERESIS; COMMA BAR; DEL TILDE; ZILDE; STILE TILDE;
SEMICOLON UNDERBAR; QUAD NOT EQUAL; QUAD QUESTION; DOWN CARET TILDE; UP CARET TILDE; IOTA; RHO;
OMEGA; ALPHA UNDERBAR; EPSILON UNDERBAR; IOTA UNDERBAR; OMEGA UNDERBAR; ALPHA; +; NOT CHECK MARK;
RIGHT ANGLE WITH DOWNWARDS ZIGZAG ARROW; SHOULDERED OPEN BOX; BELL SYMBOL;
VERTICAL LINE WITH MIDDLE DOT; INSERTION SYMBOL; CONTINUOUS UNDERLINE SYMBOL;
DISCONTINUOUS UNDERLINE SYMBOL; EMPHASIS SYMBOL; COMPOSITION SYMBOL;
WHITE SQUARE WITH CENTRE VERTICAL LINE; ENTER SYMBOL; ALTERNATIVE KEY SYMBOL; HELM SYMBOL;
+CIRCLED ; HORIZONTAL BAR WITH NOTCH; TRIANGLE DOWN; +; BROKEN CIRCLE WITH NORTHWEST ARROW;
UNDO SYMBOL; MONOSTABLE SYMBOL; HYSTERESIS SYMBOL; +OPEN-CIRCUIT-OUTPUT ; H-TYPE SYMBOL;
L-TYPE SYMBOL; +; PASSIVE-PULL-DOWN-OUTPUT SYMBOL; PASSIVE-PULL-UP-OUTPUT SYMBOL;
DIRECT CURRENT SYMBOL FORM TWO; SOFTWARE-FUNCTION SYMBOL; APL FUNCTIONAL SYMBOL QUAD;
DECIMAL SEPARATOR KEY SYMBOL; PREVIOUS PAGE; NEXT PAGE; PRINT SCREEN SYMBOL; CLEAR SCREEN SYMBOL;
+LEFT PARENTHESIS ; UPPER HOOK; EXTENSION; LOWER HOOK; +RIGHT PARENTHESIS ; UPPER HOOK; EXTENSION;
LOWER HOOK; +LEFT SQUARE BRACKET ; UPPER CORNER; EXTENSION; LOWER CORNER; +RIGHT SQUARE BRACKET ;
UPPER CORNER; EXTENSION; LOWER CORNER; +LEFT CURLY BRACKET ; UPPER HOOK; MIDDLE PIECE; LOWER HOOK;
+CURLY BRACKET ; EXTENSION; +RIGHT CURLY BRACKET ; UPPER HOOK; MIDDLE PIECE; LOWER HOOK; +;
INTEGRAL EXTENSION; HORIZONTAL LINE EXTENSION; +UPPER ; LEFT OR LOWER RIGHT CURLY BRACKET SECTION;
RIGHT OR LOWER LEFT CURLY BRACKET SECTION; +SUMMATION ; TOP; BOTTOM; +TOP SQUARE ; BRACKET;
+BOTTOM SQUARE ; BRACKET; BRACKET OVER TOP SQUARE BRACKET; +; RADICAL SYMBOL BOTTOM;
LEFT VERTICAL BOX LINE; RIGHT VERTICAL BOX LINE; +HORIZONTAL SCAN ; LINE-1; LINE-3; LINE-7; LINE-9;
+DENTISTRY SYMBOL LIGHT ; VERTICAL AND TOP RIGHT; VERTICAL AND BOTTOM RIGHT; VERTICAL WITH CIRCLE;
DOWN AND HORIZONTAL WITH CIRCLE; UP AND HORIZONTAL WITH CIRCLE; VERTICAL WITH TRIANGLE;
DOWN AND HORIZONTAL WITH TRIANGLE; UP AND HORIZONTAL WITH TRIANGLE; VERTICAL AND WAVE;
DOWN AND HORIZONTAL WITH WAVE; UP AND HORIZONTAL WITH WAVE; DOWN AND HORIZONTAL; UP AND HORIZONTAL;
VERTICAL AND TOP LEFT; VERTICAL AND BOTTOM LEFT; +; SQUARE FOOT; RETURN SYMBOL; EJECT SYMBOL;
VERTICAL LINE EXTENSION; +METRICAL ; BREVE; LONG OVER SHORT; SHORT OVER LONG; LONG OVER TWO SHORTS;
TWO SHORTS OVER LONG; TWO SHORTS JOINED; TRISEME; TETRASEME; PENTASEME; +; EARTH GROUND; FUSE;
TOP PARENTHESIS; BOTTOM PARENTHESIS; TOP CURLY BRACKET; BOTTOM CURLY BRACKET;
TOP TORTOISE SHELL BRACKET; BOTTOM TORTOISE SHELL BRACKET; WHITE TRAPEZIUM;
BENZENE RING WITH CIRCLE; STRAIGHTNESS; FLATNESS; AC CURRENT; ELECTRICAL INTERSECTION;
DECIMAL EXPONENT SYMBOL; +BLACK ; RIGHT-POINTING DOUBLE TRIANGLE; LEFT-POINTING DOUBLE TRIANGLE;
UP-POINTING DOUBLE TRIANGLE; DOWN-POINTING DOUBLE TRIANGLE;
RIGHT-POINTING DOUBLE TRIANGLE WITH VERTICAL BAR; LEFT-POINTING DOUBLE TRIANGLE WITH VERTICAL BAR;
RIGHT-POINTING TRIANGLE WITH DOUBLE VERTICAL BAR; +; ALARM CLOCK; STOPWATCH; TIMER CLOCK;
HOURGLASS WITH FLOWING SAND; +BLACK MEDIUM ; LEFT-POINTING TRIANGLE; RIGHT-POINTING TRIANGLE;
UP-POINTING TRIANGLE; DOWN-POINTING TRIANGLE; +DOUBLE VERTICAL ; BAR; +BLACK ; SQUARE FOR STOP;
CIRCLE FOR RECORD; +POWER ; SYMBOL; ON-OFF SYMBOL; ON SYMBOL; SLEEP SYMBOL; +OBSERVER EYE ; SYMBOL;
+SYMBOL FOR ; NULL; START OF HEADING; START OF TEXT; END OF TEXT; END OF TRANSMISSION; ENQUIRY;
ACKNOWLEDGE; BELL; BACKSPACE; HORIZONTAL TABULATION; LINE FEED; VERTICAL TABULATION; FORM FEED;
CARRIAGE RETURN; SHIFT OUT; SHIFT IN; DATA LINK ESCAPE; +SYMBOL FOR DEVICE CONTROL ; ONE; TWO;
THREE; FOUR; +SYMBOL FOR ; NEGATIVE ACKNOWLEDGE; SYNCHRONOUS IDLE; END OF TRANSMISSION BLOCK;
CANCEL; END OF MEDIUM; SUBSTITUTE; ESCAPE; FILE SEPARATOR; GROUP SEPARATOR; RECORD SEPARATOR;
UNIT SEPARATOR; SPACE; DELETE; +; BLANK SYMBOL; OPEN BOX; +SYMBOL FOR ; NEWLINE; DELETE FORM TWO;
SUBSTITUTE FORM TWO; DELETE SQUARE CHECKER BOARD FORM; DELETE RECTANGULAR CHECKER BOARD FORM;
DELETE MEDIUM SHADE FORM; @2440; +OCR ; HOOK; CHAIR; FORK; INVERTED FORK; BELT BUCKLE; BOW TIE;
BRANCH BANK IDENTIFICATION; AMOUNT OF CHECK; DASH; CUSTOMER ACCOUNT NUMBER; DOUBLE BACKSLASH; @2460;
+CIRCLED DIGIT ; ONE; TWO; THREE; FOUR; FIVE; SIX; SEVEN; EIGHT; NINE; +CIRCLED NUMBER ; TEN;
ELEVEN; TWELVE; THIRTEEN; FOURTEEN; FIFTEEN; SIXTEEN; SEVENTEEN; EIGHTEEN; NINETEEN; TWENTY;
+PARENTHESIZED DIGIT ; ONE; TWO; THREE; FOUR; FIVE; SIX; SEVEN; EIGHT; NINE; +PARENTHESIZED NUMBER ;
TEN; ELEVEN; TWELVE; THIRTEEN; FOURTEEN; FIFTEEN; SIXTEEN; SEVENTEEN; EIGHTEEN; NINETEEN; TWENTY;
+DIGIT ; ONE FULL STOP; TWO FULL STOP; THREE FULL STOP; FOUR FULL STOP; FIVE FULL STOP;
SIX FULL STOP; SEVEN FULL STOP; EIGHT FULL STOP; NINE FULL STOP; +NUMBER ; TEN FULL STOP;
ELEVEN FULL STOP; TWELVE FULL STOP; THIRTEEN FULL STOP; FOURTEEN FULL STOP; FIFTEEN FULL STOP;
SIXTEEN FULL STOP; SEVENTEEN FULL STOP; EIGHTEEN FULL STOP; NINETEEN FULL STOP; TWENTY FULL STOP;
+PARENTHESIZED LATIN SMALL LETTER ; A; B; C; D; E; F; G; H; I; J; K; L; M; N; O; P; Q; R; S; T; U;
V; W; X; Y; Z; +CIRCLED LATIN CAPITAL LETTER ; A; B; C; D; E; F; G; H; I; J; K; L; M; N; O; P; Q; R;
S; T; U; V; W; X; Y; Z; +CIRCLED LATIN SMALL LETTER ; A; B; C; D; E; F; G; H; I; J; K; L; M; N; O;
P; Q; R; S; T; U; V; W; X; Y; Z; +CIRCLED DIGIT ; ZERO; +NEGATIVE CIRCLED NUMBER ; ELEVEN; TWELVE;
THIRTEEN; FOURTEEN; FIFTEEN; SIXTEEN; SEVENTEEN; EIGHTEEN; NINETEEN; TWENTY; +DOUBLE CIRCLED DIGIT ;
ONE; TWO; THREE; FOUR; FIVE; SIX; SEVEN; EIGHT; NINE; +; DOUBLE CIRCLED NUMBER TEN;
NEGATIVE CIRCLED DIGIT ZERO;
"

end PythonSyntax.Unicode
