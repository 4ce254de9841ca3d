/-
The names of the Unicode characters from U+2500 up to U+2FFF, version 16, in the order of their
code points.  Entries end in a semicolon; an at sign gives the code point of the next name,
and a plus sign what the names after it begin with.
-/

namespace PythonSyntax.Unicode

/-- Names of characters from U+2500 up to U+2FFF. -/
def namesFrom02500 : String := "
@2500; +BOX DRAWINGS ; LIGHT HORIZONTAL; HEAVY HORIZONTAL; LIGHT VERTICAL; HEAVY VERTICAL;
LIGHT TRIPLE DASH HORIZONTAL; HEAVY TRIPLE DASH HORIZONTAL; LIGHT TRIPLE DASH VERTICAL;
HEAVY TRIPLE DASH VERTICAL; LIGHT QUADRUPLE DASH HORIZONTAL; HEAVY QUADRUPLE DASH HORIZONTAL;
LIGHT QUADRUPLE DASH VERTICAL; HEAVY QUADRUPLE DASH VERTICAL; LIGHT DOWN AND RIGHT;
DOWN LIGHT AND RIGHT HEAVY; DOWN HEAVY AND RIGHT LIGHT; HEAVY DOWN AND RIGHT; LIGHT DOWN AND LEFT;
DOWN LIGHT AND LEFT HEAVY; DOWN HEAVY AND LEFT LIGHT; HEAVY DOWN AND LEFT; LIGHT UP AND RIGHT;
UP LIGHT AND RIGHT HEAVY; UP HEAVY AND RIGHT LIGHT; HEAVY UP AND RIGHT; LIGHT UP AND LEFT;
UP LIGHT AND LEFT HEAVY; UP HEAVY AND LEFT LIGHT; HEAVY UP AND LEFT; LIGHT VERTICAL AND RIGHT;
VERTICAL LIGHT AND RIGHT HEAVY; UP HEAVY AND RIGHT DOWN LIGHT; DOWN HEAVY AND RIGHT UP LIGHT;
VERTICAL HEAVY AND RIGHT LIGHT; DOWN LIGHT AND RIGHT UP HEAVY; UP LIGHT AND RIGHT DOWN HEAVY;
HEAVY VERTICAL AND RIGHT; LIGHT VERTICAL AND LEFT; VERTICAL LIGHT AND LEFT HEAVY;
UP HEAVY AND LEFT DOWN LIGHT; DOWN HEAVY AND LEFT UP LIGHT; VERTICAL HEAVY AND LEFT LIGHT;
DOWN LIGHT AND LEFT UP HEAVY; UP LIGHT AND LEFT DOWN HEAVY; HEAVY VERTICAL AND LEFT;
LIGHT DOWN AND HORIZONTAL; LEFT HEAVY AND RIGHT DOWN LIGHT; RIGHT HEAVY AND LEFT DOWN LIGHT;
DOWN LIGHT AND HORIZONTAL HEAVY; DOWN HEAVY AND HORIZONTAL LIGHT; RIGHT LIGHT AND LEFT DOWN HEAVY;
LEFT LIGHT AND RIGHT DOWN HEAVY; HEAVY DOWN AND HORIZONTAL; LIGHT UP AND HORIZONTAL;
LEFT HEAVY AND RIGHT UP LIGHT; RIGHT HEAVY AND LEFT UP LIGHT; UP LIGHT AND HORIZONTAL HEAVY;
UP HEAVY AND HORIZONTAL LIGHT; RIGHT LIGHT AND LEFT UP HEAVY; LEFT LIGHT AND RIGHT UP HEAVY;
HEAVY UP AND HORIZONTAL; LIGHT VERTICAL AND HORIZONTAL; LEFT HEAVY AND RIGHT VERTICAL LIGHT;
RIGHT HEAVY AND LEFT VERTICAL LIGHT; VERTICAL LIGHT AND HORIZONTAL HEAVY;
UP HEAVY AND DOWN HORIZONTAL LIGHT; DOWN HEAVY AND UP HORIZONTAL LIGHT;
VERTICAL HEAVY AND HORIZONTAL LIGHT; LEFT UP HEAVY AND RIGHT DOWN LIGHT;
RIGHT UP HEAVY AND LEFT DOWN LIGHT; LEFT DOWN HEAVY AND RIGHT UP LIGHT;
RIGHT DOWN HEAVY AND LEFT UP LIGHT; DOWN LIGHT AND UP HORIZONTAL HEAVY;
UP LIGHT AND DOWN HORIZONTAL HEAVY; RIGHT LIGHT AND LEFT VERTICAL HEAVY;
LEFT LIGHT AND RIGHT VERTICAL HEAVY; HEAVY VERTICAL AND HORIZONTAL; LIGHT DOUBLE DASH HORIZONTAL;
HEAVY DOUBLE DASH HORIZONTAL; LIGHT DOUBLE DASH VERTICAL; HEAVY DOUBLE DASH VERTICAL;
DOUBLE HORIZONTAL; DOUBLE VERTICAL; DOWN SINGLE AND RIGHT DOUBLE; DOWN DOUBLE AND RIGHT SINGLE;
DOUBLE DOWN AND RIGHT; DOWN SINGLE AND LEFT DOUBLE; DOWN DOUBLE AND LEFT SINGLE;
DOUBLE DOWN AND LEFT; UP SINGLE AND RIGHT DOUBLE; UP DOUBLE AND RIGHT SINGLE; DOUBLE UP AND RIGHT;
UP SINGLE AND LEFT DOUBLE; UP DOUBLE AND LEFT SINGLE; DOUBLE UP AND LEFT;
VERTICAL SINGLE AND RIGHT DOUBLE; VERTICAL DOUBLE AND RIGHT SINGLE; DOUBLE VERTICAL AND RIGHT;
VERTICAL SINGLE AND LEFT DOUBLE; VERTICAL DOUBLE AND LEFT SINGLE; DOUBLE VERTICAL AND LEFT;
DOWN SINGLE AND HORIZONTAL DOUBLE; DOWN DOUBLE AND HORIZONTAL SINGLE; DOUBLE DOWN AND HORIZONTAL;
UP SINGLE AND HORIZONTAL DOUBLE; UP DOUBLE AND HORIZONTAL SINGLE; DOUBLE UP AND HORIZONTAL;
VERTICAL SINGLE AND HORIZONTAL DOUBLE; VERTICAL DOUBLE AND HORIZONTAL SINGLE;
DOUBLE VERTICAL AND HORIZONTAL; +BOX DRAWINGS LIGHT ; ARC DOWN AND RIGHT; ARC DOWN AND LEFT;
ARC UP AND LEFT; ARC UP AND RIGHT; DIAGONAL UPPER RIGHT TO LOWER LEFT;
DIAGONAL UPPER LEFT TO LOWER RIGHT; DIAGONAL CROSS; LEFT; UP; RIGHT; DOWN; +BOX DRAWINGS HEAVY ;
LEFT; UP; RIGHT; DOWN; +BOX DRAWINGS ; LIGHT LEFT AND HEAVY RIGHT; LIGHT UP AND HEAVY DOWN;
HEAVY LEFT AND LIGHT RIGHT; HEAVY UP AND LIGHT DOWN; +UPPER HALF ; BLOCK; +LOWER ; ONE EIGHTH BLOCK;
ONE QUARTER BLOCK; THREE EIGHTHS BLOCK; HALF BLOCK; FIVE EIGHTHS BLOCK; THREE QUARTERS BLOCK;
SEVEN EIGHTHS BLOCK; +FULL ; BLOCK; +LEFT ; SEVEN EIGHTHS BLOCK; THREE QUARTERS BLOCK;
FIVE EIGHTHS BLOCK; HALF BLOCK; THREE EIGHTHS BLOCK; ONE QUARTER BLOCK; ONE EIGHTH BLOCK; +;
RIGHT HALF BLOCK; LIGHT SHADE; MEDIUM SHADE; DARK SHADE; UPPER ONE EIGHTH BLOCK;
RIGHT ONE EIGHTH BLOCK; +QUADRANT LOWER ; LEFT; RIGHT; +QUADRANT UPPER ; LEFT;
LEFT AND LOWER LEFT AND LOWER RIGHT; LEFT AND LOWER RIGHT; LEFT AND UPPER RIGHT AND LOWER LEFT;
LEFT AND UPPER RIGHT AND LOWER RIGHT; RIGHT; RIGHT AND LOWER LEFT;
RIGHT AND LOWER LEFT AND LOWER RIGHT; +; BLACK SQUARE; WHITE SQUARE; +WHITE SQUARE ;
WITH ROUNDED CORNERS; CONTAINING BLACK SMALL SQUARE; +SQUARE WITH ; HORIZONTAL FILL; VERTICAL FILL;
ORTHOGONAL CROSSHATCH FILL; UPPER LEFT TO LOWER RIGHT FILL; UPPER RIGHT TO LOWER LEFT FILL;
DIAGONAL CROSSHATCH FILL; +; BLACK SMALL SQUARE; WHITE SMALL SQUARE; BLACK RECTANGLE;
WHITE RECTANGLE; BLACK VERTICAL RECTANGLE; WHITE VERTICAL RECTANGLE; BLACK PARALLELOGRAM;
WHITE PARALLELOGRAM; BLACK UP-POINTING TRIANGLE; WHITE UP-POINTING TRIANGLE;
BLACK UP-POINTING SMALL TRIANGLE; WHITE UP-POINTING SMALL TRIANGLE; BLACK RIGHT-POINTING TRIANGLE;
WHITE RIGHT-POINTING TRIANGLE; BLACK RIGHT-POINTING SMALL TRIANGLE;
WHITE RIGHT-POINTING SMALL TRIANGLE; BLACK RIGHT-POINTING POINTER; WHITE RIGHT-POINTING POINTER;
BLACK DOWN-POINTING TRIANGLE; WHITE DOWN-POINTING TRIANGLE; BLACK DOWN-POINTING SMALL TRIANGLE;
WHITE DOWN-POINTING SMALL TRIANGLE; BLACK LEFT-POINTING TRIANGLE; WHITE LEFT-POINTING TRIANGLE;
BLACK LEFT-POINTING SMALL TRIANGLE; WHITE LEFT-POINTING SMALL TRIANGLE; BLACK LEFT-POINTING POINTER;
WHITE LEFT-POINTING POINTER; BLACK DIAMOND; WHITE DIAMOND;
WHITE DIAMOND CONTAINING BLACK SMALL DIAMOND; FISHEYE; LOZENGE; WHITE CIRCLE; DOTTED CIRCLE;
CIRCLE WITH VERTICAL FILL; BULLSEYE; BLACK CIRCLE; +CIRCLE WITH ; LEFT HALF BLACK; RIGHT HALF BLACK;
LOWER HALF BLACK; UPPER HALF BLACK; UPPER RIGHT QUADRANT BLACK; ALL BUT UPPER LEFT QUADRANT BLACK;
+; LEFT HALF BLACK CIRCLE; RIGHT HALF BLACK CIRCLE; +INVERSE ; BULLET; WHITE CIRCLE; +;
UPPER HALF INVERSE WHITE CIRCLE; LOWER HALF INVERSE WHITE CIRCLE; +UPPER ;
LEFT QUADRANT CIRCULAR ARC; RIGHT QUADRANT CIRCULAR ARC; +LOWER ; RIGHT QUADRANT CIRCULAR ARC;
LEFT QUADRANT CIRCULAR ARC; +; UPPER HALF CIRCLE; LOWER HALF CIRCLE; +BLACK LOWER ; RIGHT TRIANGLE;
LEFT TRIANGLE; +BLACK UPPER ; LEFT TRIANGLE; RIGHT TRIANGLE; +WHITE ; BULLET; +SQUARE WITH ;
LEFT HALF BLACK; RIGHT HALF BLACK; UPPER LEFT DIAGONAL HALF BLACK; LOWER RIGHT DIAGONAL HALF BLACK;
+WHITE ; SQUARE WITH VERTICAL BISECTING LINE; UP-POINTING TRIANGLE WITH DOT;
+UP-POINTING TRIANGLE WITH ; LEFT HALF BLACK; RIGHT HALF BLACK; +LARGE ; CIRCLE;
+WHITE SQUARE WITH ; UPPER LEFT QUADRANT; LOWER LEFT QUADRANT; LOWER RIGHT QUADRANT;
UPPER RIGHT QUADRANT; +WHITE CIRCLE WITH ; UPPER LEFT QUADRANT; LOWER LEFT QUADRANT;
LOWER RIGHT QUADRANT; UPPER RIGHT QUADRANT; +UPPER ; LEFT TRIANGLE; RIGHT TRIANGLE; +;
LOWER LEFT TRIANGLE; WHITE MEDIUM SQUARE; BLACK MEDIUM SQUARE; WHITE MEDIUM SMALL SQUARE;
BLACK MEDIUM SMALL SQUARE; LOWER RIGHT TRIANGLE; BLACK SUN WITH RAYS; CLOUD; UMBRELLA; SNOWMAN;
COMET; BLACK STAR; WHITE STAR; LIGHTNING; THUNDERSTORM; SUN; ASCENDING NODE; DESCENDING NODE;
CONJUNCTION; OPPOSITION; BLACK TELEPHONE; WHITE TELEPHONE; BALLOT BOX; +BALLOT BOX WITH ; CHECK; X;
+; SALTIRE; UMBRELLA WITH RAIN DROPS; HOT BEVERAGE; WHITE SHOGI PIECE; BLACK SHOGI PIECE; SHAMROCK;
REVERSED ROTATED FLORAL HEART BULLET; +BLACK ; LEFT POINTING INDEX; RIGHT POINTING INDEX; +WHITE ;
LEFT POINTING INDEX; UP POINTING INDEX; RIGHT POINTING INDEX; DOWN POINTING INDEX; +;
SKULL AND CROSSBONES; CAUTION SIGN; RADIOACTIVE SIGN; BIOHAZARD SIGN; CADUCEUS; ANKH;
ORTHODOX CROSS; CHI RHO; +CROSS OF ; LORRAINE; JERUSALEM; +; STAR AND CRESCENT; FARSI SYMBOL;
ADI SHAKTI; HAMMER AND SICKLE; PEACE SYMBOL; YIN YANG; +TRIGRAM FOR ; HEAVEN; LAKE; FIRE; THUNDER;
WIND; WATER; MOUNTAIN; EARTH; +; WHEEL OF DHARMA; WHITE FROWNING FACE; WHITE SMILING FACE;
BLACK SMILING FACE; WHITE SUN WITH RAYS; FIRST QUARTER MOON; LAST QUARTER MOON; MERCURY;
FEMALE SIGN; EARTH; MALE SIGN; JUPITER; SATURN; URANUS; NEPTUNE; PLUTO; ARIES; TAURUS; GEMINI;
CANCER; LEO; VIRGO; LIBRA; SCORPIUS; SAGITTARIUS; CAPRICORN; AQUARIUS; PISCES; +WHITE CHESS ; KING;
QUEEN; ROOK; BISHOP; KNIGHT; PAWN; +BLACK CHESS ; KING; QUEEN; ROOK; BISHOP; KNIGHT; PAWN; +;
BLACK SPADE SUIT; WHITE HEART SUIT; WHITE DIAMOND SUIT; BLACK CLUB SUIT; WHITE SPADE SUIT;
BLACK HEART SUIT; BLACK DIAMOND SUIT; WHITE CLUB SUIT; HOT SPRINGS; QUARTER NOTE; EIGHTH NOTE;
+BEAMED ; EIGHTH NOTES; SIXTEENTH NOTES; +MUSIC ; FLAT SIGN; NATURAL SIGN; SHARP SIGN; +;
WEST SYRIAC CROSS; EAST SYRIAC CROSS; UNIVERSAL RECYCLING SYMBOL; +RECYCLING SYMBOL FOR ;
TYPE-1 PLASTICS; TYPE-2 PLASTICS; TYPE-3 PLASTICS; TYPE-4 PLASTICS; TYPE-5 PLASTICS;
TYPE-6 PLASTICS; TYPE-7 PLASTICS; GENERIC MATERIALS; +; BLACK UNIVERSAL RECYCLING SYMBOL;
RECYCLED PAPER SYMBOL; PARTIALLY-RECYCLED PAPER SYMBOL; PERMANENT PAPER SIGN; WHEELCHAIR SYMBOL;
+DIE ; FACE-1; FACE-2; FACE-3; FACE-4; FACE-5; FACE-6; +WHITE CIRCLE WITH ; DOT RIGHT; TWO DOTS;
+BLACK CIRCLE WITH ; WHITE DOT RIGHT; TWO WHITE DOTS; +MONOGRAM FOR ; YANG; YIN; +DIGRAM FOR ;
GREATER YANG; LESSER YIN; LESSER YANG; GREATER YIN; +; WHITE FLAG; BLACK FLAG; HAMMER AND PICK;
ANCHOR; CROSSED SWORDS; STAFF OF AESCULAPIUS; SCALES; ALEMBIC; FLOWER; GEAR; STAFF OF HERMES;
ATOM SYMBOL; FLEUR-DE-LIS; OUTLINED WHITE STAR; +THREE LINES CONVERGING ; RIGHT; LEFT; +;
WARNING SIGN; HIGH VOLTAGE SIGN; +DOUBLED ; FEMALE SIGN; MALE SIGN; +;
INTERLOCKED FEMALE AND MALE SIGN; MALE AND FEMALE SIGN; +MALE WITH STROKE ; SIGN;
AND MALE AND FEMALE SIGN; +; VERTICAL MALE WITH STROKE SIGN; HORIZONTAL MALE WITH STROKE SIGN;
+MEDIUM ; WHITE CIRCLE; BLACK CIRCLE; SMALL WHITE CIRCLE; +; MARRIAGE SYMBOL; DIVORCE SYMBOL;
UNMARRIED PARTNERSHIP SYMBOL; COFFIN; FUNERAL URN; NEUTER; CERES; PALLAS; JUNO; VESTA; CHIRON;
BLACK MOON LILITH; SEXTILE; SEMISEXTILE; QUINCUNX; SESQUIQUADRATE; SOCCER BALL; BASEBALL;
SQUARED KEY; +WHITE DRAUGHTS ; MAN; KING; +BLACK DRAUGHTS ; MAN; KING; +; SNOWMAN WITHOUT SNOW;
SUN BEHIND CLOUD; RAIN; BLACK SNOWMAN; THUNDER CLOUD AND RAIN; +TURNED ; WHITE SHOGI PIECE;
BLACK SHOGI PIECE; +; WHITE DIAMOND IN SQUARE; CROSSING LANES; DISABLED CAR; OPHIUCHUS; PICK;
CAR SLIDING; HELMET WITH WHITE CROSS; CIRCLED CROSSING LANES; CHAINS; NO ENTRY;
ALTERNATE ONE-WAY LEFT WAY TRAFFIC; BLACK TWO-WAY LEFT WAY TRAFFIC; WHITE TWO-WAY LEFT WAY TRAFFIC;
BLACK LEFT LANE MERGE; WHITE LEFT LANE MERGE; DRIVE SLOW SIGN; HEAVY WHITE DOWN-POINTING TRIANGLE;
LEFT CLOSED ENTRY; SQUARED SALTIRE; FALLING DIAGONAL IN WHITE CIRCLE IN BLACK SQUARE; BLACK TRUCK;
+RESTRICTED LEFT ; ENTRY-1; ENTRY-2; +; ASTRONOMICAL SYMBOL FOR URANUS;
HEAVY CIRCLE WITH STROKE AND TWO DOTS ABOVE; PENTAGRAM; RIGHT-HANDED INTERLACED PENTAGRAM;
LEFT-HANDED INTERLACED PENTAGRAM; INVERTED PENTAGRAM; BLACK CROSS ON SHIELD; SHINTO SHRINE; CHURCH;
CASTLE; HISTORIC SITE; GEAR WITHOUT HUB; GEAR WITH HANDLES; MAP SYMBOL FOR LIGHTHOUSE; MOUNTAIN;
UMBRELLA ON GROUND; FOUNTAIN; FLAG IN HOLE; FERRY; SAILBOAT; SQUARE FOUR CORNERS; SKIER; ICE SKATE;
PERSON WITH BALL; TENT; JAPANESE BANK SYMBOL; HEADSTONE GRAVEYARD SYMBOL; FUEL PUMP;
CUP ON BLACK SQUARE; WHITE FLAG WITH HORIZONTAL MIDDLE BLACK STRIPE; BLACK SAFETY SCISSORS;
UPPER BLADE SCISSORS; BLACK SCISSORS; LOWER BLADE SCISSORS; WHITE SCISSORS; WHITE HEAVY CHECK MARK;
TELEPHONE LOCATION SIGN; TAPE DRIVE; AIRPLANE; ENVELOPE; +RAISED ; FIST; HAND; +; VICTORY HAND;
WRITING HAND; LOWER RIGHT PENCIL; PENCIL; UPPER RIGHT PENCIL; WHITE NIB; BLACK NIB; CHECK MARK;
HEAVY CHECK MARK; MULTIPLICATION X; HEAVY MULTIPLICATION X; BALLOT X; HEAVY BALLOT X;
OUTLINED GREEK CROSS; HEAVY GREEK CROSS; OPEN CENTRE CROSS; HEAVY OPEN CENTRE CROSS; LATIN CROSS;
SHADOWED WHITE LATIN CROSS; OUTLINED LATIN CROSS; MALTESE CROSS; STAR OF DAVID;
FOUR TEARDROP-SPOKED ASTERISK; FOUR BALLOON-SPOKED ASTERISK; HEAVY FOUR BALLOON-SPOKED ASTERISK;
FOUR CLUB-SPOKED ASTERISK; BLACK FOUR POINTED STAR; WHITE FOUR POINTED STAR; SPARKLES;
STRESS OUTLINED WHITE STAR; CIRCLED WHITE STAR; OPEN CENTRE BLACK STAR; BLACK CENTRE WHITE STAR;
OUTLINED BLACK STAR; HEAVY OUTLINED BLACK STAR; PINWHEEL STAR; SHADOWED WHITE STAR; HEAVY ASTERISK;
OPEN CENTRE ASTERISK; EIGHT SPOKED ASTERISK; +EIGHT POINTED ; BLACK STAR; PINWHEEL STAR; +;
SIX POINTED BLACK STAR; EIGHT POINTED RECTILINEAR BLACK STAR;
HEAVY EIGHT POINTED RECTILINEAR BLACK STAR; TWELVE POINTED BLACK STAR; SIXTEEN POINTED ASTERISK;
TEARDROP-SPOKED ASTERISK; OPEN CENTRE TEARDROP-SPOKED ASTERISK; HEAVY TEARDROP-SPOKED ASTERISK;
SIX PETALLED BLACK AND WHITE FLORETTE; BLACK FLORETTE; WHITE FLORETTE;
EIGHT PETALLED OUTLINED BLACK FLORETTE; CIRCLED OPEN CENTRE EIGHT POINTED STAR;
HEAVY TEARDROP-SPOKED PINWHEEL ASTERISK; SNOWFLAKE; TIGHT TRIFOLIATE SNOWFLAKE;
HEAVY CHEVRON SNOWFLAKE; SPARKLE; HEAVY SPARKLE; BALLOON-SPOKED ASTERISK;
EIGHT TEARDROP-SPOKED PROPELLER ASTERISK; HEAVY EIGHT TEARDROP-SPOKED PROPELLER ASTERISK;
CROSS MARK; SHADOWED WHITE CIRCLE; NEGATIVE SQUARED CROSS MARK;
LOWER RIGHT DROP-SHADOWED WHITE SQUARE; UPPER RIGHT DROP-SHADOWED WHITE SQUARE;
LOWER RIGHT SHADOWED WHITE SQUARE; UPPER RIGHT SHADOWED WHITE SQUARE; BLACK QUESTION MARK ORNAMENT;
WHITE QUESTION MARK ORNAMENT; WHITE EXCLAMATION MARK ORNAMENT; BLACK DIAMOND MINUS WHITE X;
HEAVY EXCLAMATION MARK SYMBOL; LIGHT VERTICAL BAR; MEDIUM VERTICAL BAR; +HEAVY ; VERTICAL BAR;
SINGLE TURNED COMMA QUOTATION MARK ORNAMENT; SINGLE COMMA QUOTATION MARK ORNAMENT;
DOUBLE TURNED COMMA QUOTATION MARK ORNAMENT; DOUBLE COMMA QUOTATION MARK ORNAMENT;
LOW SINGLE COMMA QUOTATION MARK ORNAMENT; LOW DOUBLE COMMA QUOTATION MARK ORNAMENT;
+CURVED STEM PARAGRAPH SIGN ; ORNAMENT; +HEAVY ; EXCLAMATION MARK ORNAMENT;
HEART EXCLAMATION MARK ORNAMENT; BLACK HEART; +; ROTATED HEAVY BLACK HEART BULLET; FLORAL HEART;
ROTATED FLORAL HEART BULLET; +MEDIUM ; LEFT PARENTHESIS ORNAMENT; RIGHT PARENTHESIS ORNAMENT;
FLATTENED LEFT PARENTHESIS ORNAMENT; FLATTENED RIGHT PARENTHESIS ORNAMENT;
LEFT-POINTING ANGLE BRACKET ORNAMENT; RIGHT-POINTING ANGLE BRACKET ORNAMENT; +HEAVY ;
LEFT-POINTING ANGLE QUOTATION MARK ORNAMENT; RIGHT-POINTING ANGLE QUOTATION MARK ORNAMENT;
LEFT-POINTING ANGLE BRACKET ORNAMENT; RIGHT-POINTING ANGLE BRACKET ORNAMENT; +LIGHT ;
LEFT TORTOISE SHELL BRACKET ORNAMENT; RIGHT TORTOISE SHELL BRACKET ORNAMENT; +MEDIUM ;
LEFT CURLY BRACKET ORNAMENT; RIGHT CURLY BRACKET ORNAMENT; +DINGBAT NEGATIVE CIRCLED DIGIT ; ONE;
TWO; THREE; FOUR; FIVE; SIX; SEVEN; EIGHT; NINE; +DINGBAT NEGATIVE CIRCLED NUMBER ; TEN;
+DINGBAT CIRCLED SANS-SERIF DIGIT ; ONE; TWO; THREE; FOUR; FIVE; SIX; SEVEN; EIGHT; NINE;
+DINGBAT CIRCLED SANS-SERIF NUMBER ; TEN; +DINGBAT NEGATIVE CIRCLED SANS-SERIF DIGIT ; ONE; TWO;
THREE; FOUR; FIVE; SIX; SEVEN; EIGHT; NINE; +DINGBAT NEGATIVE CIRCLED SANS-SERIF NUMBER ; TEN;
+HEAVY ; WIDE-HEADED RIGHTWARDS ARROW; PLUS SIGN; MINUS SIGN; DIVISION SIGN; SOUTH EAST ARROW;
RIGHTWARDS ARROW; NORTH EAST ARROW; +; DRAFTING POINT RIGHTWARDS ARROW;
HEAVY ROUND-TIPPED RIGHTWARDS ARROW; TRIANGLE-HEADED RIGHTWARDS ARROW;
HEAVY TRIANGLE-HEADED RIGHTWARDS ARROW; DASHED TRIANGLE-HEADED RIGHTWARDS ARROW;
HEAVY DASHED TRIANGLE-HEADED RIGHTWARDS ARROW; BLACK RIGHTWARDS ARROW; +THREE-D ;
TOP-LIGHTED RIGHTWARDS ARROWHEAD; BOTTOM-LIGHTED RIGHTWARDS ARROWHEAD; +BLACK RIGHTWARDS ;
ARROWHEAD; +HEAVY BLACK CURVED ; DOWNWARDS AND RIGHTWARDS ARROW; UPWARDS AND RIGHTWARDS ARROW; +;
SQUAT BLACK RIGHTWARDS ARROW; HEAVY CONCAVE-POINTED BLACK RIGHTWARDS ARROW;
RIGHT-SHADED WHITE RIGHTWARDS ARROW; LEFT-SHADED WHITE RIGHTWARDS ARROW;
BACK-TILTED SHADOWED WHITE RIGHTWARDS ARROW; FRONT-TILTED SHADOWED WHITE RIGHTWARDS ARROW;
HEAVY LOWER RIGHT-SHADOWED WHITE RIGHTWARDS ARROW;
HEAVY UPPER RIGHT-SHADOWED WHITE RIGHTWARDS ARROW;
NOTCHED LOWER RIGHT-SHADOWED WHITE RIGHTWARDS ARROW; CURLY LOOP;
NOTCHED UPPER RIGHT-SHADOWED WHITE RIGHTWARDS ARROW; CIRCLED HEAVY WHITE RIGHTWARDS ARROW;
WHITE-FEATHERED RIGHTWARDS ARROW; +BLACK-FEATHERED ; SOUTH EAST ARROW; RIGHTWARDS ARROW;
NORTH EAST ARROW; +HEAVY BLACK-FEATHERED ; SOUTH EAST ARROW; RIGHTWARDS ARROW; NORTH EAST ARROW; +;
TEARDROP-BARBED RIGHTWARDS ARROW; HEAVY TEARDROP-SHANKED RIGHTWARDS ARROW;
WEDGE-TAILED RIGHTWARDS ARROW; HEAVY WEDGE-TAILED RIGHTWARDS ARROW; OPEN-OUTLINED RIGHTWARDS ARROW;
DOUBLE CURLY LOOP; THREE DIMENSIONAL ANGLE; WHITE TRIANGLE CONTAINING SMALL WHITE TRIANGLE;
PERPENDICULAR; OPEN SUBSET; OPEN SUPERSET; LEFT S-SHAPED BAG DELIMITER;
RIGHT S-SHAPED BAG DELIMITER; OR WITH DOT INSIDE; REVERSE SOLIDUS PRECEDING SUBSET;
SUPERSET PRECEDING SOLIDUS; VERTICAL BAR WITH HORIZONTAL STROKE; MATHEMATICAL RISING DIAGONAL;
LONG DIVISION; MATHEMATICAL FALLING DIAGONAL; +SQUARED LOGICAL ; AND; OR; +;
WHITE DIAMOND WITH CENTRED DOT; AND WITH DOT; ELEMENT OF OPENING UPWARDS;
LOWER RIGHT CORNER WITH DOT; UPPER LEFT CORNER WITH DOT; LEFT OUTER JOIN; RIGHT OUTER JOIN;
FULL OUTER JOIN; +LARGE ; UP TACK; DOWN TACK; +LEFT AND RIGHT ; DOUBLE TURNSTILE; TACK; +;
LEFT MULTIMAP; LONG RIGHT TACK; LONG LEFT TACK; UP TACK WITH CIRCLE ABOVE;
LOZENGE DIVIDED BY HORIZONTAL RULE; +WHITE CONCAVE-SIDED ; DIAMOND; DIAMOND WITH LEFTWARDS TICK;
DIAMOND WITH RIGHTWARDS TICK; +WHITE SQUARE WITH ; LEFTWARDS TICK; RIGHTWARDS TICK; +MATHEMATICAL ;
LEFT WHITE SQUARE BRACKET; RIGHT WHITE SQUARE BRACKET; LEFT ANGLE BRACKET; RIGHT ANGLE BRACKET;
LEFT DOUBLE ANGLE BRACKET; RIGHT DOUBLE ANGLE BRACKET; LEFT WHITE TORTOISE SHELL BRACKET;
RIGHT WHITE TORTOISE SHELL BRACKET; LEFT FLATTENED PARENTHESIS; RIGHT FLATTENED PARENTHESIS; +;
UPWARDS QUADRUPLE ARROW; DOWNWARDS QUADRUPLE ARROW; ANTICLOCKWISE GAPPED CIRCLE ARROW;
CLOCKWISE GAPPED CIRCLE ARROW; RIGHT ARROW WITH CIRCLED PLUS; +LONG ; LEFTWARDS ARROW;
RIGHTWARDS ARROW; LEFT RIGHT ARROW; LEFTWARDS DOUBLE ARROW; RIGHTWARDS DOUBLE ARROW;
LEFT RIGHT DOUBLE ARROW; LEFTWARDS ARROW FROM BAR; RIGHTWARDS ARROW FROM BAR;
LEFTWARDS DOUBLE ARROW FROM BAR; +LONG RIGHTWARDS ; DOUBLE ARROW FROM BAR; SQUIGGLE ARROW;
+BRAILLE PATTERN ; BLANK; DOTS-1; DOTS-2; DOTS-12; DOTS-3; DOTS-13; DOTS-23; DOTS-123; DOTS-4;
DOTS-14; DOTS-24; DOTS-124; DOTS-34; DOTS-134; DOTS-234; DOTS-1234; DOTS-5; DOTS-15; DOTS-25;
DOTS-125; DOTS-35; DOTS-135; DOTS-235; DOTS-1235; DOTS-45; DOTS-145; DOTS-245; DOTS-1245; DOTS-345;
DOTS-1345; DOTS-2345; DOTS-12345; DOTS-6; DOTS-16; DOTS-26; DOTS-126; DOTS-36; DOTS-136; DOTS-236;
DOTS-1236; DOTS-46; DOTS-146; DOTS-246; DOTS-1246; DOTS-346; DOTS-1346; DOTS-2346; DOTS-12346;
DOTS-56; DOTS-156; DOTS-256; DOTS-1256; DOTS-356; DOTS-1356; DOTS-2356; DOTS-12356; DOTS-456;
DOTS-1456; DOTS-2456; DOTS-12456; DOTS-3456; DOTS-13456; DOTS-23456; DOTS-123456; DOTS-7; DOTS-17;
DOTS-27; DOTS-127; DOTS-37; DOTS-137; DOTS-237; DOTS-1237; DOTS-47; DOTS-147; DOTS-247; DOTS-1247;
DOTS-347; DOTS-1347; DOTS-2347; DOTS-12347; DOTS-57; DOTS-157; DOTS-257; DOTS-1257; DOTS-357;
DOTS-1357; DOTS-2357; DOTS-12357; DOTS-457; DOTS-1457; DOTS-2457; DOTS-12457; DOTS-3457; DOTS-13457;
DOTS-23457; DOTS-123457; DOTS-67; DOTS-167; DOTS-267; DOTS-1267; DOTS-367; DOTS-1367; DOTS-2367;
DOTS-12367; DOTS-467; DOTS-1467; DOTS-2467; DOTS-12467; DOTS-3467; DOTS-13467; DOTS-23467;
DOTS-123467; DOTS-567; DOTS-1567; DOTS-2567; DOTS-12567; DOTS-3567; DOTS-13567; DOTS-23567;
DOTS-123567; DOTS-4567; DOTS-14567; DOTS-24567; DOTS-124567; DOTS-34567; DOTS-134567; DOTS-234567;
DOTS-1234567; DOTS-8; DOTS-18; DOTS-28; DOTS-128; DOTS-38; DOTS-138; DOTS-238; DOTS-1238; DOTS-48;
DOTS-148; DOTS-248; DOTS-1248; DOTS-348; DOTS-1348; DOTS-2348; DOTS-12348; DOTS-58; DOTS-158;
DOTS-258; DOTS-1258; DOTS-358; DOTS-1358; DOTS-2358; DOTS-12358; DOTS-458; DOTS-1458; DOTS-2458;
DOTS-12458; DOTS-3458; DOTS-13458; DOTS-23458; DOTS-123458; DOTS-68; DOTS-168; DOTS-268; DOTS-1268;
DOTS-368; DOTS-1368; DOTS-2368; DOTS-12368; DOTS-468; DOTS-1468; DOTS-2468; DOTS-12468; DOTS-3468;
DOTS-13468; DOTS-23468; DOTS-123468; DOTS-568; DOTS-1568; DOTS-2568; DOTS-12568; DOTS-3568;
DOTS-13568; DOTS-23568; DOTS-123568; DOTS-4568; DOTS-14568; DOTS-24568; DOTS-124568; DOTS-34568;
DOTS-134568; DOTS-234568; DOTS-1234568; DOTS-78; DOTS-178; DOTS-278; DOTS-1278; DOTS-378; DOTS-1378;
DOTS-2378; DOTS-12378; DOTS-478; DOTS-1478; DOTS-2478; DOTS-12478; DOTS-3478; DOTS-13478;
DOTS-23478; DOTS-123478; DOTS-578; DOTS-1578; DOTS-2578; DOTS-12578; DOTS-3578; DOTS-13578;
DOTS-23578; DOTS-123578; DOTS-4578; DOTS-14578; DOTS-24578; DOTS-124578; DOTS-34578; DOTS-134578;
DOTS-234578; DOTS-1234578; DOTS-678; DOTS-1678; DOTS-2678; DOTS-12678; DOTS-3678; DOTS-13678;
DOTS-23678; DOTS-123678; DOTS-4678; DOTS-14678; DOTS-24678; DOTS-124678; DOTS-34678; DOTS-134678;
DOTS-234678; DOTS-1234678; DOTS-5678; DOTS-15678; DOTS-25678; DOTS-125678; DOTS-35678; DOTS-135678;
DOTS-235678; DOTS-1235678; DOTS-45678; DOTS-145678; DOTS-245678; DOTS-1245678; DOTS-345678;
DOTS-1345678; DOTS-2345678; DOTS-12345678; +RIGHTWARDS TWO-HEADED ARROW WITH ; VERTICAL STROKE;
DOUBLE VERTICAL STROKE; +; LEFTWARDS DOUBLE ARROW WITH VERTICAL STROKE;
RIGHTWARDS DOUBLE ARROW WITH VERTICAL STROKE; LEFT RIGHT DOUBLE ARROW WITH VERTICAL STROKE;
RIGHTWARDS TWO-HEADED ARROW FROM BAR; LEFTWARDS DOUBLE ARROW FROM BAR;
RIGHTWARDS DOUBLE ARROW FROM BAR; DOWNWARDS ARROW WITH HORIZONTAL STROKE; +UPWARDS ;
ARROW WITH HORIZONTAL STROKE; TRIPLE ARROW; +; DOWNWARDS TRIPLE ARROW; LEFTWARDS DOUBLE DASH ARROW;
RIGHTWARDS DOUBLE DASH ARROW; LEFTWARDS TRIPLE DASH ARROW; +RIGHTWARDS ; TRIPLE DASH ARROW;
TWO-HEADED TRIPLE DASH ARROW; ARROW WITH DOTTED STEM; +; UPWARDS ARROW TO BAR;
DOWNWARDS ARROW TO BAR; +RIGHTWARDS ARROW WITH TAIL WITH ; VERTICAL STROKE; DOUBLE VERTICAL STROKE;
+RIGHTWARDS TWO-HEADED ARROW WITH ; TAIL; TAIL WITH VERTICAL STROKE;
TAIL WITH DOUBLE VERTICAL STROKE; +; LEFTWARDS ARROW-TAIL; RIGHTWARDS ARROW-TAIL;
LEFTWARDS DOUBLE ARROW-TAIL; RIGHTWARDS DOUBLE ARROW-TAIL; LEFTWARDS ARROW TO BLACK DIAMOND;
RIGHTWARDS ARROW TO BLACK DIAMOND; LEFTWARDS ARROW FROM BAR TO BLACK DIAMOND;
RIGHTWARDS ARROW FROM BAR TO BLACK DIAMOND; +NORTH ; WEST AND SOUTH EAST ARROW;
EAST AND SOUTH WEST ARROW; WEST ARROW WITH HOOK; EAST ARROW WITH HOOK; +SOUTH ;
EAST ARROW WITH HOOK; WEST ARROW WITH HOOK; +NORTH ; WEST ARROW AND NORTH EAST ARROW;
EAST ARROW AND SOUTH EAST ARROW; +SOUTH ; EAST ARROW AND SOUTH WEST ARROW;
WEST ARROW AND NORTH WEST ARROW; +; RISING DIAGONAL CROSSING FALLING DIAGONAL;
FALLING DIAGONAL CROSSING RISING DIAGONAL; SOUTH EAST ARROW CROSSING NORTH EAST ARROW;
NORTH EAST ARROW CROSSING SOUTH EAST ARROW; FALLING DIAGONAL CROSSING NORTH EAST ARROW;
RISING DIAGONAL CROSSING SOUTH EAST ARROW; NORTH EAST ARROW CROSSING NORTH WEST ARROW;
NORTH WEST ARROW CROSSING NORTH EAST ARROW; WAVE ARROW POINTING DIRECTLY RIGHT;
+ARROW POINTING RIGHTWARDS THEN CURVING ; UPWARDS; DOWNWARDS;
+ARROW POINTING DOWNWARDS THEN CURVING ; LEFTWARDS; RIGHTWARDS; +; RIGHT-SIDE ARC CLOCKWISE ARROW;
LEFT-SIDE ARC ANTICLOCKWISE ARROW; TOP ARC ANTICLOCKWISE ARROW; BOTTOM ARC ANTICLOCKWISE ARROW;
+TOP ARC ; CLOCKWISE ARROW WITH MINUS; ANTICLOCKWISE ARROW WITH PLUS; +LOWER ;
RIGHT SEMICIRCULAR CLOCKWISE ARROW; LEFT SEMICIRCULAR ANTICLOCKWISE ARROW; +;
ANTICLOCKWISE CLOSED CIRCLE ARROW; CLOCKWISE CLOSED CIRCLE ARROW;
RIGHTWARDS ARROW ABOVE SHORT LEFTWARDS ARROW; LEFTWARDS ARROW ABOVE SHORT RIGHTWARDS ARROW;
SHORT RIGHTWARDS ARROW ABOVE LEFTWARDS ARROW; RIGHTWARDS ARROW WITH PLUS BELOW;
LEFTWARDS ARROW WITH PLUS BELOW; RIGHTWARDS ARROW THROUGH X; LEFT RIGHT ARROW THROUGH SMALL CIRCLE;
UPWARDS TWO-HEADED ARROW FROM SMALL CIRCLE; +LEFT BARB ; UP RIGHT BARB DOWN HARPOON;
DOWN RIGHT BARB UP HARPOON; +UP BARB ; RIGHT DOWN BARB LEFT HARPOON; LEFT DOWN BARB RIGHT HARPOON;
+; LEFT BARB UP RIGHT BARB UP HARPOON; UP BARB RIGHT DOWN BARB RIGHT HARPOON;
LEFT BARB DOWN RIGHT BARB DOWN HARPOON; UP BARB LEFT DOWN BARB LEFT HARPOON;
LEFTWARDS HARPOON WITH BARB UP TO BAR; RIGHTWARDS HARPOON WITH BARB UP TO BAR;
UPWARDS HARPOON WITH BARB RIGHT TO BAR; DOWNWARDS HARPOON WITH BARB RIGHT TO BAR;
LEFTWARDS HARPOON WITH BARB DOWN TO BAR; RIGHTWARDS HARPOON WITH BARB DOWN TO BAR;
UPWARDS HARPOON WITH BARB LEFT TO BAR; DOWNWARDS HARPOON WITH BARB LEFT TO BAR;
LEFTWARDS HARPOON WITH BARB UP FROM BAR; RIGHTWARDS HARPOON WITH BARB UP FROM BAR;
UPWARDS HARPOON WITH BARB RIGHT FROM BAR; DOWNWARDS HARPOON WITH BARB RIGHT FROM BAR;
LEFTWARDS HARPOON WITH BARB DOWN FROM BAR; RIGHTWARDS HARPOON WITH BARB DOWN FROM BAR;
UPWARDS HARPOON WITH BARB LEFT FROM BAR; DOWNWARDS HARPOON WITH BARB LEFT FROM BAR;
LEFTWARDS HARPOON WITH BARB UP ABOVE LEFTWARDS HARPOON WITH BARB DOWN;
UPWARDS HARPOON WITH BARB LEFT BESIDE UPWARDS HARPOON WITH BARB RIGHT;
RIGHTWARDS HARPOON WITH BARB UP ABOVE RIGHTWARDS HARPOON WITH BARB DOWN;
DOWNWARDS HARPOON WITH BARB LEFT BESIDE DOWNWARDS HARPOON WITH BARB RIGHT;
+LEFTWARDS HARPOON WITH BARB ; UP ABOVE RIGHTWARDS HARPOON WITH BARB UP;
DOWN ABOVE RIGHTWARDS HARPOON WITH BARB DOWN; +RIGHTWARDS HARPOON WITH BARB ;
UP ABOVE LEFTWARDS HARPOON WITH BARB UP; DOWN ABOVE LEFTWARDS HARPOON WITH BARB DOWN;
+LEFTWARDS HARPOON WITH BARB ; UP ABOVE LONG DASH; DOWN BELOW LONG DASH;
+RIGHTWARDS HARPOON WITH BARB ; UP ABOVE LONG DASH; DOWN BELOW LONG DASH; +;
UPWARDS HARPOON WITH BARB LEFT BESIDE DOWNWARDS HARPOON WITH BARB RIGHT;
DOWNWARDS HARPOON WITH BARB LEFT BESIDE UPWARDS HARPOON WITH BARB RIGHT;
RIGHT DOUBLE ARROW WITH ROUNDED HEAD; EQUALS SIGN ABOVE RIGHTWARDS ARROW;
TILDE OPERATOR ABOVE RIGHTWARDS ARROW; LEFTWARDS ARROW ABOVE TILDE OPERATOR;
+RIGHTWARDS ARROW ABOVE ; TILDE OPERATOR; ALMOST EQUAL TO; +; LESS-THAN ABOVE LEFTWARDS ARROW;
LEFTWARDS ARROW THROUGH LESS-THAN; GREATER-THAN ABOVE RIGHTWARDS ARROW;
SUBSET ABOVE RIGHTWARDS ARROW; LEFTWARDS ARROW THROUGH SUBSET; SUPERSET ABOVE LEFTWARDS ARROW;
LEFT FISH TAIL; RIGHT FISH TAIL; UP FISH TAIL; DOWN FISH TAIL; TRIPLE VERTICAL BAR DELIMITER;
+Z NOTATION ; SPOT; TYPE COLON; +; LEFT WHITE CURLY BRACKET; RIGHT WHITE CURLY BRACKET;
LEFT WHITE PARENTHESIS; RIGHT WHITE PARENTHESIS; +Z NOTATION ; LEFT IMAGE BRACKET;
RIGHT IMAGE BRACKET; LEFT BINDING BRACKET; RIGHT BINDING BRACKET; +;
LEFT SQUARE BRACKET WITH UNDERBAR; RIGHT SQUARE BRACKET WITH UNDERBAR;
LEFT SQUARE BRACKET WITH TICK IN TOP CORNER; RIGHT SQUARE BRACKET WITH TICK IN BOTTOM CORNER;
LEFT SQUARE BRACKET WITH TICK IN BOTTOM CORNER; RIGHT SQUARE BRACKET WITH TICK IN TOP CORNER;
LEFT ANGLE BRACKET WITH DOT; RIGHT ANGLE BRACKET WITH DOT; LEFT ARC LESS-THAN BRACKET;
RIGHT ARC GREATER-THAN BRACKET; +DOUBLE ; LEFT ARC GREATER-THAN BRACKET;
RIGHT ARC LESS-THAN BRACKET; +; LEFT BLACK TORTOISE SHELL BRACKET;
RIGHT BLACK TORTOISE SHELL BRACKET; DOTTED FENCE; VERTICAL ZIGZAG LINE; MEASURED ANGLE OPENING LEFT;
RIGHT ANGLE VARIANT WITH SQUARE; MEASURED RIGHT ANGLE WITH DOT; ANGLE WITH S INSIDE; ACUTE ANGLE;
+SPHERICAL ANGLE OPENING ; LEFT; UP; +; TURNED ANGLE; REVERSED ANGLE; ANGLE WITH UNDERBAR;
REVERSED ANGLE WITH UNDERBAR; +OBLIQUE ANGLE OPENING ; UP; DOWN;
+MEASURED ANGLE WITH OPEN ARM ENDING IN ARROW POINTING ; UP AND RIGHT; UP AND LEFT; DOWN AND RIGHT;
DOWN AND LEFT; RIGHT AND UP; LEFT AND UP; RIGHT AND DOWN; LEFT AND DOWN; +REVERSED EMPTY ; SET;
+EMPTY SET WITH ; OVERBAR; SMALL CIRCLE ABOVE; RIGHT ARROW ABOVE; LEFT ARROW ABOVE;
+CIRCLE WITH HORIZONTAL ; BAR; +CIRCLED ; VERTICAL BAR; PARALLEL; REVERSE SOLIDUS; PERPENDICULAR;
+CIRCLE ; DIVIDED BY HORIZONTAL BAR AND TOP HALF DIVIDED BY VERTICAL BAR; WITH SUPERIMPOSED X; +;
CIRCLED ANTICLOCKWISE-ROTATED DIVISION SIGN; UP ARROW THROUGH CIRCLE; +CIRCLED ; WHITE BULLET;
BULLET; LESS-THAN; GREATER-THAN; +CIRCLE WITH ; SMALL CIRCLE TO THE RIGHT;
TWO HORIZONTAL STROKES TO THE RIGHT; +SQUARED ; RISING DIAGONAL SLASH; FALLING DIAGONAL SLASH;
ASTERISK; SMALL CIRCLE; SQUARE; +TWO JOINED ; SQUARES; +TRIANGLE WITH ; DOT ABOVE; UNDERBAR; +;
S IN TRIANGLE; TRIANGLE WITH SERIFS AT BOTTOM; RIGHT TRIANGLE ABOVE LEFT TRIANGLE;
LEFT TRIANGLE BESIDE VERTICAL BAR; VERTICAL BAR BESIDE RIGHT TRIANGLE; +BOWTIE WITH ;
LEFT HALF BLACK; RIGHT HALF BLACK; +BLACK ; BOWTIE; +TIMES WITH ; LEFT HALF BLACK; RIGHT HALF BLACK;
+; WHITE HOURGLASS; BLACK HOURGLASS; LEFT WIGGLY FENCE; RIGHT WIGGLY FENCE;
LEFT DOUBLE WIGGLY FENCE; RIGHT DOUBLE WIGGLY FENCE; INCOMPLETE INFINITY; TIE OVER INFINITY;
INFINITY NEGATED WITH VERTICAL BAR; DOUBLE-ENDED MULTIMAP; SQUARE WITH CONTOURED OUTLINE;
INCREASES AS; SHUFFLE PRODUCT; +EQUALS SIGN AND SLANTED ; PARALLEL; PARALLEL WITH TILDE ABOVE; +;
IDENTICAL TO AND SLANTED PARALLEL; GLEICH STARK; THERMODYNAMIC; +DOWN-POINTING TRIANGLE WITH ;
LEFT HALF BLACK; RIGHT HALF BLACK; +BLACK ; DIAMOND WITH DOWN ARROW; LOZENGE; +;
WHITE CIRCLE WITH DOWN ARROW; BLACK CIRCLE WITH DOWN ARROW; +ERROR-BARRED ; WHITE SQUARE;
BLACK SQUARE; WHITE DIAMOND; BLACK DIAMOND; WHITE CIRCLE; BLACK CIRCLE; +; RULE-DELAYED;
REVERSE SOLIDUS OPERATOR; SOLIDUS WITH OVERBAR; REVERSE SOLIDUS WITH HORIZONTAL STROKE; BIG SOLIDUS;
BIG REVERSE SOLIDUS; DOUBLE PLUS; TRIPLE PLUS; LEFT-POINTING CURVED ANGLE BRACKET;
RIGHT-POINTING CURVED ANGLE BRACKET; TINY; MINY; +N-ARY CIRCLED ; DOT OPERATOR; PLUS OPERATOR;
TIMES OPERATOR; +N-ARY UNION OPERATOR WITH ; DOT; PLUS; +N-ARY SQUARE ; INTERSECTION OPERATOR;
UNION OPERATOR; +TWO LOGICAL ; AND OPERATOR; OR OPERATOR; +; N-ARY TIMES OPERATOR; MODULO TWO SUM;
SUMMATION WITH INTEGRAL; QUADRUPLE INTEGRAL OPERATOR; FINITE PART INTEGRAL; +INTEGRAL ;
WITH DOUBLE STROKE; AVERAGE WITH SLASH; +; CIRCULATION FUNCTION; ANTICLOCKWISE INTEGRATION;
+LINE INTEGRATION ; WITH RECTANGULAR PATH AROUND POLE; WITH SEMICIRCULAR PATH AROUND POLE;
NOT INCLUDING THE POLE; +; INTEGRAL AROUND A POINT OPERATOR; QUATERNION INTEGRAL OPERATOR;
+INTEGRAL WITH ; LEFTWARDS ARROW WITH HOOK; TIMES SIGN; INTERSECTION; UNION; OVERBAR; UNDERBAR; +;
JOIN; LARGE LEFT TRIANGLE OPERATOR; +Z NOTATION SCHEMA ; COMPOSITION; PIPING; PROJECTION;
+PLUS SIGN WITH ; SMALL CIRCLE ABOVE; CIRCUMFLEX ACCENT ABOVE; TILDE ABOVE; DOT BELOW; TILDE BELOW;
SUBSCRIPT TWO; BLACK TRIANGLE; +MINUS SIGN WITH ; COMMA ABOVE; DOT BELOW; FALLING DOTS; RISING DOTS;
+PLUS SIGN IN ; LEFT HALF CIRCLE; RIGHT HALF CIRCLE; +VECTOR OR CROSS ; PRODUCT;
+MULTIPLICATION SIGN WITH ; DOT ABOVE; UNDERBAR; +; SEMIDIRECT PRODUCT WITH BOTTOM CLOSED;
SMASH PRODUCT; +MULTIPLICATION SIGN IN ; LEFT HALF CIRCLE; RIGHT HALF CIRCLE; +;
CIRCLED MULTIPLICATION SIGN WITH CIRCUMFLEX ACCENT; MULTIPLICATION SIGN IN DOUBLE CIRCLE;
CIRCLED DIVISION SIGN; PLUS SIGN IN TRIANGLE; MINUS SIGN IN TRIANGLE;
MULTIPLICATION SIGN IN TRIANGLE; INTERIOR PRODUCT; RIGHTHAND INTERIOR PRODUCT;
Z NOTATION RELATIONAL COMPOSITION; AMALGAMATION OR COPRODUCT; INTERSECTION WITH DOT; +UNION WITH ;
MINUS SIGN; OVERBAR; +INTERSECTION WITH ; OVERBAR; LOGICAL AND; +UNION ; WITH LOGICAL OR;
ABOVE INTERSECTION; +; INTERSECTION ABOVE UNION; UNION ABOVE BAR ABOVE INTERSECTION;
INTERSECTION ABOVE BAR ABOVE UNION; UNION BESIDE AND JOINED WITH UNION;
INTERSECTION BESIDE AND JOINED WITH INTERSECTION; +CLOSED ; UNION WITH SERIFS;
INTERSECTION WITH SERIFS; +DOUBLE SQUARE ; INTERSECTION; UNION;
+CLOSED UNION WITH SERIFS AND SMASH ; PRODUCT; +LOGICAL ; AND WITH DOT ABOVE; OR WITH DOT ABOVE;
+DOUBLE LOGICAL ; AND; OR; +TWO INTERSECTING LOGICAL ; AND; OR; +SLOPING LARGE ; OR; AND; +LOGICAL ;
OR OVERLAPPING LOGICAL AND; AND WITH MIDDLE STEM; OR WITH MIDDLE STEM; AND WITH HORIZONTAL DASH;
OR WITH HORIZONTAL DASH; +LOGICAL AND WITH ; DOUBLE OVERBAR; UNDERBAR; DOUBLE UNDERBAR;
+SMALL VEE WITH ; UNDERBAR; +LOGICAL OR WITH DOUBLE ; OVERBAR; UNDERBAR; +Z NOTATION ;
DOMAIN ANTIRESTRICTION; RANGE ANTIRESTRICTION; +; EQUALS SIGN WITH DOT BELOW;
IDENTICAL WITH DOT ABOVE; +TRIPLE HORIZONTAL BAR WITH ; DOUBLE VERTICAL STROKE;
TRIPLE VERTICAL STROKE; +TILDE OPERATOR WITH ; DOT ABOVE; RISING DOTS; +; SIMILAR MINUS SIMILAR;
CONGRUENT WITH DOT ABOVE; EQUALS WITH ASTERISK; ALMOST EQUAL TO WITH CIRCUMFLEX ACCENT;
APPROXIMATELY EQUAL OR EQUAL TO; EQUALS SIGN ABOVE PLUS SIGN; PLUS SIGN ABOVE EQUALS SIGN;
EQUALS SIGN ABOVE TILDE OPERATOR; DOUBLE COLON EQUAL; TWO CONSECUTIVE EQUALS SIGNS;
THREE CONSECUTIVE EQUALS SIGNS; EQUALS SIGN WITH TWO DOTS ABOVE AND TWO DOTS BELOW;
EQUIVALENT WITH FOUR DOTS ABOVE; LESS-THAN WITH CIRCLE INSIDE; GREATER-THAN WITH CIRCLE INSIDE;
LESS-THAN WITH QUESTION MARK ABOVE; GREATER-THAN WITH QUESTION MARK ABOVE;
LESS-THAN OR SLANTED EQUAL TO; GREATER-THAN OR SLANTED EQUAL TO;
LESS-THAN OR SLANTED EQUAL TO WITH DOT INSIDE; GREATER-THAN OR SLANTED EQUAL TO WITH DOT INSIDE;
LESS-THAN OR SLANTED EQUAL TO WITH DOT ABOVE; GREATER-THAN OR SLANTED EQUAL TO WITH DOT ABOVE;
LESS-THAN OR SLANTED EQUAL TO WITH DOT ABOVE RIGHT;
GREATER-THAN OR SLANTED EQUAL TO WITH DOT ABOVE LEFT; LESS-THAN OR APPROXIMATE;
GREATER-THAN OR APPROXIMATE; LESS-THAN AND SINGLE-LINE NOT EQUAL TO;
GREATER-THAN AND SINGLE-LINE NOT EQUAL TO; LESS-THAN AND NOT APPROXIMATE;
GREATER-THAN AND NOT APPROXIMATE; LESS-THAN ABOVE DOUBLE-LINE EQUAL ABOVE GREATER-THAN;
GREATER-THAN ABOVE DOUBLE-LINE EQUAL ABOVE LESS-THAN; LESS-THAN ABOVE SIMILAR OR EQUAL;
GREATER-THAN ABOVE SIMILAR OR EQUAL; LESS-THAN ABOVE SIMILAR ABOVE GREATER-THAN;
GREATER-THAN ABOVE SIMILAR ABOVE LESS-THAN; LESS-THAN ABOVE GREATER-THAN ABOVE DOUBLE-LINE EQUAL;
GREATER-THAN ABOVE LESS-THAN ABOVE DOUBLE-LINE EQUAL;
LESS-THAN ABOVE SLANTED EQUAL ABOVE GREATER-THAN ABOVE SLANTED EQUAL;
GREATER-THAN ABOVE SLANTED EQUAL ABOVE LESS-THAN ABOVE SLANTED EQUAL; +SLANTED EQUAL TO OR ;
LESS-THAN; GREATER-THAN; LESS-THAN WITH DOT INSIDE; GREATER-THAN WITH DOT INSIDE;
+DOUBLE-LINE EQUAL TO OR ; LESS-THAN; GREATER-THAN; +DOUBLE-LINE SLANTED EQUAL TO OR ; LESS-THAN;
GREATER-THAN; +SIMILAR ; OR LESS-THAN; OR GREATER-THAN; ABOVE LESS-THAN ABOVE EQUALS SIGN;
ABOVE GREATER-THAN ABOVE EQUALS SIGN; +DOUBLE NESTED ; LESS-THAN; GREATER-THAN;
LESS-THAN WITH UNDERBAR; +GREATER-THAN ; OVERLAPPING LESS-THAN; BESIDE LESS-THAN; +;
LESS-THAN CLOSED BY CURVE; GREATER-THAN CLOSED BY CURVE;
LESS-THAN CLOSED BY CURVE ABOVE SLANTED EQUAL; GREATER-THAN CLOSED BY CURVE ABOVE SLANTED EQUAL;
SMALLER THAN; LARGER THAN; SMALLER THAN OR EQUAL TO; LARGER THAN OR EQUAL TO;
EQUALS SIGN WITH BUMPY ABOVE; PRECEDES ABOVE SINGLE-LINE EQUALS SIGN;
SUCCEEDS ABOVE SINGLE-LINE EQUALS SIGN; PRECEDES ABOVE SINGLE-LINE NOT EQUAL TO;
SUCCEEDS ABOVE SINGLE-LINE NOT EQUAL TO; PRECEDES ABOVE EQUALS SIGN; SUCCEEDS ABOVE EQUALS SIGN;
PRECEDES ABOVE NOT EQUAL TO; SUCCEEDS ABOVE NOT EQUAL TO; PRECEDES ABOVE ALMOST EQUAL TO;
SUCCEEDS ABOVE ALMOST EQUAL TO; PRECEDES ABOVE NOT ALMOST EQUAL TO;
SUCCEEDS ABOVE NOT ALMOST EQUAL TO; +DOUBLE ; PRECEDES; SUCCEEDS; +; SUBSET WITH DOT;
SUPERSET WITH DOT; SUBSET WITH PLUS SIGN BELOW; SUPERSET WITH PLUS SIGN BELOW;
SUBSET WITH MULTIPLICATION SIGN BELOW; SUPERSET WITH MULTIPLICATION SIGN BELOW;
SUBSET OF OR EQUAL TO WITH DOT ABOVE; SUPERSET OF OR EQUAL TO WITH DOT ABOVE;
SUBSET OF ABOVE EQUALS SIGN; SUPERSET OF ABOVE EQUALS SIGN; SUBSET OF ABOVE TILDE OPERATOR;
SUPERSET OF ABOVE TILDE OPERATOR; SUBSET OF ABOVE ALMOST EQUAL TO;
SUPERSET OF ABOVE ALMOST EQUAL TO; SUBSET OF ABOVE NOT EQUAL TO; SUPERSET OF ABOVE NOT EQUAL TO;
+SQUARE ; LEFT OPEN BOX OPERATOR; RIGHT OPEN BOX OPERATOR; +CLOSED ; SUBSET; SUPERSET;
SUBSET OR EQUAL TO; SUPERSET OR EQUAL TO; +; SUBSET ABOVE SUPERSET; SUPERSET ABOVE SUBSET;
SUBSET ABOVE SUBSET; +SUPERSET ; ABOVE SUPERSET; BESIDE SUBSET;
BESIDE AND JOINED BY DASH WITH SUBSET; +; ELEMENT OF OPENING DOWNWARDS; PITCHFORK WITH TEE TOP;
TRANSVERSAL INTERSECTION; FORKING; NONFORKING; +SHORT ; LEFT TACK; DOWN TACK; UP TACK; +;
PERPENDICULAR WITH S; VERTICAL BAR TRIPLE RIGHT TURNSTILE; DOUBLE VERTICAL BAR LEFT TURNSTILE;
VERTICAL BAR DOUBLE LEFT TURNSTILE; DOUBLE VERTICAL BAR DOUBLE LEFT TURNSTILE;
LONG DASH FROM LEFT MEMBER OF DOUBLE VERTICAL; SHORT DOWN TACK WITH OVERBAR; +SHORT UP TACK ;
WITH UNDERBAR; ABOVE SHORT DOWN TACK; +DOUBLE ; DOWN TACK; UP TACK; STROKE NOT SIGN; +;
REVERSED DOUBLE STROKE NOT SIGN; DOES NOT DIVIDE WITH REVERSED NEGATION SLASH;
+VERTICAL LINE WITH CIRCLE ; ABOVE; BELOW; +DOWN TACK WITH CIRCLE ; BELOW; +PARALLEL WITH ;
HORIZONTAL STROKE; TILDE OPERATOR; +TRIPLE VERTICAL BAR ; BINARY RELATION; WITH HORIZONTAL STROKE;
+TRIPLE ; COLON OPERATOR; NESTED LESS-THAN; NESTED GREATER-THAN; +DOUBLE-LINE SLANTED ;
LESS-THAN OR EQUAL TO; GREATER-THAN OR EQUAL TO; +; TRIPLE SOLIDUS BINARY RELATION;
LARGE TRIPLE VERTICAL BAR OPERATOR; DOUBLE SOLIDUS OPERATOR; WHITE VERTICAL BAR;
N-ARY WHITE VERTICAL BAR; +NORTH ; EAST WHITE ARROW; WEST WHITE ARROW; +SOUTH ; EAST WHITE ARROW;
WEST WHITE ARROW; +; LEFT RIGHT WHITE ARROW; LEFTWARDS BLACK ARROW; UPWARDS BLACK ARROW;
DOWNWARDS BLACK ARROW; +NORTH ; EAST BLACK ARROW; WEST BLACK ARROW; +SOUTH ; EAST BLACK ARROW;
WEST BLACK ARROW; +; LEFT RIGHT BLACK ARROW; UP DOWN BLACK ARROW; +RIGHTWARDS ARROW WITH TIP ;
DOWNWARDS; UPWARDS; +LEFTWARDS ARROW WITH TIP ; DOWNWARDS; UPWARDS; +SQUARE WITH ; TOP HALF BLACK;
BOTTOM HALF BLACK; UPPER RIGHT DIAGONAL HALF BLACK; LOWER LEFT DIAGONAL HALF BLACK; +DIAMOND WITH ;
LEFT HALF BLACK; RIGHT HALF BLACK; TOP HALF BLACK; BOTTOM HALF BLACK; +; DOTTED SQUARE;
BLACK LARGE SQUARE; WHITE LARGE SQUARE; BLACK VERY SMALL SQUARE; WHITE VERY SMALL SQUARE;
BLACK PENTAGON; WHITE PENTAGON; WHITE HEXAGON; BLACK HEXAGON; HORIZONTAL BLACK HEXAGON;
BLACK LARGE CIRCLE; BLACK MEDIUM DIAMOND; WHITE MEDIUM DIAMOND; BLACK MEDIUM LOZENGE;
WHITE MEDIUM LOZENGE; +BLACK SMALL ; DIAMOND; LOZENGE; +; WHITE SMALL LOZENGE;
BLACK HORIZONTAL ELLIPSE; WHITE HORIZONTAL ELLIPSE; BLACK VERTICAL ELLIPSE; WHITE VERTICAL ELLIPSE;
LEFT ARROW WITH SMALL CIRCLE; THREE LEFTWARDS ARROWS; LEFT ARROW WITH CIRCLED PLUS;
LONG LEFTWARDS SQUIGGLE ARROW; +LEFTWARDS TWO-HEADED ; ARROW WITH VERTICAL STROKE;
ARROW WITH DOUBLE VERTICAL STROKE; ARROW FROM BAR; TRIPLE DASH ARROW; +LEFTWARDS ARROW WITH ;
DOTTED STEM; TAIL WITH VERTICAL STROKE; TAIL WITH DOUBLE VERTICAL STROKE;
+LEFTWARDS TWO-HEADED ARROW WITH ; TAIL; TAIL WITH VERTICAL STROKE;
TAIL WITH DOUBLE VERTICAL STROKE; +; LEFTWARDS ARROW THROUGH X; WAVE ARROW POINTING DIRECTLY LEFT;
EQUALS SIGN ABOVE LEFTWARDS ARROW; REVERSE TILDE OPERATOR ABOVE LEFTWARDS ARROW;
LEFTWARDS ARROW ABOVE REVERSE ALMOST EQUAL TO; +RIGHTWARDS ARROW THROUGH ; GREATER-THAN; SUPERSET;
+; LEFTWARDS QUADRUPLE ARROW; RIGHTWARDS QUADRUPLE ARROW;
REVERSE TILDE OPERATOR ABOVE RIGHTWARDS ARROW; RIGHTWARDS ARROW ABOVE REVERSE ALMOST EQUAL TO;
TILDE OPERATOR ABOVE LEFTWARDS ARROW; +LEFTWARDS ARROW ABOVE ; ALMOST EQUAL TO;
REVERSE TILDE OPERATOR; +; RIGHTWARDS ARROW ABOVE REVERSE TILDE OPERATOR;
DOWNWARDS TRIANGLE-HEADED ZIGZAG ARROW; SHORT SLANTED NORTH ARROW; SHORT BACKSLANTED SOUTH ARROW;
WHITE MEDIUM STAR; BLACK SMALL STAR; WHITE SMALL STAR; BLACK RIGHT-POINTING PENTAGON;
WHITE RIGHT-POINTING PENTAGON; +HEAVY ; LARGE CIRCLE; OVAL WITH OVAL INSIDE;
CIRCLE WITH CIRCLE INSIDE; CIRCLE; CIRCLED SALTIRE; +; SLANTED NORTH ARROW WITH HOOKED HEAD;
BACKSLANTED SOUTH ARROW WITH HOOKED TAIL; SLANTED NORTH ARROW WITH HORIZONTAL TAIL;
BACKSLANTED SOUTH ARROW WITH HORIZONTAL TAIL; BENT ARROW POINTING DOWNWARDS THEN NORTH EAST;
SHORT BENT ARROW POINTING DOWNWARDS THEN NORTH EAST; LEFTWARDS TRIANGLE-HEADED ARROW;
UPWARDS TRIANGLE-HEADED ARROW; RIGHTWARDS TRIANGLE-HEADED ARROW; DOWNWARDS TRIANGLE-HEADED ARROW;
LEFT RIGHT TRIANGLE-HEADED ARROW; UP DOWN TRIANGLE-HEADED ARROW; +NORTH ;
WEST TRIANGLE-HEADED ARROW; EAST TRIANGLE-HEADED ARROW; +SOUTH ; EAST TRIANGLE-HEADED ARROW;
WEST TRIANGLE-HEADED ARROW; +; LEFTWARDS TRIANGLE-HEADED DASHED ARROW;
UPWARDS TRIANGLE-HEADED DASHED ARROW; RIGHTWARDS TRIANGLE-HEADED DASHED ARROW;
DOWNWARDS TRIANGLE-HEADED DASHED ARROW; CLOCKWISE TRIANGLE-HEADED OPEN CIRCLE ARROW;
ANTICLOCKWISE TRIANGLE-HEADED OPEN CIRCLE ARROW; LEFTWARDS TRIANGLE-HEADED ARROW TO BAR;
UPWARDS TRIANGLE-HEADED ARROW TO BAR; RIGHTWARDS TRIANGLE-HEADED ARROW TO BAR;
DOWNWARDS TRIANGLE-HEADED ARROW TO BAR; @2B76; +NORTH ; WEST TRIANGLE-HEADED ARROW TO BAR;
EAST TRIANGLE-HEADED ARROW TO BAR; +SOUTH ; EAST TRIANGLE-HEADED ARROW TO BAR;
WEST TRIANGLE-HEADED ARROW TO BAR; +; LEFTWARDS TRIANGLE-HEADED ARROW WITH DOUBLE HORIZONTAL STROKE;
UPWARDS TRIANGLE-HEADED ARROW WITH DOUBLE HORIZONTAL STROKE;
RIGHTWARDS TRIANGLE-HEADED ARROW WITH DOUBLE HORIZONTAL STROKE;
DOWNWARDS TRIANGLE-HEADED ARROW WITH DOUBLE HORIZONTAL STROKE; HORIZONTAL TAB KEY; VERTICAL TAB KEY;
LEFTWARDS TRIANGLE-HEADED ARROW OVER RIGHTWARDS TRIANGLE-HEADED ARROW;
UPWARDS TRIANGLE-HEADED ARROW LEFTWARDS OF DOWNWARDS TRIANGLE-HEADED ARROW;
RIGHTWARDS TRIANGLE-HEADED ARROW OVER LEFTWARDS TRIANGLE-HEADED ARROW;
DOWNWARDS TRIANGLE-HEADED ARROW LEFTWARDS OF UPWARDS TRIANGLE-HEADED ARROW;
LEFTWARDS TRIANGLE-HEADED PAIRED ARROWS; UPWARDS TRIANGLE-HEADED PAIRED ARROWS;
RIGHTWARDS TRIANGLE-HEADED PAIRED ARROWS; DOWNWARDS TRIANGLE-HEADED PAIRED ARROWS;
LEFTWARDS BLACK CIRCLED WHITE ARROW; UPWARDS BLACK CIRCLED WHITE ARROW;
RIGHTWARDS BLACK CIRCLED WHITE ARROW; DOWNWARDS BLACK CIRCLED WHITE ARROW;
+ANTICLOCKWISE TRIANGLE-HEADED ; RIGHT U-SHAPED ARROW; BOTTOM U-SHAPED ARROW; LEFT U-SHAPED ARROW;
TOP U-SHAPED ARROW; +RETURN ; LEFT; RIGHT; +NEWLINE ; LEFT; RIGHT; +;
FOUR CORNER ARROWS CIRCLING ANTICLOCKWISE; RIGHTWARDS BLACK ARROW; @2B97;
SYMBOL FOR TYPE A ELECTRONICS; +THREE-D ; TOP-LIGHTED LEFTWARDS EQUILATERAL ARROWHEAD;
RIGHT-LIGHTED UPWARDS EQUILATERAL ARROWHEAD; TOP-LIGHTED RIGHTWARDS EQUILATERAL ARROWHEAD;
LEFT-LIGHTED DOWNWARDS EQUILATERAL ARROWHEAD; +BLACK ; LEFTWARDS EQUILATERAL ARROWHEAD;
UPWARDS EQUILATERAL ARROWHEAD; RIGHTWARDS EQUILATERAL ARROWHEAD; DOWNWARDS EQUILATERAL ARROWHEAD;
+DOWNWARDS TRIANGLE-HEADED ARROW WITH LONG TIP ; LEFTWARDS; RIGHTWARDS;
+UPWARDS TRIANGLE-HEADED ARROW WITH LONG TIP ; LEFTWARDS; RIGHTWARDS; +;
LEFTWARDS TRIANGLE-HEADED ARROW WITH LONG TIP UPWARDS;
RIGHTWARDS TRIANGLE-HEADED ARROW WITH LONG TIP UPWARDS;
LEFTWARDS TRIANGLE-HEADED ARROW WITH LONG TIP DOWNWARDS;
RIGHTWARDS TRIANGLE-HEADED ARROW WITH LONG TIP DOWNWARDS; +BLACK CURVED ;
DOWNWARDS AND LEFTWARDS ARROW; DOWNWARDS AND RIGHTWARDS ARROW; UPWARDS AND LEFTWARDS ARROW;
UPWARDS AND RIGHTWARDS ARROW; LEFTWARDS AND UPWARDS ARROW; RIGHTWARDS AND UPWARDS ARROW;
LEFTWARDS AND DOWNWARDS ARROW; RIGHTWARDS AND DOWNWARDS ARROW; +RIBBON ARROW ; DOWN LEFT;
DOWN RIGHT; UP LEFT; UP RIGHT; LEFT UP; RIGHT UP; LEFT DOWN; RIGHT DOWN; +;
UPWARDS WHITE ARROW FROM BAR WITH HORIZONTAL BAR; UP ARROWHEAD IN A RECTANGLE BOX; +OVERLAPPING ;
WHITE SQUARES; WHITE AND BLACK SQUARES; BLACK SQUARES; +BALLOT BOX WITH LIGHT ; X; +CIRCLED ; X;
BOLD X; +BLACK ; SQUARE CENTRED; DIAMOND CENTRED; +; TURNED BLACK PENTAGON;
HORIZONTAL BLACK OCTAGON; BLACK OCTAGON; +BLACK MEDIUM ; UP-POINTING TRIANGLE CENTRED;
DOWN-POINTING TRIANGLE CENTRED; LEFT-POINTING TRIANGLE CENTRED; RIGHT-POINTING TRIANGLE CENTRED; +;
NEPTUNE FORM TWO; TOP HALF BLACK CIRCLE; BOTTOM HALF BLACK CIRCLE; LIGHT FOUR POINTED BLACK CUSP;
ROTATED LIGHT FOUR POINTED BLACK CUSP; WHITE FOUR POINTED CUSP; ROTATED WHITE FOUR POINTED CUSP;
SQUARE POSITION INDICATOR; UNCERTAINTY SIGN; GROUP MARK; +PLUTO FORM ; TWO; THREE; FOUR; FIVE; +;
TRANSPLUTO; PROSERPINA; ASTRAEA; HYGIEA; PHOLUS; NESSUS; WHITE MOON SELENA; BLACK DIAMOND ON CROSS;
TRUE LIGHT MOON ARTA; CUPIDO; HADES; ZEUS; KRONOS; APOLLON; ADMETOS; VULCANUS; POSEIDON;
LEFT HALF BLACK STAR; RIGHT HALF BLACK STAR; +STAR WITH ; LEFT HALF BLACK; RIGHT HALF BLACK; +;
LEFTWARDS TWO-HEADED ARROW WITH TRIANGLE ARROWHEADS;
UPWARDS TWO-HEADED ARROW WITH TRIANGLE ARROWHEADS;
RIGHTWARDS TWO-HEADED ARROW WITH TRIANGLE ARROWHEADS;
DOWNWARDS TWO-HEADED ARROW WITH TRIANGLE ARROWHEADS; +ERIS FORM ; ONE; TWO; +; SEDNA;
+RUSSIAN ASTROLOGICAL SYMBOL ; VIGINTILE; NOVILE; QUINTILE; BINOVILE; SENTAGON; TREDECILE; +;
EQUALS SIGN WITH INFINITY BELOW; UNITED SYMBOL; SEPARATED SYMBOL; DOUBLED SYMBOL; PASSED SYMBOL;
REVERSED RIGHT ANGLE; HELLSCHREIBER PAUSE SYMBOL; +GLAGOLITIC CAPITAL LETTER ; AZU; BUKY; VEDE;
GLAGOLI; DOBRO; YESTU; ZHIVETE; DZELO; ZEMLJA; IZHE; INITIAL IZHE; I; DJERVI; KAKO; LJUDIJE;
MYSLITE; NASHI; ONU; POKOJI; RITSI; SLOVO; TVRIDO; UKU; FRITU; HERU; OTU; PE; SHTA; TSI; CHRIVI;
SHA; YERU; YERI; YATI; SPIDERY HA; YU; SMALL YUS; SMALL YUS WITH TAIL; YO; IOTATED SMALL YUS;
BIG YUS; IOTATED BIG YUS; FITA; IZHITSA; SHTAPIC; TROKUTASTI A; LATINATE MYSLITE; CAUDATE CHRIVI;
+GLAGOLITIC SMALL LETTER ; AZU; BUKY; VEDE; GLAGOLI; DOBRO; YESTU; ZHIVETE; DZELO; ZEMLJA; IZHE;
INITIAL IZHE; I; DJERVI; KAKO; LJUDIJE; MYSLITE; NASHI; ONU; POKOJI; RITSI; SLOVO; TVRIDO; UKU;
FRITU; HERU; OTU; PE; SHTA; TSI; CHRIVI; SHA; YERU; YERI; YATI; SPIDERY HA; YU; SMALL YUS;
SMALL YUS WITH TAIL; YO; IOTATED SMALL YUS; BIG YUS; IOTATED BIG YUS; FITA; IZHITSA; SHTAPIC;
TROKUTASTI A; LATINATE MYSLITE; CAUDATE CHRIVI; +LATIN ; CAPITAL LETTER L WITH DOUBLE BAR;
SMALL LETTER L WITH DOUBLE BAR; +LATIN CAPITAL LETTER ; L WITH MIDDLE TILDE; P WITH STROKE;
R WITH TAIL; +LATIN SMALL LETTER ; A WITH STROKE; T WITH DIAGONAL STROKE; +LATIN ;
CAPITAL LETTER H WITH DESCENDER; SMALL LETTER H WITH DESCENDER; CAPITAL LETTER K WITH DESCENDER;
SMALL LETTER K WITH DESCENDER; CAPITAL LETTER Z WITH DESCENDER; SMALL LETTER Z WITH DESCENDER;
+LATIN CAPITAL LETTER ; ALPHA; M WITH HOOK; TURNED A; TURNED ALPHA; +LATIN ;
SMALL LETTER V WITH RIGHT HOOK; CAPITAL LETTER W WITH HOOK; SMALL LETTER W WITH HOOK;
SMALL LETTER V WITH CURL; CAPITAL LETTER HALF H; +LATIN SMALL LETTER ; HALF H; TAILLESS PHI;
E WITH NOTCH; TURNED R WITH TAIL; O WITH LOW RING INSIDE; +LATIN ; LETTER SMALL CAPITAL TURNED E;
SUBSCRIPT SMALL LETTER J; +MODIFIER LETTER CAPITAL ; V; +LATIN CAPITAL LETTER ; S WITH SWASH TAIL;
Z WITH SWASH TAIL; +COPTIC ; CAPITAL LETTER ALFA; SMALL LETTER ALFA; CAPITAL LETTER VIDA;
SMALL LETTER VIDA; CAPITAL LETTER GAMMA; SMALL LETTER GAMMA; CAPITAL LETTER DALDA;
SMALL LETTER DALDA; CAPITAL LETTER EIE; SMALL LETTER EIE; CAPITAL LETTER SOU; SMALL LETTER SOU;
CAPITAL LETTER ZATA; SMALL LETTER ZATA; CAPITAL LETTER HATE; SMALL LETTER HATE;
CAPITAL LETTER THETHE; SMALL LETTER THETHE; CAPITAL LETTER IAUDA; SMALL LETTER IAUDA;
CAPITAL LETTER KAPA; SMALL LETTER KAPA; CAPITAL LETTER LAULA; SMALL LETTER LAULA; CAPITAL LETTER MI;
SMALL LETTER MI; CAPITAL LETTER NI; SMALL LETTER NI; CAPITAL LETTER KSI; SMALL LETTER KSI;
CAPITAL LETTER O; SMALL LETTER O; CAPITAL LETTER PI; SMALL LETTER PI; CAPITAL LETTER RO;
SMALL LETTER RO; CAPITAL LETTER SIMA; SMALL LETTER SIMA; CAPITAL LETTER TAU; SMALL LETTER TAU;
CAPITAL LETTER UA; SMALL LETTER UA; CAPITAL LETTER FI; SMALL LETTER FI; CAPITAL LETTER KHI;
SMALL LETTER KHI; CAPITAL LETTER PSI; SMALL LETTER PSI; CAPITAL LETTER OOU; SMALL LETTER OOU;
CAPITAL LETTER DIALECT-P ALEF; SMALL LETTER DIALECT-P ALEF; CAPITAL LETTER OLD COPTIC AIN;
SMALL LETTER OLD COPTIC AIN; CAPITAL LETTER CRYPTOGRAMMIC EIE; SMALL LETTER CRYPTOGRAMMIC EIE;
CAPITAL LETTER DIALECT-P KAPA; SMALL LETTER DIALECT-P KAPA; CAPITAL LETTER DIALECT-P NI;
SMALL LETTER DIALECT-P NI; CAPITAL LETTER CRYPTOGRAMMIC NI; SMALL LETTER CRYPTOGRAMMIC NI;
CAPITAL LETTER OLD COPTIC OOU; SMALL LETTER OLD COPTIC OOU; CAPITAL LETTER SAMPI;
SMALL LETTER SAMPI; CAPITAL LETTER CROSSED SHEI; SMALL LETTER CROSSED SHEI;
CAPITAL LETTER OLD COPTIC SHEI; SMALL LETTER OLD COPTIC SHEI; CAPITAL LETTER OLD COPTIC ESH;
SMALL LETTER OLD COPTIC ESH; CAPITAL LETTER AKHMIMIC KHEI; SMALL LETTER AKHMIMIC KHEI;
CAPITAL LETTER DIALECT-P HORI; SMALL LETTER DIALECT-P HORI; CAPITAL LETTER OLD COPTIC HORI;
SMALL LETTER OLD COPTIC HORI; CAPITAL LETTER OLD COPTIC HA; SMALL LETTER OLD COPTIC HA;
CAPITAL LETTER L-SHAPED HA; SMALL LETTER L-SHAPED HA; CAPITAL LETTER OLD COPTIC HEI;
SMALL LETTER OLD COPTIC HEI; CAPITAL LETTER OLD COPTIC HAT; SMALL LETTER OLD COPTIC HAT;
CAPITAL LETTER OLD COPTIC GANGIA; SMALL LETTER OLD COPTIC GANGIA; CAPITAL LETTER OLD COPTIC DJA;
SMALL LETTER OLD COPTIC DJA; CAPITAL LETTER OLD COPTIC SHIMA; SMALL LETTER OLD COPTIC SHIMA;
CAPITAL LETTER OLD NUBIAN SHIMA; SMALL LETTER OLD NUBIAN SHIMA; CAPITAL LETTER OLD NUBIAN NGI;
SMALL LETTER OLD NUBIAN NGI; CAPITAL LETTER OLD NUBIAN NYI; SMALL LETTER OLD NUBIAN NYI;
CAPITAL LETTER OLD NUBIAN WAU; SMALL LETTER OLD NUBIAN WAU; +COPTIC SYMBOL ; KAI; MI RO; PI RO;
STAUROS; TAU RO; KHI RO; SHIMA SIMA; +COPTIC ; CAPITAL LETTER CRYPTOGRAMMIC SHEI;
SMALL LETTER CRYPTOGRAMMIC SHEI; CAPITAL LETTER CRYPTOGRAMMIC GANGIA;
SMALL LETTER CRYPTOGRAMMIC GANGIA; COMBINING NI ABOVE; COMBINING SPIRITUS ASPER;
COMBINING SPIRITUS LENIS; CAPITAL LETTER BOHAIRIC KHEI; SMALL LETTER BOHAIRIC KHEI; @2CF9;
+COPTIC OLD NUBIAN ; FULL STOP; DIRECT QUESTION MARK; INDIRECT QUESTION MARK; VERSE DIVIDER;
+COPTIC ; FRACTION ONE HALF; FULL STOP; MORPHOLOGICAL DIVIDER; +GEORGIAN SMALL LETTER ; AN; BAN;
GAN; DON; EN; VIN; ZEN; TAN; IN; KAN; LAS; MAN; NAR; ON; PAR; ZHAR; RAE; SAN; TAR; UN; PHAR; KHAR;
GHAN; QAR; SHIN; CHIN; CAN; JIL; CIL; CHAR; XAN; JHAN; HAE; HE; HIE; WE; HAR; HOE; @2D27; YN; @2D2D;
AEN; @2D30; +TIFINAGH LETTER ; YA; YAB; YABH; YAG; YAGHH; BERBER ACADEMY YAJ; YAJ; YAD; YADH; YADD;
YADDH; YEY; YAF; YAK; TUAREG YAK; YAKHH; YAH; BERBER ACADEMY YAH; TUAREG YAH; YAHH; YAA; YAKH;
TUAREG YAKH; YAQ; TUAREG YAQ; YI; YAZH; AHAGGAR YAZH; TUAREG YAZH; YAL; YAM; YAN; TUAREG YAGN;
TUAREG YANG; YAP; YU; YAR; YARR; YAGH; TUAREG YAGH; AYER YAGH; YAS; YASS; YASH; YAT; YATH; YACH;
YATT; YAV; YAW; YAY; YAZ; TAWELLEMET YAZ; YAZZ; YE; YO; @2D6F; +TIFINAGH ;
MODIFIER LETTER LABIALIZATION MARK; SEPARATOR MARK; @2D7F; CONSONANT JOINER; +ETHIOPIC SYLLABLE ;
LOA; MOA; ROA; SOA; SHOA; BOA; TOA; COA; NOA; NYOA; GLOTTAL OA; ZOA; DOA; DDOA; JOA; THOA; CHOA;
PHOA; POA; GGWA; GGWI; GGWEE; GGWE; @2DA0; SSA; SSU; SSI; SSAA; SSEE; SSE; SSO; @2DA8; CCA; CCU;
CCI; CCAA; CCEE; CCE; CCO; @2DB0; ZZA; ZZU; ZZI; ZZAA; ZZEE; ZZE; ZZO; @2DB8; CCHA; CCHU; CCHI;
CCHAA; CCHEE; CCHE; CCHO; @2DC0; QYA; QYU; QYI; QYAA; QYEE; QYE; QYO; @2DC8; KYA; KYU; KYI; KYAA;
KYEE; KYE; KYO; @2DD0; XYA; XYU; XYI; XYAA; XYEE; XYE; XYO; @2DD8; GYA; GYU; GYI; GYAA; GYEE; GYE;
GYO; @2DE0; +COMBINING CYRILLIC LETTER ; BE; VE; GHE; DE; ZHE; ZE; KA; EL; EM; EN; O; PE; ER; ES;
TE; HA; TSE; CHE; SHA; SHCHA; FITA; ES-TE; A; IE; DJERV; MONOGRAPH UK; YAT; YU; IOTIFIED A;
LITTLE YUS; BIG YUS; IOTIFIED BIG YUS; +RIGHT ANGLE ; SUBSTITUTION MARKER;
DOTTED SUBSTITUTION MARKER; +; LEFT SUBSTITUTION BRACKET; RIGHT SUBSTITUTION BRACKET;
LEFT DOTTED SUBSTITUTION BRACKET; RIGHT DOTTED SUBSTITUTION BRACKET; +RAISED ; INTERPOLATION MARKER;
DOTTED INTERPOLATION MARKER; +; DOTTED TRANSPOSITION MARKER; LEFT TRANSPOSITION BRACKET;
RIGHT TRANSPOSITION BRACKET; RAISED SQUARE; LEFT RAISED OMISSION BRACKET;
RIGHT RAISED OMISSION BRACKET; EDITORIAL CORONIS; PARAGRAPHOS; FORKED PARAGRAPHOS;
REVERSED FORKED PARAGRAPHOS; HYPODIASTOLE; DOTTED OBELOS; DOWNWARDS ANCORA; UPWARDS ANCORA;
DOTTED RIGHT-POINTING ANGLE; DOUBLE OBLIQUE HYPHEN; INVERTED INTERROBANG; PALM BRANCH;
HYPHEN WITH DIAERESIS; TILDE WITH RING ABOVE; LEFT LOW PARAPHRASE BRACKET;
RIGHT LOW PARAPHRASE BRACKET; +TILDE WITH DOT ; ABOVE; BELOW; +; LEFT VERTICAL BAR WITH QUILL;
RIGHT VERTICAL BAR WITH QUILL; +TOP ; LEFT HALF BRACKET; RIGHT HALF BRACKET; +BOTTOM ;
LEFT HALF BRACKET; RIGHT HALF BRACKET; +; LEFT SIDEWAYS U BRACKET; RIGHT SIDEWAYS U BRACKET;
LEFT DOUBLE PARENTHESIS; RIGHT DOUBLE PARENTHESIS; TWO DOTS OVER ONE DOT PUNCTUATION;
ONE DOT OVER TWO DOTS PUNCTUATION; SQUARED FOUR DOT PUNCTUATION; FIVE DOT MARK;
REVERSED QUESTION MARK; VERTICAL TILDE; RING POINT; WORD SEPARATOR MIDDLE DOT; TURNED COMMA;
+RAISED ; DOT; COMMA; +TURNED ; SEMICOLON; +DAGGER WITH ; LEFT GUARD; RIGHT GUARD; +; TURNED DAGGER;
TOP HALF SECTION SIGN; TWO-EM DASH; THREE-EM DASH; STENOGRAPHIC FULL STOP; VERTICAL SIX DOTS;
WIGGLY VERTICAL LINE; CAPITULUM; DOUBLE HYPHEN; REVERSED COMMA;
DOUBLE LOW-REVERSED-9 QUOTATION MARK; DASH WITH LEFT UPTURN; DOUBLE SUSPENSION MARK; +INVERTED LOW ;
KAVYKA; KAVYKA WITH KAVYKA ABOVE; +LOW ; KAVYKA; KAVYKA WITH DOT; +; DOUBLE STACKED COMMA;
DOTTED SOLIDUS; TRIPLE DAGGER; MEDIEVAL COMMA; PARAGRAPHUS MARK; PUNCTUS ELEVATUS MARK;
CORNISH VERSE DIVIDER; +CROSS PATTY WITH ; RIGHT CROSSBAR; LEFT CROSSBAR; +TIRONIAN SIGN CAPITAL ;
ET; +MEDIEVAL ; EXCLAMATION MARK; QUESTION MARK; +; LEFT SQUARE BRACKET WITH STROKE;
RIGHT SQUARE BRACKET WITH STROKE; LEFT SQUARE BRACKET WITH DOUBLE STROKE;
RIGHT SQUARE BRACKET WITH DOUBLE STROKE; +TOP HALF ; LEFT PARENTHESIS; RIGHT PARENTHESIS;
+BOTTOM HALF ; LEFT PARENTHESIS; RIGHT PARENTHESIS; +OBLIQUE ; HYPHEN; @2E80; +CJK RADICAL ; REPEAT;
CLIFF; SECOND ONE; SECOND TWO; SECOND THREE; PERSON; BOX; TABLE; KNIFE ONE; KNIFE TWO; DIVINATION;
SEAL; SMALL ONE; SMALL TWO; LAME ONE; LAME TWO; LAME THREE; LAME FOUR; SNAKE; THREAD; SNOUT ONE;
SNOUT TWO; HEART ONE; HEART TWO; HAND; RAP; @2E9B; CHOKE; SUN; MOON; DEATH; MOTHER; CIVILIAN;
WATER ONE; WATER TWO; FIRE; PAW ONE; PAW TWO; SIMPLIFIED HALF TREE TRUNK; COW; DOG; JADE;
BOLT OF CLOTH; EYE; SPIRIT ONE; SPIRIT TWO; BAMBOO; SILK; C-SIMPLIFIED SILK; NET ONE; NET TWO;
NET THREE; NET FOUR; MESH; SHEEP; RAM; EWE; OLD; BRUSH ONE; BRUSH TWO; MEAT; MORTAR; GRASS ONE;
GRASS TWO; GRASS THREE; TIGER; CLOTHES; WEST ONE; WEST TWO; C-SIMPLIFIED SEE; SIMPLIFIED HORN; HORN;
C-SIMPLIFIED SPEECH; C-SIMPLIFIED SHELL; FOOT; C-SIMPLIFIED CART; SIMPLIFIED WALK; WALK ONE;
WALK TWO; CITY; C-SIMPLIFIED GOLD; LONG ONE; LONG TWO; C-SIMPLIFIED LONG; C-SIMPLIFIED GATE;
MOUND ONE; MOUND TWO; RAIN; BLUE; +CJK RADICAL C-SIMPLIFIED ; TANNED LEATHER; LEAF; WIND; FLY;
+CJK RADICAL ; EAT ONE; EAT TWO; EAT THREE; C-SIMPLIFIED EAT; HEAD; C-SIMPLIFIED HORSE; BONE; GHOST;
C-SIMPLIFIED FISH; C-SIMPLIFIED BIRD; C-SIMPLIFIED SALT; SIMPLIFIED WHEAT; SIMPLIFIED YELLOW;
C-SIMPLIFIED FROG; J-SIMPLIFIED EVEN; C-SIMPLIFIED EVEN; J-SIMPLIFIED TOOTH; C-SIMPLIFIED TOOTH;
J-SIMPLIFIED DRAGON; C-SIMPLIFIED DRAGON; TURTLE; J-SIMPLIFIED TURTLE; C-SIMPLIFIED TURTLE; @2F00;
+KANGXI RADICAL ; ONE; LINE; DOT; SLASH; SECOND; HOOK; TWO; LID; MAN; LEGS; ENTER; EIGHT; DOWN BOX;
COVER; ICE; TABLE; OPEN BOX; KNIFE; POWER; WRAP; SPOON; RIGHT OPEN BOX; HIDING ENCLOSURE; TEN;
DIVINATION; SEAL; CLIFF; PRIVATE; AGAIN; MOUTH; ENCLOSURE; EARTH; SCHOLAR; GO; GO SLOWLY; EVENING;
BIG; WOMAN; CHILD; ROOF; INCH; SMALL; LAME; CORPSE; SPROUT; MOUNTAIN; RIVER; WORK; ONESELF; TURBAN;
DRY; SHORT THREAD; DOTTED CLIFF; LONG STRIDE; TWO HANDS; SHOOT; BOW; SNOUT; BRISTLE; STEP; HEART;
HALBERD; DOOR; HAND; BRANCH; RAP; SCRIPT; DIPPER; AXE; SQUARE; NOT; SUN; SAY; MOON; TREE; LACK;
STOP; DEATH; WEAPON; DO NOT; COMPARE; FUR; CLAN; STEAM; WATER; FIRE; CLAW; FATHER; DOUBLE X;
HALF TREE TRUNK; SLICE; FANG; COW; DOG; PROFOUND; JADE; MELON; TILE; SWEET; LIFE; USE; FIELD;
BOLT OF CLOTH; SICKNESS; DOTTED TENT; WHITE; SKIN; DISH; EYE; SPEAR; ARROW; STONE; SPIRIT; TRACK;
GRAIN; CAVE; STAND; BAMBOO; RICE; SILK; JAR; NET; SHEEP; FEATHER; OLD; AND; PLOW; EAR; BRUSH; MEAT;
MINISTER; SELF; ARRIVE; MORTAR; TONGUE; OPPOSE; BOAT; STOPPING; COLOR; GRASS; TIGER; INSECT; BLOOD;
WALK ENCLOSURE; CLOTHES; WEST; SEE; HORN; SPEECH; VALLEY; BEAN; PIG; BADGER; SHELL; RED; RUN; FOOT;
BODY; CART; BITTER; MORNING; WALK; CITY; WINE; DISTINGUISH; VILLAGE; GOLD; LONG; GATE; MOUND; SLAVE;
SHORT TAILED BIRD; RAIN; BLUE; WRONG; FACE; LEATHER; TANNED LEATHER; LEEK; SOUND; LEAF; WIND; FLY;
EAT; HEAD; FRAGRANT; HORSE; BONE; TALL; HAIR; FIGHT; SACRIFICIAL WINE; CAULDRON; GHOST; FISH; BIRD;
SALT; DEER; WHEAT; HEMP; YELLOW; MILLET; BLACK; EMBROIDERY; FROG; TRIPOD; DRUM; RAT; NOSE; EVEN;
TOOTH; DRAGON; TURTLE; FLUTE; @2FF0; +IDEOGRAPHIC DESCRIPTION CHARACTER ; LEFT TO RIGHT;
ABOVE TO BELOW; LEFT TO MIDDLE AND RIGHT; ABOVE TO MIDDLE AND BELOW; FULL SURROUND;
SURROUND FROM ABOVE; SURROUND FROM BELOW; SURROUND FROM LEFT; SURROUND FROM UPPER LEFT;
SURROUND FROM UPPER RIGHT; SURROUND FROM LOWER LEFT; OVERLAID; SURROUND FROM RIGHT;
SURROUND FROM LOWER RIGHT; HORIZONTAL REFLECTION; ROTATION;
"

end PythonSyntax.Unicode
