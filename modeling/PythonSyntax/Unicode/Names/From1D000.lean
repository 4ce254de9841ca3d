/-
The names of the Unicode characters from U+1D000 up to U+1DFFF, version 16, in the order of their
code points.  Entries end in a semicolon; an at sign gives the code point of the next name,
and a plus sign what the names after it begin with.
-/

namespace PythonSyntax.Unicode

/-- Names of characters from U+1D000 up to U+1DFFF. -/
def namesFrom1D000 : String := "
@1D000; +BYZANTINE MUSICAL SYMBOL ; PSILI; DASEIA; PERISPOMENI; OXEIA EKFONITIKON; OXEIA DIPLI;
VAREIA EKFONITIKON; VAREIA DIPLI; KATHISTI; SYRMATIKI; PARAKLITIKI; YPOKRISIS; YPOKRISIS DIPLI;
KREMASTI; APESO EKFONITIKON; EXO EKFONITIKON; TELEIA; KENTIMATA; APOSTROFOS; APOSTROFOS DIPLI;
SYNEVMA; THITA; OLIGON ARCHAION; GORGON ARCHAION; PSILON; CHAMILON; VATHY; ISON ARCHAION;
KENTIMA ARCHAION; KENTIMATA ARCHAION; SAXIMATA; PARICHON; STAVROS APODEXIA; OXEIAI ARCHAION;
VAREIAI ARCHAION; APODERMA ARCHAION; APOTHEMA; KLASMA; REVMA; PIASMA ARCHAION; TINAGMA;
ANATRICHISMA; SEISMA; SYNAGMA ARCHAION; SYNAGMA META STAVROU; OYRANISMA ARCHAION; THEMA; LEMOI; DYO;
TRIA; TESSERA; KRATIMATA; APESO EXO NEO; FTHORA ARCHAION; IMIFTHORA; TROMIKON ARCHAION;
KATAVA TROMIKON; PELASTON; PSIFISTON; KONTEVMA; CHOREVMA ARCHAION; RAPISMA; PARAKALESMA ARCHAION;
PARAKLITIKI ARCHAION; ICHADIN; NANA; PETASMA; KONTEVMA ALLO; TROMIKON ALLO; STRAGGISMATA;
GRONTHISMATA; ISON NEO; OLIGON NEO; OXEIA NEO; PETASTI; KOUFISMA; PETASTOKOUFISMA; KRATIMOKOUFISMA;
PELASTON NEO; KENTIMATA NEO ANO; KENTIMA NEO ANO; YPSILI; APOSTROFOS NEO; APOSTROFOI SYNDESMOS NEO;
YPORROI; KRATIMOYPORROON; ELAFRON; CHAMILI; MIKRON ISON; VAREIA NEO; PIASMA NEO; PSIFISTON NEO;
OMALON; ANTIKENOMA; LYGISMA; PARAKLITIKI NEO; PARAKALESMA NEO; ETERON PARAKALESMA; KYLISMA;
ANTIKENOKYLISMA; TROMIKON NEO; EKSTREPTON; SYNAGMA NEO; SYRMA; CHOREVMA NEO; EPEGERMA; SEISMA NEO;
XIRON KLASMA; TROMIKOPSIFISTON; PSIFISTOLYGISMA; TROMIKOLYGISMA; TROMIKOPARAKALESMA;
PSIFISTOPARAKALESMA; TROMIKOSYNAGMA; PSIFISTOSYNAGMA; GORGOSYNTHETON; ARGOSYNTHETON;
ETERON ARGOSYNTHETON; OYRANISMA NEO; THEMATISMOS ESO; THEMATISMOS EXO; THEMA APLOUN;
THES KAI APOTHES; KATAVASMA; ENDOFONON; YFEN KATO; YFEN ANO; STAVROS; KLASMA ANO; DIPLI ARCHAION;
KRATIMA ARCHAION; KRATIMA ALLO; KRATIMA NEO; APODERMA NEO; APLI; DIPLI; TRIPLI; TETRAPLI; KORONIS;
LEIMMA ENOS CHRONOU; LEIMMA DYO CHRONON; LEIMMA TRION CHRONON; LEIMMA TESSARON CHRONON;
LEIMMA IMISEOS CHRONOU; GORGON NEO ANO; GORGON PARESTIGMENON ARISTERA; GORGON PARESTIGMENON DEXIA;
DIGORGON; DIGORGON PARESTIGMENON ARISTERA KATO; DIGORGON PARESTIGMENON ARISTERA ANO;
DIGORGON PARESTIGMENON DEXIA; TRIGORGON; ARGON; IMIDIARGON; DIARGON;
+BYZANTINE MUSICAL SYMBOL AGOGI ; POLI ARGI; ARGOTERI; ARGI; METRIA; MESI; GORGI; GORGOTERI;
POLI GORGI; +BYZANTINE MUSICAL SYMBOL MARTYRIA ; PROTOS ICHOS; ALLI PROTOS ICHOS; DEYTEROS ICHOS;
ALLI DEYTEROS ICHOS; TRITOS ICHOS; TRIFONIAS; TETARTOS ICHOS; TETARTOS LEGETOS ICHOS; LEGETOS ICHOS;
PLAGIOS ICHOS; +BYZANTINE MUSICAL SYMBOL ; ISAKIA TELOUS ICHIMATOS; APOSTROFOI TELOUS ICHIMATOS;
FANEROSIS TETRAFONIAS; FANEROSIS MONOFONIAS; FANEROSIS DIFONIAS; MARTYRIA VARYS ICHOS;
MARTYRIA PROTOVARYS ICHOS; MARTYRIA PLAGIOS TETARTOS ICHOS; GORTHMIKON N APLOUN;
GORTHMIKON N DIPLOUN; ENARXIS KAI FTHORA VOU; IMIFONON; IMIFTHORON;
+BYZANTINE MUSICAL SYMBOL FTHORA ; ARCHAION DEYTEROU ICHOU; DIATONIKI PA; DIATONIKI NANA;
NAOS ICHOS; DIATONIKI DI; SKLIRON DIATONON DI; DIATONIKI KE; DIATONIKI ZO; DIATONIKI NI KATO;
DIATONIKI NI ANO; MALAKON CHROMA DIFONIAS; MALAKON CHROMA MONOFONIAS; +BYZANTINE MUSICAL SYMBOL ;
FHTORA SKLIRON CHROMA VASIS; FTHORA SKLIRON CHROMA SYNAFI; FTHORA NENANO; CHROA ZYGOS; CHROA KLITON;
CHROA SPATHI; FTHORA I YFESIS TETARTIMORION; FTHORA ENARMONIOS ANTIFONIA; YFESIS TRITIMORION;
DIESIS TRITIMORION; DIESIS TETARTIMORION; DIESIS APLI DYO DODEKATA;
DIESIS MONOGRAMMOS TESSERA DODEKATA; DIESIS DIGRAMMOS EX DODEKATA; DIESIS TRIGRAMMOS OKTO DODEKATA;
YFESIS APLI DYO DODEKATA; YFESIS MONOGRAMMOS TESSERA DODEKATA; YFESIS DIGRAMMOS EX DODEKATA;
YFESIS TRIGRAMMOS OKTO DODEKATA; GENIKI DIESIS; GENIKI YFESIS; DIASTOLI APLI MIKRI;
DIASTOLI APLI MEGALI; DIASTOLI DIPLI; DIASTOLI THESEOS; +BYZANTINE MUSICAL SYMBOL SIMANSIS ;
THESEOS; THESEOS DISIMOU; THESEOS TRISIMOU; THESEOS TETRASIMOU; ARSEOS; ARSEOS DISIMOU;
ARSEOS TRISIMOU; ARSEOS TETRASIMOU; +BYZANTINE MUSICAL SYMBOL ; DIGRAMMA GG; DIFTOGGOS OU; STIGMA;
ARKTIKO PA; ARKTIKO VOU; ARKTIKO GA; ARKTIKO DI; ARKTIKO KE; ARKTIKO ZO; ARKTIKO NI;
KENTIMATA NEO MESO; KENTIMA NEO MESO; KENTIMATA NEO KATO; KENTIMA NEO KATO; KLASMA KATO;
GORGON NEO KATO; @1D100; +MUSICAL SYMBOL ; SINGLE BARLINE; DOUBLE BARLINE; FINAL BARLINE;
REVERSE FINAL BARLINE; DASHED BARLINE; SHORT BARLINE; LEFT REPEAT SIGN; RIGHT REPEAT SIGN;
REPEAT DOTS; DAL SEGNO; DA CAPO; SEGNO; CODA; REPEATED FIGURE-1; REPEATED FIGURE-2;
REPEATED FIGURE-3; FERMATA; FERMATA BELOW; BREATH MARK; CAESURA; BRACE; BRACKET; ONE-LINE STAFF;
TWO-LINE STAFF; THREE-LINE STAFF; FOUR-LINE STAFF; FIVE-LINE STAFF; SIX-LINE STAFF;
SIX-STRING FRETBOARD; FOUR-STRING FRETBOARD; G CLEF; G CLEF OTTAVA ALTA; G CLEF OTTAVA BASSA;
C CLEF; F CLEF; F CLEF OTTAVA ALTA; F CLEF OTTAVA BASSA; DRUM CLEF-1; DRUM CLEF-2; @1D129;
MULTIPLE MEASURE REST; DOUBLE SHARP; DOUBLE FLAT; FLAT UP; FLAT DOWN; NATURAL UP; NATURAL DOWN;
SHARP UP; SHARP DOWN; QUARTER TONE SHARP; QUARTER TONE FLAT; COMMON TIME; CUT TIME; OTTAVA ALTA;
OTTAVA BASSA; QUINDICESIMA ALTA; QUINDICESIMA BASSA; MULTI REST; WHOLE REST; HALF REST;
QUARTER REST; EIGHTH REST; SIXTEENTH REST; THIRTY-SECOND REST; SIXTY-FOURTH REST;
ONE HUNDRED TWENTY-EIGHTH REST; X NOTEHEAD; PLUS NOTEHEAD; CIRCLE X NOTEHEAD; SQUARE NOTEHEAD WHITE;
SQUARE NOTEHEAD BLACK; +MUSICAL SYMBOL TRIANGLE NOTEHEAD ; UP WHITE; UP BLACK; LEFT WHITE;
LEFT BLACK; RIGHT WHITE; RIGHT BLACK; DOWN WHITE; DOWN BLACK; UP RIGHT WHITE; UP RIGHT BLACK;
+MUSICAL SYMBOL MOON NOTEHEAD ; WHITE; BLACK; +MUSICAL SYMBOL TRIANGLE-ROUND NOTEHEAD DOWN ; WHITE;
BLACK; +MUSICAL SYMBOL ; PARENTHESIS NOTEHEAD; VOID NOTEHEAD; NOTEHEAD BLACK; NULL NOTEHEAD;
CLUSTER NOTEHEAD WHITE; CLUSTER NOTEHEAD BLACK; BREVE; WHOLE NOTE; HALF NOTE; QUARTER NOTE;
EIGHTH NOTE; SIXTEENTH NOTE; THIRTY-SECOND NOTE; SIXTY-FOURTH NOTE; ONE HUNDRED TWENTY-EIGHTH NOTE;
+MUSICAL SYMBOL COMBINING ; STEM; SPRECHGESANG STEM; TREMOLO-1; TREMOLO-2; TREMOLO-3;
+MUSICAL SYMBOL FINGERED ; TREMOLO-1; TREMOLO-2; TREMOLO-3; +MUSICAL SYMBOL COMBINING ;
AUGMENTATION DOT; FLAG-1; FLAG-2; FLAG-3; FLAG-4; FLAG-5; +MUSICAL SYMBOL ; BEGIN BEAM; END BEAM;
BEGIN TIE; END TIE; BEGIN SLUR; END SLUR; BEGIN PHRASE; END PHRASE; +MUSICAL SYMBOL COMBINING ;
ACCENT; STACCATO; TENUTO; STACCATISSIMO; MARCATO; MARCATO-STACCATO; ACCENT-STACCATO; LOURE;
+MUSICAL SYMBOL ARPEGGIATO ; UP; DOWN; +MUSICAL SYMBOL COMBINING ; DOIT; RIP; FLIP; SMEAR; BEND;
DOUBLE TONGUE; TRIPLE TONGUE; +MUSICAL SYMBOL ; RINFORZANDO; SUBITO; Z; PIANO; MEZZO; FORTE;
CRESCENDO; DECRESCENDO; GRACE NOTE SLASH; GRACE NOTE NO SLASH; TR; TURN; INVERTED TURN; TURN SLASH;
TURN UP; +MUSICAL SYMBOL ORNAMENT ; STROKE-1; STROKE-2; STROKE-3; STROKE-4; STROKE-5; STROKE-6;
STROKE-7; STROKE-8; STROKE-9; STROKE-10; STROKE-11; +MUSICAL SYMBOL ; HAUPTSTIMME; NEBENSTIMME;
END OF STIMME; DEGREE SLASH; COMBINING DOWN BOW; COMBINING UP BOW; COMBINING HARMONIC;
COMBINING SNAP PIZZICATO; PEDAL MARK; PEDAL UP MARK; HALF PEDAL MARK; GLISSANDO UP; GLISSANDO DOWN;
WITH FINGERNAILS; DAMP; DAMP ALL; MAXIMA; LONGA; BREVIS; SEMIBREVIS WHITE; SEMIBREVIS BLACK; MINIMA;
MINIMA BLACK; SEMIMINIMA WHITE; SEMIMINIMA BLACK; FUSA WHITE; FUSA BLACK; LONGA PERFECTA REST;
LONGA IMPERFECTA REST; BREVIS REST; SEMIBREVIS REST; MINIMA REST; SEMIMINIMA REST;
+MUSICAL SYMBOL TEMPUS PERFECTUM CUM PROLATIONE ; PERFECTA; IMPERFECTA; PERFECTA DIMINUTION-1;
+MUSICAL SYMBOL TEMPUS IMPERFECTUM CUM PROLATIONE ; PERFECTA; IMPERFECTA; IMPERFECTA DIMINUTION-1;
IMPERFECTA DIMINUTION-2; IMPERFECTA DIMINUTION-3; +MUSICAL SYMBOL ; CROIX; GREGORIAN C CLEF;
GREGORIAN F CLEF; SQUARE B; VIRGA; PODATUS; CLIVIS; SCANDICUS; CLIMACUS; TORCULUS; PORRECTUS;
PORRECTUS FLEXUS; SCANDICUS FLEXUS; TORCULUS RESUPINUS; PES SUBPUNCTIS; +MUSICAL SYMBOL KIEVAN ;
C CLEF; END OF PIECE; FINAL NOTE; RECITATIVE MARK; WHOLE NOTE; HALF NOTE; QUARTER NOTE STEM DOWN;
QUARTER NOTE STEM UP; EIGHTH NOTE STEM DOWN; EIGHTH NOTE STEM UP; FLAT SIGN; +MUSICAL SYMBOL ; SORI;
KORON; @1D200; +GREEK VOCAL NOTATION ; SYMBOL-1; SYMBOL-2; SYMBOL-3; SYMBOL-4; SYMBOL-5; SYMBOL-6;
SYMBOL-7; SYMBOL-8; SYMBOL-9; SYMBOL-10; SYMBOL-11; SYMBOL-12; SYMBOL-13; SYMBOL-14; SYMBOL-15;
SYMBOL-16; SYMBOL-17; SYMBOL-18; SYMBOL-19; SYMBOL-20; SYMBOL-21; SYMBOL-22; SYMBOL-23; SYMBOL-24;
SYMBOL-50; SYMBOL-51; SYMBOL-52; SYMBOL-53; SYMBOL-54; +GREEK INSTRUMENTAL NOTATION ; SYMBOL-1;
SYMBOL-2; SYMBOL-4; SYMBOL-5; SYMBOL-7; SYMBOL-8; SYMBOL-11; SYMBOL-12; SYMBOL-13; SYMBOL-14;
SYMBOL-17; SYMBOL-18; SYMBOL-19; SYMBOL-23; SYMBOL-24; SYMBOL-25; SYMBOL-26; SYMBOL-27; SYMBOL-29;
SYMBOL-30; SYMBOL-32; SYMBOL-36; SYMBOL-37; SYMBOL-38; SYMBOL-39; SYMBOL-40; SYMBOL-42; SYMBOL-43;
SYMBOL-45; SYMBOL-47; SYMBOL-48; SYMBOL-49; SYMBOL-50; SYMBOL-51; SYMBOL-52; SYMBOL-53; SYMBOL-54;
+COMBINING GREEK MUSICAL ; TRISEME; TETRASEME; PENTASEME; +GREEK MUSICAL ; LEIMMA; @1D2C0;
+KAKTOVIK NUMERAL ; ZERO; ONE; TWO; THREE; FOUR; FIVE; SIX; SEVEN; EIGHT; NINE; TEN; ELEVEN; TWELVE;
THIRTEEN; FOURTEEN; FIFTEEN; SIXTEEN; SEVENTEEN; EIGHTEEN; NINETEEN; @1D2E0; +MAYAN NUMERAL ; ZERO;
ONE; TWO; THREE; FOUR; FIVE; SIX; SEVEN; EIGHT; NINE; TEN; ELEVEN; TWELVE; THIRTEEN; FOURTEEN;
FIFTEEN; SIXTEEN; SEVENTEEN; EIGHTEEN; NINETEEN; @1D300; +MONOGRAM FOR ; EARTH; +DIGRAM FOR ;
HEAVENLY EARTH; HUMAN EARTH; EARTHLY HEAVEN; EARTHLY HUMAN; EARTH; +TETRAGRAM FOR ; CENTRE;
FULL CIRCLE; MIRED; BARRIER; KEEPING SMALL; CONTRARIETY; ASCENT; OPPOSITION; BRANCHING OUT;
DEFECTIVENESS OR DISTORTION; DIVERGENCE; YOUTHFULNESS; INCREASE; PENETRATION; REACH; CONTACT;
HOLDING BACK; WAITING; FOLLOWING; ADVANCE; RELEASE; RESISTANCE; EASE; JOY; CONTENTION; ENDEAVOUR;
DUTIES; CHANGE; DECISIVENESS; BOLD RESOLUTION; PACKING; LEGION; CLOSENESS; KINSHIP; GATHERING;
STRENGTH; PURITY; FULLNESS; RESIDENCE; LAW OR MODEL; RESPONSE; GOING TO MEET; ENCOUNTERS; STOVE;
GREATNESS; ENLARGEMENT; PATTERN; RITUAL; FLIGHT; VASTNESS OR WASTING; CONSTANCY; MEASURE; ETERNITY;
UNITY; DIMINISHMENT; CLOSED MOUTH; GUARDEDNESS; GATHERING IN; MASSING; ACCUMULATION; EMBELLISHMENT;
DOUBT; WATCH; SINKING; INNER; DEPARTURE; DARKENING; DIMMING; EXHAUSTION; SEVERANCE; STOPPAGE;
HARDNESS; COMPLETION; CLOSURE; FAILURE; AGGRAVATION; COMPLIANCE; ON THE VERGE; DIFFICULTIES;
LABOURING; FOSTERING; @1D360; +COUNTING ROD UNIT DIGIT ; ONE; TWO; THREE; FOUR; FIVE; SIX; SEVEN;
EIGHT; NINE; +COUNTING ROD TENS DIGIT ; ONE; TWO; THREE; FOUR; FIVE; SIX; SEVEN; EIGHT; NINE;
+IDEOGRAPHIC TALLY MARK ; ONE; TWO; THREE; FOUR; FIVE; +TALLY MARK ; ONE; FIVE; @1D400;
+MATHEMATICAL BOLD CAPITAL ; A; B; C; D; E; F; G; H; I; J; K; L; M; N; O; P; Q; R; S; T; U; V; W; X;
Y; Z; +MATHEMATICAL BOLD SMALL ; A; B; C; D; E; F; G; H; I; J; K; L; M; N; O; P; Q; R; S; T; U; V;
W; X; Y; Z; +MATHEMATICAL ITALIC CAPITAL ; A; B; C; D; E; F; G; H; I; J; K; L; M; N; O; P; Q; R; S;
T; U; V; W; X; Y; Z; +MATHEMATICAL ITALIC SMALL ; A; B; C; D; E; F; G; @1D456; I; J; K; L; M; N; O;
P; Q; R; S; T; U; V; W; X; Y; Z; +MATHEMATICAL BOLD ITALIC CAPITAL ; A; B; C; D; E; F; G; H; I; J;
K; L; M; N; O; P; Q; R; S; T; U; V; W; X; Y; Z; +MATHEMATICAL BOLD ITALIC SMALL ; A; B; C; D; E; F;
G; H; I; J; K; L; M; N; O; P; Q; R; S; T; U; V; W; X; Y; Z; +MATHEMATICAL SCRIPT CAPITAL ; A;
@1D49E; C; D; @1D4A2; G; @1D4A5; J; K; @1D4A9; N; O; P; Q; @1D4AE; S; T; U; V; W; X; Y; Z;
+MATHEMATICAL SCRIPT SMALL ; A; B; C; D; @1D4BB; F; @1D4BD; H; I; J; K; L; M; N; @1D4C5; P; Q; R; S;
T; U; V; W; X; Y; Z; +MATHEMATICAL BOLD SCRIPT CAPITAL ; A; B; C; D; E; F; G; H; I; J; K; L; M; N;
O; P; Q; R; S; T; U; V; W; X; Y; Z; +MATHEMATICAL BOLD SCRIPT SMALL ; A; B; C; D; E; F; G; H; I; J;
K; L; M; N; O; P; Q; R; S; T; U; V; W; X; Y; Z; +MATHEMATICAL FRAKTUR CAPITAL ; A; B; @1D507; D; E;
F; G; @1D50D; J; K; L; M; N; O; P; Q; @1D516; S; T; U; V; W; X; Y; @1D51E;
+MATHEMATICAL FRAKTUR SMALL ; A; B; C; D; E; F; G; H; I; J; K; L; M; N; O; P; Q; R; S; T; U; V; W;
X; Y; Z; +MATHEMATICAL DOUBLE-STRUCK CAPITAL ; A; B; @1D53B; D; E; F; G; @1D540; I; J; K; L; M;
@1D546; O; @1D54A; S; T; U; V; W; X; Y; @1D552; +MATHEMATICAL DOUBLE-STRUCK SMALL ; A; B; C; D; E;
F; G; H; I; J; K; L; M; N; O; P; Q; R; S; T; U; V; W; X; Y; Z; +MATHEMATICAL BOLD FRAKTUR CAPITAL ;
A; B; C; D; E; F; G; H; I; J; K; L; M; N; O; P; Q; R; S; T; U; V; W; X; Y; Z;
+MATHEMATICAL BOLD FRAKTUR SMALL ; A; B; C; D; E; F; G; H; I; J; K; L; M; N; O; P; Q; R; S; T; U; V;
W; X; Y; Z; +MATHEMATICAL SANS-SERIF CAPITAL ; A; B; C; D; E; F; G; H; I; J; K; L; M; N; O; P; Q; R;
S; T; U; V; W; X; Y; Z; +MATHEMATICAL SANS-SERIF SMALL ; A; B; C; D; E; F; G; H; I; J; K; L; M; N;
O; P; Q; R; S; T; U; V; W; X; Y; Z; +MATHEMATICAL SANS-SERIF BOLD CAPITAL ; A; B; C; D; E; F; G; H;
I; J; K; L; M; N; O; P; Q; R; S; T; U; V; W; X; Y; Z; +MATHEMATICAL SANS-SERIF BOLD SMALL ; A; B; C;
D; E; F; G; H; I; J; K; L; M; N; O; P; Q; R; S; T; U; V; W; X; Y; Z;
+MATHEMATICAL SANS-SERIF ITALIC CAPITAL ; A; B; C; D; E; F; G; H; I; J; K; L; M; N; O; P; Q; R; S;
T; U; V; W; X; Y; Z; +MATHEMATICAL SANS-SERIF ITALIC SMALL ; A; B; C; D; E; F; G; H; I; J; K; L; M;
N; O; P; Q; R; S; T; U; V; W; X; Y; Z; +MATHEMATICAL SANS-SERIF BOLD ITALIC CAPITAL ; A; B; C; D; E;
F; G; H; I; J; K; L; M; N; O; P; Q; R; S; T; U; V; W; X; Y; Z;
+MATHEMATICAL SANS-SERIF BOLD ITALIC SMALL ; A; B; C; D; E; F; G; H; I; J; K; L; M; N; O; P; Q; R;
S; T; U; V; W; X; Y; Z; +MATHEMATICAL MONOSPACE CAPITAL ; A; B; C; D; E; F; G; H; I; J; K; L; M; N;
O; P; Q; R; S; T; U; V; W; X; Y; Z; +MATHEMATICAL MONOSPACE SMALL ; A; B; C; D; E; F; G; H; I; J; K;
L; M; N; O; P; Q; R; S; T; U; V; W; X; Y; Z; +MATHEMATICAL ITALIC SMALL DOTLESS ; I; J; @1D6A8;
+MATHEMATICAL BOLD CAPITAL ; ALPHA; BETA; GAMMA; DELTA; EPSILON; ZETA; ETA; THETA; IOTA; KAPPA;
LAMDA; MU; NU; XI; OMICRON; PI; RHO; THETA SYMBOL; SIGMA; TAU; UPSILON; PHI; CHI; PSI; OMEGA;
+MATHEMATICAL BOLD ; NABLA; +MATHEMATICAL BOLD SMALL ; ALPHA; BETA; GAMMA; DELTA; EPSILON; ZETA;
ETA; THETA; IOTA; KAPPA; LAMDA; MU; NU; XI; OMICRON; PI; RHO; FINAL SIGMA; SIGMA; TAU; UPSILON; PHI;
CHI; PSI; OMEGA; +MATHEMATICAL BOLD ; PARTIAL DIFFERENTIAL; EPSILON SYMBOL; THETA SYMBOL;
KAPPA SYMBOL; PHI SYMBOL; RHO SYMBOL; PI SYMBOL; +MATHEMATICAL ITALIC CAPITAL ; ALPHA; BETA; GAMMA;
DELTA; EPSILON; ZETA; ETA; THETA; IOTA; KAPPA; LAMDA; MU; NU; XI; OMICRON; PI; RHO; THETA SYMBOL;
SIGMA; TAU; UPSILON; PHI; CHI; PSI; OMEGA; +MATHEMATICAL ITALIC ; NABLA;
+MATHEMATICAL ITALIC SMALL ; ALPHA; BETA; GAMMA; DELTA; EPSILON; ZETA; ETA; THETA; IOTA; KAPPA;
LAMDA; MU; NU; XI; OMICRON; PI; RHO; FINAL SIGMA; SIGMA; TAU; UPSILON; PHI; CHI; PSI; OMEGA;
+MATHEMATICAL ITALIC ; PARTIAL DIFFERENTIAL; EPSILON SYMBOL; THETA SYMBOL; KAPPA SYMBOL; PHI SYMBOL;
RHO SYMBOL; PI SYMBOL; +MATHEMATICAL BOLD ITALIC CAPITAL ; ALPHA; BETA; GAMMA; DELTA; EPSILON; ZETA;
ETA; THETA; IOTA; KAPPA; LAMDA; MU; NU; XI; OMICRON; PI; RHO; THETA SYMBOL; SIGMA; TAU; UPSILON;
PHI; CHI; PSI; OMEGA; +MATHEMATICAL BOLD ITALIC ; NABLA; +MATHEMATICAL BOLD ITALIC SMALL ; ALPHA;
BETA; GAMMA; DELTA; EPSILON; ZETA; ETA; THETA; IOTA; KAPPA; LAMDA; MU; NU; XI; OMICRON; PI; RHO;
FINAL SIGMA; SIGMA; TAU; UPSILON; PHI; CHI; PSI; OMEGA; +MATHEMATICAL BOLD ITALIC ;
PARTIAL DIFFERENTIAL; EPSILON SYMBOL; THETA SYMBOL; KAPPA SYMBOL; PHI SYMBOL; RHO SYMBOL; PI SYMBOL;
+MATHEMATICAL SANS-SERIF BOLD CAPITAL ; ALPHA; BETA; GAMMA; DELTA; EPSILON; ZETA; ETA; THETA; IOTA;
KAPPA; LAMDA; MU; NU; XI; OMICRON; PI; RHO; THETA SYMBOL; SIGMA; TAU; UPSILON; PHI; CHI; PSI; OMEGA;
+MATHEMATICAL SANS-SERIF BOLD ; NABLA; +MATHEMATICAL SANS-SERIF BOLD SMALL ; ALPHA; BETA; GAMMA;
DELTA; EPSILON; ZETA; ETA; THETA; IOTA; KAPPA; LAMDA; MU; NU; XI; OMICRON; PI; RHO; FINAL SIGMA;
SIGMA; TAU; UPSILON; PHI; CHI; PSI; OMEGA; +MATHEMATICAL SANS-SERIF BOLD ; PARTIAL DIFFERENTIAL;
EPSILON SYMBOL; THETA SYMBOL; KAPPA SYMBOL; PHI SYMBOL; RHO SYMBOL; PI SYMBOL;
+MATHEMATICAL SANS-SERIF BOLD ITALIC CAPITAL ; ALPHA; BETA; GAMMA; DELTA; EPSILON; ZETA; ETA; THETA;
IOTA; KAPPA; LAMDA; MU; NU; XI; OMICRON; PI; RHO; THETA SYMBOL; SIGMA; TAU; UPSILON; PHI; CHI; PSI;
OMEGA; +MATHEMATICAL SANS-SERIF BOLD ITALIC ; NABLA; +MATHEMATICAL SANS-SERIF BOLD ITALIC SMALL ;
ALPHA; BETA; GAMMA; DELTA; EPSILON; ZETA; ETA; THETA; IOTA; KAPPA; LAMDA; MU; NU; XI; OMICRON; PI;
RHO; FINAL SIGMA; SIGMA; TAU; UPSILON; PHI; CHI; PSI; OMEGA; +MATHEMATICAL SANS-SERIF BOLD ITALIC ;
PARTIAL DIFFERENTIAL; EPSILON SYMBOL; THETA SYMBOL; KAPPA SYMBOL; PHI SYMBOL; RHO SYMBOL; PI SYMBOL;
+MATHEMATICAL BOLD ; CAPITAL DIGAMMA; SMALL DIGAMMA; @1D7CE; +MATHEMATICAL BOLD DIGIT ; ZERO; ONE;
TWO; THREE; FOUR; FIVE; SIX; SEVEN; EIGHT; NINE; +MATHEMATICAL DOUBLE-STRUCK DIGIT ; ZERO; ONE; TWO;
THREE; FOUR; FIVE; SIX; SEVEN; EIGHT; NINE; +MATHEMATICAL SANS-SERIF DIGIT ; ZERO; ONE; TWO; THREE;
FOUR; FIVE; SIX; SEVEN; EIGHT; NINE; +MATHEMATICAL SANS-SERIF BOLD DIGIT ; ZERO; ONE; TWO; THREE;
FOUR; FIVE; SIX; SEVEN; EIGHT; NINE; +MATHEMATICAL MONOSPACE DIGIT ; ZERO; ONE; TWO; THREE; FOUR;
FIVE; SIX; SEVEN; EIGHT; NINE; +SIGNWRITING ; HAND-FIST INDEX; HAND-CIRCLE INDEX; HAND-CUP INDEX;
HAND-OVAL INDEX; HAND-HINGE INDEX; HAND-ANGLE INDEX; HAND-FIST INDEX BENT; HAND-CIRCLE INDEX BENT;
HAND-FIST THUMB UNDER INDEX BENT; +SIGNWRITING HAND-FIST INDEX ; RAISED KNUCKLE; CUPPED; HINGED;
HINGED LOW; +SIGNWRITING ; HAND-CIRCLE INDEX HINGE; HAND-FIST INDEX MIDDLE;
HAND-CIRCLE INDEX MIDDLE; +SIGNWRITING HAND-FIST INDEX ; MIDDLE BENT; MIDDLE RAISED KNUCKLES;
MIDDLE HINGED; UP MIDDLE HINGED; HINGED MIDDLE UP; MIDDLE CONJOINED;
+SIGNWRITING HAND-FIST INDEX MIDDLE CONJOINED ; INDEX BENT; MIDDLE BENT; CUPPED; HINGED;
+SIGNWRITING ; HAND-FIST INDEX MIDDLE CROSSED; HAND-CIRCLE INDEX MIDDLE CROSSED;
HAND-FIST MIDDLE BENT OVER INDEX; HAND-FIST INDEX BENT OVER MIDDLE; HAND-FIST INDEX MIDDLE THUMB;
HAND-CIRCLE INDEX MIDDLE THUMB; +SIGNWRITING HAND-FIST INDEX ; MIDDLE STRAIGHT THUMB BENT;
MIDDLE BENT THUMB STRAIGHT; MIDDLE THUMB BENT; MIDDLE HINGED SPREAD THUMB SIDE;
UP MIDDLE HINGED THUMB SIDE; UP MIDDLE HINGED THUMB CONJOINED; HINGED MIDDLE UP THUMB SIDE;
MIDDLE UP SPREAD THUMB FORWARD; +SIGNWRITING HAND-FIST INDEX MIDDLE THUMB ; CUPPED; CIRCLED; HOOKED;
HINGED; +SIGNWRITING HAND-FIST THUMB BETWEEN INDEX MIDDLE ; STRAIGHT;
+SIGNWRITING HAND-FIST INDEX MIDDLE CONJOINED THUMB ; SIDE; SIDE CONJOINED; SIDE BENT;
+SIGNWRITING HAND-FIST ; MIDDLE THUMB HOOKED INDEX UP; INDEX THUMB HOOKED MIDDLE UP;
INDEX MIDDLE CONJOINED HINGED THUMB SIDE; INDEX MIDDLE CROSSED THUMB SIDE;
INDEX MIDDLE CONJOINED THUMB FORWARD; INDEX MIDDLE CONJOINED CUPPED THUMB FORWARD;
MIDDLE THUMB CUPPED INDEX UP; INDEX THUMB CUPPED MIDDLE UP;
+SIGNWRITING HAND-FIST MIDDLE THUMB CIRCLED INDEX ; UP; HINGED; +SIGNWRITING HAND-FIST INDEX THUMB ;
ANGLED OUT MIDDLE UP; ANGLED IN MIDDLE UP; CIRCLED MIDDLE UP;
+SIGNWRITING HAND-FIST INDEX MIDDLE THUMB ; CONJOINED HINGED; ANGLED OUT; ANGLED;
+SIGNWRITING HAND-FIST MIDDLE THUMB ANGLED ; OUT INDEX UP; OUT INDEX CROSSED; INDEX UP;
+SIGNWRITING ; HAND-FIST INDEX THUMB HOOKED MIDDLE HINGED; HAND-FLAT FOUR FINGERS;
+SIGNWRITING HAND-FLAT FOUR FINGERS ; BENT; HINGED; CONJOINED; CONJOINED SPLIT; +SIGNWRITING ;
HAND-CLAW FOUR FINGERS CONJOINED; HAND-FIST FOUR FINGERS CONJOINED BENT;
HAND-HINGE FOUR FINGERS CONJOINED; +SIGNWRITING HAND-FLAT ; FIVE FINGERS SPREAD;
HEEL FIVE FINGERS SPREAD; FIVE FINGERS SPREAD FOUR BENT; HEEL FIVE FINGERS SPREAD FOUR BENT;
FIVE FINGERS SPREAD BENT; HEEL FIVE FINGERS SPREAD BENT; FIVE FINGERS SPREAD THUMB FORWARD;
+SIGNWRITING HAND-CUP FIVE FINGERS ; SPREAD; SPREAD OPEN; +SIGNWRITING ;
HAND-HINGE FIVE FINGERS SPREAD OPEN; HAND-OVAL FIVE FINGERS SPREAD;
+SIGNWRITING HAND-FLAT FIVE FINGERS SPREAD ; HINGED; HINGED THUMB SIDE; HINGED NO THUMB;
+SIGNWRITING ; HAND-FLAT; +SIGNWRITING HAND-FLAT ; BETWEEN PALM FACINGS; HEEL; THUMB SIDE;
HEEL THUMB SIDE; THUMB BENT; THUMB FORWARD; SPLIT INDEX THUMB SIDE; SPLIT CENTRE;
SPLIT CENTRE THUMB SIDE; SPLIT CENTRE THUMB SIDE BENT; SPLIT LITTLE; +SIGNWRITING ; HAND-CLAW;
HAND-CLAW THUMB SIDE; HAND-CLAW NO THUMB; HAND-CLAW THUMB FORWARD; HAND-HOOK CURLICUE; HAND-HOOK;
HAND-CUP OPEN; HAND-CUP; +SIGNWRITING HAND-CUP ; OPEN THUMB SIDE; THUMB SIDE; OPEN NO THUMB;
NO THUMB; OPEN THUMB FORWARD; THUMB FORWARD; +SIGNWRITING ; HAND-CURLICUE OPEN; HAND-CURLICUE;
HAND-CIRCLE; HAND-OVAL; HAND-OVAL THUMB SIDE; HAND-OVAL NO THUMB; HAND-OVAL THUMB FORWARD;
HAND-HINGE OPEN; HAND-HINGE OPEN THUMB FORWARD; HAND-HINGE; +SIGNWRITING HAND-HINGE ; SMALL;
OPEN THUMB SIDE; THUMB SIDE; OPEN NO THUMB; NO THUMB; THUMB SIDE TOUCHING INDEX;
THUMB BETWEEN MIDDLE RING; +SIGNWRITING ; HAND-ANGLE; HAND-FIST INDEX MIDDLE RING;
HAND-CIRCLE INDEX MIDDLE RING; HAND-HINGE INDEX MIDDLE RING; HAND-ANGLE INDEX MIDDLE RING;
HAND-HINGE LITTLE; HAND-FIST INDEX MIDDLE RING BENT; HAND-FIST INDEX MIDDLE RING CONJOINED;
HAND-HINGE INDEX MIDDLE RING CONJOINED; +SIGNWRITING HAND-FIST LITTLE ; DOWN; DOWN RIPPLE STRAIGHT;
DOWN RIPPLE CURVED; DOWN OTHERS CIRCLED; UP; +SIGNWRITING ; HAND-FIST THUMB UNDER LITTLE UP;
HAND-CIRCLE LITTLE UP; HAND-OVAL LITTLE UP; HAND-ANGLE LITTLE UP; +SIGNWRITING HAND-FIST LITTLE ;
RAISED KNUCKLE; BENT; TOUCHES THUMB; THUMB; +SIGNWRITING ; HAND-HINGE LITTLE THUMB;
HAND-FIST LITTLE INDEX THUMB; HAND-HINGE LITTLE INDEX THUMB;
+SIGNWRITING HAND-ANGLE LITTLE INDEX THUMB INDEX ; THUMB OUT; THUMB; +SIGNWRITING ;
HAND-FIST LITTLE INDEX; HAND-CIRCLE LITTLE INDEX; HAND-HINGE LITTLE INDEX; HAND-ANGLE LITTLE INDEX;
HAND-FIST INDEX MIDDLE LITTLE; HAND-CIRCLE INDEX MIDDLE LITTLE; HAND-HINGE INDEX MIDDLE LITTLE;
HAND-HINGE RING; HAND-ANGLE INDEX MIDDLE LITTLE; HAND-FIST INDEX MIDDLE CROSS LITTLE;
HAND-CIRCLE INDEX MIDDLE CROSS LITTLE; HAND-FIST RING DOWN;
HAND-HINGE RING DOWN INDEX THUMB HOOK MIDDLE; HAND-ANGLE RING DOWN MIDDLE THUMB INDEX CROSS;
HAND-FIST RING UP; HAND-FIST RING RAISED KNUCKLE; HAND-FIST RING LITTLE; HAND-CIRCLE RING LITTLE;
HAND-OVAL RING LITTLE; HAND-ANGLE RING LITTLE; +SIGNWRITING HAND-FIST RING ; MIDDLE;
MIDDLE CONJOINED; MIDDLE RAISED KNUCKLES; INDEX; THUMB; +SIGNWRITING ; HAND-HOOK RING THUMB;
HAND-FIST INDEX RING LITTLE; HAND-CIRCLE INDEX RING LITTLE; HAND-CURLICUE INDEX RING LITTLE ON;
+SIGNWRITING HAND-HOOK INDEX RING LITTLE ; OUT; IN; UNDER; +SIGNWRITING ;
HAND-CUP INDEX RING LITTLE; HAND-HINGE INDEX RING LITTLE; HAND-ANGLE INDEX RING LITTLE OUT;
HAND-ANGLE INDEX RING LITTLE; HAND-FIST MIDDLE DOWN; HAND-HINGE MIDDLE; HAND-FIST MIDDLE UP;
HAND-CIRCLE MIDDLE UP; HAND-FIST MIDDLE RAISED KNUCKLE; HAND-FIST MIDDLE UP THUMB SIDE;
HAND-HOOK MIDDLE THUMB; +SIGNWRITING HAND-FIST MIDDLE ; THUMB LITTLE; LITTLE; RING LITTLE;
+SIGNWRITING ; HAND-CIRCLE MIDDLE RING LITTLE; HAND-CURLICUE MIDDLE RING LITTLE ON;
HAND-CUP MIDDLE RING LITTLE; HAND-HINGE MIDDLE RING LITTLE; +SIGNWRITING HAND-ANGLE MIDDLE RING ;
LITTLE OUT; LITTLE IN; LITTLE; +SIGNWRITING HAND-CIRCLE MIDDLE RING LITTLE ; BENT;
+SIGNWRITING HAND-CLAW MIDDLE RING LITTLE ; CONJOINED; CONJOINED SIDE;
+SIGNWRITING HAND-HOOK MIDDLE RING LITTLE ; CONJOINED OUT; CONJOINED IN; CONJOINED; +SIGNWRITING ;
HAND-HINGE INDEX HINGED; HAND-FIST INDEX THUMB SIDE; HAND-HINGE INDEX THUMB SIDE;
+SIGNWRITING HAND-FIST INDEX THUMB ; SIDE THUMB DIAGONAL; SIDE THUMB CONJOINED; SIDE THUMB BENT;
SIDE INDEX BENT; SIDE BOTH BENT; SIDE INDEX HINGE; FORWARD INDEX STRAIGHT; FORWARD INDEX BENT; HOOK;
CURLICUE; CURVE THUMB INSIDE; +SIGNWRITING HAND-CLAW INDEX THUMB CURVE THUMB ; INSIDE;
+SIGNWRITING HAND-FIST INDEX THUMB ; CURVE THUMB UNDER; CIRCLE; +SIGNWRITING HAND-CUP INDEX ; THUMB;
THUMB OPEN; +SIGNWRITING HAND-HINGE INDEX ; THUMB OPEN; THUMB LARGE; THUMB; THUMB SMALL;
+SIGNWRITING HAND-ANGLE INDEX ; THUMB OUT; THUMB IN; THUMB; +SIGNWRITING HAND-FIST ; THUMB;
+SIGNWRITING HAND-FIST THUMB ; HEEL; SIDE DIAGONAL; SIDE CONJOINED; SIDE BENT; FORWARD;
BETWEEN INDEX MIDDLE; BETWEEN MIDDLE RING; BETWEEN RING LITTLE; UNDER TWO FINGERS; OVER TWO FINGERS;
UNDER THREE FINGERS; UNDER FOUR FINGERS; OVER FOUR RAISED KNUCKLES; +SIGNWRITING ; HAND-FIST;
HAND-FIST HEEL; TOUCH SINGLE; TOUCH MULTIPLE; TOUCH BETWEEN; GRASP SINGLE; GRASP MULTIPLE;
GRASP BETWEEN; STRIKE SINGLE; STRIKE MULTIPLE; STRIKE BETWEEN; BRUSH SINGLE; BRUSH MULTIPLE;
BRUSH BETWEEN; RUB SINGLE; RUB MULTIPLE; RUB BETWEEN; SURFACE SYMBOLS; SURFACE BETWEEN;
+SIGNWRITING SQUEEZE ; LARGE SINGLE; SMALL SINGLE; LARGE MULTIPLE; SMALL MULTIPLE; SEQUENTIAL;
+SIGNWRITING FLICK ; LARGE SINGLE; SMALL SINGLE; LARGE MULTIPLE; SMALL MULTIPLE; SEQUENTIAL;
+SIGNWRITING SQUEEZE FLICK ; ALTERNATING; +SIGNWRITING MOVEMENT-HINGE ; UP DOWN LARGE;
UP DOWN SMALL; UP SEQUENTIAL; DOWN SEQUENTIAL; UP DOWN ALTERNATING LARGE; UP DOWN ALTERNATING SMALL;
SIDE TO SIDE SCISSORS; +SIGNWRITING ; MOVEMENT-WALLPLANE FINGER CONTACT;
MOVEMENT-FLOORPLANE FINGER CONTACT; +SIGNWRITING MOVEMENT-WALLPLANE SINGLE STRAIGHT ; SMALL; MEDIUM;
LARGE; LARGEST; +SIGNWRITING MOVEMENT-WALLPLANE ; SINGLE WRIST FLEX; DOUBLE STRAIGHT;
DOUBLE WRIST FLEX; DOUBLE ALTERNATING; DOUBLE ALTERNATING WRIST FLEX; CROSS;
TRIPLE STRAIGHT MOVEMENT; TRIPLE WRIST FLEX; TRIPLE ALTERNATING; TRIPLE ALTERNATING WRIST FLEX;
BEND SMALL; BEND MEDIUM; BEND LARGE; CORNER SMALL; CORNER MEDIUM; CORNER LARGE; CORNER ROTATION;
CHECK SMALL; CHECK MEDIUM; CHECK LARGE; BOX SMALL; BOX MEDIUM; BOX LARGE; ZIGZAG SMALL;
ZIGZAG MEDIUM; ZIGZAG LARGE; PEAKS SMALL; PEAKS MEDIUM; PEAKS LARGE;
+SIGNWRITING TRAVEL-WALLPLANE ROTATION-WALLPLANE ; SINGLE; DOUBLE; ALTERNATING;
+SIGNWRITING TRAVEL-WALLPLANE ROTATION-FLOORPLANE ; SINGLE; DOUBLE; ALTERNATING;
+SIGNWRITING TRAVEL-WALLPLANE ; SHAKING; ARM SPIRAL SINGLE; ARM SPIRAL DOUBLE; ARM SPIRAL TRIPLE;
+SIGNWRITING MOVEMENT-DIAGONAL AWAY ; SMALL; MEDIUM; LARGE; LARGEST;
+SIGNWRITING MOVEMENT-DIAGONAL TOWARDS ; SMALL; MEDIUM; LARGE; LARGEST;
+SIGNWRITING MOVEMENT-DIAGONAL BETWEEN ; AWAY SMALL; AWAY MEDIUM; AWAY LARGE; AWAY LARGEST;
TOWARDS SMALL; TOWARDS MEDIUM; TOWARDS LARGE; TOWARDS LARGEST;
+SIGNWRITING MOVEMENT-FLOORPLANE SINGLE STRAIGHT ; SMALL; MEDIUM; LARGE; LARGEST;
+SIGNWRITING MOVEMENT-FLOORPLANE ; SINGLE WRIST FLEX; DOUBLE STRAIGHT; DOUBLE WRIST FLEX;
DOUBLE ALTERNATING; DOUBLE ALTERNATING WRIST FLEX; CROSS; TRIPLE STRAIGHT MOVEMENT;
TRIPLE WRIST FLEX; TRIPLE ALTERNATING MOVEMENT; TRIPLE ALTERNATING WRIST FLEX; BEND; CORNER SMALL;
CORNER MEDIUM; CORNER LARGE; CHECK; BOX SMALL; BOX MEDIUM; BOX LARGE; ZIGZAG SMALL; ZIGZAG MEDIUM;
ZIGZAG LARGE; PEAKS SMALL; PEAKS MEDIUM; PEAKS LARGE;
+SIGNWRITING TRAVEL-FLOORPLANE ROTATION-FLOORPLANE ; SINGLE; DOUBLE; ALTERNATING;
+SIGNWRITING TRAVEL-FLOORPLANE ROTATION-WALLPLANE ; SINGLE; DOUBLE; ALTERNATING;
+SIGNWRITING TRAVEL-FLOORPLANE ; SHAKING; +SIGNWRITING MOVEMENT-WALLPLANE CURVE QUARTER ; SMALL;
MEDIUM; LARGE; LARGEST; +SIGNWRITING MOVEMENT-WALLPLANE CURVE HALF-CIRCLE ; SMALL; MEDIUM; LARGE;
LARGEST; +SIGNWRITING MOVEMENT-WALLPLANE ; CURVE THREE-QUARTER CIRCLE SMALL;
CURVE THREE-QUARTER CIRCLE MEDIUM; HUMP SMALL; HUMP MEDIUM; HUMP LARGE; LOOP SMALL; LOOP MEDIUM;
LOOP LARGE; LOOP SMALL DOUBLE; WAVE CURVE DOUBLE SMALL; WAVE CURVE DOUBLE MEDIUM;
WAVE CURVE DOUBLE LARGE; WAVE CURVE TRIPLE SMALL; WAVE CURVE TRIPLE MEDIUM; WAVE CURVE TRIPLE LARGE;
CURVE THEN STRAIGHT; CURVED CROSS SMALL; CURVED CROSS MEDIUM; +SIGNWRITING ROTATION-WALLPLANE ;
SINGLE; DOUBLE; ALTERNATE; +SIGNWRITING MOVEMENT-WALLPLANE ; SHAKING; CURVE HITTING FRONT WALL;
HUMP HITTING FRONT WALL; LOOP HITTING FRONT WALL; WAVE HITTING FRONT WALL;
+SIGNWRITING ROTATION-WALLPLANE ; SINGLE HITTING FRONT WALL; DOUBLE HITTING FRONT WALL;
ALTERNATING HITTING FRONT WALL; +SIGNWRITING MOVEMENT-WALLPLANE ; CURVE HITTING CHEST;
HUMP HITTING CHEST; LOOP HITTING CHEST; WAVE HITTING CHEST; +SIGNWRITING ROTATION-WALLPLANE ;
SINGLE HITTING CHEST; DOUBLE HITTING CHEST; ALTERNATING HITTING CHEST;
+SIGNWRITING MOVEMENT-WALLPLANE WAVE DIAGONAL PATH ; SMALL; MEDIUM; LARGE;
+SIGNWRITING MOVEMENT-FLOORPLANE CURVE HITTING CEILING ; SMALL; LARGE;
+SIGNWRITING MOVEMENT-FLOORPLANE HUMP HITTING CEILING ; SMALL DOUBLE; LARGE DOUBLE; SMALL TRIPLE;
LARGE TRIPLE; +SIGNWRITING MOVEMENT-FLOORPLANE LOOP HITTING CEILING ; SMALL SINGLE; LARGE SINGLE;
SMALL DOUBLE; LARGE DOUBLE; +SIGNWRITING MOVEMENT-FLOORPLANE WAVE HITTING CEILING ; SMALL; LARGE;
+SIGNWRITING ROTATION-FLOORPLANE ; SINGLE HITTING CEILING; DOUBLE HITTING CEILING;
ALTERNATING HITTING CEILING; +SIGNWRITING MOVEMENT-FLOORPLANE CURVE HITTING FLOOR ; SMALL; LARGE;
+SIGNWRITING MOVEMENT-FLOORPLANE HUMP HITTING FLOOR ; SMALL DOUBLE; LARGE DOUBLE;
TRIPLE SMALL TRIPLE; TRIPLE LARGE TRIPLE; +SIGNWRITING MOVEMENT-FLOORPLANE LOOP HITTING FLOOR ;
SMALL SINGLE; LARGE SINGLE; SMALL DOUBLE; LARGE DOUBLE;
+SIGNWRITING MOVEMENT-FLOORPLANE WAVE HITTING FLOOR ; SMALL; LARGE;
+SIGNWRITING ROTATION-FLOORPLANE ; SINGLE HITTING FLOOR; DOUBLE HITTING FLOOR;
ALTERNATING HITTING FLOOR; +SIGNWRITING MOVEMENT-FLOORPLANE ; CURVE SMALL; CURVE MEDIUM;
CURVE LARGE; CURVE LARGEST; CURVE COMBINED; HUMP SMALL; LOOP SMALL; WAVE SNAKE; WAVE SMALL;
WAVE LARGE; +SIGNWRITING ROTATION-FLOORPLANE ; SINGLE; DOUBLE; ALTERNATING;
+SIGNWRITING MOVEMENT-FLOORPLANE SHAKING ; PARALLEL; +SIGNWRITING MOVEMENT-WALLPLANE ARM CIRCLE ;
SMALL SINGLE; MEDIUM SINGLE; SMALL DOUBLE; MEDIUM DOUBLE;
+SIGNWRITING MOVEMENT-FLOORPLANE ARM CIRCLE HITTING WALL ; SMALL SINGLE; MEDIUM SINGLE;
LARGE SINGLE; SMALL DOUBLE; MEDIUM DOUBLE; LARGE DOUBLE;
+SIGNWRITING MOVEMENT-WALLPLANE WRIST CIRCLE FRONT ; SINGLE; DOUBLE;
+SIGNWRITING MOVEMENT-FLOORPLANE WRIST CIRCLE HITTING WALL ; SINGLE; DOUBLE;
+SIGNWRITING MOVEMENT-WALLPLANE FINGER CIRCLES ; SINGLE; DOUBLE;
+SIGNWRITING MOVEMENT-FLOORPLANE FINGER CIRCLES HITTING WALL ; SINGLE; DOUBLE;
+SIGNWRITING DYNAMIC ; ARROWHEAD SMALL; ARROWHEAD LARGE; FAST; SLOW; TENSE; RELAXED; SIMULTANEOUS;
SIMULTANEOUS ALTERNATING; EVERY OTHER TIME; GRADUAL; +SIGNWRITING ; HEAD; +SIGNWRITING HEAD ; RIM;
MOVEMENT-WALLPLANE STRAIGHT; MOVEMENT-WALLPLANE TILT; MOVEMENT-FLOORPLANE STRAIGHT;
MOVEMENT-WALLPLANE CURVE; MOVEMENT-FLOORPLANE CURVE; MOVEMENT CIRCLE;
+SIGNWRITING FACE DIRECTION POSITION NOSE ; FORWARD TILTING; UP OR DOWN; UP OR DOWN TILTING;
+SIGNWRITING EYEBROWS STRAIGHT ; UP; NEUTRAL; DOWN; +SIGNWRITING DREAMY EYEBROWS ; NEUTRAL DOWN;
DOWN NEUTRAL; UP NEUTRAL; NEUTRAL UP; +SIGNWRITING FOREHEAD ; NEUTRAL; CONTACT; WRINKLED;
+SIGNWRITING ; EYES OPEN; EYES SQUEEZED; EYES CLOSED; EYE BLINK SINGLE; EYE BLINK MULTIPLE;
EYES HALF OPEN; EYES WIDE OPEN; EYES HALF CLOSED; EYES WIDENING MOVEMENT; EYE WINK;
+SIGNWRITING EYELASHES ; UP; DOWN; FLUTTERING; +SIGNWRITING EYEGAZE-WALLPLANE ; STRAIGHT;
STRAIGHT DOUBLE; STRAIGHT ALTERNATING; +SIGNWRITING EYEGAZE-FLOORPLANE ; STRAIGHT; STRAIGHT DOUBLE;
STRAIGHT ALTERNATING; +SIGNWRITING ; EYEGAZE-WALLPLANE CURVED; EYEGAZE-FLOORPLANE CURVED;
EYEGAZE-WALLPLANE CIRCLING; CHEEKS PUFFED; CHEEKS NEUTRAL; CHEEKS SUCKED; TENSE CHEEKS HIGH;
TENSE CHEEKS MIDDLE; TENSE CHEEKS LOW; EARS; NOSE NEUTRAL; NOSE CONTACT; NOSE WRINKLES;
NOSE WIGGLES; AIR BLOWING OUT; AIR SUCKING IN; AIR BLOW SMALL ROTATIONS; AIR SUCK SMALL ROTATIONS;
BREATH INHALE; BREATH EXHALE; +SIGNWRITING MOUTH ; CLOSED NEUTRAL; CLOSED FORWARD; CLOSED CONTACT;
SMILE; SMILE WRINKLED; SMILE OPEN; FROWN; FROWN WRINKLED; FROWN OPEN; OPEN CIRCLE; OPEN FORWARD;
OPEN WRINKLED; OPEN OVAL; OPEN OVAL WRINKLED; OPEN OVAL YAWN; OPEN RECTANGLE;
OPEN RECTANGLE WRINKLED; OPEN RECTANGLE YAWN; KISS; KISS FORWARD; KISS WRINKLED; TENSE;
TENSE FORWARD; TENSE SUCKED; +SIGNWRITING ; LIPS PRESSED TOGETHER; LIP LOWER OVER UPPER;
LIP UPPER OVER LOWER; MOUTH CORNERS; MOUTH WRINKLES SINGLE; MOUTH WRINKLES DOUBLE;
+SIGNWRITING TONGUE ; STICKING OUT FAR; LICKING LIPS; TIP BETWEEN LIPS; TIP TOUCHING INSIDE MOUTH;
INSIDE MOUTH RELAXED; MOVES AGAINST CHEEK; CENTRE STICKING OUT; CENTRE INSIDE MOUTH; +SIGNWRITING ;
TEETH; TEETH MOVEMENT; TEETH ON TONGUE; TEETH ON TONGUE MOVEMENT; TEETH ON LIPS;
TEETH ON LIPS MOVEMENT; TEETH BITE LIPS; MOVEMENT-WALLPLANE JAW; MOVEMENT-FLOORPLANE JAW; NECK;
HAIR; EXCITEMENT; SHOULDER HIP SPINE; SHOULDER HIP POSITIONS; WALLPLANE SHOULDER HIP MOVE;
FLOORPLANE SHOULDER HIP MOVE; SHOULDER TILTING FROM WAIST; TORSO-WALLPLANE STRAIGHT STRETCH;
TORSO-WALLPLANE CURVED BEND; TORSO-FLOORPLANE TWISTING; UPPER BODY TILTING FROM HIP JOINTS;
+SIGNWRITING LIMB ; COMBINATION; LENGTH-1; LENGTH-2; LENGTH-3; LENGTH-4; LENGTH-5; LENGTH-6;
LENGTH-7; +SIGNWRITING ; FINGER; LOCATION-WALLPLANE SPACE; LOCATION-FLOORPLANE SPACE;
+SIGNWRITING LOCATION ; HEIGHT; WIDTH; DEPTH; HEAD NECK; TORSO; LIMBS DIGITS; +SIGNWRITING ; COMMA;
FULL STOP; SEMICOLON; COLON; PARENTHESIS; @1DA9B; +SIGNWRITING FILL ; MODIFIER-2; MODIFIER-3;
MODIFIER-4; MODIFIER-5; MODIFIER-6; @1DAA1; +SIGNWRITING ROTATION ; MODIFIER-2; MODIFIER-3;
MODIFIER-4; MODIFIER-5; MODIFIER-6; MODIFIER-7; MODIFIER-8; MODIFIER-9; MODIFIER-10; MODIFIER-11;
MODIFIER-12; MODIFIER-13; MODIFIER-14; MODIFIER-15; MODIFIER-16; @1DF00; +LATIN SMALL LETTER ;
FENG DIGRAPH WITH TRILL; REVERSED SCRIPT G; +LATIN ; LETTER SMALL CAPITAL TURNED G;
SMALL LETTER REVERSED K; LETTER SMALL CAPITAL L WITH BELT; +LATIN SMALL LETTER ;
LEZH WITH RETROFLEX HOOK; TURNED Y WITH BELT; REVERSED ENG;
TURNED R WITH LONG LEG AND RETROFLEX HOOK; T WITH HOOK AND RETROFLEX HOOK;
+LATIN LETTER RETROFLEX CLICK WITH RETROFLEX ; HOOK; +LATIN SMALL LETTER ; ESH WITH DOUBLE BAR;
ESH WITH DOUBLE BAR AND CURL; TURNED T WITH CURL; +LATIN LETTER ; INVERTED GLOTTAL STOP WITH CURL;
STRETCHED C WITH CURL; SMALL CAPITAL TURNED K; +LATIN SMALL LETTER ; L WITH FISHHOOK;
DEZH DIGRAPH WITH PALATAL HOOK; L WITH BELT AND PALATAL HOOK; ENG WITH PALATAL HOOK;
TURNED R WITH PALATAL HOOK; R WITH FISHHOOK AND PALATAL HOOK; TESH DIGRAPH WITH PALATAL HOOK;
EZH WITH PALATAL HOOK; DEZH DIGRAPH WITH RETROFLEX HOOK; I WITH STROKE AND RETROFLEX HOOK;
O WITH RETROFLEX HOOK; TESH DIGRAPH WITH RETROFLEX HOOK; C WITH RETROFLEX HOOK; S WITH CURL; @1DF25;
D WITH MID-HEIGHT LEFT HOOK; L WITH MID-HEIGHT LEFT HOOK; N WITH MID-HEIGHT LEFT HOOK;
R WITH MID-HEIGHT LEFT HOOK; S WITH MID-HEIGHT LEFT HOOK; T WITH MID-HEIGHT LEFT HOOK;
"

end PythonSyntax.Unicode
