/-
The names of the Unicode characters from U+0590 up to U+0FFF, version 16, in the order of their
code points.  Entries end in a semicolon; an at sign gives the code point of the next name,
and a plus sign what the names after it begin with.
-/

namespace PythonSyntax.Unicode

/-- Names of characters from U+0590 up to U+0FFF. -/
def namesFrom00590 : String := "
@591; +HEBREW ACCENT ; ETNAHTA; SEGOL; SHALSHELET; ZAQEF QATAN; ZAQEF GADOL; TIPEHA; REVIA; ZARQA;
PASHTA; YETIV; TEVIR; GERESH; GERESH MUQDAM; GERSHAYIM; QARNEY PARA; TELISHA GEDOLA; PAZER;
ATNAH HAFUKH; MUNAH; MAHAPAKH; MERKHA; MERKHA KEFULA; DARGA; QADMA; TELISHA QETANA; YERAH BEN YOMO;
OLE; ILUY; DEHI; ZINOR; +HEBREW MARK MASORA ; CIRCLE; +HEBREW POINT ; SHEVA; HATAF SEGOL;
HATAF PATAH; HATAF QAMATS; HIRIQ; TSERE; SEGOL; PATAH; QAMATS; HOLAM; HOLAM HASER FOR VAV; QUBUTS;
DAGESH OR MAPIQ; METEG; +HEBREW ; PUNCTUATION MAQAF; POINT RAFE; PUNCTUATION PASEQ; POINT SHIN DOT;
POINT SIN DOT; PUNCTUATION SOF PASUQ; MARK UPPER DOT; MARK LOWER DOT; PUNCTUATION NUN HAFUKHA;
POINT QAMATS QATAN; @5D0; +HEBREW LETTER ; ALEF; BET; GIMEL; DALET; HE; VAV; ZAYIN; HET; TET; YOD;
FINAL KAF; KAF; LAMED; FINAL MEM; MEM; FINAL NUN; NUN; SAMEKH; AYIN; FINAL PE; PE; FINAL TSADI;
TSADI; QOF; RESH; SHIN; TAV; @5EF; +HEBREW YOD ; TRIANGLE; +HEBREW LIGATURE YIDDISH ; DOUBLE VAV;
VAV YOD; DOUBLE YOD; +HEBREW PUNCTUATION ; GERESH; GERSHAYIM; @600; +ARABIC ; NUMBER SIGN;
SIGN SANAH; FOOTNOTE MARKER; SIGN SAFHA; SIGN SAMVAT; NUMBER MARK ABOVE; +ARABIC-INDIC ; CUBE ROOT;
FOURTH ROOT; +ARABIC ; RAY; +ARABIC-INDIC PER ; MILLE SIGN; TEN THOUSAND SIGN; +AFGHANI ; SIGN;
+ARABIC ; COMMA; DATE SEPARATOR; POETIC VERSE SIGN; +ARABIC SIGN ; MISRA;
SALLALLAHOU ALAYHE WASSALLAM; ALAYHE ASSALLAM; RAHMATULLAH ALAYHE; RADI ALLAHOU ANHU; TAKHALLUS;
+ARABIC SMALL ; HIGH TAH; HIGH LIGATURE ALEF WITH LAM WITH YEH; HIGH ZAIN; FATHA; DAMMA; KASRA;
+ARABIC ; SEMICOLON; LETTER MARK; END OF TEXT MARK; TRIPLE DOT PUNCTUATION MARK; QUESTION MARK;
+ARABIC LETTER ; KASHMIRI YEH; HAMZA; ALEF WITH MADDA ABOVE; ALEF WITH HAMZA ABOVE;
WAW WITH HAMZA ABOVE; ALEF WITH HAMZA BELOW; YEH WITH HAMZA ABOVE; ALEF; BEH; TEH MARBUTA; TEH;
THEH; JEEM; HAH; KHAH; DAL; THAL; REH; ZAIN; SEEN; SHEEN; SAD; DAD; TAH; ZAH; AIN; GHAIN;
KEHEH WITH TWO DOTS ABOVE; KEHEH WITH THREE DOTS BELOW; +ARABIC LETTER FARSI YEH WITH ; INVERTED V;
TWO DOTS ABOVE; THREE DOTS ABOVE; +ARABIC ; TATWEEL; +ARABIC LETTER ; FEH; QAF; KAF; LAM; MEEM;
NOON; HEH; WAW; ALEF MAKSURA; YEH; +ARABIC ; FATHATAN; DAMMATAN; KASRATAN; FATHA; DAMMA; KASRA;
SHADDA; SUKUN; MADDAH ABOVE; HAMZA ABOVE; HAMZA BELOW; SUBSCRIPT ALEF; INVERTED DAMMA;
MARK NOON GHUNNA; ZWARAKAY; +ARABIC VOWEL SIGN ; SMALL V ABOVE; INVERTED SMALL V ABOVE; DOT BELOW;
+ARABIC ; REVERSED DAMMA; FATHA WITH TWO DOTS; WAVY HAMZA BELOW; +ARABIC-INDIC DIGIT ; ZERO; ONE;
TWO; THREE; FOUR; FIVE; SIX; SEVEN; EIGHT; NINE; +ARABIC ; PERCENT SIGN; DECIMAL SEPARATOR;
THOUSANDS SEPARATOR; FIVE POINTED STAR; +ARABIC LETTER ; DOTLESS BEH; DOTLESS QAF; SUPERSCRIPT ALEF;
ALEF WASLA; ALEF WITH WAVY HAMZA ABOVE; ALEF WITH WAVY HAMZA BELOW; HIGH HAMZA; HIGH HAMZA ALEF;
HIGH HAMZA WAW; U WITH HAMZA ABOVE; HIGH HAMZA YEH; TTEH; TTEHEH; BEEH; TEH WITH RING;
TEH WITH THREE DOTS ABOVE DOWNWARDS; PEH; TEHEH; BEHEH; HAH WITH HAMZA ABOVE;
HAH WITH TWO DOTS VERTICAL ABOVE; NYEH; DYEH; HAH WITH THREE DOTS ABOVE; TCHEH; TCHEHEH; DDAL;
DAL WITH RING; DAL WITH DOT BELOW; DAL WITH DOT BELOW AND SMALL TAH; DAHAL; DDAHAL; DUL;
DAL WITH THREE DOTS ABOVE DOWNWARDS; DAL WITH FOUR DOTS ABOVE; RREH; +ARABIC LETTER REH WITH ;
SMALL V; RING; DOT BELOW; SMALL V BELOW; DOT BELOW AND DOT ABOVE; TWO DOTS ABOVE; +ARABIC LETTER ;
JEH; REH WITH FOUR DOTS ABOVE; SEEN WITH DOT BELOW AND DOT ABOVE; SEEN WITH THREE DOTS BELOW;
SEEN WITH THREE DOTS BELOW AND THREE DOTS ABOVE; SAD WITH TWO DOTS BELOW; SAD WITH THREE DOTS ABOVE;
TAH WITH THREE DOTS ABOVE; AIN WITH THREE DOTS ABOVE; DOTLESS FEH; FEH WITH DOT MOVED BELOW;
FEH WITH DOT BELOW; VEH; FEH WITH THREE DOTS BELOW; PEHEH; QAF WITH DOT ABOVE;
QAF WITH THREE DOTS ABOVE; KEHEH; SWASH KAF; KAF WITH RING; KAF WITH DOT ABOVE; NG;
KAF WITH THREE DOTS BELOW; GAF; GAF WITH RING; NGOEH; GAF WITH TWO DOTS BELOW; GUEH;
GAF WITH THREE DOTS ABOVE; LAM WITH SMALL V; LAM WITH DOT ABOVE; LAM WITH THREE DOTS ABOVE;
LAM WITH THREE DOTS BELOW; NOON WITH DOT BELOW; NOON GHUNNA; RNOON; NOON WITH RING;
NOON WITH THREE DOTS ABOVE; HEH DOACHASHMEE; TCHEH WITH DOT ABOVE; HEH WITH YEH ABOVE; HEH GOAL;
HEH GOAL WITH HAMZA ABOVE; TEH MARBUTA GOAL; WAW WITH RING; KIRGHIZ OE; OE; U; YU; KIRGHIZ YU;
WAW WITH TWO DOTS ABOVE; VE; FARSI YEH; YEH WITH TAIL; YEH WITH SMALL V; WAW WITH DOT ABOVE; E;
YEH WITH THREE DOTS BELOW; YEH BARREE; YEH BARREE WITH HAMZA ABOVE; +ARABIC ; FULL STOP; LETTER AE;
+ARABIC SMALL HIGH ; LIGATURE SAD WITH LAM WITH ALEF MAKSURA;
LIGATURE QAF WITH LAM WITH ALEF MAKSURA; MEEM INITIAL FORM; LAM ALEF; JEEM; THREE DOTS; SEEN;
+ARABIC ; END OF AYAH; START OF RUB EL HIZB; +ARABIC SMALL ; HIGH ROUNDED ZERO;
HIGH UPRIGHT RECTANGULAR ZERO; HIGH DOTLESS HEAD OF KHAH; HIGH MEEM ISOLATED FORM; LOW SEEN;
HIGH MADDA; WAW; YEH; HIGH YEH; HIGH NOON; +ARABIC ; PLACE OF SAJDAH; EMPTY CENTRE LOW STOP;
EMPTY CENTRE HIGH STOP; ROUNDED HIGH STOP WITH FILLED CENTRE; SMALL LOW MEEM;
LETTER DAL WITH INVERTED V; LETTER REH WITH INVERTED V; +EXTENDED ARABIC-INDIC DIGIT ; ZERO; ONE;
TWO; THREE; FOUR; FIVE; SIX; SEVEN; EIGHT; NINE; +ARABIC LETTER ; SHEEN WITH DOT BELOW;
DAD WITH DOT BELOW; GHAIN WITH DOT BELOW; +ARABIC SIGN SINDHI ; AMPERSAND; POSTPOSITION MEN;
+ARABIC LETTER HEH WITH INVERTED ; V; +SYRIAC ; END OF PARAGRAPH; SUPRALINEAR FULL STOP;
SUBLINEAR FULL STOP; SUPRALINEAR COLON; SUBLINEAR COLON; HORIZONTAL COLON; COLON SKEWED LEFT;
COLON SKEWED RIGHT; SUPRALINEAR COLON SKEWED LEFT; SUBLINEAR COLON SKEWED RIGHT; CONTRACTION;
HARKLEAN OBELUS; HARKLEAN METOBELUS; HARKLEAN ASTERISCUS; @70F; ABBREVIATION MARK; +SYRIAC LETTER ;
ALAPH; SUPERSCRIPT ALAPH; BETH; GAMAL; GAMAL GARSHUNI; DALATH; DOTLESS DALATH RISH; HE; WAW; ZAIN;
HETH; TETH; TETH GARSHUNI; YUDH; YUDH HE; KAPH; LAMADH; MIM; NUN; SEMKATH; FINAL SEMKATH; E; PE;
REVERSED PE; SADHE; QAPH; RISH; SHIN; TAW; PERSIAN BHETH; PERSIAN GHAMAL; PERSIAN DHALATH;
+SYRIAC PTHAHA ; ABOVE; BELOW; DOTTED; +SYRIAC ZQAPHA ; ABOVE; BELOW; DOTTED; +SYRIAC ; RBASA ABOVE;
RBASA BELOW; DOTTED ZLAMA HORIZONTAL; DOTTED ZLAMA ANGULAR; HBASA ABOVE; HBASA BELOW;
HBASA-ESASA DOTTED; ESASA ABOVE; ESASA BELOW; RWAHA; FEMININE DOT; QUSHSHAYA; RUKKAKHA;
+SYRIAC TWO VERTICAL DOTS ; ABOVE; BELOW; +SYRIAC THREE DOTS ; ABOVE; BELOW; +SYRIAC OBLIQUE LINE ;
ABOVE; BELOW; +SYRIAC ; MUSIC; BARREKH; @74D; +SYRIAC LETTER SOGDIAN ; ZHAIN; KHAPH; FE;
+ARABIC LETTER BEH WITH ; THREE DOTS HORIZONTALLY BELOW; DOT BELOW AND THREE DOTS ABOVE;
THREE DOTS POINTING UPWARDS BELOW; THREE DOTS POINTING UPWARDS BELOW AND TWO DOTS ABOVE;
TWO DOTS BELOW AND DOT ABOVE; INVERTED SMALL V BELOW; SMALL V; +ARABIC LETTER ;
HAH WITH TWO DOTS ABOVE; HAH WITH THREE DOTS POINTING UPWARDS BELOW;
DAL WITH TWO DOTS VERTICALLY BELOW AND SMALL TAH; DAL WITH INVERTED SMALL V BELOW; REH WITH STROKE;
SEEN WITH FOUR DOTS ABOVE; AIN WITH TWO DOTS ABOVE; AIN WITH THREE DOTS POINTING DOWNWARDS ABOVE;
AIN WITH TWO DOTS VERTICALLY ABOVE; FEH WITH TWO DOTS BELOW;
FEH WITH THREE DOTS POINTING UPWARDS BELOW; KEHEH WITH DOT ABOVE; KEHEH WITH THREE DOTS ABOVE;
KEHEH WITH THREE DOTS POINTING UPWARDS BELOW; MEEM WITH DOT ABOVE; MEEM WITH DOT BELOW;
NOON WITH TWO DOTS BELOW; NOON WITH SMALL TAH; NOON WITH SMALL V; LAM WITH BAR;
REH WITH TWO DOTS VERTICALLY ABOVE; REH WITH HAMZA ABOVE; SEEN WITH TWO DOTS VERTICALLY ABOVE;
HAH WITH SMALL ARABIC LETTER TAH BELOW; HAH WITH SMALL ARABIC LETTER TAH AND TWO DOTS;
SEEN WITH SMALL ARABIC LETTER TAH AND TWO DOTS; REH WITH SMALL ARABIC LETTER TAH AND TWO DOTS;
HAH WITH SMALL ARABIC LETTER TAH ABOVE; +ARABIC LETTER ALEF WITH EXTENDED ARABIC-INDIC DIGIT ;
TWO ABOVE; THREE ABOVE; +ARABIC LETTER FARSI YEH WITH EXTENDED ARABIC-INDIC DIGIT ; TWO ABOVE;
THREE ABOVE; FOUR BELOW; +ARABIC LETTER WAW WITH EXTENDED ARABIC-INDIC DIGIT ; TWO ABOVE;
THREE ABOVE; +ARABIC LETTER YEH BARREE WITH EXTENDED ARABIC-INDIC DIGIT ; TWO ABOVE; THREE ABOVE;
+ARABIC LETTER ; HAH WITH EXTENDED ARABIC-INDIC DIGIT FOUR BELOW;
SEEN WITH EXTENDED ARABIC-INDIC DIGIT FOUR ABOVE; SEEN WITH INVERTED V; KAF WITH TWO DOTS ABOVE;
+THAANA LETTER ; HAA; SHAVIYANI; NOONU; RAA; BAA; LHAVIYANI; KAAFU; ALIFU; VAAVU; MEEMU; FAAFU;
DHAALU; THAA; LAAMU; GAAFU; GNAVIYANI; SEENU; DAVIYANI; ZAVIYANI; TAVIYANI; YAA; PAVIYANI; JAVIYANI;
CHAVIYANI; TTAA; HHAA; KHAA; THAALU; ZAA; SHEENU; SAADHU; DAADHU; TO; ZO; AINU; GHAINU; QAAFU;
WAAVU; +THAANA ; ABAFILI; AABAAFILI; IBIFILI; EEBEEFILI; UBUFILI; OOBOOFILI; EBEFILI; EYBEYFILI;
OBOFILI; OABOAFILI; SUKUN; LETTER NAA; @7C0; +NKO DIGIT ; ZERO; ONE; TWO; THREE; FOUR; FIVE; SIX;
SEVEN; EIGHT; NINE; +NKO LETTER ; A; EE; I; E; U; OO; O; DAGBASINNA; N; BA; PA; TA; JA; CHA; DA; RA;
RRA; SA; GBA; FA; KA; LA; NA WOLOSO; MA; NYA; NA; HA; WA; YA; NYA WOLOSO; JONA JA; JONA CHA;
JONA RA; +NKO COMBINING ; SHORT HIGH TONE; SHORT LOW TONE; SHORT RISING TONE; LONG DESCENDING TONE;
LONG HIGH TONE; LONG LOW TONE; LONG RISING TONE; NASALIZATION MARK; DOUBLE DOT ABOVE; +NKO ;
HIGH TONE APOSTROPHE; LOW TONE APOSTROPHE; SYMBOL OO DENNEN; SYMBOL GBAKURUNEN; COMMA;
EXCLAMATION MARK; LAJANYALAN; @7FD; DANTAYALAN; DOROME SIGN; TAMAN SIGN; +SAMARITAN LETTER ; ALAF;
BIT; GAMAN; DALAT; IY; BAA; ZEN; IT; TIT; YUT; KAAF; LABAT; MIM; NUN; SINGAAT; IN; FI; TSAADIY; QUF;
RISH; SHAN; TAAF; +SAMARITAN MARK ; IN; IN-ALAF; OCCLUSION; DAGESH; +SAMARITAN ;
MODIFIER LETTER EPENTHETIC YUT; MARK EPENTHETIC YUT; +SAMARITAN VOWEL SIGN ; LONG E; E; OVERLONG AA;
LONG AA; AA; OVERLONG A; LONG A; A; +SAMARITAN ; MODIFIER LETTER SHORT A; VOWEL SIGN SHORT A;
VOWEL SIGN LONG U; VOWEL SIGN U; MODIFIER LETTER I; +SAMARITAN VOWEL SIGN ; LONG I; I; O; SUKUN;
+SAMARITAN MARK ; NEQUDAA; @830; +SAMARITAN PUNCTUATION ; NEQUDAA; AFSAAQ; ANGED; BAU; ATMAAU;
SHIYYAALAA; +SAMARITAN ABBREVIATION ; MARK; +SAMARITAN PUNCTUATION ; MELODIC QITSA; ZIQAA; QITSA;
ZAEF; TURU; ARKAANU; SOF MASHFAAT; ANNAAU; @840; +MANDAIC LETTER ; HALQA; AB; AG; AD; AH; USHENNA;
AZ; IT; ATT; AKSA; AK; AL; AM; AN; AS; IN; AP; ASZ; AQ; AR; ASH; AT; DUSHENNA; KAD; AIN; +MANDAIC ;
AFFRICATION MARK; VOCALIZATION MARK; GEMINATION MARK; @85E; PUNCTUATION; @860;
+SYRIAC LETTER MALAYALAM ; NGA; JA; NYA; TTA; NNA; NNNA; BHA; RA; LLA; LLLA; SSA; @870;
+ARABIC LETTER ALEF WITH ; ATTACHED FATHA; ATTACHED TOP RIGHT FATHA; RIGHT MIDDLE STROKE;
LEFT MIDDLE STROKE; ATTACHED KASRA; ATTACHED BOTTOM RIGHT KASRA; ATTACHED ROUND DOT ABOVE;
ATTACHED RIGHT ROUND DOT; ATTACHED LEFT ROUND DOT; ATTACHED ROUND DOT BELOW; DOT ABOVE;
ATTACHED TOP RIGHT FATHA AND DOT ABOVE; RIGHT MIDDLE STROKE AND DOT ABOVE;
ATTACHED BOTTOM RIGHT KASRA AND DOT ABOVE; ATTACHED TOP RIGHT FATHA AND LEFT RING;
RIGHT MIDDLE STROKE AND LEFT RING; ATTACHED BOTTOM RIGHT KASRA AND LEFT RING; ATTACHED RIGHT HAMZA;
ATTACHED LEFT HAMZA; +ARABIC TATWEEL WITH ; OVERSTRUCK HAMZA; OVERSTRUCK WAW; TWO DOTS BELOW;
+ARABIC ; LETTER THIN YEH; BASELINE ROUND DOT; RAISED ROUND DOT; +ARABIC LETTER ;
NOON WITH INVERTED SMALL V; HAH WITH INVERTED SMALL V BELOW; TAH WITH DOT BELOW;
TAH WITH THREE DOTS BELOW; KEHEH WITH TWO DOTS VERTICALLY BELOW; +ARABIC ; VERTICAL TAIL; @890;
POUND MARK ABOVE; PIASTRE MARK ABOVE; @897; PEPET; SMALL HIGH WORD AL-JUZ; +ARABIC SMALL LOW WORD ;
ISHMAAM; IMAALA; TASHEEL; +ARABIC ; MADDA WAAJIB; SUPERSCRIPT ALEF MOKHASSAS; DOUBLED MADDA;
HALF MADDA OVER MADDA; +ARABIC LETTER ; BEH WITH SMALL V BELOW; BEH WITH HAMZA ABOVE;
JEEM WITH TWO DOTS ABOVE; TAH WITH TWO DOTS ABOVE; FEH WITH DOT BELOW AND THREE DOTS ABOVE;
QAF WITH DOT BELOW; LAM WITH DOUBLE BAR; MEEM WITH THREE DOTS ABOVE;
YEH WITH TWO DOTS BELOW AND HAMZA ABOVE; YEH WITH TWO DOTS BELOW AND DOT ABOVE; REH WITH LOOP;
WAW WITH DOT WITHIN; ROHINGYA YEH; LOW ALEF; DAL WITH THREE DOTS BELOW; SAD WITH THREE DOTS BELOW;
GAF WITH INVERTED STROKE; STRAIGHT WAW; ZAIN WITH INVERTED V ABOVE; AIN WITH THREE DOTS BELOW;
KAF WITH DOT BELOW; QAF WITH DOT BELOW AND NO DOTS ABOVE; BEH WITH SMALL MEEM ABOVE;
PEH WITH SMALL MEEM ABOVE; TEH WITH SMALL TEH ABOVE; REH WITH SMALL NOON ABOVE;
YEH WITH TWO DOTS BELOW AND SMALL NOON ABOVE; AFRICAN FEH; AFRICAN QAF; AFRICAN NOON;
PEH WITH SMALL V; TEH WITH SMALL V; TTEH WITH SMALL V; TCHEH WITH SMALL V; KEHEH WITH SMALL V;
GHAIN WITH THREE DOTS ABOVE; AFRICAN QAF WITH THREE DOTS ABOVE; JEEM WITH THREE DOTS ABOVE;
JEEM WITH THREE DOTS BELOW; LAM WITH SMALL ARABIC LETTER TAH ABOVE; GRAF; +ARABIC SMALL ; FARSI YEH;
HIGH FARSI YEH; HIGH YEH BARREE WITH TWO DOTS BELOW; HIGH WORD SAH; HIGH ZAH;
+ARABIC LARGE ROUND DOT ; ABOVE; BELOW; +ARABIC ; SUKUN BELOW; LARGE CIRCLE BELOW;
LARGE ROUND DOT INSIDE CIRCLE BELOW; +ARABIC SMALL ; LOW WAW; HIGH WORD AR-RUB; HIGH SAD; HIGH AIN;
HIGH QAF; HIGH NOON WITH KASRA; LOW NOON WITH KASRA; +ARABIC SMALL HIGH WORD ; ATH-THALATHA;
AS-SAJDA; AN-NISF; SAKTA; QIF; WAQFA; +ARABIC SMALL HIGH ; FOOTNOTE MARKER; SIGN SAFHA; +ARABIC ;
DISPUTED END OF AYAH; TURNED DAMMA BELOW; +ARABIC CURLY ; FATHA; DAMMA; KASRA; FATHATAN; DAMMATAN;
KASRATAN; +ARABIC TONE ; ONE DOT ABOVE; TWO DOTS ABOVE; LOOP ABOVE; ONE DOT BELOW; TWO DOTS BELOW;
LOOP BELOW; +ARABIC ; OPEN FATHATAN; OPEN DAMMATAN; OPEN KASRATAN; SMALL HIGH WAW; FATHA WITH RING;
FATHA WITH DOT ABOVE; KASRA WITH DOT BELOW; LEFT ARROWHEAD ABOVE; RIGHT ARROWHEAD ABOVE;
LEFT ARROWHEAD BELOW; RIGHT ARROWHEAD BELOW; +ARABIC DOUBLE RIGHT ARROWHEAD ; ABOVE; ABOVE WITH DOT;
+ARABIC ; RIGHT ARROWHEAD ABOVE WITH DOT; DAMMA WITH DOT; MARK SIDEWAYS NOON GHUNNA;
+DEVANAGARI SIGN ; INVERTED CANDRABINDU; CANDRABINDU; ANUSVARA; VISARGA; +DEVANAGARI LETTER ;
SHORT A; A; AA; I; II; U; UU; VOCALIC R; VOCALIC L; CANDRA E; SHORT E; E; AI; CANDRA O; SHORT O; O;
AU; KA; KHA; GA; GHA; NGA; CA; CHA; JA; JHA; NYA; TTA; TTHA; DDA; DDHA; NNA; TA; THA; DA; DHA; NA;
NNNA; PA; PHA; BA; BHA; MA; YA; RA; RRA; LA; LLA; LLLA; VA; SHA; SSA; SA; HA;
+DEVANAGARI VOWEL SIGN ; OE; OOE; +DEVANAGARI SIGN ; NUKTA; AVAGRAHA; +DEVANAGARI VOWEL SIGN ; AA;
I; II; U; UU; VOCALIC R; VOCALIC RR; CANDRA E; SHORT E; E; AI; CANDRA O; SHORT O; O; AU;
+DEVANAGARI ; SIGN VIRAMA; VOWEL SIGN PRISHTHAMATRA E; VOWEL SIGN AW; OM; STRESS SIGN UDATTA;
STRESS SIGN ANUDATTA; GRAVE ACCENT; ACUTE ACCENT; +DEVANAGARI VOWEL SIGN ; CANDRA LONG E; UE; UUE;
+DEVANAGARI LETTER ; QA; KHHA; GHHA; ZA; DDDHA; RHA; FA; YYA; VOCALIC RR; VOCALIC LL;
+DEVANAGARI VOWEL SIGN VOCALIC ; L; LL; +DEVANAGARI ; DANDA; DOUBLE DANDA; +DEVANAGARI DIGIT ; ZERO;
ONE; TWO; THREE; FOUR; FIVE; SIX; SEVEN; EIGHT; NINE; +DEVANAGARI ; ABBREVIATION SIGN;
SIGN HIGH SPACING DOT; +DEVANAGARI LETTER ; CANDRA A; OE; OOE; AW; UE; UUE; MARWARI DDA; ZHA;
HEAVY YA; GGA; JJA; GLOTTAL STOP; DDDA; BBA; +BENGALI ; ANJI; SIGN CANDRABINDU; SIGN ANUSVARA;
SIGN VISARGA; @985; +BENGALI LETTER ; A; AA; I; II; U; UU; VOCALIC R; VOCALIC L; @98F; E; AI; @993;
O; AU; KA; KHA; GA; GHA; NGA; CA; CHA; JA; JHA; NYA; TTA; TTHA; DDA; DDHA; NNA; TA; THA; DA; DHA;
NA; @9AA; PA; PHA; BA; BHA; MA; YA; RA; @9B2; LA; @9B6; SHA; SSA; SA; HA; @9BC; +BENGALI SIGN ;
NUKTA; AVAGRAHA; +BENGALI VOWEL SIGN ; AA; I; II; U; UU; VOCALIC R; VOCALIC RR; @9C7; E; AI; @9CB;
O; AU; +BENGALI ; SIGN VIRAMA; LETTER KHANDA TA; @9D7; AU LENGTH MARK; @9DC; +BENGALI LETTER ; RRA;
RHA; @9DF; YYA; VOCALIC RR; VOCALIC LL; +BENGALI VOWEL SIGN VOCALIC ; L; LL; @9E6; +BENGALI DIGIT ;
ZERO; ONE; TWO; THREE; FOUR; FIVE; SIX; SEVEN; EIGHT; NINE; +BENGALI LETTER RA WITH ;
MIDDLE DIAGONAL; LOWER DIAGONAL; +BENGALI RUPEE ; MARK; SIGN; +BENGALI CURRENCY NUMERATOR ; ONE;
TWO; THREE; FOUR; ONE LESS THAN THE DENOMINATOR; +BENGALI ; CURRENCY DENOMINATOR SIXTEEN; ISSHAR;
GANDA MARK; LETTER VEDIC ANUSVARA; ABBREVIATION SIGN; SANDHI MARK; @A01; +GURMUKHI SIGN ;
ADAK BINDI; BINDI; VISARGA; @A05; +GURMUKHI LETTER ; A; AA; I; II; U; UU; @A0F; EE; AI; @A13; OO;
AU; KA; KHA; GA; GHA; NGA; CA; CHA; JA; JHA; NYA; TTA; TTHA; DDA; DDHA; NNA; TA; THA; DA; DHA; NA;
@A2A; PA; PHA; BA; BHA; MA; YA; RA; @A32; LA; LLA; @A35; VA; SHA; @A38; SA; HA; @A3C;
+GURMUKHI SIGN ; NUKTA; @A3E; +GURMUKHI VOWEL SIGN ; AA; I; II; U; UU; @A47; EE; AI; @A4B; OO; AU;
+GURMUKHI SIGN ; VIRAMA; @A51; UDAAT; @A59; +GURMUKHI LETTER ; KHHA; GHHA; ZA; RRA; @A5E; FA; @A66;
+GURMUKHI DIGIT ; ZERO; ONE; TWO; THREE; FOUR; FIVE; SIX; SEVEN; EIGHT; NINE; +GURMUKHI ; TIPPI;
ADDAK; IRI; URA; EK ONKAR; SIGN YAKASH; ABBREVIATION SIGN; @A81; +GUJARATI SIGN ; CANDRABINDU;
ANUSVARA; VISARGA; @A85; +GUJARATI LETTER ; A; AA; I; II; U; UU; VOCALIC R; VOCALIC L; +GUJARATI ;
VOWEL CANDRA E; @A8F; LETTER E; LETTER AI; VOWEL CANDRA O; @A93; +GUJARATI LETTER ; O; AU; KA; KHA;
GA; GHA; NGA; CA; CHA; JA; JHA; NYA; TTA; TTHA; DDA; DDHA; NNA; TA; THA; DA; DHA; NA; @AAA; PA; PHA;
BA; BHA; MA; YA; RA; @AB2; LA; LLA; @AB5; VA; SHA; SSA; SA; HA; @ABC; +GUJARATI SIGN ; NUKTA;
AVAGRAHA; +GUJARATI VOWEL SIGN ; AA; I; II; U; UU; VOCALIC R; VOCALIC RR; CANDRA E; @AC7; E; AI;
CANDRA O; @ACB; O; AU; +GUJARATI ; SIGN VIRAMA; @AD0; OM; @AE0; +GUJARATI LETTER VOCALIC ; RR; LL;
+GUJARATI VOWEL SIGN VOCALIC ; L; LL; @AE6; +GUJARATI DIGIT ; ZERO; ONE; TWO; THREE; FOUR; FIVE;
SIX; SEVEN; EIGHT; NINE; +GUJARATI ; ABBREVIATION SIGN; RUPEE SIGN; @AF9; LETTER ZHA;
+GUJARATI SIGN ; SUKUN; SHADDA; MADDAH; THREE-DOT NUKTA ABOVE; CIRCLE NUKTA ABOVE;
TWO-CIRCLE NUKTA ABOVE; @B01; +ORIYA SIGN ; CANDRABINDU; ANUSVARA; VISARGA; @B05; +ORIYA LETTER ; A;
AA; I; II; U; UU; VOCALIC R; VOCALIC L; @B0F; E; AI; @B13; O; AU; KA; KHA; GA; GHA; NGA; CA; CHA;
JA; JHA; NYA; TTA; TTHA; DDA; DDHA; NNA; TA; THA; DA; DHA; NA; @B2A; PA; PHA; BA; BHA; MA; YA; RA;
@B32; LA; LLA; @B35; VA; SHA; SSA; SA; HA; @B3C; +ORIYA SIGN ; NUKTA; AVAGRAHA; +ORIYA VOWEL SIGN ;
AA; I; II; U; UU; VOCALIC R; VOCALIC RR; @B47; E; AI; @B4B; O; AU; +ORIYA ; SIGN VIRAMA; @B55;
SIGN OVERLINE; AI LENGTH MARK; AU LENGTH MARK; @B5C; +ORIYA LETTER ; RRA; RHA; @B5F; YYA;
VOCALIC RR; VOCALIC LL; +ORIYA VOWEL SIGN VOCALIC ; L; LL; @B66; +ORIYA DIGIT ; ZERO; ONE; TWO;
THREE; FOUR; FIVE; SIX; SEVEN; EIGHT; NINE; +ORIYA ; ISSHAR; LETTER WA; +ORIYA FRACTION ;
ONE QUARTER; ONE HALF; THREE QUARTERS; ONE SIXTEENTH; ONE EIGHTH; THREE SIXTEENTHS; @B82;
+TAMIL SIGN ; ANUSVARA; VISARGA; @B85; +TAMIL LETTER ; A; AA; I; II; U; UU; @B8E; E; EE; AI; @B92;
O; OO; AU; KA; @B99; NGA; CA; @B9C; JA; @B9E; NYA; TTA; @BA3; NNA; TA; @BA8; NA; NNNA; PA; @BAE; MA;
YA; RA; RRA; LA; LLA; LLLA; VA; SHA; SSA; SA; HA; @BBE; +TAMIL VOWEL SIGN ; AA; I; II; U; UU; @BC6;
E; EE; AI; @BCA; O; OO; AU; +TAMIL ; SIGN VIRAMA; @BD0; OM; @BD7; AU LENGTH MARK; @BE6;
+TAMIL DIGIT ; ZERO; ONE; TWO; THREE; FOUR; FIVE; SIX; SEVEN; EIGHT; NINE; +TAMIL NUMBER ; TEN;
ONE HUNDRED; ONE THOUSAND; +TAMIL ; DAY SIGN; MONTH SIGN; YEAR SIGN; DEBIT SIGN; CREDIT SIGN;
AS ABOVE SIGN; RUPEE SIGN; NUMBER SIGN; @C00; +TELUGU SIGN ; COMBINING CANDRABINDU ABOVE;
CANDRABINDU; ANUSVARA; VISARGA; COMBINING ANUSVARA ABOVE; +TELUGU LETTER ; A; AA; I; II; U; UU;
VOCALIC R; VOCALIC L; @C0E; E; EE; AI; @C12; O; OO; AU; KA; KHA; GA; GHA; NGA; CA; CHA; JA; JHA;
NYA; TTA; TTHA; DDA; DDHA; NNA; TA; THA; DA; DHA; NA; @C2A; PA; PHA; BA; BHA; MA; YA; RA; RRA; LA;
LLA; LLLA; VA; SHA; SSA; SA; HA; @C3C; +TELUGU SIGN ; NUKTA; AVAGRAHA; +TELUGU VOWEL SIGN ; AA; I;
II; U; UU; VOCALIC R; VOCALIC RR; @C46; E; EE; AI; @C4A; O; OO; AU; +TELUGU ; SIGN VIRAMA; @C55;
LENGTH MARK; AI LENGTH MARK; @C58; +TELUGU LETTER ; TSA; DZA; RRRA; @C5D; NAKAARA POLLU; @C60;
VOCALIC RR; VOCALIC LL; +TELUGU VOWEL SIGN VOCALIC ; L; LL; @C66; +TELUGU DIGIT ; ZERO; ONE; TWO;
THREE; FOUR; FIVE; SIX; SEVEN; EIGHT; NINE; @C77; +TELUGU SIGN ; SIDDHAM; +TELUGU FRACTION DIGIT ;
ZERO FOR ODD POWERS OF FOUR; ONE FOR ODD POWERS OF FOUR; TWO FOR ODD POWERS OF FOUR;
THREE FOR ODD POWERS OF FOUR; ONE FOR EVEN POWERS OF FOUR; TWO FOR EVEN POWERS OF FOUR;
THREE FOR EVEN POWERS OF FOUR; +TELUGU SIGN ; TUUMU; +KANNADA SIGN ; SPACING CANDRABINDU;
CANDRABINDU; ANUSVARA; VISARGA; SIDDHAM; +KANNADA LETTER ; A; AA; I; II; U; UU; VOCALIC R;
VOCALIC L; @C8E; E; EE; AI; @C92; O; OO; AU; KA; KHA; GA; GHA; NGA; CA; CHA; JA; JHA; NYA; TTA;
TTHA; DDA; DDHA; NNA; TA; THA; DA; DHA; NA; @CAA; PA; PHA; BA; BHA; MA; YA; RA; RRA; LA; LLA; @CB5;
VA; SHA; SSA; SA; HA; @CBC; +KANNADA SIGN ; NUKTA; AVAGRAHA; +KANNADA VOWEL SIGN ; AA; I; II; U; UU;
VOCALIC R; VOCALIC RR; @CC6; E; EE; AI; @CCA; O; OO; AU; +KANNADA ; SIGN VIRAMA; @CD5; LENGTH MARK;
AI LENGTH MARK; @CDD; +KANNADA LETTER ; NAKAARA POLLU; FA; @CE0; VOCALIC RR; VOCALIC LL;
+KANNADA VOWEL SIGN VOCALIC ; L; LL; @CE6; +KANNADA DIGIT ; ZERO; ONE; TWO; THREE; FOUR; FIVE; SIX;
SEVEN; EIGHT; NINE; @CF1; +KANNADA SIGN ; JIHVAMULIYA; UPADHMANIYA; COMBINING ANUSVARA ABOVE RIGHT;
@D00; +MALAYALAM SIGN ; COMBINING ANUSVARA ABOVE; CANDRABINDU; ANUSVARA; VISARGA;
+MALAYALAM LETTER ; VEDIC ANUSVARA; A; AA; I; II; U; UU; VOCALIC R; VOCALIC L; @D0E; E; EE; AI;
@D12; O; OO; AU; KA; KHA; GA; GHA; NGA; CA; CHA; JA; JHA; NYA; TTA; TTHA; DDA; DDHA; NNA; TA; THA;
DA; DHA; NA; NNNA; PA; PHA; BA; BHA; MA; YA; RA; RRA; LA; LLA; LLLA; VA; SHA; SSA; SA; HA; TTTA;
+MALAYALAM SIGN ; VERTICAL BAR VIRAMA; CIRCULAR VIRAMA; AVAGRAHA; +MALAYALAM VOWEL SIGN ; AA; I; II;
U; UU; VOCALIC R; VOCALIC RR; @D46; E; EE; AI; @D4A; O; OO; AU; +MALAYALAM ; SIGN VIRAMA;
LETTER DOT REPH; SIGN PARA; @D54; +MALAYALAM LETTER CHILLU ; M; Y; LLL; +MALAYALAM AU LENGTH ; MARK;
+MALAYALAM FRACTION ; ONE ONE-HUNDRED-AND-SIXTIETH; ONE FORTIETH; THREE EIGHTIETHS; ONE TWENTIETH;
ONE TENTH; THREE TWENTIETHS; ONE FIFTH; +MALAYALAM LETTER ; ARCHAIC II; VOCALIC RR; VOCALIC LL;
+MALAYALAM VOWEL SIGN VOCALIC ; L; LL; @D66; +MALAYALAM DIGIT ; ZERO; ONE; TWO; THREE; FOUR; FIVE;
SIX; SEVEN; EIGHT; NINE; +MALAYALAM NUMBER ; TEN; ONE HUNDRED; ONE THOUSAND; +MALAYALAM FRACTION ;
ONE QUARTER; ONE HALF; THREE QUARTERS; ONE SIXTEENTH; ONE EIGHTH; THREE SIXTEENTHS;
+MALAYALAM DATE ; MARK; +MALAYALAM LETTER CHILLU ; NN; N; RR; L; LL; K; @D81; +SINHALA SIGN ;
CANDRABINDU; ANUSVARAYA; VISARGAYA; @D85; +SINHALA LETTER ; AYANNA; AAYANNA; AEYANNA; AEEYANNA;
IYANNA; IIYANNA; UYANNA; UUYANNA; IRUYANNA; IRUUYANNA; ILUYANNA; ILUUYANNA; EYANNA; EEYANNA;
AIYANNA; OYANNA; OOYANNA; AUYANNA; @D9A; ALPAPRAANA KAYANNA; MAHAAPRAANA KAYANNA;
ALPAPRAANA GAYANNA; MAHAAPRAANA GAYANNA; KANTAJA NAASIKYAYA; SANYAKA GAYANNA; ALPAPRAANA CAYANNA;
MAHAAPRAANA CAYANNA; ALPAPRAANA JAYANNA; MAHAAPRAANA JAYANNA; TAALUJA NAASIKYAYA;
TAALUJA SANYOOGA NAAKSIKYAYA; SANYAKA JAYANNA; ALPAPRAANA TTAYANNA; MAHAAPRAANA TTAYANNA;
ALPAPRAANA DDAYANNA; MAHAAPRAANA DDAYANNA; MUURDHAJA NAYANNA; SANYAKA DDAYANNA; ALPAPRAANA TAYANNA;
MAHAAPRAANA TAYANNA; ALPAPRAANA DAYANNA; MAHAAPRAANA DAYANNA; DANTAJA NAYANNA; @DB3;
SANYAKA DAYANNA; ALPAPRAANA PAYANNA; MAHAAPRAANA PAYANNA; ALPAPRAANA BAYANNA; MAHAAPRAANA BAYANNA;
MAYANNA; AMBA BAYANNA; YAYANNA; RAYANNA; @DBD; DANTAJA LAYANNA; @DC0; VAYANNA; TAALUJA SAYANNA;
MUURDHAJA SAYANNA; DANTAJA SAYANNA; HAYANNA; MUURDHAJA LAYANNA; FAYANNA; @DCA; +SINHALA SIGN ;
AL-LAKUNA; @DCF; +SINHALA VOWEL SIGN ; AELA-PILLA; KETTI AEDA-PILLA; DIGA AEDA-PILLA;
KETTI IS-PILLA; DIGA IS-PILLA; KETTI PAA-PILLA; @DD6; DIGA PAA-PILLA; @DD8; GAETTA-PILLA; KOMBUVA;
DIGA KOMBUVA; KOMBU DEKA; KOMBUVA HAA AELA-PILLA; KOMBUVA HAA DIGA AELA-PILLA;
KOMBUVA HAA GAYANUKITTA; GAYANUKITTA; @DE6; +SINHALA LITH DIGIT ; ZERO; ONE; TWO; THREE; FOUR; FIVE;
SIX; SEVEN; EIGHT; NINE; @DF2; +SINHALA VOWEL SIGN DIGA ; GAETTA-PILLA; GAYANUKITTA;
+SINHALA PUNCTUATION ; KUNDDALIYA; @E01; +THAI CHARACTER ; KO KAI; KHO KHAI; KHO KHUAT; KHO KHWAI;
KHO KHON; KHO RAKHANG; NGO NGU; CHO CHAN; CHO CHING; CHO CHANG; SO SO; CHO CHOE; YO YING; DO CHADA;
TO PATAK; THO THAN; THO NANGMONTHO; THO PHUTHAO; NO NEN; DO DEK; TO TAO; THO THUNG; THO THAHAN;
THO THONG; NO NU; BO BAIMAI; PO PLA; PHO PHUNG; FO FA; PHO PHAN; FO FAN; PHO SAMPHAO; MO MA; YO YAK;
RO RUA; RU; LO LING; LU; WO WAEN; SO SALA; SO RUSI; SO SUA; HO HIP; LO CHULA; O ANG; HO NOKHUK;
PAIYANNOI; SARA A; MAI HAN-AKAT; +THAI CHARACTER SARA ; AA; AM; I; II; UE; UEE; U; UU; +THAI ;
CHARACTER PHINTHU; @E3F; CURRENCY SYMBOL BAHT; +THAI CHARACTER SARA ; E; AE; O; AI MAIMUAN;
AI MAIMALAI; +THAI CHARACTER ; LAKKHANGYAO; MAIYAMOK; MAITAIKHU; MAI EK; MAI THO; MAI TRI;
MAI CHATTAWA; THANTHAKHAT; NIKHAHIT; YAMAKKAN; FONGMAN; +THAI DIGIT ; ZERO; ONE; TWO; THREE; FOUR;
FIVE; SIX; SEVEN; EIGHT; NINE; +THAI CHARACTER ; ANGKHANKHU; KHOMUT; @E81; +LAO LETTER ; KO;
KHO SUNG; @E84; KHO TAM; @E86; PALI GHA; NGO; CO; PALI CHA; SO TAM; @E8C; PALI JHA; NYO; PALI NYA;
PALI TTA; PALI TTHA; PALI DDA; PALI DDHA; PALI NNA; DO; TO; THO SUNG; THO TAM; PALI DHA; NO; BO; PO;
PHO SUNG; FO TAM; PHO TAM; FO SUNG; PALI BHA; MO; YO; LO LING; @EA5; LO LOOT; @EA7; WO;
SANSKRIT SHA; SANSKRIT SSA; SO SUNG; HO SUNG; PALI LLA; O; HO TAM; +LAO ; ELLIPSIS;
+LAO VOWEL SIGN ; A; MAI KAN; AA; AM; I; II; Y; YY; U; UU; +LAO ; SIGN PALI VIRAMA;
VOWEL SIGN MAI KON; +LAO SEMIVOWEL SIGN ; LO; NYO; @EC0; +LAO VOWEL SIGN ; E; EI; O; AY; AI; @EC6;
+LAO KO ; LA; @EC8; +LAO TONE MAI ; EK; THO; TI; CATAWA; +LAO ; CANCELLATION MARK; NIGGAHITA;
YAMAKKAN; @ED0; +LAO DIGIT ; ZERO; ONE; TWO; THREE; FOUR; FIVE; SIX; SEVEN; EIGHT; NINE; @EDC;
+LAO HO ; NO; MO; +LAO LETTER KHMU ; GO; NYO; @F00; +TIBETAN SYLLABLE ; OM;
+TIBETAN MARK GTER YIG MGO ; TRUNCATED A; -UM RNAM BCAD MA; -UM GTER TSHEG MA; +TIBETAN MARK ;
INITIAL YIG MGO MDUN MA; CLOSING YIG MGO SGAB MA; CARET YIG MGO PHUR SHAD MA; YIG MGO TSHEG SHAD MA;
SBRUL SHAD; BSKUR YIG MGO; BKA- SHOG YIG MGO; INTERSYLLABIC TSHEG; DELIMITER TSHEG BSTAR; SHAD;
NYIS SHAD; TSHEG SHAD; NYIS TSHEG SHAD; RIN CHEN SPUNGS SHAD; RGYA GRAM SHAD;
CARET -DZUD RTAGS ME LONG CAN; GTER TSHEG; +TIBETAN LOGOTYPE SIGN ; CHAD RTAGS; LHAG RTAGS;
+TIBETAN ASTROLOGICAL SIGN ; SGRA GCAN -CHAR RTAGS; -KHYUD PA; SDONG TSHUGS; +TIBETAN SIGN RDEL ;
DKAR GCIG; DKAR GNYIS; DKAR GSUM; NAG GCIG; NAG GNYIS; DKAR RDEL NAG; +TIBETAN DIGIT ; ZERO; ONE;
TWO; THREE; FOUR; FIVE; SIX; SEVEN; EIGHT; NINE; +TIBETAN DIGIT HALF ; ONE; TWO; THREE; FOUR; FIVE;
SIX; SEVEN; EIGHT; NINE; ZERO; +TIBETAN MARK ; BSDUS RTAGS; NGAS BZUNG NYI ZLA;
CARET -DZUD RTAGS BZHI MIG CAN; NGAS BZUNG SGOR RTAGS; CHE MGO; TSA -PHRU; GUG RTAGS GYON;
GUG RTAGS GYAS; ANG KHANG GYON; ANG KHANG GYAS; +TIBETAN SIGN ; YAR TSHES; MAR TSHES;
+TIBETAN LETTER ; KA; KHA; GA; GHA; NGA; CA; CHA; JA; @F49; NYA; TTA; TTHA; DDA; DDHA; NNA; TA; THA;
DA; DHA; NA; PA; PHA; BA; BHA; MA; TSA; TSHA; DZA; DZHA; WA; ZHA; ZA; -A; YA; RA; LA; SHA; SSA; SA;
HA; A; KSSA; FIXED-FORM RA; KKA; RRA; @F71; +TIBETAN VOWEL SIGN ; AA; I; II; U; UU; VOCALIC R;
VOCALIC RR; VOCALIC L; VOCALIC LL; E; EE; O; OO; +TIBETAN SIGN ; RJES SU NGA RO; RNAM BCAD;
+TIBETAN VOWEL SIGN REVERSED ; I; II; +TIBETAN ; SIGN NYI ZLA NAA DA; SIGN SNA LDAN; MARK HALANTA;
MARK PALUTA; +TIBETAN SIGN ; LCI RTAGS; YANG RTAGS; LCE TSA CAN; MCHU CAN; GRU CAN RGYINGS;
GRU MED RGYINGS; INVERTED MCHU CAN; +TIBETAN SUBJOINED SIGN ; LCE TSA CAN; MCHU CAN;
INVERTED MCHU CAN; +TIBETAN SUBJOINED LETTER ; KA; KHA; GA; GHA; NGA; CA; CHA; JA; @F99; NYA; TTA;
TTHA; DDA; DDHA; NNA; TA; THA; DA; DHA; NA; PA; PHA; BA; BHA; MA; TSA; TSHA; DZA; DZHA; WA; ZHA; ZA;
-A; YA; RA; LA; SHA; SSA; SA; HA; A; KSSA; FIXED-FORM WA; FIXED-FORM YA; FIXED-FORM RA; @FBE;
+TIBETAN KU RU ; KHA; KHA BZHI MIG CAN; +TIBETAN CANTILLATION SIGN ; HEAVY BEAT; LIGHT BEAT;
CANG TE-U; SBUB -CHAL; +TIBETAN SYMBOL ; DRIL BU; RDO RJE; PADMA GDAN; RDO RJE RGYA GRAM; PHUR PA;
NOR BU; NOR BU NYIS -KHYIL; NOR BU GSUM -KHYIL; NOR BU BZHI -KHYIL; @FCE; +TIBETAN SIGN RDEL NAG ;
RDEL DKAR; GSUM; +TIBETAN MARK ; BSKA- SHOG GI MGO RGYAN; MNYAM YIG GI MGO RGYAN; NYIS TSHEG;
INITIAL BRDA RNYING YIG MGO MDUN MA; CLOSING BRDA RNYING YIG MGO SGAB MA; +;
RIGHT-FACING SVASTI SIGN; LEFT-FACING SVASTI SIGN; RIGHT-FACING SVASTI SIGN WITH DOTS;
LEFT-FACING SVASTI SIGN WITH DOTS; +TIBETAN MARK ; LEADING MCHAN RTAGS; TRAILING MCHAN RTAGS;
"

end PythonSyntax.Unicode
