/-
The names of the Unicode characters from U+11000 up to U+11FFF, version 16, in the order of their
code points.  Entries end in a semicolon; an at sign gives the code point of the next name,
and a plus sign what the names after it begin with.
-/

namespace PythonSyntax.Unicode

/-- Names of characters from U+11000 up to U+11FFF. -/
def namesFrom11000 : String := "
@11000; +BRAHMI SIGN ; CANDRABINDU; ANUSVARA; VISARGA; JIHVAMULIYA; UPADHMANIYA; +BRAHMI LETTER ; A;
AA; I; II; U; UU; VOCALIC R; VOCALIC RR; VOCALIC L; VOCALIC LL; E; AI; O; AU; KA; KHA; GA; GHA; NGA;
CA; CHA; JA; JHA; NYA; TTA; TTHA; DDA; DDHA; NNA; TA; THA; DA; DHA; NA; PA; PHA; BA; BHA; MA; YA;
RA; LA; VA; SHA; SSA; SA; HA; LLA; +BRAHMI LETTER OLD TAMIL ; LLLA; RRA; NNNA; +BRAHMI VOWEL SIGN ;
AA; BHATTIPROLU AA; I; II; U; UU; VOCALIC R; VOCALIC RR; VOCALIC L; VOCALIC LL; E; AI; O; AU;
+BRAHMI ; VIRAMA; DANDA; DOUBLE DANDA; +BRAHMI PUNCTUATION ; DOT; DOUBLE DOT; LINE; CRESCENT BAR;
LOTUS; @11052; +BRAHMI NUMBER ; ONE; TWO; THREE; FOUR; FIVE; SIX; SEVEN; EIGHT; NINE; TEN; TWENTY;
THIRTY; FORTY; FIFTY; SIXTY; SEVENTY; EIGHTY; NINETY; ONE HUNDRED; ONE THOUSAND; +BRAHMI DIGIT ;
ZERO; ONE; TWO; THREE; FOUR; FIVE; SIX; SEVEN; EIGHT; NINE; +BRAHMI SIGN OLD TAMIL ; VIRAMA;
+BRAHMI LETTER OLD TAMIL SHORT ; E; O; +BRAHMI VOWEL SIGN OLD TAMIL SHORT ; E; O; +BRAHMI ;
LETTER OLD TAMIL LLA; @1107F; NUMBER JOINER; +KAITHI SIGN ; CANDRABINDU; ANUSVARA; VISARGA;
+KAITHI LETTER ; A; AA; I; II; U; UU; E; AI; O; AU; KA; KHA; GA; GHA; NGA; CA; CHA; JA; JHA; NYA;
TTA; TTHA; DDA; DDDHA; DDHA; RHA; NNA; TA; THA; DA; DHA; NA; PA; PHA; BA; BHA; MA; YA; RA; LA; VA;
SHA; SSA; SA; HA; +KAITHI VOWEL SIGN ; AA; I; II; U; UU; E; AI; O; AU; +KAITHI ; SIGN VIRAMA;
SIGN NUKTA; ABBREVIATION SIGN; ENUMERATION SIGN; NUMBER SIGN; SECTION MARK; DOUBLE SECTION MARK;
DANDA; DOUBLE DANDA; VOWEL SIGN VOCALIC R; @110CD; NUMBER SIGN ABOVE; @110D0; +SORA SOMPENG LETTER ;
SAH; TAH; BAH; CAH; DAH; GAH; MAH; NGAH; LAH; NAH; VAH; PAH; YAH; RAH; HAH; KAH; JAH; NYAH; AH; EEH;
IH; UH; OH; EH; MAE; @110F0; +SORA SOMPENG DIGIT ; ZERO; ONE; TWO; THREE; FOUR; FIVE; SIX; SEVEN;
EIGHT; NINE; @11100; +CHAKMA SIGN ; CANDRABINDU; ANUSVARA; VISARGA; +CHAKMA LETTER ; AA; I; U; E;
KAA; KHAA; GAA; GHAA; NGAA; CAA; CHAA; JAA; JHAA; NYAA; TTAA; TTHAA; DDAA; DDHAA; NNAA; TAA; THAA;
DAA; DHAA; NAA; PAA; PHAA; BAA; BHAA; MAA; YYAA; YAA; RAA; LAA; WAA; SAA; HAA; +CHAKMA VOWEL SIGN ;
A; I; II; U; UU; E; AI; O; AU; OI; +CHAKMA ; O MARK; AU MARK; VIRAMA; MAAYYAA; @11136;
+CHAKMA DIGIT ; ZERO; ONE; TWO; THREE; FOUR; FIVE; SIX; SEVEN; EIGHT; NINE; +CHAKMA ; SECTION MARK;
DANDA; DOUBLE DANDA; QUESTION MARK; LETTER LHAA; VOWEL SIGN AA; VOWEL SIGN EI; LETTER VAA; @11150;
+MAHAJANI LETTER ; A; I; U; E; O; KA; KHA; GA; GHA; CA; CHA; JA; JHA; NYA; TTA; TTHA; DDA; DDHA;
NNA; TA; THA; DA; DHA; NA; PA; PHA; BA; BHA; MA; RA; LA; VA; SA; HA; RRA; +MAHAJANI ; SIGN NUKTA;
ABBREVIATION SIGN; SECTION MARK; LIGATURE SHRI; @11180; +SHARADA SIGN ; CANDRABINDU; ANUSVARA;
VISARGA; +SHARADA LETTER ; A; AA; I; II; U; UU; VOCALIC R; VOCALIC RR; VOCALIC L; VOCALIC LL; E; AI;
O; AU; KA; KHA; GA; GHA; NGA; CA; CHA; JA; JHA; NYA; TTA; TTHA; DDA; DDHA; NNA; TA; THA; DA; DHA;
NA; PA; PHA; BA; BHA; MA; YA; RA; LA; LLA; VA; SHA; SSA; SA; HA; +SHARADA VOWEL SIGN ; AA; I; II; U;
UU; VOCALIC R; VOCALIC RR; VOCALIC L; VOCALIC LL; E; AI; O; AU; +SHARADA SIGN ; VIRAMA; AVAGRAHA;
JIHVAMULIYA; UPADHMANIYA; +SHARADA ; OM; DANDA; DOUBLE DANDA; ABBREVIATION SIGN; SEPARATOR;
SANDHI MARK; SIGN NUKTA; VOWEL MODIFIER MARK; EXTRA SHORT VOWEL MARK; SUTRA MARK;
VOWEL SIGN PRISHTHAMATRA E; SIGN INVERTED CANDRABINDU; +SHARADA DIGIT ; ZERO; ONE; TWO; THREE; FOUR;
FIVE; SIX; SEVEN; EIGHT; NINE; +SHARADA ; EKAM; SIGN SIDDHAM; HEADSTROKE; CONTINUATION SIGN;
SECTION MARK-1; SECTION MARK-2; @111E1; +SINHALA ARCHAIC DIGIT ; ONE; TWO; THREE; FOUR; FIVE; SIX;
SEVEN; EIGHT; NINE; +SINHALA ARCHAIC NUMBER ; TEN; TWENTY; THIRTY; FORTY; FIFTY; SIXTY; SEVENTY;
EIGHTY; NINETY; ONE HUNDRED; ONE THOUSAND; @11200; +KHOJKI LETTER ; A; AA; I; U; E; AI; O; AU; KA;
KHA; GA; GGA; GHA; NGA; CA; CHA; JA; JJA; @11213; NYA; TTA; TTHA; DDA; DDHA; NNA; TA; THA; DA; DDDA;
DHA; NA; PA; PHA; BA; BBA; BHA; MA; YA; RA; LA; VA; SA; HA; LLA; +KHOJKI VOWEL SIGN ; AA; I; II; U;
E; AI; O; AU; +KHOJKI SIGN ; ANUSVARA; VIRAMA; NUKTA; SHADDA; +KHOJKI ; DANDA; DOUBLE DANDA;
WORD SEPARATOR; SECTION MARK; DOUBLE SECTION MARK; ABBREVIATION SIGN; SIGN SUKUN; LETTER QA;
LETTER SHORT I; VOWEL SIGN VOCALIC R; @11280; +MULTANI LETTER ; A; I; U; E; KA; KHA; GA; @11288;
GHA; @1128A; CA; CHA; JA; JJA; @1128F; NYA; TTA; TTHA; DDA; DDDA; DDHA; NNA; TA; THA; DA; DHA; NA;
PA; PHA; BA; @1129F; BHA; MA; YA; RA; LA; VA; SA; HA; RRA; RHA; +MULTANI SECTION ; MARK; @112B0;
+KHUDAWADI LETTER ; A; AA; I; II; U; UU; E; AI; O; AU; KA; KHA; GA; GGA; GHA; NGA; CA; CHA; JA; JJA;
JHA; NYA; TTA; TTHA; DDA; DDDA; RRA; DDHA; NNA; TA; THA; DA; DHA; NA; PA; PHA; BA; BBA; BHA; MA; YA;
RA; LA; VA; SHA; SA; HA; +KHUDAWADI SIGN ; ANUSVARA; +KHUDAWADI VOWEL SIGN ; AA; I; II; U; UU; E;
AI; O; AU; +KHUDAWADI SIGN ; NUKTA; VIRAMA; @112F0; +KHUDAWADI DIGIT ; ZERO; ONE; TWO; THREE; FOUR;
FIVE; SIX; SEVEN; EIGHT; NINE; @11300; +GRANTHA SIGN ; COMBINING ANUSVARA ABOVE; CANDRABINDU;
ANUSVARA; VISARGA; @11305; +GRANTHA LETTER ; A; AA; I; II; U; UU; VOCALIC R; VOCALIC L; @1130F; EE;
AI; @11313; OO; AU; KA; KHA; GA; GHA; NGA; CA; CHA; JA; JHA; NYA; TTA; TTHA; DDA; DDHA; NNA; TA;
THA; DA; DHA; NA; @1132A; PA; PHA; BA; BHA; MA; YA; RA; @11332; LA; LLA; @11335; VA; SHA; SSA; SA;
HA; @1133B; +COMBINING BINDU ; BELOW; +GRANTHA SIGN ; NUKTA; AVAGRAHA; +GRANTHA VOWEL SIGN ; AA; I;
II; U; UU; VOCALIC R; VOCALIC RR; @11347; EE; AI; @1134B; OO; AU; +GRANTHA ; SIGN VIRAMA; @11350;
OM; @11357; AU LENGTH MARK; @1135D; SIGN PLUTA; +GRANTHA LETTER ; VEDIC ANUSVARA;
VEDIC DOUBLE ANUSVARA; VOCALIC RR; VOCALIC LL; +GRANTHA VOWEL SIGN VOCALIC ; L; LL; @11366;
+COMBINING GRANTHA DIGIT ; ZERO; ONE; TWO; THREE; FOUR; FIVE; SIX; @11370;
+COMBINING GRANTHA LETTER ; A; KA; NA; VI; PA; @11380; +TULU-TIGALARI LETTER ; A; AA; I; II; U; UU;
VOCALIC R; VOCALIC RR; VOCALIC L; VOCALIC LL; @1138B; EE; @1138E; AI; @11390; OO; AU; KA; KHA; GA;
GHA; NGA; CA; CHA; JA; JHA; NYA; TTA; TTHA; DDA; DDHA; NNA; TA; THA; DA; DHA; NA; PA; PHA; BA; BHA;
MA; YA; RA; LA; VA; SHA; SSA; SA; HA; LLA; RRA; LLLA; @113B7; +TULU-TIGALARI SIGN ; AVAGRAHA;
+TULU-TIGALARI VOWEL SIGN ; AA; I; II; U; UU; VOCALIC R; VOCALIC RR; VOCALIC L; VOCALIC LL; @113C2;
EE; @113C5; AI; @113C7; OO; AU; +TULU-TIGALARI ; AU LENGTH MARK; SIGN CANDRA ANUNASIKA; @113CC;
SIGN ANUSVARA; SIGN VISARGA; SIGN VIRAMA; SIGN LOOPED VIRAMA; CONJOINER; REPHA; GEMINATION MARK;
SIGN PLUTA; DANDA; DOUBLE DANDA; @113D7; SIGN OM PUSHPIKA; SIGN SHRII PUSHPIKA; @113E1;
VEDIC TONE SVARITA; VEDIC TONE ANUDATTA; @11400; +NEWA LETTER ; A; AA; I; II; U; UU; VOCALIC R;
VOCALIC RR; VOCALIC L; VOCALIC LL; E; AI; O; AU; KA; KHA; GA; GHA; NGA; NGHA; CA; CHA; JA; JHA; NYA;
NYHA; TTA; TTHA; DDA; DDHA; NNA; TA; THA; DA; DHA; NA; NHA; PA; PHA; BA; BHA; MA; MHA; YA; RA; RHA;
LA; LHA; WA; SHA; SSA; SA; HA; +NEWA VOWEL SIGN ; AA; I; II; U; UU; VOCALIC R; VOCALIC RR;
VOCALIC L; VOCALIC LL; E; AI; O; AU; +NEWA SIGN ; VIRAMA; CANDRABINDU; ANUSVARA; VISARGA; NUKTA;
AVAGRAHA; FINAL ANUSVARA; +NEWA ; OM; SIDDHI; DANDA; DOUBLE DANDA; COMMA; GAP FILLER;
ABBREVIATION SIGN; +NEWA DIGIT ; ZERO; ONE; TWO; THREE; FOUR; FIVE; SIX; SEVEN; EIGHT; NINE; +NEWA ;
DOUBLE COMMA; PLACEHOLDER MARK; @1145D; INSERTION SIGN; SANDHI MARK; LETTER VEDIC ANUSVARA;
SIGN JIHVAMULIYA; SIGN UPADHMANIYA; @11480; +TIRHUTA ; ANJI; +TIRHUTA LETTER ; A; AA; I; II; U; UU;
VOCALIC R; VOCALIC RR; VOCALIC L; VOCALIC LL; E; AI; O; AU; KA; KHA; GA; GHA; NGA; CA; CHA; JA; JHA;
NYA; TTA; TTHA; DDA; DDHA; NNA; TA; THA; DA; DHA; NA; PA; PHA; BA; BHA; MA; YA; RA; LA; VA; SHA;
SSA; SA; HA; +TIRHUTA VOWEL SIGN ; AA; I; II; U; UU; VOCALIC R; VOCALIC RR; VOCALIC L; VOCALIC LL;
E; SHORT E; AI; O; SHORT O; AU; +TIRHUTA SIGN ; CANDRABINDU; ANUSVARA; VISARGA; VIRAMA; NUKTA;
AVAGRAHA; +TIRHUTA ; GVANG; ABBREVIATION SIGN; OM; @114D0; +TIRHUTA DIGIT ; ZERO; ONE; TWO; THREE;
FOUR; FIVE; SIX; SEVEN; EIGHT; NINE; @11580; +SIDDHAM LETTER ; A; AA; I; II; U; UU; VOCALIC R;
VOCALIC RR; VOCALIC L; VOCALIC LL; E; AI; O; AU; KA; KHA; GA; GHA; NGA; CA; CHA; JA; JHA; NYA; TTA;
TTHA; DDA; DDHA; NNA; TA; THA; DA; DHA; NA; PA; PHA; BA; BHA; MA; YA; RA; LA; VA; SHA; SSA; SA; HA;
+SIDDHAM VOWEL SIGN ; AA; I; II; U; UU; VOCALIC R; VOCALIC RR; @115B8; E; AI; O; AU; +SIDDHAM SIGN ;
CANDRABINDU; ANUSVARA; VISARGA; VIRAMA; NUKTA; SIDDHAM; +SIDDHAM ; DANDA; DOUBLE DANDA;
SEPARATOR DOT; SEPARATOR BAR; REPETITION MARK-1; REPETITION MARK-2; REPETITION MARK-3;
END OF TEXT MARK; +SIDDHAM SECTION MARK WITH TRIDENT AND ; U-SHAPED ORNAMENTS; DOTTED CRESCENTS;
+SIDDHAM SECTION MARK WITH RAYS AND DOTTED ; CRESCENTS; DOUBLE CRESCENTS; TRIPLE CRESCENTS;
+SIDDHAM SECTION MARK DOUBLE ; RING; RING WITH RAYS; +SIDDHAM SECTION MARK WITH ; DOUBLE CRESCENTS;
TRIPLE CRESCENTS; QUADRUPLE CRESCENTS; SEPTUPLE CRESCENTS; CIRCLES AND RAYS;
CIRCLES AND TWO ENCLOSURES; CIRCLES AND FOUR ENCLOSURES; +SIDDHAM LETTER ; THREE-CIRCLE ALTERNATE I;
TWO-CIRCLE ALTERNATE I; TWO-CIRCLE ALTERNATE II; ALTERNATE U; +SIDDHAM VOWEL SIGN ALTERNATE ; U; UU;
@11600; +MODI LETTER ; A; AA; I; II; U; UU; VOCALIC R; VOCALIC RR; VOCALIC L; VOCALIC LL; E; AI; O;
AU; KA; KHA; GA; GHA; NGA; CA; CHA; JA; JHA; NYA; TTA; TTHA; DDA; DDHA; NNA; TA; THA; DA; DHA; NA;
PA; PHA; BA; BHA; MA; YA; RA; LA; VA; SHA; SSA; SA; HA; LLA; +MODI VOWEL SIGN ; AA; I; II; U; UU;
VOCALIC R; VOCALIC RR; VOCALIC L; VOCALIC LL; E; AI; O; AU; +MODI SIGN ; ANUSVARA; VISARGA; VIRAMA;
ARDHACANDRA; +MODI ; DANDA; DOUBLE DANDA; ABBREVIATION SIGN; SIGN HUVA; @11650; +MODI DIGIT ; ZERO;
ONE; TWO; THREE; FOUR; FIVE; SIX; SEVEN; EIGHT; NINE; @11660; +MONGOLIAN ; BIRGA WITH ORNAMENT;
ROTATED BIRGA; DOUBLE BIRGA WITH ORNAMENT; TRIPLE BIRGA WITH ORNAMENT; BIRGA WITH DOUBLE ORNAMENT;
ROTATED BIRGA WITH ORNAMENT; ROTATED BIRGA WITH DOUBLE ORNAMENT; INVERTED BIRGA;
INVERTED BIRGA WITH DOUBLE ORNAMENT; SWIRL BIRGA; SWIRL BIRGA WITH ORNAMENT;
SWIRL BIRGA WITH DOUBLE ORNAMENT; TURNED SWIRL BIRGA WITH DOUBLE ORNAMENT; @11680; +TAKRI LETTER ;
A; AA; I; II; U; UU; E; AI; O; AU; KA; KHA; GA; GHA; NGA; CA; CHA; JA; JHA; NYA; TTA; TTHA; DDA;
DDHA; NNA; TA; THA; DA; DHA; NA; PA; PHA; BA; BHA; MA; YA; RA; LA; VA; SHA; SA; HA; RRA;
+TAKRI SIGN ; ANUSVARA; VISARGA; +TAKRI VOWEL SIGN ; AA; I; II; U; UU; E; AI; O; AU; +TAKRI ;
SIGN VIRAMA; SIGN NUKTA; LETTER ARCHAIC KHA; ABBREVIATION SIGN; @116C0; +TAKRI DIGIT ; ZERO; ONE;
TWO; THREE; FOUR; FIVE; SIX; SEVEN; EIGHT; NINE; @116D0; +MYANMAR PAO DIGIT ; ZERO; ONE; TWO; THREE;
FOUR; FIVE; SIX; SEVEN; EIGHT; NINE; +MYANMAR EASTERN PWO KAREN DIGIT ; ZERO; ONE; TWO; THREE; FOUR;
FIVE; SIX; SEVEN; EIGHT; NINE; @11700; +AHOM LETTER ; KA; KHA; NGA; NA; TA; ALTERNATE TA; PA; PHA;
BA; MA; JA; CHA; THA; RA; LA; SA; NYA; HA; A; DA; DHA; GA; ALTERNATE GA; GHA; BHA; JHA;
ALTERNATE BA; @1171D; +AHOM CONSONANT SIGN MEDIAL ; LA; RA; LIGATING RA; +AHOM VOWEL SIGN ; A; AA;
I; II; U; UU; E; AW; O; AI; AM; +AHOM SIGN ; KILLER; @11730; +AHOM DIGIT ; ZERO; ONE; TWO; THREE;
FOUR; FIVE; SIX; SEVEN; EIGHT; NINE; +AHOM NUMBER ; TEN; TWENTY; +AHOM SIGN ; SMALL SECTION;
SECTION; RULAI; +AHOM SYMBOL ; VI; +AHOM LETTER ; CA; TTA; TTHA; DDA; DDHA; NNA; LLA; @11800;
+DOGRA LETTER ; A; AA; I; II; U; UU; E; AI; O; AU; KA; KHA; GA; GHA; NGA; CA; CHA; JA; JHA; NYA;
TTA; TTHA; DDA; DDHA; NNA; TA; THA; DA; DHA; NA; PA; PHA; BA; BHA; MA; YA; RA; LA; VA; SHA; SSA; SA;
HA; RRA; +DOGRA VOWEL SIGN ; AA; I; II; U; UU; VOCALIC R; VOCALIC RR; E; AI; O; AU; +DOGRA SIGN ;
ANUSVARA; VISARGA; VIRAMA; NUKTA; +DOGRA ABBREVIATION ; SIGN; @118A0; +WARANG CITI CAPITAL LETTER ;
NGAA; A; WI; YU; YA; YO; II; UU; E; O; ANG; GA; KO; ENY; YUJ; UC; ENN; ODD; TTE; NUNG; DA; AT; AM;
BU; PU; HIYO; HOLO; HORR; HAR; SSUU; SII; VIYO; +WARANG CITI SMALL LETTER ; NGAA; A; WI; YU; YA; YO;
II; UU; E; O; ANG; GA; KO; ENY; YUJ; UC; ENN; ODD; TTE; NUNG; DA; AT; AM; BU; PU; HIYO; HOLO; HORR;
HAR; SSUU; SII; VIYO; +WARANG CITI DIGIT ; ZERO; ONE; TWO; THREE; FOUR; FIVE; SIX; SEVEN; EIGHT;
NINE; +WARANG CITI NUMBER ; TEN; TWENTY; THIRTY; FORTY; FIFTY; SIXTY; SEVENTY; EIGHTY; NINETY;
@118FF; +WARANG CITI ; OM; +DIVES AKURU LETTER ; A; AA; I; II; U; UU; E; @11909; O; @1190C; KA; KHA;
GA; GHA; NGA; CA; CHA; JA; @11915; NYA; TTA; @11918; DDA; DDHA; NNA; TA; THA; DA; DHA; NA; PA; PHA;
BA; BHA; MA; YA; YYA; RA; LA; VA; SHA; SSA; SA; HA; LLA; ZA; +DIVES AKURU VOWEL SIGN ; AA; I; II; U;
UU; E; @11937; AI; O; @1193B; +DIVES AKURU ; SIGN ANUSVARA; SIGN CANDRABINDU; SIGN HALANTA; VIRAMA;
PREFIXED NASAL SIGN; MEDIAL YA; INITIAL RA; MEDIAL RA; SIGN NUKTA; DOUBLE DANDA; GAP FILLER;
END OF TEXT MARK; @11950; +DIVES AKURU DIGIT ; ZERO; ONE; TWO; THREE; FOUR; FIVE; SIX; SEVEN; EIGHT;
NINE; @119A0; +NANDINAGARI LETTER ; A; AA; I; II; U; UU; VOCALIC R; VOCALIC RR; @119AA; E; AI; O;
AU; KA; KHA; GA; GHA; NGA; CA; CHA; JA; JHA; NYA; TTA; TTHA; DDA; DDHA; NNA; TA; THA; DA; DHA; NA;
PA; PHA; BA; BHA; MA; YA; RA; LA; VA; SHA; SSA; SA; HA; LLA; RRA; +NANDINAGARI VOWEL SIGN ; AA; I;
II; U; UU; VOCALIC R; VOCALIC RR; @119DA; E; AI; O; AU; +NANDINAGARI SIGN ; ANUSVARA; VISARGA;
VIRAMA; AVAGRAHA; SIDDHAM; +NANDINAGARI ; HEADSTROKE; VOWEL SIGN PRISHTHAMATRA E; @11A00;
+ZANABAZAR SQUARE LETTER ; A; +ZANABAZAR SQUARE VOWEL SIGN ; I; UE; U; E; OE; O; AI; AU; REVERSED I;
+ZANABAZAR SQUARE VOWEL LENGTH ; MARK; +ZANABAZAR SQUARE LETTER ; KA; KHA; GA; GHA; NGA; CA; CHA;
JA; NYA; TTA; TTHA; DDA; DDHA; NNA; TA; THA; DA; DHA; NA; PA; PHA; BA; BHA; MA; TSA; TSHA; DZA;
DZHA; ZHA; ZA; -A; YA; RA; LA; VA; SHA; SSA; SA; HA; KSSA; +ZANABAZAR SQUARE ; FINAL CONSONANT MARK;
SIGN VIRAMA; SIGN CANDRABINDU; SIGN CANDRABINDU WITH ORNAMENT; SIGN CANDRA WITH ORNAMENT;
SIGN ANUSVARA; SIGN VISARGA; CLUSTER-INITIAL LETTER RA; +ZANABAZAR SQUARE CLUSTER-FINAL LETTER ; YA;
RA; LA; VA; +ZANABAZAR SQUARE ; INITIAL HEAD MARK; CLOSING HEAD MARK; MARK TSHEG; MARK SHAD;
MARK DOUBLE SHAD; MARK LONG TSHEG; INITIAL DOUBLE-LINED HEAD MARK; CLOSING DOUBLE-LINED HEAD MARK;
SUBJOINER; @11A50; +SOYOMBO LETTER ; A; +SOYOMBO VOWEL SIGN ; I; UE; U; E; O; OE; AI; AU; VOCALIC R;
VOCALIC L; +SOYOMBO VOWEL LENGTH ; MARK; +SOYOMBO LETTER ; KA; KHA; GA; GHA; NGA; CA; CHA; JA; JHA;
NYA; TTA; TTHA; DDA; DDHA; NNA; TA; THA; DA; DHA; NA; PA; PHA; BA; BHA; MA; TSA; TSHA; DZA; ZHA; ZA;
-A; YA; RA; LA; VA; SHA; SSA; SA; HA; KSSA; +SOYOMBO SIGN ; JIHVAMULIYA; UPADHMANIYA;
+SOYOMBO CLUSTER-INITIAL LETTER ; RA; LA; SHA; SA; +SOYOMBO FINAL CONSONANT SIGN ; G; K; NG; D; N;
B; M; R; L; SH; S; -A; +SOYOMBO ; SIGN ANUSVARA; SIGN VISARGA; GEMINATION MARK; SUBJOINER;
+SOYOMBO MARK ; TSHEG; SHAD; DOUBLE SHAD; PLUTA; +SOYOMBO HEAD MARK WITH MOON AND ;
SUN AND TRIPLE FLAME; SUN AND FLAME; SUN; +SOYOMBO TERMINAL ; MARK-1; MARK-2; @11AB0;
+CANADIAN SYLLABICS NATTILIK ; HI; HII; HO; HOO; HA; HAA; SHRI; SHRII; SHRO; SHROO; SHRA; SHRAA;
+CANADIAN SYLLABICS ; SPE; SPI; SPO; SPA; +PAU CIN HAU LETTER ; PA; KA; LA; MA; DA; ZA; VA; NGA; HA;
GA; KHA; SA; BA; CA; TA; THA; NA; PHA; RA; FA; CHA; A; E; I; O; U; UA; IA;
+PAU CIN HAU LETTER FINAL ; P; K; T; M; N; L; W; NG; Y; +PAU CIN HAU ; RISING TONE LONG;
RISING TONE; SANDHI GLOTTAL STOP; RISING TONE LONG FINAL; RISING TONE FINAL;
SANDHI GLOTTAL STOP FINAL; SANDHI TONE LONG; SANDHI TONE; SANDHI TONE LONG FINAL; SANDHI TONE FINAL;
MID-LEVEL TONE; GLOTTAL STOP VARIANT; MID-LEVEL TONE LONG FINAL; MID-LEVEL TONE FINAL;
LOW-FALLING TONE LONG; LOW-FALLING TONE; GLOTTAL STOP; LOW-FALLING TONE LONG FINAL;
LOW-FALLING TONE FINAL; GLOTTAL STOP FINAL; @11B00; +DEVANAGARI HEAD ; MARK; MARK WITH HEADSTROKE;
+DEVANAGARI SIGN ; BHALE; BHALE WITH HOOK; EXTENDED BHALE; EXTENDED BHALE WITH HOOK;
WESTERN FIVE-LIKE BHALE; WESTERN NINE-LIKE BHALE; REVERSED NINE-LIKE BHALE; MINDU; @11BC0;
+SUNUWAR LETTER ; DEVI; TASLA; EKO; IMAR; REU; UTTHI; KIK; MA; APPHO; PIP; GIL; HAMSO; CARMI; NAH;
BUR; JYAH; LOACHA; OTTHI; SHYELE; VARCA; YAT; AVA; AAL; DONGA; THARI; PHAR; NGAR; KHA; SHYER;
CHELAP; TENTU; THELE; KLOKO; +SUNUWAR SIGN ; PVO; @11BF0; +SUNUWAR DIGIT ; ZERO; ONE; TWO; THREE;
FOUR; FIVE; SIX; SEVEN; EIGHT; NINE; @11C00; +BHAIKSUKI LETTER ; A; AA; I; II; U; UU; VOCALIC R;
VOCALIC RR; VOCALIC L; @11C0A; E; AI; O; AU; KA; KHA; GA; GHA; NGA; CA; CHA; JA; JHA; NYA; TTA;
TTHA; DDA; DDHA; NNA; TA; THA; DA; DHA; NA; PA; PHA; BA; BHA; MA; YA; RA; LA; VA; SHA; SSA; SA; HA;
+BHAIKSUKI VOWEL SIGN ; AA; I; II; U; UU; VOCALIC R; VOCALIC RR; VOCALIC L; @11C38; E; AI; O; AU;
+BHAIKSUKI SIGN ; CANDRABINDU; ANUSVARA; VISARGA; VIRAMA; AVAGRAHA; +BHAIKSUKI ; DANDA;
DOUBLE DANDA; WORD SEPARATOR; GAP FILLER-1; GAP FILLER-2; @11C50; +BHAIKSUKI DIGIT ; ZERO; ONE; TWO;
THREE; FOUR; FIVE; SIX; SEVEN; EIGHT; NINE; +BHAIKSUKI NUMBER ; ONE; TWO; THREE; FOUR; FIVE; SIX;
SEVEN; EIGHT; NINE; TEN; TWENTY; THIRTY; FORTY; FIFTY; SIXTY; SEVENTY; EIGHTY; NINETY;
+BHAIKSUKI HUNDREDS UNIT ; MARK; @11C70; +MARCHEN ; HEAD MARK; MARK SHAD; +MARCHEN LETTER ; KA; KHA;
GA; NGA; CA; CHA; JA; NYA; TA; THA; DA; NA; PA; PHA; BA; MA; TSA; TSHA; DZA; WA; ZHA; ZA; -A; YA;
RA; LA; SHA; SA; HA; A; @11C92; +MARCHEN SUBJOINED LETTER ; KA; KHA; GA; NGA; CA; CHA; JA; NYA; TA;
THA; DA; NA; PA; PHA; BA; MA; TSA; TSHA; DZA; WA; ZHA; ZA; @11CA9; YA; RA; LA; SHA; SA; HA; A;
+MARCHEN VOWEL SIGN ; AA; I; U; E; O; +MARCHEN SIGN ; ANUSVARA; CANDRABINDU; @11D00;
+MASARAM GONDI LETTER ; A; AA; I; II; U; UU; E; @11D08; AI; O; @11D0B; AU; KA; KHA; GA; GHA; NGA;
CA; CHA; JA; JHA; NYA; TTA; TTHA; DDA; DDHA; NNA; TA; THA; DA; DHA; NA; PA; PHA; BA; BHA; MA; YA;
RA; LA; VA; SHA; SSA; SA; HA; LLA; KSSA; JNYA; TRA; +MASARAM GONDI VOWEL SIGN ; AA; I; II; U; UU;
VOCALIC R; @11D3A; E; @11D3C; AI; O; @11D3F; AU; +MASARAM GONDI SIGN ; ANUSVARA; VISARGA; NUKTA;
CANDRA; HALANTA; +MASARAM GONDI ; VIRAMA; REPHA; RA-KARA; @11D50; +MASARAM GONDI DIGIT ; ZERO; ONE;
TWO; THREE; FOUR; FIVE; SIX; SEVEN; EIGHT; NINE; @11D60; +GUNJALA GONDI LETTER ; A; AA; I; II; U;
UU; @11D67; EE; AI; @11D6A; OO; AU; YA; VA; BA; BHA; MA; KA; KHA; TA; THA; LA; GA; GHA; DA; DHA; NA;
CA; CHA; TTA; TTHA; LLA; JA; JHA; DDA; DDHA; NGA; PA; PHA; HA; RA; SA; +GUNJALA GONDI VOWEL SIGN ;
AA; I; II; U; UU; @11D90; EE; AI; @11D93; OO; AU; +GUNJALA GONDI ; SIGN ANUSVARA; SIGN VISARGA;
VIRAMA; OM; @11DA0; +GUNJALA GONDI DIGIT ; ZERO; ONE; TWO; THREE; FOUR; FIVE; SIX; SEVEN; EIGHT;
NINE; @11EE0; +MAKASAR LETTER ; KA; GA; NGA; PA; BA; MA; TA; DA; NA; CA; JA; NYA; YA; RA; LA; VA;
SA; A; +MAKASAR ; ANGKA; +MAKASAR VOWEL SIGN ; I; U; E; O; +MAKASAR ; PASSIMBANG; END OF SECTION;
@11F00; +KAWI SIGN ; CANDRABINDU; ANUSVARA; REPHA; VISARGA; +KAWI LETTER ; A; AA; I; II; U; UU;
VOCALIC R; VOCALIC RR; VOCALIC L; VOCALIC LL; E; AI; O; @11F12; KA; KHA; GA; GHA; NGA; CA; CHA; JA;
JHA; NYA; TTA; TTHA; DDA; DDHA; NNA; TA; THA; DA; DHA; NA; PA; PHA; BA; BHA; MA; YA; RA; LA; WA;
SHA; SSA; SA; HA; JNYA; +KAWI VOWEL SIGN ; AA; ALTERNATE AA; I; II; U; UU; VOCALIC R; @11F3E; E; AI;
EU; +KAWI ; SIGN KILLER; CONJOINER; DANDA; DOUBLE DANDA; +KAWI PUNCTUATION ; SECTION MARKER;
ALTERNATE SECTION MARKER; FLOWER; SPACE FILLER; DOT; DOUBLE DOT; TRIPLE DOT; CIRCLE; FILLED CIRCLE;
SPIRAL; CLOSING SPIRAL; +KAWI DIGIT ; ZERO; ONE; TWO; THREE; FOUR; FIVE; SIX; SEVEN; EIGHT; NINE; +;
KAWI SIGN NUKTA; @11FB0; LISU LETTER YHA; @11FC0; +TAMIL FRACTION ONE ; THREE-HUNDRED-AND-TWENTIETH;
ONE-HUNDRED-AND-SIXTIETH; EIGHTIETH; SIXTY-FOURTH; FORTIETH; THIRTY-SECOND; +TAMIL FRACTION ;
THREE EIGHTIETHS; THREE SIXTY-FOURTHS; ONE TWENTIETH; ONE SIXTEENTH-1; ONE SIXTEENTH-2; ONE TENTH;
ONE EIGHTH; THREE TWENTIETHS; THREE SIXTEENTHS; ONE FIFTH; ONE QUARTER; ONE HALF-1; ONE HALF-2;
THREE QUARTERS; DOWNSCALING FACTOR KIIZH; +TAMIL SIGN ; NEL; CEVITU; AAZHAAKKU; UZHAKKU;
MUUVUZHAKKU; KURUNI; PATHAKKU; MUKKURUNI; KAACU; PANAM; PON; VARAAKAN; PAARAM; KUZHI; VELI; +TAMIL ;
WET CULTIVATION SIGN; DRY CULTIVATION SIGN; LAND SIGN; SALT PAN SIGN; TRADITIONAL CREDIT SIGN;
TRADITIONAL NUMBER SIGN; CURRENT SIGN; AND ODD SIGN; SPENT SIGN; TOTAL SIGN; IN POSSESSION SIGN;
STARTING FROM SIGN; SIGN MUTHALIYA; SIGN VAKAIYARAA; @11FFF; PUNCTUATION END OF TEXT;
"

end PythonSyntax.Unicode
