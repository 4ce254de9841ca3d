/-
The names of the Unicode characters from U+1000 up to U+13FF, version 16, in the order of their
code points.  Entries end in a semicolon; an at sign gives the code point of the next name,
and a plus sign what the names after it begin with.
-/

namespace PythonSyntax.Unicode

/-- Names of characters from U+1000 up to U+13FF. -/
def namesFrom01000 : String := "
@1000; +MYANMAR LETTER ; KA; KHA; GA; GHA; NGA; CA; CHA; JA; JHA; NYA; NNYA; TTA; TTHA; DDA; DDHA;
NNA; TA; THA; DA; DHA; NA; PA; PHA; BA; BHA; MA; YA; RA; LA; WA; SA; HA; LLA; A; SHAN A; I; II; U;
UU; E; MON E; O; AU; +MYANMAR VOWEL SIGN ; TALL AA; AA; I; II; U; UU; E; AI; MON II; MON O; E ABOVE;
+MYANMAR SIGN ; ANUSVARA; DOT BELOW; VISARGA; VIRAMA; ASAT; +MYANMAR CONSONANT SIGN MEDIAL ; YA; RA;
WA; HA; +MYANMAR LETTER GREAT ; SA; +MYANMAR DIGIT ; ZERO; ONE; TWO; THREE; FOUR; FIVE; SIX; SEVEN;
EIGHT; NINE; +MYANMAR SIGN ; LITTLE SECTION; SECTION; +MYANMAR SYMBOL ; LOCATIVE; COMPLETED;
AFOREMENTIONED; GENITIVE; +MYANMAR LETTER ; SHA; SSA; +MYANMAR LETTER VOCALIC ; R; RR; L; LL;
+MYANMAR VOWEL SIGN VOCALIC ; R; RR; L; LL; +MYANMAR LETTER MON ; NGA; JHA; BBA; BBE;
+MYANMAR CONSONANT SIGN MON MEDIAL ; NA; MA; LA; +MYANMAR ; LETTER SGAW KAREN SHA;
VOWEL SIGN SGAW KAREN EU; +MYANMAR TONE MARK SGAW KAREN ; HATHI; KE PHO;
+MYANMAR LETTER WESTERN PWO KAREN ; THA; PWA; +MYANMAR VOWEL SIGN WESTERN PWO KAREN ; EU; UE;
+MYANMAR SIGN WESTERN PWO KAREN ; TONE-1; TONE-2; TONE-3; TONE-4; TONE-5;
+MYANMAR LETTER EASTERN PWO KAREN ; NNA; YWA; GHWA; +MYANMAR VOWEL SIGN ; GEBA KAREN I; KAYAH OE;
KAYAH U; KAYAH EE; +MYANMAR LETTER SHAN ; KA; KHA; GA; CA; ZA; NYA; DA; NA; PHA; FA; BA; THA; HA;
+MYANMAR CONSONANT SIGN SHAN MEDIAL ; WA; +MYANMAR VOWEL SIGN SHAN ; AA; E; E ABOVE; FINAL Y;
+MYANMAR SIGN SHAN ; TONE-2; TONE-3; TONE-5; TONE-6; COUNCIL TONE-2; COUNCIL TONE-3;
COUNCIL EMPHATIC TONE; +MYANMAR ; LETTER RUMAI PALAUNG FA; SIGN RUMAI PALAUNG TONE-5;
+MYANMAR SHAN DIGIT ; ZERO; ONE; TWO; THREE; FOUR; FIVE; SIX; SEVEN; EIGHT; NINE;
+MYANMAR SIGN KHAMTI ; TONE-1; TONE-3; +MYANMAR VOWEL SIGN AITON ; A; AI; +MYANMAR SYMBOL SHAN ;
ONE; EXCLAMATION; +GEORGIAN CAPITAL LETTER ; AN; BAN; GAN; DON; EN; VIN; ZEN; TAN; IN; KAN; LAS;
MAN; NAR; ON; PAR; ZHAR; RAE; SAN; TAR; UN; PHAR; KHAR; GHAN; QAR; SHIN; CHIN; CAN; JIL; CIL; CHAR;
XAN; JHAN; HAE; HE; HIE; WE; HAR; HOE; @10C7; YN; @10CD; AEN; @10D0; +GEORGIAN LETTER ; AN; BAN;
GAN; DON; EN; VIN; ZEN; TAN; IN; KAN; LAS; MAN; NAR; ON; PAR; ZHAR; RAE; SAN; TAR; UN; PHAR; KHAR;
GHAN; QAR; SHIN; CHIN; CAN; JIL; CIL; CHAR; XAN; JHAN; HAE; HE; HIE; WE; HAR; HOE; FI; YN; ELIFI;
TURNED GAN; AIN; +; GEORGIAN PARAGRAPH SEPARATOR; MODIFIER LETTER GEORGIAN NAR; +GEORGIAN LETTER ;
AEN; HARD SIGN; LABIAL SIGN; +HANGUL CHOSEONG ; KIYEOK; SSANGKIYEOK; NIEUN; TIKEUT; SSANGTIKEUT;
RIEUL; MIEUM; PIEUP; SSANGPIEUP; SIOS; SSANGSIOS; IEUNG; CIEUC; SSANGCIEUC; CHIEUCH; KHIEUKH;
THIEUTH; PHIEUPH; HIEUH; NIEUN-KIYEOK; SSANGNIEUN; NIEUN-TIKEUT; NIEUN-PIEUP; TIKEUT-KIYEOK;
RIEUL-NIEUN; SSANGRIEUL; RIEUL-HIEUH; KAPYEOUNRIEUL; MIEUM-PIEUP; KAPYEOUNMIEUM; PIEUP-KIYEOK;
PIEUP-NIEUN; PIEUP-TIKEUT; PIEUP-SIOS; PIEUP-SIOS-KIYEOK; PIEUP-SIOS-TIKEUT; PIEUP-SIOS-PIEUP;
PIEUP-SSANGSIOS; PIEUP-SIOS-CIEUC; PIEUP-CIEUC; PIEUP-CHIEUCH; PIEUP-THIEUTH; PIEUP-PHIEUPH;
KAPYEOUNPIEUP; KAPYEOUNSSANGPIEUP; SIOS-KIYEOK; SIOS-NIEUN; SIOS-TIKEUT; SIOS-RIEUL; SIOS-MIEUM;
SIOS-PIEUP; SIOS-PIEUP-KIYEOK; SIOS-SSANGSIOS; SIOS-IEUNG; SIOS-CIEUC; SIOS-CHIEUCH; SIOS-KHIEUKH;
SIOS-THIEUTH; SIOS-PHIEUPH; SIOS-HIEUH; CHITUEUMSIOS; CHITUEUMSSANGSIOS; CEONGCHIEUMSIOS;
CEONGCHIEUMSSANGSIOS; PANSIOS; IEUNG-KIYEOK; IEUNG-TIKEUT; IEUNG-MIEUM; IEUNG-PIEUP; IEUNG-SIOS;
IEUNG-PANSIOS; SSANGIEUNG; IEUNG-CIEUC; IEUNG-CHIEUCH; IEUNG-THIEUTH; IEUNG-PHIEUPH; YESIEUNG;
CIEUC-IEUNG; CHITUEUMCIEUC; CHITUEUMSSANGCIEUC; CEONGCHIEUMCIEUC; CEONGCHIEUMSSANGCIEUC;
CHIEUCH-KHIEUKH; CHIEUCH-HIEUH; CHITUEUMCHIEUCH; CEONGCHIEUMCHIEUCH; PHIEUPH-PIEUP; KAPYEOUNPHIEUPH;
SSANGHIEUH; YEORINHIEUH; KIYEOK-TIKEUT; NIEUN-SIOS; NIEUN-CIEUC; NIEUN-HIEUH; TIKEUT-RIEUL; FILLER;
+HANGUL JUNGSEONG ; FILLER; A; AE; YA; YAE; EO; E; YEO; YE; O; WA; WAE; OE; YO; U; WEO; WE; WI; YU;
EU; YI; I; A-O; A-U; YA-O; YA-YO; EO-O; EO-U; EO-EU; YEO-O; YEO-U; O-EO; O-E; O-YE; O-O; O-U; YO-YA;
YO-YAE; YO-YEO; YO-O; YO-I; U-A; U-AE; U-EO-EU; U-YE; U-U; YU-A; YU-EO; YU-E; YU-YEO; YU-YE; YU-U;
YU-I; EU-U; EU-EU; YI-U; I-A; I-YA; I-O; I-U; I-EU; I-ARAEA; ARAEA; ARAEA-EO; ARAEA-U; ARAEA-I;
SSANGARAEA; A-EU; YA-U; YEO-YA; O-YA; O-YAE; +HANGUL JONGSEONG ; KIYEOK; SSANGKIYEOK; KIYEOK-SIOS;
NIEUN; NIEUN-CIEUC; NIEUN-HIEUH; TIKEUT; RIEUL; RIEUL-KIYEOK; RIEUL-MIEUM; RIEUL-PIEUP; RIEUL-SIOS;
RIEUL-THIEUTH; RIEUL-PHIEUPH; RIEUL-HIEUH; MIEUM; PIEUP; PIEUP-SIOS; SIOS; SSANGSIOS; IEUNG; CIEUC;
CHIEUCH; KHIEUKH; THIEUTH; PHIEUPH; HIEUH; KIYEOK-RIEUL; KIYEOK-SIOS-KIYEOK; NIEUN-KIYEOK;
NIEUN-TIKEUT; NIEUN-SIOS; NIEUN-PANSIOS; NIEUN-THIEUTH; TIKEUT-KIYEOK; TIKEUT-RIEUL;
RIEUL-KIYEOK-SIOS; RIEUL-NIEUN; RIEUL-TIKEUT; RIEUL-TIKEUT-HIEUH; SSANGRIEUL; RIEUL-MIEUM-KIYEOK;
RIEUL-MIEUM-SIOS; RIEUL-PIEUP-SIOS; RIEUL-PIEUP-HIEUH; RIEUL-KAPYEOUNPIEUP; RIEUL-SSANGSIOS;
RIEUL-PANSIOS; RIEUL-KHIEUKH; RIEUL-YEORINHIEUH; MIEUM-KIYEOK; MIEUM-RIEUL; MIEUM-PIEUP; MIEUM-SIOS;
MIEUM-SSANGSIOS; MIEUM-PANSIOS; MIEUM-CHIEUCH; MIEUM-HIEUH; KAPYEOUNMIEUM; PIEUP-RIEUL;
PIEUP-PHIEUPH; PIEUP-HIEUH; KAPYEOUNPIEUP; SIOS-KIYEOK; SIOS-TIKEUT; SIOS-RIEUL; SIOS-PIEUP;
PANSIOS; IEUNG-KIYEOK; IEUNG-SSANGKIYEOK; SSANGIEUNG; IEUNG-KHIEUKH; YESIEUNG; YESIEUNG-SIOS;
YESIEUNG-PANSIOS; PHIEUPH-PIEUP; KAPYEOUNPHIEUPH; HIEUH-NIEUN; HIEUH-RIEUL; HIEUH-MIEUM;
HIEUH-PIEUP; YEORINHIEUH; KIYEOK-NIEUN; KIYEOK-PIEUP; KIYEOK-CHIEUCH; KIYEOK-KHIEUKH; KIYEOK-HIEUH;
SSANGNIEUN; +ETHIOPIC SYLLABLE ; HA; HU; HI; HAA; HEE; HE; HO; HOA; LA; LU; LI; LAA; LEE; LE; LO;
LWA; HHA; HHU; HHI; HHAA; HHEE; HHE; HHO; HHWA; MA; MU; MI; MAA; MEE; ME; MO; MWA; SZA; SZU; SZI;
SZAA; SZEE; SZE; SZO; SZWA; RA; RU; RI; RAA; REE; RE; RO; RWA; SA; SU; SI; SAA; SEE; SE; SO; SWA;
SHA; SHU; SHI; SHAA; SHEE; SHE; SHO; SHWA; QA; QU; QI; QAA; QEE; QE; QO; QOA; QWA; @124A; QWI; QWAA;
QWEE; QWE; @1250; QHA; QHU; QHI; QHAA; QHEE; QHE; QHO; @1258; QHWA; @125A; QHWI; QHWAA; QHWEE; QHWE;
@1260; BA; BU; BI; BAA; BEE; BE; BO; BWA; VA; VU; VI; VAA; VEE; VE; VO; VWA; TA; TU; TI; TAA; TEE;
TE; TO; TWA; CA; CU; CI; CAA; CEE; CE; CO; CWA; XA; XU; XI; XAA; XEE; XE; XO; XOA; XWA; @128A; XWI;
XWAA; XWEE; XWE; @1290; NA; NU; NI; NAA; NEE; NE; NO; NWA; NYA; NYU; NYI; NYAA; NYEE; NYE; NYO;
NYWA; +ETHIOPIC SYLLABLE GLOTTAL ; A; U; I; AA; EE; E; O; WA; +ETHIOPIC SYLLABLE ; KA; KU; KI; KAA;
KEE; KE; KO; KOA; KWA; @12B2; KWI; KWAA; KWEE; KWE; @12B8; KXA; KXU; KXI; KXAA; KXEE; KXE; KXO;
@12C0; KXWA; @12C2; KXWI; KXWAA; KXWEE; KXWE; @12C8; WA; WU; WI; WAA; WEE; WE; WO; WOA;
+ETHIOPIC SYLLABLE PHARYNGEAL ; A; U; I; AA; EE; E; O; @12D8; +ETHIOPIC SYLLABLE ; ZA; ZU; ZI; ZAA;
ZEE; ZE; ZO; ZWA; ZHA; ZHU; ZHI; ZHAA; ZHEE; ZHE; ZHO; ZHWA; YA; YU; YI; YAA; YEE; YE; YO; YOA; DA;
DU; DI; DAA; DEE; DE; DO; DWA; DDA; DDU; DDI; DDAA; DDEE; DDE; DDO; DDWA; JA; JU; JI; JAA; JEE; JE;
JO; JWA; GA; GU; GI; GAA; GEE; GE; GO; GOA; GWA; @1312; GWI; GWAA; GWEE; GWE; @1318; GGA; GGU; GGI;
GGAA; GGEE; GGE; GGO; GGWAA; THA; THU; THI; THAA; THEE; THE; THO; THWA; CHA; CHU; CHI; CHAA; CHEE;
CHE; CHO; CHWA; PHA; PHU; PHI; PHAA; PHEE; PHE; PHO; PHWA; TSA; TSU; TSI; TSAA; TSEE; TSE; TSO;
TSWA; TZA; TZU; TZI; TZAA; TZEE; TZE; TZO; TZOA; FA; FU; FI; FAA; FEE; FE; FO; FWA; PA; PU; PI; PAA;
PEE; PE; PO; PWA; RYA; MYA; FYA; @135D; +ETHIOPIC COMBINING ; GEMINATION AND VOWEL LENGTH MARK;
VOWEL LENGTH MARK; GEMINATION MARK; +ETHIOPIC ; SECTION MARK; WORDSPACE; FULL STOP; COMMA;
SEMICOLON; COLON; PREFACE COLON; QUESTION MARK; PARAGRAPH SEPARATOR; +ETHIOPIC DIGIT ; ONE; TWO;
THREE; FOUR; FIVE; SIX; SEVEN; EIGHT; NINE; +ETHIOPIC NUMBER ; TEN; TWENTY; THIRTY; FORTY; FIFTY;
SIXTY; SEVENTY; EIGHTY; NINETY; HUNDRED; TEN THOUSAND; @1380; +ETHIOPIC SYLLABLE ; SEBATBEIT MWA;
MWI; MWEE; MWE; SEBATBEIT BWA; BWI; BWEE; BWE; SEBATBEIT FWA; FWI; FWEE; FWE; SEBATBEIT PWA; PWI;
PWEE; PWE; +ETHIOPIC TONAL MARK ; YIZET; DERET; RIKRIK; SHORT RIKRIK; DIFAT; KENAT; CHIRET; HIDET;
DERET-HIDET; KURT; @13A0; +CHEROKEE LETTER ; A; E; I; O; U; V; GA; KA; GE; GI; GO; GU; GV; HA; HE;
HI; HO; HU; HV; LA; LE; LI; LO; LU; LV; MA; ME; MI; MO; MU; NA; HNA; NAH; NE; NI; NO; NU; NV; QUA;
QUE; QUI; QUO; QUU; QUV; SA; S; SE; SI; SO; SU; SV; DA; TA; DE; TE; DI; TI; DO; DU; DV; DLA; TLA;
TLE; TLI; TLO; TLU; TLV; TSA; TSE; TSI; TSO; TSU; TSV; WA; WE; WI; WO; WU; WV; YA; YE; YI; YO; YU;
YV; MV; @13F8; +CHEROKEE SMALL LETTER ; YE; YI; YO; YU; YV; MV;
"

end PythonSyntax.Unicode
