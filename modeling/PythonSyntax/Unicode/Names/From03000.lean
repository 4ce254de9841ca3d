/-
The names of the Unicode characters from U+3000 up to U+9FFF, version 16, in the order of their
code points.  Entries end in a semicolon; an at sign gives the code point of the next name,
and a plus sign what the names after it begin with.
-/

namespace PythonSyntax.Unicode

/-- Names of characters from U+3000 up to U+9FFF. -/
def namesFrom03000 : String := "
@3000; +IDEOGRAPHIC ; SPACE; COMMA; FULL STOP; +; DITTO MARK; JAPANESE INDUSTRIAL STANDARD SYMBOL;
+IDEOGRAPHIC ; ITERATION MARK; CLOSING MARK; NUMBER ZERO; +; LEFT ANGLE BRACKET;
RIGHT ANGLE BRACKET; LEFT DOUBLE ANGLE BRACKET; RIGHT DOUBLE ANGLE BRACKET; LEFT CORNER BRACKET;
RIGHT CORNER BRACKET; LEFT WHITE CORNER BRACKET; RIGHT WHITE CORNER BRACKET;
LEFT BLACK LENTICULAR BRACKET; RIGHT BLACK LENTICULAR BRACKET; POSTAL MARK; GETA MARK;
LEFT TORTOISE SHELL BRACKET; RIGHT TORTOISE SHELL BRACKET; LEFT WHITE LENTICULAR BRACKET;
RIGHT WHITE LENTICULAR BRACKET; LEFT WHITE TORTOISE SHELL BRACKET;
RIGHT WHITE TORTOISE SHELL BRACKET; LEFT WHITE SQUARE BRACKET; RIGHT WHITE SQUARE BRACKET;
WAVE DASH; REVERSED DOUBLE PRIME QUOTATION MARK; DOUBLE PRIME QUOTATION MARK;
LOW DOUBLE PRIME QUOTATION MARK; POSTAL MARK FACE; +HANGZHOU NUMERAL ; ONE; TWO; THREE; FOUR; FIVE;
SIX; SEVEN; EIGHT; NINE; +IDEOGRAPHIC ; LEVEL TONE MARK; RISING TONE MARK; DEPARTING TONE MARK;
ENTERING TONE MARK; +HANGUL ; SINGLE DOT TONE MARK; DOUBLE DOT TONE MARK; +WAVY ; DASH;
+VERTICAL KANA REPEAT ; MARK; WITH VOICED SOUND MARK; MARK UPPER HALF;
WITH VOICED SOUND MARK UPPER HALF; MARK LOWER HALF; +; CIRCLED POSTAL MARK;
IDEOGRAPHIC TELEGRAPH LINE FEED SEPARATOR SYMBOL; +HANGZHOU NUMERAL ; TEN; TWENTY; THIRTY; +;
VERTICAL IDEOGRAPHIC ITERATION MARK; MASU MARK; PART ALTERNATION MARK; +IDEOGRAPHIC ;
VARIATION INDICATOR; HALF FILL SPACE; @3041; +HIRAGANA LETTER ; SMALL A; A; SMALL I; I; SMALL U; U;
SMALL E; E; SMALL O; O; KA; GA; KI; GI; KU; GU; KE; GE; KO; GO; SA; ZA; SI; ZI; SU; ZU; SE; ZE; SO;
ZO; TA; DA; TI; DI; SMALL TU; TU; DU; TE; DE; TO; DO; NA; NI; NU; NE; NO; HA; BA; PA; HI; BI; PI;
HU; BU; PU; HE; BE; PE; HO; BO; PO; MA; MI; MU; ME; MO; SMALL YA; YA; SMALL YU; YU; SMALL YO; YO;
RA; RI; RU; RE; RO; SMALL WA; WA; WI; WE; WO; N; VU; SMALL KA; SMALL KE; @3099;
+COMBINING KATAKANA-HIRAGANA ; VOICED SOUND MARK; SEMI-VOICED SOUND MARK; +KATAKANA-HIRAGANA ;
VOICED SOUND MARK; SEMI-VOICED SOUND MARK; +HIRAGANA ; ITERATION MARK; VOICED ITERATION MARK;
DIGRAPH YORI; +KATAKANA-HIRAGANA DOUBLE ; HYPHEN; +KATAKANA LETTER ; SMALL A; A; SMALL I; I;
SMALL U; U; SMALL E; E; SMALL O; O; KA; GA; KI; GI; KU; GU; KE; GE; KO; GO; SA; ZA; SI; ZI; SU; ZU;
SE; ZE; SO; ZO; TA; DA; TI; DI; SMALL TU; TU; DU; TE; DE; TO; DO; NA; NI; NU; NE; NO; HA; BA; PA;
HI; BI; PI; HU; BU; PU; HE; BE; PE; HO; BO; PO; MA; MI; MU; ME; MO; SMALL YA; YA; SMALL YU; YU;
SMALL YO; YO; RA; RI; RU; RE; RO; SMALL WA; WA; WI; WE; WO; N; VU; SMALL KA; SMALL KE; VA; VI; VE;
VO; +; KATAKANA MIDDLE DOT; KATAKANA-HIRAGANA PROLONGED SOUND MARK; +KATAKANA ; ITERATION MARK;
VOICED ITERATION MARK; DIGRAPH KOTO; @3105; +BOPOMOFO LETTER ; B; P; M; F; D; T; N; L; G; K; H; J;
Q; X; ZH; CH; SH; R; Z; C; S; A; O; E; EH; AI; EI; AU; OU; AN; EN; ANG; ENG; ER; I; U; IU; V; NG;
GN; IH; O WITH DOT ABOVE; NN; @3131; +HANGUL LETTER ; KIYEOK; SSANGKIYEOK; KIYEOK-SIOS; NIEUN;
NIEUN-CIEUC; NIEUN-HIEUH; TIKEUT; SSANGTIKEUT; RIEUL; RIEUL-KIYEOK; RIEUL-MIEUM; RIEUL-PIEUP;
RIEUL-SIOS; RIEUL-THIEUTH; RIEUL-PHIEUPH; RIEUL-HIEUH; MIEUM; PIEUP; SSANGPIEUP; PIEUP-SIOS; SIOS;
SSANGSIOS; IEUNG; CIEUC; SSANGCIEUC; CHIEUCH; KHIEUKH; THIEUTH; PHIEUPH; HIEUH; A; AE; YA; YAE; EO;
E; YEO; YE; O; WA; WAE; OE; YO; U; WEO; WE; WI; YU; EU; YI; I; +HANGUL ; FILLER; +HANGUL LETTER ;
SSANGNIEUN; NIEUN-TIKEUT; NIEUN-SIOS; NIEUN-PANSIOS; RIEUL-KIYEOK-SIOS; RIEUL-TIKEUT;
RIEUL-PIEUP-SIOS; RIEUL-PANSIOS; RIEUL-YEORINHIEUH; MIEUM-PIEUP; MIEUM-SIOS; MIEUM-PANSIOS;
KAPYEOUNMIEUM; PIEUP-KIYEOK; PIEUP-TIKEUT; PIEUP-SIOS-KIYEOK; PIEUP-SIOS-TIKEUT; PIEUP-CIEUC;
PIEUP-THIEUTH; KAPYEOUNPIEUP; KAPYEOUNSSANGPIEUP; SIOS-KIYEOK; SIOS-NIEUN; SIOS-TIKEUT; SIOS-PIEUP;
SIOS-CIEUC; PANSIOS; SSANGIEUNG; YESIEUNG; YESIEUNG-SIOS; YESIEUNG-PANSIOS; KAPYEOUNPHIEUPH;
SSANGHIEUH; YEORINHIEUH; YO-YA; YO-YAE; YO-I; YU-YEO; YU-YE; YU-I; ARAEA; ARAEAE; @3190;
+IDEOGRAPHIC ANNOTATION ; LINKING MARK; REVERSE MARK; ONE MARK; TWO MARK; THREE MARK; FOUR MARK;
TOP MARK; MIDDLE MARK; BOTTOM MARK; FIRST MARK; SECOND MARK; THIRD MARK; FOURTH MARK; HEAVEN MARK;
EARTH MARK; MAN MARK; +BOPOMOFO LETTER ; BU; ZI; JI; GU; EE; ENN; OO; ONN; IR; ANN; INN; UNN; IM;
NGG; AINN; AUNN; AM; OM; ONG; INNN; +BOPOMOFO FINAL LETTER ; P; T; K; H; +BOPOMOFO LETTER ; GH; LH;
ZY; +BOPOMOFO FINAL LETTER ; G; +BOPOMOFO LETTER ; GW; KW; OE; AH; +CJK STROKE ; T; WG; XG; BXG; SW;
HZZ; HZG; HP; HZWG; SZWG; HZT; HZZP; HPWG; HZW; HZZZ; N; H; S; P; SP; D; HZ; HG; SZ; SWZ; ST; SG;
PD; PZ; TN; SZZ; SWG; HXWG; HZZZG; PG; Q; HXG; SZP; @31EF; +IDEOGRAPHIC DESCRIPTION CHARACTER ;
SUBTRACTION; +KATAKANA LETTER SMALL ; KU; SI; SU; TO; NU; HA; HI; HU; HE; HO; MU; RA; RI; RU; RE;
RO; +PARENTHESIZED HANGUL ; KIYEOK; NIEUN; TIKEUT; RIEUL; MIEUM; PIEUP; SIOS; IEUNG; CIEUC; CHIEUCH;
KHIEUKH; THIEUTH; PHIEUPH; HIEUH; KIYEOK A; NIEUN A; TIKEUT A; RIEUL A; MIEUM A; PIEUP A; SIOS A;
IEUNG A; CIEUC A; CHIEUCH A; KHIEUKH A; THIEUTH A; PHIEUPH A; HIEUH A; CIEUC U;
+PARENTHESIZED KOREAN CHARACTER ; OJEON; O HU; @3220; +PARENTHESIZED IDEOGRAPH ; ONE; TWO; THREE;
FOUR; FIVE; SIX; SEVEN; EIGHT; NINE; TEN; MOON; FIRE; WATER; WOOD; METAL; EARTH; SUN; STOCK; HAVE;
SOCIETY; NAME; SPECIAL; FINANCIAL; CONGRATULATION; LABOR; REPRESENT; CALL; STUDY; SUPERVISE;
ENTERPRISE; RESOURCE; ALLIANCE; FESTIVAL; REST; SELF; REACH; +CIRCLED IDEOGRAPH ; QUESTION;
KINDERGARTEN; SCHOOL; KOTO; +CIRCLED NUMBER ; TEN ON BLACK SQUARE; TWENTY ON BLACK SQUARE;
THIRTY ON BLACK SQUARE; FORTY ON BLACK SQUARE; FIFTY ON BLACK SQUARE; SIXTY ON BLACK SQUARE;
SEVENTY ON BLACK SQUARE; EIGHTY ON BLACK SQUARE; +PARTNERSHIP ; SIGN; +CIRCLED NUMBER TWENTY ; ONE;
TWO; THREE; FOUR; FIVE; SIX; SEVEN; EIGHT; NINE; +CIRCLED NUMBER ; THIRTY; +CIRCLED NUMBER THIRTY ;
ONE; TWO; THREE; FOUR; FIVE; +CIRCLED HANGUL ; KIYEOK; NIEUN; TIKEUT; RIEUL; MIEUM; PIEUP; SIOS;
IEUNG; CIEUC; CHIEUCH; KHIEUKH; THIEUTH; PHIEUPH; HIEUH; KIYEOK A; NIEUN A; TIKEUT A; RIEUL A;
MIEUM A; PIEUP A; SIOS A; IEUNG A; CIEUC A; CHIEUCH A; KHIEUKH A; THIEUTH A; PHIEUPH A; HIEUH A;
+CIRCLED KOREAN CHARACTER ; CHAMKO; JUEUI; +; CIRCLED HANGUL IEUNG U; KOREAN STANDARD SYMBOL;
+CIRCLED IDEOGRAPH ; ONE; TWO; THREE; FOUR; FIVE; SIX; SEVEN; EIGHT; NINE; TEN; MOON; FIRE; WATER;
WOOD; METAL; EARTH; SUN; STOCK; HAVE; SOCIETY; NAME; SPECIAL; FINANCIAL; CONGRATULATION; LABOR;
SECRET; MALE; FEMALE; SUITABLE; EXCELLENT; PRINT; ATTENTION; ITEM; REST; COPY; CORRECT; HIGH;
CENTRE; LOW; LEFT; RIGHT; MEDICINE; RELIGION; STUDY; SUPERVISE; ENTERPRISE; RESOURCE; ALLIANCE;
NIGHT; +CIRCLED NUMBER THIRTY ; SIX; SEVEN; EIGHT; NINE; +CIRCLED NUMBER ; FORTY;
+CIRCLED NUMBER FORTY ; ONE; TWO; THREE; FOUR; FIVE; SIX; SEVEN; EIGHT; NINE; +CIRCLED NUMBER ;
FIFTY; +IDEOGRAPHIC TELEGRAPH SYMBOL FOR ; JANUARY; FEBRUARY; MARCH; APRIL; MAY; JUNE; JULY; AUGUST;
SEPTEMBER; OCTOBER; NOVEMBER; DECEMBER; +SQUARE ; HG; ERG; EV; +LIMITED LIABILITY ; SIGN;
+CIRCLED KATAKANA ; A; I; U; E; O; KA; KI; KU; KE; KO; SA; SI; SU; SE; SO; TA; TI; TU; TE; TO; NA;
NI; NU; NE; NO; HA; HI; HU; HE; HO; MA; MI; MU; ME; MO; YA; YU; YO; RA; RI; RU; RE; RO; WA; WI; WE;
WO; +SQUARE ; ERA NAME REIWA; APAATO; ARUHUA; ANPEA; AARU; ININGU; INTI; UON; ESUKUUDO; EEKAA; ONSU;
OOMU; KAIRI; KARATTO; KARORII; GARON; GANMA; GIGA; GINII; KYURII; GIRUDAA; KIRO; KIROGURAMU;
KIROMEETORU; KIROWATTO; GURAMU; GURAMUTON; KURUZEIRO; KUROONE; KEESU; KORUNA; KOOPO; SAIKURU;
SANTIIMU; SIRINGU; SENTI; SENTO; DAASU; DESI; DORU; TON; NANO; NOTTO; HAITU; PAASENTO; PAATU;
BAARERU; PIASUTORU; PIKURU; PIKO; BIRU; HUARADDO; HUIITO; BUSSYERU; HURAN; HEKUTAARU; PESO; PENIHI;
HERUTU; PENSU; PEEZI; BEETA; POINTO; BORUTO; HON; PONDO; HOORU; HOON; MAIKURO; MAIRU; MAHHA; MARUKU;
MANSYON; MIKURON; MIRI; MIRIBAARU; MEGA; MEGATON; MEETORU; YAADO; YAARU; YUAN; RITTORU; RIRA; RUPII;
RUUBURU; REMU; RENTOGEN; WATTO; +IDEOGRAPHIC TELEGRAPH SYMBOL FOR HOUR ; ZERO; ONE; TWO; THREE;
FOUR; FIVE; SIX; SEVEN; EIGHT; NINE; TEN; ELEVEN; TWELVE; THIRTEEN; FOURTEEN; FIFTEEN; SIXTEEN;
SEVENTEEN; EIGHTEEN; NINETEEN; TWENTY; TWENTY-ONE; TWENTY-TWO; TWENTY-THREE; TWENTY-FOUR; +SQUARE ;
HPA; DA; AU; BAR; OV; PC; DM; DM SQUARED; DM CUBED; IU; +SQUARE ERA NAME ; HEISEI; SYOUWA; TAISYOU;
MEIZI; +SQUARE ; CORPORATION; PA AMPS; NA; MU A; MA; KA; KB; MB; GB; CAL; KCAL; PF; NF; MU F; MU G;
MG; KG; HZ; KHZ; MHZ; GHZ; THZ; MU L; ML; DL; KL; FM; NM; MU M; MM; CM; KM; MM SQUARED; CM SQUARED;
M SQUARED; KM SQUARED; MM CUBED; CM CUBED; M CUBED; KM CUBED; M OVER S; M OVER S SQUARED; PA; KPA;
MPA; GPA; RAD; RAD OVER S; RAD OVER S SQUARED; PS; NS; MU S; MS; PV; NV; MU V; MV; KV; MV MEGA; PW;
NW; MU W; MW; KW; MW MEGA; K OHM; M OHM; AM; BQ; CC; CD; C OVER KG; CO; DB; GY; HA; HP; IN; KK;
KM CAPITAL; KT; LM; LN; LOG; LX; MB SMALL; MIL; MOL; PH; PM; PPM; PR; SR; SV; WB; V OVER M;
A OVER M; +IDEOGRAPHIC TELEGRAPH SYMBOL FOR DAY ; ONE; TWO; THREE; FOUR; FIVE; SIX; SEVEN; EIGHT;
NINE; TEN; ELEVEN; TWELVE; THIRTEEN; FOURTEEN; FIFTEEN; SIXTEEN; SEVENTEEN; EIGHTEEN; NINETEEN;
TWENTY; TWENTY-ONE; TWENTY-TWO; TWENTY-THREE; TWENTY-FOUR; TWENTY-FIVE; TWENTY-SIX; TWENTY-SEVEN;
TWENTY-EIGHT; TWENTY-NINE; THIRTY; THIRTY-ONE; +SQUARE ; GAL; @4DC0; +HEXAGRAM FOR ;
THE CREATIVE HEAVEN; THE RECEPTIVE EARTH; DIFFICULTY AT THE BEGINNING; YOUTHFUL FOLLY; WAITING;
CONFLICT; THE ARMY; HOLDING TOGETHER; SMALL TAMING; TREADING; PEACE; STANDSTILL; FELLOWSHIP;
GREAT POSSESSION; MODESTY; ENTHUSIASM; FOLLOWING; WORK ON THE DECAYED; APPROACH; CONTEMPLATION;
BITING THROUGH; GRACE; SPLITTING APART; RETURN; INNOCENCE; GREAT TAMING; MOUTH CORNERS;
GREAT PREPONDERANCE; THE ABYSMAL WATER; THE CLINGING FIRE; INFLUENCE; DURATION; RETREAT;
GREAT POWER; PROGRESS; DARKENING OF THE LIGHT; THE FAMILY; OPPOSITION; OBSTRUCTION; DELIVERANCE;
DECREASE; INCREASE; BREAKTHROUGH; COMING TO MEET; GATHERING TOGETHER; PUSHING UPWARD; OPPRESSION;
THE WELL; REVOLUTION; THE CAULDRON; THE AROUSING THUNDER; THE KEEPING STILL MOUNTAIN; DEVELOPMENT;
THE MARRYING MAIDEN; ABUNDANCE; THE WANDERER; THE GENTLE WIND; THE JOYOUS LAKE; DISPERSION;
LIMITATION; INNER TRUTH; SMALL PREPONDERANCE; AFTER COMPLETION; BEFORE COMPLETION;
"

end PythonSyntax.Unicode
