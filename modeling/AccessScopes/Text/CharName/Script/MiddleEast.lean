import AccessScopes.Text.CharName.Block

/-!
# `AccessScopes.Text.CharName.Script.MiddleEast`: names of Middle Eastern letters

The scripts of the Middle East and of Iran, with the presentation forms of Arabic.
-/

set_option autoImplicit false

namespace AccessScopes.Text

/-- The blocks of Middle Eastern scripts. -/
def middleEastBlocks : List NameBlock := [
  -- Hebrew
  ⟨0x591, [
    "HEBREW ACCENT ETNAHTA,~~SEGOL,~~SHALSHELET,~~ZAQEF QATAN,~~~GADOL,~~TIPEHA,~~REVIA,~~ZARQA",
    "~~PASHTA,~~YETIV,~~TEVIR,~~GERESH,~~~MUQDAM,~~GERSHAYIM,~~QARNEY PARA,~~TELISHA GEDOLA",
    "~~PAZER,~~ATNAH HAFUKH,~~MUNAH,~~MAHAPAKH,~~MERKHA,~~~KEFULA,~~DARGA,~~QADMA",
    "~~TELISHA QETANA,~~YERAH BEN YOMO,~~OLE,~~ILUY,~~DEHI,~~ZINOR,~MARK MASORA CIRCLE",
    "~POINT SHEVA,~~HATAF SEGOL,~~~PATAH,~~~QAMATS,~~HIRIQ,~~TSERE,~~SEGOL,~~PATAH,~~QAMATS",
    "~~HOLAM,~~~HASER FOR VAV,~~QUBUTS,~~DAGESH OR MAPIQ,~~METEG,~PUNCTUATION MAQAF,~POINT RAFE",
    "~PUNCTUATION PASEQ,~POINT SHIN DOT,~~SIN~,~PUNCTUATION SOF PASUQ,~MARK UPPER DOT,~~LOWER~",
    "~PUNCTUATION NUN HAFUKHA,~POINT QAMATS QATAN,,,,,,,,,~LETTER ALEF,~~BET,~~GIMEL,~~DALET",
    "~~HE,~~VAV,~~ZAYIN,~~HET,~~TET,~~YOD,~~FINAL KAF,~~KAF,~~LAMED,~~FINAL MEM,~~MEM",
    "~~FINAL NUN,~~NUN,~~SAMEKH,~~AYIN,~~FINAL PE,~~PE,~~FINAL TSADI,~~TSADI,~~QOF,~~RESH,~~SHIN",
    "~~TAV,,,,,~YOD TRIANGLE,~LIGATURE YIDDISH DOUBLE VAV,~~~VAV YOD,~~~DOUBLE~",
    "~PUNCTUATION GERESH,~~GERSHAYIM"]⟩,
  -- Arabic
  ⟨0x600, [
    "ARABIC NUMBER SIGN,~SIGN SANAH,~FOOTNOTE MARKER,~SIGN SAFHA,~~SAMVAT,~NUMBER MARK ABOVE",
    "ARABIC-INDIC CUBE ROOT,~FOURTH~,ARABIC RAY,ARABIC-INDIC PER MILLE SIGN,~~TEN THOUSAND SIGN",
    "AFGHANI SIGN,ARABIC COMMA,~DATE SEPARATOR,~POETIC VERSE SIGN,~SIGN MISRA",
    "~~SALLALLAHOU ALAYHE WASSALLAM,~~ALAYHE ASSALLAM,~~RAHMATULLAH ALAYHE,~~RADI ALLAHOU ANHU",
    "~~TAKHALLUS,~SMALL HIGH TAH,~~~LIGATURE ALEF WITH LAM WITH YEH,~~~ZAIN,~~FATHA,~~DAMMA",
    "~~KASRA,~SEMICOLON,~LETTER MARK,~END OF TEXT MARK,~TRIPLE DOT PUNCTUATION~,~QUESTION MARK",
    "~LETTER KASHMIRI YEH,~~HAMZA,~~ALEF WITH MADDA ABOVE,~~~~HAMZA~,~~WAW~~~,~~ALEF~~BELOW",
    "~~YEH~~ABOVE,~~ALEF,~~BEH,~~TEH MARBUTA,~~~,~~THEH,~~JEEM,~~HAH,~~KHAH,~~DAL,~~THAL,~~REH",
    "~~ZAIN,~~SEEN,~~SHEEN,~~SAD,~~DAD,~~TAH,~~ZAH,~~AIN,~~GHAIN,~~KEHEH WITH TWO DOTS ABOVE",
    "~~~~THREE~BELOW,~~FARSI YEH WITH INVERTED V,~~~~~TWO DOTS ABOVE,~~~~~THREE~~,~TATWEEL",
    "~LETTER FEH,~~QAF,~~KAF,~~LAM,~~MEEM,~~NOON,~~HEH,~~WAW,~~ALEF MAKSURA,~~YEH,~FATHATAN",
    "~DAMMATAN,~KASRATAN,~FATHA,~DAMMA,~KASRA,~SHADDA,~SUKUN,~MADDAH ABOVE,~HAMZA~,~~BELOW",
    "~SUBSCRIPT ALEF,~INVERTED DAMMA,~MARK NOON GHUNNA,~ZWARAKAY,~VOWEL SIGN SMALL V ABOVE",
    "~~~INVERTED SMALL V ABOVE,~~~DOT BELOW,~REVERSED DAMMA,~FATHA WITH TWO DOTS",
    "~WAVY HAMZA BELOW,ARABIC-INDIC DIGIT ZERO,~~ONE,~~TWO,~~THREE,~~FOUR,~~FIVE,~~SIX,~~SEVEN",
    "~~EIGHT,~~NINE,ARABIC PERCENT SIGN,~DECIMAL SEPARATOR,~THOUSANDS~,~FIVE POINTED STAR",
    "~LETTER DOTLESS BEH,~~~QAF,~~SUPERSCRIPT ALEF,~~ALEF WASLA,~~~WITH WAVY HAMZA ABOVE",
    "~~~~~~BELOW,~~HIGH HAMZA,~~~~ALEF,~~~~WAW,~~U WITH HAMZA ABOVE,~~HIGH HAMZA YEH,~~TTEH",
    "~~TTEHEH,~~BEEH,~~TEH WITH RING,~~~~THREE DOTS ABOVE DOWNWARDS,~~PEH,~~TEHEH,~~BEHEH",
    "~~HAH WITH HAMZA ABOVE,~~~~TWO DOTS VERTICAL ABOVE,~~NYEH,~~DYEH",
    "~~HAH WITH THREE DOTS ABOVE,~~TCHEH,~~TCHEHEH,~~DDAL,~~DAL WITH RING,~~~~DOT BELOW",
    "~~~~~~AND SMALL TAH,~~DAHAL,~~DDAHAL,~~DUL,~~DAL WITH THREE DOTS ABOVE DOWNWARDS,~~~~FOUR~~",
    "~~RREH,~~REH WITH SMALL V,~~~~RING,~~~~DOT BELOW,~~~~SMALL V BELOW",
    "~~~~DOT BELOW AND DOT ABOVE,~~~~TWO DOTS ABOVE,~~JEH,~~REH WITH FOUR DOTS ABOVE",
    "~~SEEN~DOT BELOW AND DOT ABOVE,~~~~THREE DOTS BELOW,~~~~~~~AND THREE DOTS ABOVE,~~SAD~TWO~~",
    "~~~~THREE~ABOVE,~~TAH~~~~,~~AIN~~~~,~~DOTLESS FEH,~~FEH WITH DOT MOVED BELOW,~~~~~BELOW",
    "~~VEH,~~FEH WITH THREE DOTS BELOW,~~PEHEH,~~QAF WITH DOT ABOVE,~~~~THREE DOTS ABOVE,~~KEHEH",
    "~~SWASH KAF,~~KAF WITH RING,~~~~DOT ABOVE,~~NG,~~KAF WITH THREE DOTS BELOW,~~GAF",
    "~~~WITH RING,~~NGOEH,~~GAF WITH TWO DOTS BELOW,~~GUEH,~~GAF WITH THREE DOTS ABOVE",
    "~~LAM~SMALL V,~~~~DOT ABOVE,~~~~THREE DOTS ABOVE,~~~~~~BELOW,~~NOON~DOT BELOW,~~~GHUNNA",
    "~~RNOON,~~NOON WITH RING,~~~~THREE DOTS ABOVE,~~HEH DOACHASHMEE,~~TCHEH WITH DOT ABOVE",
    "~~HEH~YEH~,~~~GOAL,~~~~WITH HAMZA ABOVE,~~TEH MARBUTA GOAL,~~WAW WITH RING,~~KIRGHIZ OE",
    "~~OE,~~U,~~YU,~~KIRGHIZ YU,~~WAW WITH TWO DOTS ABOVE,~~VE,~~FARSI YEH,~~YEH WITH TAIL",
    "~~~~SMALL V,~~WAW~DOT ABOVE,~~E,~~YEH WITH THREE DOTS BELOW,~~~BARREE,~~~~WITH HAMZA ABOVE",
    "~FULL STOP,~LETTER AE,~SMALL HIGH LIGATURE SAD WITH LAM WITH ALEF MAKSURA,~~~~QAF~~~~~",
    "~~~MEEM INITIAL FORM,~~~LAM ALEF,~~~JEEM,~~~THREE DOTS,~~~SEEN,~END OF AYAH",
    "~START~RUB EL HIZB,~SMALL HIGH ROUNDED ZERO,~~~UPRIGHT RECTANGULAR ZERO",
    "~~~DOTLESS HEAD OF KHAH,~~~MEEM ISOLATED FORM,~~LOW SEEN,~~HIGH MADDA,~~WAW,~~YEH",
    "~~HIGH YEH,~~~NOON,~PLACE OF SAJDAH,~EMPTY CENTRE LOW STOP,~~~HIGH~",
    "~ROUNDED HIGH STOP WITH FILLED CENTRE,~SMALL LOW MEEM,~LETTER DAL WITH INVERTED V,~~REH~~~",
    "EXTENDED ARABIC-INDIC DIGIT ZERO,~~~ONE,~~~TWO,~~~THREE,~~~FOUR,~~~FIVE,~~~SIX,~~~SEVEN",
    "~~~EIGHT,~~~NINE,ARABIC LETTER SHEEN WITH DOT BELOW,~~DAD~~~,~~GHAIN~~~",
    "~SIGN SINDHI AMPERSAND,~~~POSTPOSITION MEN,~LETTER HEH WITH INVERTED V"]⟩,
  -- Syriac
  ⟨0x700, [
    "SYRIAC END OF PARAGRAPH,~SUPRALINEAR FULL STOP,~SUBLINEAR~~,~SUPRALINEAR COLON,~SUBLINEAR~",
    "~HORIZONTAL~,~COLON SKEWED LEFT,~~~RIGHT,~SUPRALINEAR COLON SKEWED LEFT,~SUBLINEAR~~RIGHT",
    "~CONTRACTION,~HARKLEAN OBELUS,~~METOBELUS,~~ASTERISCUS,,~ABBREVIATION MARK,~LETTER ALAPH",
    "~~SUPERSCRIPT ALAPH,~~BETH,~~GAMAL,~~~GARSHUNI,~~DALATH,~~DOTLESS DALATH RISH,~~HE,~~WAW",
    "~~ZAIN,~~HETH,~~TETH,~~~GARSHUNI,~~YUDH,~~~HE,~~KAPH,~~LAMADH,~~MIM,~~NUN,~~SEMKATH",
    "~~FINAL SEMKATH,~~E,~~PE,~~REVERSED PE,~~SADHE,~~QAPH,~~RISH,~~SHIN,~~TAW,~~PERSIAN BHETH",
    "~~~GHAMAL,~~~DHALATH,~PTHAHA ABOVE,~~BELOW,~~DOTTED,~ZQAPHA ABOVE,~~BELOW,~~DOTTED",
    "~RBASA ABOVE,~~BELOW,~DOTTED ZLAMA HORIZONTAL,~~~ANGULAR,~HBASA ABOVE,~~BELOW",
    "~HBASA-ESASA DOTTED,~ESASA ABOVE,~~BELOW,~RWAHA,~FEMININE DOT,~QUSHSHAYA,~RUKKAKHA",
    "~TWO VERTICAL DOTS ABOVE,~~~~BELOW,~THREE DOTS ABOVE,~~~BELOW,~OBLIQUE LINE ABOVE,~~~BELOW",
    "~MUSIC,~BARREKH,,,~LETTER SOGDIAN ZHAIN,~~~KHAPH,~~~FE"]⟩,
  -- Arabic Supplement
  ⟨0x750, [
    "ARABIC LETTER BEH WITH THREE DOTS HORIZONTALLY BELOW,~~~~DOT BELOW AND THREE DOTS ABOVE",
    "~~~~THREE DOTS POINTING UPWARDS BELOW,~~~~~~~~~AND TWO DOTS ABOVE",
    "~~~~TWO~BELOW AND DOT ABOVE,~~~~INVERTED SMALL V BELOW,~~~~SMALL V,~~HAH~TWO DOTS ABOVE",
    "~~~~THREE~POINTING UPWARDS BELOW,~~DAL~TWO~VERTICALLY BELOW AND SMALL TAH",
    "~~~~INVERTED SMALL V~,~~REH~STROKE,~~SEEN~FOUR DOTS ABOVE,~~AIN~TWO~~",
    "~~~~THREE~POINTING DOWNWARDS ABOVE,~~~~TWO~VERTICALLY ABOVE,~~FEH~~~BELOW",
    "~~~~THREE~POINTING UPWARDS BELOW,~~KEHEH~DOT ABOVE,~~~~THREE DOTS ABOVE",
    "~~~~~~POINTING UPWARDS BELOW,~~MEEM~DOT ABOVE,~~~~~BELOW,~~NOON~TWO DOTS BELOW",
    "~~~~SMALL TAH,~~~~~V,~~LAM~BAR,~~REH~TWO DOTS VERTICALLY ABOVE,~~~~HAMZA ABOVE",
    "~~SEEN~TWO DOTS VERTICALLY ABOVE,~~HAH~SMALL ARABIC LETTER TAH BELOW,~~~~~~~~AND TWO DOTS",
    "~~SEEN~~~~~~~~,~~REH~~~~~~~~,~~HAH~~~~~ABOVE,~~ALEF~EXTENDED ARABIC-INDIC DIGIT TWO~",
    "~~~~~~~THREE~,~~FARSI YEH WITH EXTENDED ARABIC-INDIC DIGIT TWO ABOVE,~~~~~~~~THREE~",
    "~~~~~~~~FOUR BELOW,~~WAW WITH EXTENDED ARABIC-INDIC DIGIT TWO ABOVE,~~~~~~~THREE~",
    "~~YEH BARREE WITH EXTENDED ARABIC-INDIC DIGIT TWO ABOVE,~~~~~~~~THREE~",
    "~~HAH WITH EXTENDED ARABIC-INDIC DIGIT FOUR BELOW,~~SEEN~~~~~ABOVE,~~~~INVERTED V",
    "~~KAF~TWO DOTS ABOVE"]⟩,
  -- Samaritan
  ⟨0x800, [
    "SAMARITAN LETTER ALAF,~~BIT,~~GAMAN,~~DALAT,~~IY,~~BAA,~~ZEN,~~IT,~~TIT,~~YUT,~~KAAF",
    "~~LABAT,~~MIM,~~NUN,~~SINGAAT,~~IN,~~FI,~~TSAADIY,~~QUF,~~RISH,~~SHAN,~~TAAF,~MARK IN",
    "~~IN-ALAF,~~OCCLUSION,~~DAGESH,~MODIFIER LETTER EPENTHETIC YUT,~MARK EPENTHETIC YUT",
    "~VOWEL SIGN LONG E,~~~E,~~~OVERLONG AA,~~~LONG~,~~~AA,~~~OVERLONG A,~~~LONG~,~~~A",
    "~MODIFIER LETTER SHORT A,~VOWEL SIGN~~,~~~LONG U,~~~U,~MODIFIER LETTER I,~VOWEL SIGN LONG I",
    "~~~I,~~~O,~~~SUKUN,~MARK NEQUDAA,,,~PUNCTUATION~,~~AFSAAQ,~~ANGED,~~BAU,~~ATMAAU",
    "~~SHIYYAALAA,~ABBREVIATION MARK,~PUNCTUATION MELODIC QITSA,~~ZIQAA,~~QITSA,~~ZAEF,~~TURU",
    "~~ARKAANU,~~SOF MASHFAAT,~~ANNAAU"]⟩,
  -- Mandaic
  ⟨0x840, [
    "MANDAIC LETTER HALQA,~~AB,~~AG,~~AD,~~AH,~~USHENNA,~~AZ,~~IT,~~ATT,~~AKSA,~~AK,~~AL,~~AM",
    "~~AN,~~AS,~~IN,~~AP,~~ASZ,~~AQ,~~AR,~~ASH,~~AT,~~DUSHENNA,~~KAD,~~AIN,~AFFRICATION MARK",
    "~VOCALIZATION~,~GEMINATION~,,,~PUNCTUATION"]⟩,
  -- Syriac Supplement
  ⟨0x860, [
    "SYRIAC LETTER MALAYALAM NGA,~~~JA,~~~NYA,~~~TTA,~~~NNA,~~~NNNA,~~~BHA,~~~RA,~~~LLA,~~~LLLA",
    "~~~SSA"]⟩,
  -- Arabic Extended-B
  ⟨0x870, [
    "ARABIC LETTER ALEF WITH ATTACHED FATHA,~~~~~TOP RIGHT FATHA,~~~~RIGHT MIDDLE STROKE",
    "~~~~LEFT~~,~~~~ATTACHED KASRA,~~~~~BOTTOM RIGHT KASRA,~~~~~ROUND DOT ABOVE",
    "~~~~~RIGHT ROUND DOT,~~~~~LEFT~~,~~~~~ROUND DOT BELOW,~~~~DOT ABOVE",
    "~~~~ATTACHED TOP RIGHT FATHA AND DOT ABOVE,~~~~RIGHT MIDDLE STROKE AND DOT ABOVE",
    "~~~~ATTACHED BOTTOM RIGHT KASRA AND DOT ABOVE,~~~~~TOP~FATHA~LEFT RING",
    "~~~~RIGHT MIDDLE STROKE AND LEFT RING,~~~~ATTACHED BOTTOM RIGHT KASRA AND LEFT RING",
    "~~~~~RIGHT HAMZA,~~~~~LEFT~,~TATWEEL WITH OVERSTRUCK HAMZA,~~~~WAW,~~~TWO DOTS BELOW",
    "~LETTER THIN YEH,~BASELINE ROUND DOT,~RAISED~~,~LETTER NOON WITH INVERTED SMALL V",
    "~~HAH~~~~BELOW,~~TAH~DOT BELOW,~~~~THREE DOTS BELOW,~~KEHEH~TWO~VERTICALLY BELOW",
    "~VERTICAL TAIL,,~POUND MARK ABOVE,~PIASTRE~~,,,,,,,~SMALL HIGH WORD AL-JUZ,~~LOW~ISHMAAM",
    "~~~~IMAALA,~~~~TASHEEL,~MADDA WAAJIB,~SUPERSCRIPT ALEF MOKHASSAS,~DOUBLED MADDA",
    "~HALF~OVER MADDA"]⟩,
  -- Arabic Extended-A
  ⟨0x8a0, [
    "ARABIC LETTER BEH WITH SMALL V BELOW,~~~~HAMZA ABOVE,~~JEEM~TWO DOTS ABOVE,~~TAH~~~~",
    "~~FEH~DOT BELOW AND THREE DOTS ABOVE,~~QAF~~~,~~LAM~DOUBLE BAR,~~MEEM~THREE DOTS ABOVE",
    "~~YEH~TWO~BELOW AND HAMZA ABOVE,~~~~~~~~DOT~,~~REH~LOOP,~~WAW~DOT WITHIN,~~ROHINGYA YEH",
    "~~LOW ALEF,~~DAL WITH THREE DOTS BELOW,~~SAD~~~~,~~GAF~INVERTED STROKE,~~STRAIGHT WAW",
    "~~ZAIN WITH INVERTED V ABOVE,~~AIN~THREE DOTS BELOW,~~KAF~DOT BELOW",
    "~~QAF~~~AND NO DOTS ABOVE,~~BEH~SMALL MEEM ABOVE,~~PEH~~~~,~~TEH~~TEH~,~~REH~~NOON~",
    "~~YEH~TWO DOTS BELOW AND SMALL NOON ABOVE,~~AFRICAN FEH,~~~QAF,~~~NOON,~~PEH WITH SMALL V",
    "~~TEH~~~,~~TTEH~~~,~~TCHEH~~~,~~KEHEH~~~,~~GHAIN~THREE DOTS ABOVE",
    "~~AFRICAN QAF WITH THREE DOTS ABOVE,~~JEEM WITH THREE DOTS ABOVE,~~~~~~BELOW",
    "~~LAM~SMALL ARABIC LETTER TAH ABOVE,~~GRAF,~SMALL FARSI YEH,~~HIGH FARSI YEH",
    "~~~YEH BARREE WITH TWO DOTS BELOW,~~~WORD SAH,~~~ZAH,~LARGE ROUND DOT ABOVE,~~~~BELOW",
    "~SUKUN BELOW,~LARGE CIRCLE BELOW,~~ROUND DOT INSIDE CIRCLE BELOW,~SMALL LOW WAW",
    "~~HIGH WORD AR-RUB,~~~SAD,~~~AIN,~~~QAF,~~~NOON WITH KASRA,~~LOW~~~",
    "~~HIGH WORD ATH-THALATHA,~~~~AS-SAJDA,~~~~AN-NISF,~~~~SAKTA,~~~~QIF,~~~~WAQFA",
    "~~~FOOTNOTE MARKER,~~~SIGN SAFHA,~DISPUTED END OF AYAH,~TURNED DAMMA BELOW,~CURLY FATHA",
    "~~DAMMA,~~KASRA,~~FATHATAN,~~DAMMATAN,~~KASRATAN,~TONE ONE DOT ABOVE,~~TWO DOTS~",
    "~~LOOP ABOVE,~~ONE DOT BELOW,~~TWO DOTS~,~~LOOP BELOW,~OPEN FATHATAN,~~DAMMATAN,~~KASRATAN",
    "~SMALL HIGH WAW,~FATHA WITH RING,~~~DOT ABOVE,~KASRA~~BELOW,~LEFT ARROWHEAD ABOVE,~RIGHT~~",
    "~LEFT~BELOW,~RIGHT~~,~DOUBLE RIGHT ARROWHEAD ABOVE,~~~~~WITH DOT",
    "~RIGHT ARROWHEAD ABOVE WITH DOT,~DAMMA WITH DOT,~MARK SIDEWAYS NOON GHUNNA"]⟩,
  -- Arabic Presentation Forms-A
  ⟨0xfb50, [
    "ARABIC LETTER ALEF WASLA ISOLATED FORM,~~~~FINAL~,~~BEEH ISOLATED FORM,~~~FINAL~",
    "~~~INITIAL~,~~~MEDIAL~,~~PEH ISOLATED~,~~~FINAL~,~~~INITIAL~,~~~MEDIAL~,~~BEHEH ISOLATED~",
    "~~~FINAL~,~~~INITIAL~,~~~MEDIAL~,~~TTEHEH ISOLATED~,~~~FINAL~,~~~INITIAL~,~~~MEDIAL~",
    "~~TEHEH ISOLATED~,~~~FINAL~,~~~INITIAL~,~~~MEDIAL~,~~TTEH ISOLATED~,~~~FINAL~,~~~INITIAL~",
    "~~~MEDIAL~,~~VEH ISOLATED~,~~~FINAL~,~~~INITIAL~,~~~MEDIAL~,~~PEHEH ISOLATED~,~~~FINAL~",
    "~~~INITIAL~,~~~MEDIAL~,~~DYEH ISOLATED~,~~~FINAL~,~~~INITIAL~,~~~MEDIAL~,~~NYEH ISOLATED~",
    "~~~FINAL~,~~~INITIAL~,~~~MEDIAL~,~~TCHEH ISOLATED~,~~~FINAL~,~~~INITIAL~,~~~MEDIAL~",
    "~~TCHEHEH ISOLATED~,~~~FINAL~,~~~INITIAL~,~~~MEDIAL~,~~DDAHAL ISOLATED~,~~~FINAL~",
    "~~DAHAL ISOLATED~,~~~FINAL~,~~DUL ISOLATED~,~~~FINAL~,~~DDAL ISOLATED~,~~~FINAL~",
    "~~JEH ISOLATED~,~~~FINAL~,~~RREH ISOLATED~,~~~FINAL~,~~KEHEH ISOLATED~,~~~FINAL~",
    "~~~INITIAL~,~~~MEDIAL~,~~GAF ISOLATED~,~~~FINAL~,~~~INITIAL~,~~~MEDIAL~,~~GUEH ISOLATED~",
    "~~~FINAL~,~~~INITIAL~,~~~MEDIAL~,~~NGOEH ISOLATED~,~~~FINAL~,~~~INITIAL~,~~~MEDIAL~",
    "~~NOON GHUNNA ISOLATED FORM,~~~~FINAL~,~~RNOON ISOLATED FORM,~~~FINAL~,~~~INITIAL~",
    "~~~MEDIAL~,~~HEH WITH YEH ABOVE ISOLATED FORM,~~~~~~FINAL~,~~~GOAL ISOLATED FORM,~~~~FINAL~",
    "~~~~INITIAL~,~~~~MEDIAL~,~~~DOACHASHMEE ISOLATED~,~~~~FINAL~,~~~~INITIAL~,~~~~MEDIAL~",
    "~~YEH BARREE ISOLATED~,~~~~FINAL~,~~~~WITH HAMZA ABOVE ISOLATED FORM,~~~~~~~FINAL~",
    "~SYMBOL DOT ABOVE,~~~BELOW,~~TWO DOTS ABOVE,~~~~BELOW,~~THREE~ABOVE,~~~~BELOW",
    "~~~~POINTING DOWNWARDS ABOVE,~~~~~~BELOW,~~FOUR~ABOVE,~~~~BELOW,~~DOUBLE VERTICAL BAR BELOW",
    "~~TWO DOTS VERTICALLY ABOVE,~~~~~BELOW,~~RING,~~SMALL TAH ABOVE,~~~~BELOW,~~WASLA ABOVE"]⟩,
  ⟨0xfbd3, [
    "ARABIC LETTER NG ISOLATED FORM,~~~FINAL~,~~~INITIAL~,~~~MEDIAL~,~~U ISOLATED~,~~~FINAL~",
    "~~OE ISOLATED~,~~~FINAL~,~~YU ISOLATED~,~~~FINAL~,~~U WITH HAMZA ABOVE ISOLATED FORM",
    "~~VE ISOLATED FORM,~~~FINAL~,~~KIRGHIZ OE ISOLATED FORM,~~~~FINAL~,~~~YU ISOLATED~",
    "~~~~FINAL~,~~E ISOLATED FORM,~~~FINAL~,~~~INITIAL~,~~~MEDIAL~",
    "~~UIGHUR KAZAKH KIRGHIZ ALEF MAKSURA INITIAL FORM,~~~~~~~MEDIAL~",
    "~LIGATURE YEH WITH HAMZA ABOVE WITH ALEF ISOLATED FORM,~~~~~~~~FINAL~,~~~~~~~AE ISOLATED~",
    "~~~~~~~~FINAL~,~~~~~~~WAW ISOLATED~,~~~~~~~~FINAL~,~~~~~~~U ISOLATED~,~~~~~~~~FINAL~",
    "~~~~~~~OE ISOLATED~,~~~~~~~~FINAL~,~~~~~~~YU ISOLATED~,~~~~~~~~FINAL~,~~~~~~~E ISOLATED~",
    "~~~~~~~~FINAL~,~~~~~~~~INITIAL~",
    "~~UIGHUR KIRGHIZ YEH WITH HAMZA ABOVE WITH ALEF MAKSURA ISOLATED FORM,~~~~~~~~~~~FINAL~",
    "~~~~~~~~~~~INITIAL~,~LETTER FARSI YEH ISOLATED FORM,~~~~FINAL~,~~~~INITIAL~,~~~~MEDIAL~",
    "~LIGATURE YEH WITH HAMZA ABOVE WITH JEEM ISOLATED FORM,~~~~~~~HAH~~,~~~~~~~MEEM~~",
    "~~~~~~~ALEF MAKSURA ISOLATED FORM,~~~~~~~YEH ISOLATED FORM,~~BEH~JEEM ISOLATED FORM",
    "~~~~HAH~~,~~~~KHAH~~,~~~~MEEM~~,~~~~ALEF MAKSURA ISOLATED FORM,~~~~YEH ISOLATED FORM",
    "~~TEH~JEEM~~,~~~~HAH~~,~~~~KHAH~~,~~~~MEEM~~,~~~~ALEF MAKSURA ISOLATED FORM",
    "~~~~YEH ISOLATED FORM,~~THEH~JEEM~~,~~~~MEEM~~,~~~~ALEF MAKSURA ISOLATED FORM",
    "~~~~YEH ISOLATED FORM,~~JEEM~HAH~~,~~~~MEEM~~,~~HAH~JEEM~~,~~~~MEEM~~,~~KHAH~JEEM~~",
    "~~~~HAH~~,~~~~MEEM~~,~~SEEN~JEEM~~,~~~~HAH~~,~~~~KHAH~~,~~~~MEEM~~,~~SAD~HAH~~,~~~~MEEM~~",
    "~~DAD~JEEM~~,~~~~HAH~~,~~~~KHAH~~,~~~~MEEM~~,~~TAH~HAH~~,~~~~MEEM~~,~~ZAH~~~~,~~AIN~JEEM~~",
    "~~~~MEEM~~,~~GHAIN~JEEM~~,~~~~MEEM~~,~~FEH~JEEM~~,~~~~HAH~~,~~~~KHAH~~,~~~~MEEM~~",
    "~~~~ALEF MAKSURA ISOLATED FORM,~~~~YEH ISOLATED FORM,~~QAF~HAH~~,~~~~MEEM~~",
    "~~~~ALEF MAKSURA ISOLATED FORM,~~~~YEH ISOLATED FORM,~~KAF~ALEF~~,~~~~JEEM~~,~~~~HAH~~",
    "~~~~KHAH~~,~~~~LAM~~,~~~~MEEM~~,~~~~ALEF MAKSURA ISOLATED FORM,~~~~YEH ISOLATED FORM",
    "~~LAM~JEEM~~,~~~~HAH~~,~~~~KHAH~~,~~~~MEEM~~,~~~~ALEF MAKSURA ISOLATED FORM",
    "~~~~YEH ISOLATED FORM,~~MEEM~JEEM~~,~~~~HAH~~,~~~~KHAH~~,~~~~MEEM~~",
    "~~~~ALEF MAKSURA ISOLATED FORM,~~~~YEH ISOLATED FORM,~~NOON~JEEM~~,~~~~HAH~~,~~~~KHAH~~",
    "~~~~MEEM~~,~~~~ALEF MAKSURA ISOLATED FORM,~~~~YEH ISOLATED FORM,~~HEH~JEEM~~,~~~~MEEM~~",
    "~~~~ALEF MAKSURA ISOLATED FORM,~~~~YEH ISOLATED FORM,~~YEH~JEEM~~,~~~~HAH~~,~~~~KHAH~~",
    "~~~~MEEM~~,~~~~ALEF MAKSURA ISOLATED FORM,~~~~YEH ISOLATED FORM",
    "~~THAL~SUPERSCRIPT ALEF ISOLATED FORM,~~REH~~~~~",
    "~~ALEF MAKSURA WITH SUPERSCRIPT ALEF ISOLATED FORM,~~SHADDA WITH DAMMATAN ISOLATED FORM",
    "~~~~KASRATAN~~,~~~~FATHA~~,~~~~DAMMA~~,~~~~KASRA~~,~~~~SUPERSCRIPT ALEF ISOLATED FORM",
    "~~YEH~HAMZA ABOVE WITH REH FINAL FORM,~~~~~~~ZAIN~~,~~~~~~~MEEM~~,~~~~~~~NOON~~",
    "~~~~~~~ALEF MAKSURA FINAL FORM,~~~~~~~YEH FINAL FORM,~~BEH~REH FINAL FORM,~~~~ZAIN~~",
    "~~~~MEEM~~,~~~~NOON~~,~~~~ALEF MAKSURA FINAL FORM,~~~~YEH FINAL FORM,~~TEH~REH~~,~~~~ZAIN~~",
    "~~~~MEEM~~,~~~~NOON~~,~~~~ALEF MAKSURA FINAL FORM,~~~~YEH FINAL FORM,~~THEH~REH~~",
    "~~~~ZAIN~~,~~~~MEEM~~,~~~~NOON~~,~~~~ALEF MAKSURA FINAL FORM,~~~~YEH FINAL FORM",
    "~~FEH~ALEF MAKSURA FINAL FORM,~~~~YEH FINAL FORM,~~QAF~ALEF MAKSURA FINAL FORM",
    "~~~~YEH FINAL FORM,~~KAF~ALEF~~,~~~~LAM~~,~~~~MEEM~~,~~~~ALEF MAKSURA FINAL FORM",
    "~~~~YEH FINAL FORM,~~LAM~MEEM~~,~~~~ALEF MAKSURA FINAL FORM,~~~~YEH FINAL FORM",
    "~~MEEM~ALEF~~,~~~~MEEM~~,~~NOON~REH~~,~~~~ZAIN~~,~~~~MEEM~~,~~~~NOON~~",
    "~~~~ALEF MAKSURA FINAL FORM,~~~~YEH FINAL FORM",
    "~~ALEF MAKSURA WITH SUPERSCRIPT ALEF FINAL FORM,~~YEH WITH REH FINAL FORM,~~~~ZAIN~~",
    "~~~~MEEM~~,~~~~NOON~~,~~~~ALEF MAKSURA FINAL FORM,~~~~YEH FINAL FORM",
    "~~~~HAMZA ABOVE WITH JEEM INITIAL FORM,~~~~~~~HAH~~,~~~~~~~KHAH~~,~~~~~~~MEEM~~",
    "~~~~~~~HEH~~,~~BEH~JEEM INITIAL FORM,~~~~HAH~~,~~~~KHAH~~,~~~~MEEM~~,~~~~HEH~~,~~TEH~JEEM~~",
    "~~~~HAH~~,~~~~KHAH~~,~~~~MEEM~~,~~~~HEH~~,~~THEH~MEEM~~,~~JEEM~HAH~~,~~~~MEEM~~",
    "~~HAH~JEEM~~,~~~~MEEM~~,~~KHAH~JEEM~~,~~~~MEEM~~,~~SEEN~JEEM~~,~~~~HAH~~,~~~~KHAH~~",
    "~~~~MEEM~~,~~SAD~HAH~~,~~~~KHAH~~,~~~~MEEM~~,~~DAD~JEEM~~,~~~~HAH~~,~~~~KHAH~~,~~~~MEEM~~",
    "~~TAH~HAH~~,~~ZAH~MEEM~~,~~AIN~JEEM~~,~~~~MEEM~~,~~GHAIN~JEEM~~,~~~~MEEM~~,~~FEH~JEEM~~",
    "~~~~HAH~~,~~~~KHAH~~,~~~~MEEM~~,~~QAF~HAH~~,~~~~MEEM~~,~~KAF~JEEM~~,~~~~HAH~~,~~~~KHAH~~",
    "~~~~LAM~~,~~~~MEEM~~,~~LAM~JEEM~~,~~~~HAH~~,~~~~KHAH~~,~~~~MEEM~~,~~~~HEH~~,~~MEEM~JEEM~~",
    "~~~~HAH~~,~~~~KHAH~~,~~~~MEEM~~,~~NOON~JEEM~~,~~~~HAH~~,~~~~KHAH~~,~~~~MEEM~~,~~~~HEH~~",
    "~~HEH~JEEM~~,~~~~MEEM~~,~~~~SUPERSCRIPT ALEF INITIAL FORM,~~YEH~JEEM INITIAL FORM,~~~~HAH~~",
    "~~~~KHAH~~,~~~~MEEM~~,~~~~HEH~~,~~~~HAMZA ABOVE WITH MEEM MEDIAL FORM,~~~~~~~HEH~~",
    "~~BEH~MEEM MEDIAL FORM,~~~~HEH~~,~~TEH~MEEM~~,~~~~HEH~~,~~THEH~MEEM~~,~~~~HEH~~",
    "~~SEEN~MEEM~~,~~~~HEH~~,~~SHEEN~MEEM~~,~~~~HEH~~,~~KAF~LAM~~,~~~~MEEM~~,~~LAM~~~~",
    "~~NOON~~~~,~~~~HEH~~,~~YEH~MEEM~~,~~~~HEH~~,~~SHADDA~FATHA~~,~~~~DAMMA~~,~~~~KASRA~~",
    "~~TAH~ALEF MAKSURA ISOLATED FORM,~~~~YEH ISOLATED FORM,~~AIN~ALEF MAKSURA ISOLATED FORM",
    "~~~~YEH ISOLATED FORM,~~GHAIN~ALEF MAKSURA ISOLATED FORM,~~~~YEH ISOLATED FORM",
    "~~SEEN~ALEF MAKSURA ISOLATED FORM,~~~~YEH ISOLATED FORM,~~SHEEN~ALEF MAKSURA ISOLATED FORM",
    "~~~~YEH ISOLATED FORM,~~HAH~ALEF MAKSURA ISOLATED FORM,~~~~YEH ISOLATED FORM",
    "~~JEEM~ALEF MAKSURA ISOLATED FORM,~~~~YEH ISOLATED FORM,~~KHAH~ALEF MAKSURA ISOLATED FORM",
    "~~~~YEH ISOLATED FORM,~~SAD~ALEF MAKSURA ISOLATED FORM,~~~~YEH ISOLATED FORM",
    "~~DAD~ALEF MAKSURA ISOLATED FORM,~~~~YEH ISOLATED FORM,~~SHEEN~JEEM~~,~~~~HAH~~,~~~~KHAH~~",
    "~~~~MEEM~~,~~~~REH~~,~~SEEN~~~~,~~SAD~~~~,~~DAD~~~~,~~TAH~ALEF MAKSURA FINAL FORM",
    "~~~~YEH FINAL FORM,~~AIN~ALEF MAKSURA FINAL FORM,~~~~YEH FINAL FORM",
    "~~GHAIN~ALEF MAKSURA FINAL FORM,~~~~YEH FINAL FORM,~~SEEN~ALEF MAKSURA FINAL FORM",
    "~~~~YEH FINAL FORM,~~SHEEN~ALEF MAKSURA FINAL FORM,~~~~YEH FINAL FORM",
    "~~HAH~ALEF MAKSURA FINAL FORM,~~~~YEH FINAL FORM,~~JEEM~ALEF MAKSURA FINAL FORM",
    "~~~~YEH FINAL FORM,~~KHAH~ALEF MAKSURA FINAL FORM,~~~~YEH FINAL FORM",
    "~~SAD~ALEF MAKSURA FINAL FORM,~~~~YEH FINAL FORM,~~DAD~ALEF MAKSURA FINAL FORM",
    "~~~~YEH FINAL FORM,~~SHEEN~JEEM~~,~~~~HAH~~,~~~~KHAH~~,~~~~MEEM~~,~~~~REH~~,~~SEEN~~~~",
    "~~SAD~~~~,~~DAD~~~~,~~SHEEN~JEEM INITIAL~,~~~~HAH~~,~~~~KHAH~~,~~~~MEEM~~,~~SEEN~HEH~~",
    "~~SHEEN~~~~,~~TAH~MEEM~~,~~SEEN~JEEM MEDIAL~,~~~~HAH~~,~~~~KHAH~~,~~SHEEN~JEEM~~,~~~~HAH~~",
    "~~~~KHAH~~,~~TAH~MEEM~~,~~ZAH~~~~,~~ALEF~FATHATAN FINAL~,~~~~~ISOLATED~",
    "ORNATE LEFT PARENTHESIS,~RIGHT~,ARABIC LIGATURE RAHIMAHU ALLAAH,~~RADI ALLAAHU ANH",
    "~~~~ANHAA,~~~~ANHUM,~~~~ANHUMAA,~~~~ANHUNNA,~~SALLALLAAHU ALAYHI WA-AALIH",
    "~~ALAYHI AS-SALAAM,~~ALAYHIM~,~~ALAYHIMAA~,~~ALAYHI AS-SALAATU WAS-SALAAM,~~QUDDISA SIRRAH",
    "~~SALLALLAHU ALAYHI WAAALIHEE WA-SALLAM,~~ALAYHAA AS-SALAAM,~~TABAARAKA WA-TAAALAA",
    "~~RAHIMAHUM ALLAAH,~~TEH WITH JEEM WITH MEEM INITIAL FORM,~~~~HAH~JEEM FINAL~",
    "~~~~~~~INITIAL~,~~~~~~MEEM~~,~~~~KHAH~~~~,~~~~MEEM~JEEM~~,~~~~~~HAH~~,~~~~~~KHAH~~",
    "~~JEEM~~~HAH FINAL~,~~~~~~~INITIAL~,~~HAH~~~YEH FINAL~,~~~~~~ALEF MAKSURA FINAL FORM",
    "~~SEEN~HAH~JEEM INITIAL FORM,~~~~JEEM~HAH~~,~~~~~~ALEF MAKSURA FINAL FORM",
    "~~~~MEEM~HAH FINAL FORM,~~~~~~~INITIAL~,~~~~~~JEEM~~,~~~~~~MEEM FINAL~,~~~~~~~INITIAL~",
    "~~SAD~HAH~HAH FINAL~,~~~~~~~INITIAL~,~~~~MEEM~MEEM FINAL~,~~SHEEN~HAH~~~~,~~~~~~~INITIAL~",
    "~~~~JEEM~YEH FINAL~,~~~~MEEM~KHAH~~,~~~~~~~INITIAL~,~~~~~~MEEM FINAL~,~~~~~~~INITIAL~",
    "~~DAD~HAH~ALEF MAKSURA FINAL FORM,~~~~KHAH~MEEM FINAL FORM,~~~~~~~INITIAL~",
    "~~TAH~MEEM~HAH FINAL~,~~~~~~~INITIAL~,~~~~~~MEEM~~,~~~~~~YEH FINAL~,~~AIN~JEEM~MEEM~~",
    "~~~~MEEM~~~~,~~~~~~~INITIAL~,~~~~~~ALEF MAKSURA FINAL FORM,~~GHAIN~~~MEEM FINAL FORM",
    "~~~~~~YEH~~,~~~~~~ALEF MAKSURA FINAL FORM,~~FEH~KHAH~MEEM FINAL FORM,~~~~~~~INITIAL~",
    "~~QAF~MEEM~HAH FINAL~,~~~~~~MEEM~~,~~LAM~HAH~~~~,~~~~~~YEH~~,~~~~~~ALEF MAKSURA FINAL FORM",
    "~~~~JEEM~JEEM INITIAL FORM,~~~~~~~FINAL~,~~~~KHAH~MEEM~~,~~~~~~~INITIAL~",
    "~~~~MEEM~HAH FINAL~,~~~~~~~INITIAL~,~~MEEM~HAH~JEEM~~,~~~~~~MEEM~~,~~~~~~YEH FINAL~",
    "~~~~JEEM~HAH INITIAL~,~~~~~~MEEM~~,~~~~KHAH~JEEM~~,~~~~~~MEEM~~,,,~~~~JEEM~KHAH~~",
    "~~HEH~MEEM~JEEM~~,~~~~~~MEEM~~,~~NOON~HAH~~~~,~~~~~~ALEF MAKSURA FINAL FORM",
    "~~~~JEEM~MEEM FINAL FORM,~~~~~~~INITIAL~,~~~~~~ALEF MAKSURA FINAL FORM",
    "~~~~MEEM~YEH FINAL FORM,~~~~~~ALEF MAKSURA FINAL FORM,~~YEH~~~MEEM FINAL FORM",
    "~~~~~~~INITIAL~,~~BEH~KHAH~YEH FINAL~,~~TEH~JEEM~~~~,~~~~~~ALEF MAKSURA FINAL FORM",
    "~~~~KHAH~YEH FINAL FORM,~~~~~~ALEF MAKSURA FINAL FORM,~~~~MEEM~YEH FINAL FORM",
    "~~~~~~ALEF MAKSURA FINAL FORM,~~JEEM~~~YEH FINAL FORM,~~~~HAH~ALEF MAKSURA FINAL FORM",
    "~~~~MEEM~~~~~,~~SEEN~KHAH~~~~~,~~SAD~HAH~YEH FINAL FORM,~~SHEEN~~~~~~,~~DAD~~~~~~",
    "~~LAM~JEEM~~~~,~~~~MEEM~~~~,~~YEH~HAH~~~~,~~~~JEEM~~~~,~~~~MEEM~~~~,~~MEEM~~~~~~",
    "~~QAF~~~~~~,~~NOON~HAH~~~~,~~QAF~MEEM~HAH INITIAL~,~~LAM~HAH~MEEM~~,~~AIN~MEEM~YEH FINAL~",
    "~~KAF~~~~~~,~~NOON~JEEM~HAH INITIAL~,~~MEEM~KHAH~YEH FINAL~,~~LAM~JEEM~MEEM INITIAL~",
    "~~KAF~MEEM~~FINAL~,~~LAM~JEEM~~~~,~~NOON~~~HAH~~,~~JEEM~HAH~YEH~~,~~HAH~JEEM~~~~",
    "~~MEEM~~~~~~,~~FEH~MEEM~~~~,~~BEH~HAH~~~~,~~KAF~MEEM~MEEM INITIAL~,~~AIN~JEEM~~~~",
    "~~SAD~MEEM~~~~,~~SEEN~KHAH~YEH FINAL~,~~NOON~JEEM~~~~,,,,,,,,~~SALAAMUHU ALAYNAA"]⟩,
  ⟨0xfdf0, [
    "ARABIC LIGATURE SALLA USED AS KORANIC STOP SIGN ISOLATED FORM,~~QALA~~~~~~~",
    "~~ALLAH ISOLATED FORM,~~AKBAR~~,~~MOHAMMAD~~,~~SALAM~~,~~RASOUL~~,~~ALAYHE~~,~~WASALLAM~~",
    "~~SALLA~~,~~SALLALLAHOU ALAYHE WASALLAM,~~JALLAJALALOUHOU,RIAL SIGN",
    "ARABIC LIGATURE BISMILLAH AR-RAHMAN AR-RAHEEM,~~SUBHAANAHU WA TAAALAA,~~AZZA~JALL"]⟩,
  -- Arabic Presentation Forms-B
  ⟨0xfe70, [
    "ARABIC FATHATAN ISOLATED FORM,~TATWEEL WITH FATHATAN ABOVE,~DAMMATAN ISOLATED FORM",
    "~TAIL FRAGMENT,~KASRATAN ISOLATED FORM,,~FATHA~~,~~MEDIAL~,~DAMMA ISOLATED~,~~MEDIAL~",
    "~KASRA ISOLATED~,~~MEDIAL~,~SHADDA ISOLATED~,~~MEDIAL~,~SUKUN ISOLATED~,~~MEDIAL~",
    "~LETTER HAMZA ISOLATED FORM,~~ALEF WITH MADDA ABOVE ISOLATED FORM,~~~~~~FINAL~",
    "~~~~HAMZA~ISOLATED~,~~~~~~FINAL~,~~WAW~~~ISOLATED~,~~~~~~FINAL~,~~ALEF~~BELOW ISOLATED~",
    "~~~~~~FINAL~,~~YEH~~ABOVE ISOLATED~,~~~~~~FINAL~,~~~~~~INITIAL~,~~~~~~MEDIAL~",
    "~~ALEF ISOLATED FORM,~~~FINAL~,~~BEH ISOLATED~,~~~FINAL~,~~~INITIAL~,~~~MEDIAL~",
    "~~TEH MARBUTA ISOLATED FORM,~~~~FINAL~,~~~ISOLATED FORM,~~~FINAL~,~~~INITIAL~,~~~MEDIAL~",
    "~~THEH ISOLATED~,~~~FINAL~,~~~INITIAL~,~~~MEDIAL~,~~JEEM ISOLATED~,~~~FINAL~,~~~INITIAL~",
    "~~~MEDIAL~,~~HAH ISOLATED~,~~~FINAL~,~~~INITIAL~,~~~MEDIAL~,~~KHAH ISOLATED~,~~~FINAL~",
    "~~~INITIAL~,~~~MEDIAL~,~~DAL ISOLATED~,~~~FINAL~,~~THAL ISOLATED~,~~~FINAL~,~~REH ISOLATED~",
    "~~~FINAL~,~~ZAIN ISOLATED~,~~~FINAL~,~~SEEN ISOLATED~,~~~FINAL~,~~~INITIAL~,~~~MEDIAL~",
    "~~SHEEN ISOLATED~,~~~FINAL~,~~~INITIAL~,~~~MEDIAL~,~~SAD ISOLATED~,~~~FINAL~,~~~INITIAL~",
    "~~~MEDIAL~,~~DAD ISOLATED~,~~~FINAL~,~~~INITIAL~,~~~MEDIAL~,~~TAH ISOLATED~,~~~FINAL~",
    "~~~INITIAL~,~~~MEDIAL~,~~ZAH ISOLATED~,~~~FINAL~,~~~INITIAL~,~~~MEDIAL~,~~AIN ISOLATED~",
    "~~~FINAL~,~~~INITIAL~,~~~MEDIAL~,~~GHAIN ISOLATED~,~~~FINAL~,~~~INITIAL~,~~~MEDIAL~",
    "~~FEH ISOLATED~,~~~FINAL~,~~~INITIAL~,~~~MEDIAL~,~~QAF ISOLATED~,~~~FINAL~,~~~INITIAL~",
    "~~~MEDIAL~,~~KAF ISOLATED~,~~~FINAL~,~~~INITIAL~,~~~MEDIAL~,~~LAM ISOLATED~,~~~FINAL~",
    "~~~INITIAL~,~~~MEDIAL~,~~MEEM ISOLATED~,~~~FINAL~,~~~INITIAL~,~~~MEDIAL~,~~NOON ISOLATED~",
    "~~~FINAL~,~~~INITIAL~,~~~MEDIAL~,~~HEH ISOLATED~,~~~FINAL~,~~~INITIAL~,~~~MEDIAL~",
    "~~WAW ISOLATED~,~~~FINAL~,~~ALEF MAKSURA ISOLATED FORM,~~~~FINAL~,~~YEH ISOLATED FORM",
    "~~~FINAL~,~~~INITIAL~,~~~MEDIAL~,~LIGATURE LAM WITH ALEF WITH MADDA ABOVE ISOLATED FORM",
    "~~~~~~~~FINAL~,~~~~~~HAMZA~ISOLATED~,~~~~~~~~FINAL~,~~~~~~~BELOW ISOLATED~,~~~~~~~~FINAL~",
    "~~~~~ISOLATED FORM,~~~~~FINAL~,,,ZERO WIDTH NO-BREAK SPACE"]⟩,
  -- Imperial Aramaic
  ⟨0x10840, [
    "IMPERIAL ARAMAIC LETTER ALEPH,~~~BETH,~~~GIMEL,~~~DALETH,~~~HE,~~~WAW,~~~ZAYIN,~~~HETH",
    "~~~TETH,~~~YODH,~~~KAPH,~~~LAMEDH,~~~MEM,~~~NUN,~~~SAMEKH,~~~AYIN,~~~PE,~~~SADHE,~~~QOPH",
    "~~~RESH,~~~SHIN,~~~TAW,,~~SECTION SIGN,~~NUMBER ONE,~~~TWO,~~~THREE,~~~TEN,~~~TWENTY",
    "~~~ONE HUNDRED,~~~~THOUSAND,~~~TEN~"]⟩,
  -- Palmyrene
  ⟨0x10860, [
    "PALMYRENE LETTER ALEPH,~~BETH,~~GIMEL,~~DALETH,~~HE,~~WAW,~~ZAYIN,~~HETH,~~TETH,~~YODH",
    "~~KAPH,~~LAMEDH,~~MEM,~~FINAL NUN,~~NUN,~~SAMEKH,~~AYIN,~~PE,~~SADHE,~~QOPH,~~RESH,~~SHIN",
    "~~TAW,~LEFT-POINTING FLEURON,~RIGHT-POINTING~,~NUMBER ONE,~~TWO,~~THREE,~~FOUR,~~FIVE,~~TEN",
    "~~TWENTY"]⟩,
  -- Nabataean
  ⟨0x10880, [
    "NABATAEAN LETTER FINAL ALEPH,~~ALEPH,~~FINAL BETH,~~BETH,~~GIMEL,~~DALETH,~~FINAL HE,~~HE",
    "~~WAW,~~ZAYIN,~~HETH,~~TETH,~~FINAL YODH,~~YODH,~~FINAL KAPH,~~KAPH,~~FINAL LAMEDH,~~LAMEDH",
    "~~FINAL MEM,~~MEM,~~FINAL NUN,~~NUN,~~SAMEKH,~~AYIN,~~PE,~~SADHE,~~QOPH,~~RESH,~~FINAL SHIN",
    "~~SHIN,~~TAW,,,,,,,,,~NUMBER ONE,~~TWO,~~THREE,~~FOUR,~CRUCIFORM NUMBER FOUR,~NUMBER FIVE",
    "~~TEN,~~TWENTY,~~ONE HUNDRED"]⟩,
  -- Hatran
  ⟨0x108e0, [
    "HATRAN LETTER ALEPH,~~BETH,~~GIMEL,~~DALETH-RESH,~~HE,~~WAW,~~ZAYN,~~HETH,~~TETH,~~YODH",
    "~~KAPH,~~LAMEDH,~~MEM,~~NUN,~~SAMEKH,~~AYN,~~PE,~~SADHE,~~QOPH,,~~SHIN,~~TAW,,,,,",
    "~NUMBER ONE,~~FIVE,~~TEN,~~TWENTY,~~ONE HUNDRED"]⟩,
  -- Phoenician
  ⟨0x10900, [
    "PHOENICIAN LETTER ALF,~~BET,~~GAML,~~DELT,~~HE,~~WAU,~~ZAI,~~HET,~~TET,~~YOD,~~KAF,~~LAMD",
    "~~MEM,~~NUN,~~SEMK,~~AIN,~~PE,~~SADE,~~QOF,~~ROSH,~~SHIN,~~TAU,~NUMBER ONE,~~TEN,~~TWENTY",
    "~~ONE HUNDRED,~~TWO,~~THREE,,,,~WORD SEPARATOR"]⟩,
  -- Old South Arabian
  ⟨0x10a60, [
    "OLD SOUTH ARABIAN LETTER HE,~~~~LAMEDH,~~~~HETH,~~~~MEM,~~~~QOPH,~~~~WAW,~~~~SHIN,~~~~RESH",
    "~~~~BETH,~~~~TAW,~~~~SAT,~~~~KAPH,~~~~NUN,~~~~KHETH,~~~~SADHE,~~~~SAMEKH,~~~~FE,~~~~ALEF",
    "~~~~AYN,~~~~DHADHE,~~~~GIMEL,~~~~DALETH,~~~~GHAYN,~~~~TETH,~~~~ZAYN,~~~~DHALETH,~~~~YODH",
    "~~~~THAW,~~~~THETH,~~~NUMBER ONE,~~~~FIFTY,~~~NUMERIC INDICATOR"]⟩,
  -- Old North Arabian
  ⟨0x10a80, [
    "OLD NORTH ARABIAN LETTER HEH,~~~~LAM,~~~~HAH,~~~~MEEM,~~~~QAF,~~~~WAW,~~~~ES-2,~~~~REH",
    "~~~~BEH,~~~~TEH,~~~~ES-1,~~~~KAF,~~~~NOON,~~~~KHAH,~~~~SAD,~~~~ES-3,~~~~FEH,~~~~ALEF",
    "~~~~AIN,~~~~DAD,~~~~GEEM,~~~~DAL,~~~~GHAIN,~~~~TAH,~~~~ZAIN,~~~~THAL,~~~~YEH,~~~~THEH",
    "~~~~ZAH,~~~NUMBER ONE,~~~~TEN,~~~~TWENTY"]⟩,
  -- Manichaean
  ⟨0x10ac0, [
    "MANICHAEAN LETTER ALEPH,~~BETH,~~BHETH,~~GIMEL,~~GHIMEL,~~DALETH,~~HE,~~WAW,~SIGN UD",
    "~LETTER ZAYIN,~~ZHAYIN,~~JAYIN,~~JHAYIN,~~HETH,~~TETH,~~YODH,~~KAPH,~~XAPH,~~KHAPH,~~LAMEDH",
    "~~DHAMEDH,~~THAMEDH,~~MEM,~~NUN,~~SAMEKH,~~AYIN,~~AAYIN,~~PE,~~FE,~~SADHE,~~QOPH,~~XOPH",
    "~~QHOPH,~~RESH,~~SHIN,~~SSHIN,~~TAW,~ABBREVIATION MARK ABOVE,~~~BELOW,,,,,~NUMBER ONE",
    "~~FIVE,~~TEN,~~TWENTY,~~ONE HUNDRED,~PUNCTUATION STAR,~~FLEURON,~~DOUBLE DOT WITHIN DOT",
    "~~DOT WITHIN DOT,~~~,~~TWO DOTS,~~LINE FILLER"]⟩,
  -- Avestan
  ⟨0x10b00, [
    "AVESTAN LETTER A,~~AA,~~AO,~~AAO,~~AN,~~AAN,~~AE,~~AEE,~~E,~~EE,~~O,~~OO,~~I,~~II,~~U,~~UU",
    "~~KE,~~XE,~~XYE,~~XVE,~~GE,~~GGE,~~GHE,~~CE,~~JE,~~TE,~~THE,~~DE,~~DHE,~~TTE,~~PE,~~FE,~~BE",
    "~~BHE,~~NGE,~~NGYE,~~NGVE,~~NE,~~NYE,~~NNE,~~ME,~~HME,~~YYE,~~YE,~~VE,~~RE,~~LE,~~SE,~~ZE",
    "~~SHE,~~ZHE,~~SHYE,~~SSHE,~~HE,,,,~ABBREVIATION MARK,TINY TWO DOTS OVER ONE DOT PUNCTUATION",
    "SMALL~~~~~~,LARGE~~~~~~,~ONE DOT~TWO DOTS~,~TWO RINGS~ONE RING~,~ONE RING~TWO RINGS~"]⟩,
  -- Inscriptional Parthian
  ⟨0x10b40, [
    "INSCRIPTIONAL PARTHIAN LETTER ALEPH,~~~BETH,~~~GIMEL,~~~DALETH,~~~HE,~~~WAW,~~~ZAYIN",
    "~~~HETH,~~~TETH,~~~YODH,~~~KAPH,~~~LAMEDH,~~~MEM,~~~NUN,~~~SAMEKH,~~~AYIN,~~~PE,~~~SADHE",
    "~~~QOPH,~~~RESH,~~~SHIN,~~~TAW,,,~~NUMBER ONE,~~~TWO,~~~THREE,~~~FOUR,~~~TEN,~~~TWENTY",
    "~~~ONE HUNDRED,~~~~THOUSAND"]⟩,
  -- Inscriptional Pahlavi
  ⟨0x10b60, [
    "INSCRIPTIONAL PAHLAVI LETTER ALEPH,~~~BETH,~~~GIMEL,~~~DALETH,~~~HE,~~~WAW-AYIN-RESH",
    "~~~ZAYIN,~~~HETH,~~~TETH,~~~YODH,~~~KAPH,~~~LAMEDH,~~~MEM-QOPH,~~~NUN,~~~SAMEKH,~~~PE",
    "~~~SADHE,~~~SHIN,~~~TAW,,,,,,~~NUMBER ONE,~~~TWO,~~~THREE,~~~FOUR,~~~TEN,~~~TWENTY",
    "~~~ONE HUNDRED,~~~~THOUSAND"]⟩,
  -- Psalter Pahlavi
  ⟨0x10b80, [
    "PSALTER PAHLAVI LETTER ALEPH,~~~BETH,~~~GIMEL,~~~DALETH,~~~HE,~~~WAW-AYIN-RESH,~~~ZAYIN",
    "~~~HETH,~~~YODH,~~~KAPH,~~~LAMEDH,~~~MEM-QOPH,~~~NUN,~~~SAMEKH,~~~PE,~~~SADHE,~~~SHIN",
    "~~~TAW,,,,,,,,~~SECTION MARK,~~TURNED SECTION MARK,~~FOUR DOTS WITH CROSS,~~~~~DOT"]⟩,
  ⟨0x10ba9, [
    "PSALTER PAHLAVI NUMBER ONE,~~~TWO,~~~THREE,~~~FOUR,~~~TEN,~~~TWENTY,~~~ONE HUNDRED"]⟩,
  -- Rumi Numeral Symbols
  ⟨0x10e60, [
    "RUMI DIGIT ONE,~~TWO,~~THREE,~~FOUR,~~FIVE,~~SIX,~~SEVEN,~~EIGHT,~~NINE,~NUMBER TEN",
    "~~TWENTY,~~THIRTY,~~FORTY,~~FIFTY,~~SIXTY,~~SEVENTY,~~EIGHTY,~~NINETY,~~ONE HUNDRED,~~TWO~",
    "~~THREE~,~~FOUR~,~~FIVE~,~~SIX~,~~SEVEN~,~~EIGHT~,~~NINE~,~FRACTION ONE HALF,~~~QUARTER",
    "~~~THIRD,~~TWO THIRDS"]⟩,
  -- Yezidi
  ⟨0x10e80, [
    "YEZIDI LETTER ELIF,~~BE,~~PE,~~PHE,~~THE,~~SE,~~CIM,~~CHIM,~~CHHIM,~~HHA,~~XA,~~DAL,~~ZAL",
    "~~RA,~~RHA,~~ZA,~~JA,~~SIN,~~SHIN,~~SAD,~~DAD,~~TA,~~ZE,~~EYN,~~XHEYN,~~FA,~~VA",
    "~~~ALTERNATE FORM,~~QAF,~~KAF,~~KHAF,~~GAF,~~LAM,~~MIM,~~NUN,~~UM,~~WAW,~~OW,~~EW,~~HAY",
    "~~YOT,~~ET,,~COMBINING HAMZA MARK,~~MADDA~,~HYPHENATION MARK,,,~LETTER LAM WITH DOT ABOVE",
    "~~YOT~CIRCUMFLEX~"]⟩,
  -- Chorasmian
  ⟨0x10fb0, [
    "CHORASMIAN LETTER ALEPH,~~SMALL ALEPH,~~BETH,~~GIMEL,~~DALETH,~~HE,~~WAW,~~CURLED WAW",
    "~~ZAYIN,~~HETH,~~YODH,~~KAPH,~~LAMEDH,~~MEM,~~NUN,~~SAMEKH,~~AYIN,~~PE,~~RESH,~~SHIN,~~TAW",
    "~NUMBER ONE,~~TWO,~~THREE,~~FOUR,~~TEN,~~TWENTY,~~ONE HUNDRED"]⟩,
  -- Elymaic
  ⟨0x10fe0, [
    "ELYMAIC LETTER ALEPH,~~BETH,~~GIMEL,~~DALETH,~~HE,~~WAW,~~ZAYIN,~~HETH,~~TETH,~~YODH,~~KAPH",
    "~~LAMEDH,~~MEM,~~NUN,~~SAMEKH,~~AYIN,~~PE,~~SADHE,~~QOPH,~~RESH,~~SHIN,~~TAW",
    "~LIGATURE ZAYIN-YODH"]⟩,
  -- Ottoman Siyaq Numbers
  ⟨0x1ed01, [
    "OTTOMAN SIYAQ NUMBER ONE,~~~TWO,~~~THREE,~~~FOUR,~~~FIVE,~~~SIX,~~~SEVEN,~~~EIGHT,~~~NINE",
    "~~~TEN,~~~TWENTY,~~~THIRTY,~~~FORTY,~~~FIFTY,~~~SIXTY,~~~SEVENTY,~~~EIGHTY,~~~NINETY",
    "~~~ONE HUNDRED,~~~TWO~,~~~THREE~,~~~FOUR~,~~~FIVE~,~~~SIX~,~~~SEVEN~,~~~EIGHT~,~~~NINE~",
    "~~~ONE THOUSAND,~~~TWO~,~~~THREE~,~~~FOUR~,~~~FIVE~,~~~SIX~,~~~SEVEN~,~~~EIGHT~,~~~NINE~",
    "~~~TEN~,~~~TWENTY~,~~~THIRTY~,~~~FORTY~,~~~FIFTY~,~~~SIXTY~,~~~SEVENTY~,~~~EIGHTY~",
    "~~~NINETY~,~~MARRATAN,~~ALTERNATE NUMBER TWO,~~~~THREE,~~~~FOUR,~~~~FIVE,~~~~SIX,~~~~SEVEN",
    "~~~~EIGHT,~~~~NINE,~~~~TEN,~~~~FOUR HUNDRED,~~~~SIX~,~~~~TWO THOUSAND,~~~~TEN~",
    "~~FRACTION ONE HALF,~~~~SIXTH"]⟩,
  -- Arabic Mathematical Alphabetic Symbols
  ⟨0x1ee00, [
    "ARABIC MATHEMATICAL ALEF,~~BEH,~~JEEM,~~DAL,,~~WAW,~~ZAIN,~~HAH,~~TAH,~~YEH,~~KAF,~~LAM",
    "~~MEEM,~~NOON,~~SEEN,~~AIN,~~FEH,~~SAD,~~QAF,~~REH,~~SHEEN,~~TEH,~~THEH,~~KHAH,~~THAL,~~DAD",
    "~~ZAH,~~GHAIN,~~DOTLESS BEH,~~~NOON,~~~FEH,~~~QAF,,~~INITIAL BEH,~~~JEEM,,~~~HEH,,,~~~HAH,",
    "~~~YEH,~~~KAF,~~~LAM,~~~MEEM,~~~NOON,~~~SEEN,~~~AIN,~~~FEH,~~~SAD,~~~QAF,,~~~SHEEN,~~~TEH",
    "~~~THEH,~~~KHAH,,~~~DAD,,~~~GHAIN,,,,,,,~~TAILED JEEM,,,,,~~~HAH,,~~~YEH,,~~~LAM,,~~~NOON",
    "~~~SEEN,~~~AIN,,~~~SAD,~~~QAF,,~~~SHEEN,,,~~~KHAH,,~~~DAD,,~~~GHAIN,,~~~DOTLESS NOON,",
    "~~~~QAF,,~~STRETCHED BEH,~~~JEEM,,~~~HEH,,,~~~HAH,~~~TAH,~~~YEH,~~~KAF,,~~~MEEM,~~~NOON",
    "~~~SEEN,~~~AIN,~~~FEH,~~~SAD,~~~QAF,,~~~SHEEN,~~~TEH,~~~THEH,~~~KHAH,,~~~DAD,~~~ZAH",
    "~~~GHAIN,~~~DOTLESS BEH,,~~~~FEH,,~~LOOPED ALEF,~~~BEH,~~~JEEM,~~~DAL,~~~HEH,~~~WAW,~~~ZAIN",
    "~~~HAH,~~~TAH,~~~YEH,,~~~LAM,~~~MEEM,~~~NOON,~~~SEEN,~~~AIN,~~~FEH,~~~SAD,~~~QAF,~~~REH",
    "~~~SHEEN,~~~TEH,~~~THEH,~~~KHAH,~~~THAL,~~~DAD,~~~ZAH,~~~GHAIN,,,,,,~~DOUBLE-STRUCK BEH",
    "~~~JEEM,~~~DAL,,~~~WAW,~~~ZAIN,~~~HAH,~~~TAH,~~~YEH,,~~~LAM,~~~MEEM,~~~NOON,~~~SEEN,~~~AIN",
    "~~~FEH,~~~SAD,~~~QAF,~~~REH,~~~SHEEN,~~~TEH,~~~THEH,~~~KHAH,~~~THAL,~~~DAD,~~~ZAH,~~~GHAIN"]⟩,
  ⟨0x1eef0, [
    "ARABIC MATHEMATICAL OPERATOR MEEM WITH HAH WITH TATWEEL,~~~HAH~DAL"]⟩]

end AccessScopes.Text
