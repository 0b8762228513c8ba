import AccessScopes.Text.CharName.Block

/-!
# `AccessScopes.Text.CharName.Script.Latin`: names of Latin letters

Latin with its extensions, the letters of phonetic alphabets, and the marks that are put on letters.
-/

set_option autoImplicit false

namespace AccessScopes.Text

/-- The blocks of Latin letters. -/
def latinBlocks : List NameBlock := [
  -- Basic Latin
  ⟨0x20, [
    "SPACE,EXCLAMATION MARK,QUOTATION~,NUMBER SIGN,DOLLAR~,PERCENT~,AMPERSAND,APOSTROPHE",
    "LEFT PARENTHESIS,RIGHT~,ASTERISK,PLUS SIGN,COMMA,HYPHEN-MINUS,FULL STOP,SOLIDUS,DIGIT ZERO",
    "~ONE,~TWO,~THREE,~FOUR,~FIVE,~SIX,~SEVEN,~EIGHT,~NINE,COLON,SEMICOLON,LESS-THAN SIGN",
    "EQUALS~,GREATER-THAN~,QUESTION MARK,COMMERCIAL AT,LATIN CAPITAL LETTER A,~~~B,~~~C,~~~D",
    "~~~E,~~~F,~~~G,~~~H,~~~I,~~~J,~~~K,~~~L,~~~M,~~~N,~~~O,~~~P,~~~Q,~~~R,~~~S,~~~T,~~~U,~~~V",
    "~~~W,~~~X,~~~Y,~~~Z,LEFT SQUARE BRACKET,REVERSE SOLIDUS,RIGHT SQUARE BRACKET",
    "CIRCUMFLEX ACCENT,LOW LINE,GRAVE ACCENT,LATIN SMALL LETTER A,~~~B,~~~C,~~~D,~~~E,~~~F,~~~G",
    "~~~H,~~~I,~~~J,~~~K,~~~L,~~~M,~~~N,~~~O,~~~P,~~~Q,~~~R,~~~S,~~~T,~~~U,~~~V,~~~W,~~~X,~~~Y",
    "~~~Z,LEFT CURLY BRACKET,VERTICAL LINE,RIGHT CURLY BRACKET,TILDE"]⟩,
  -- Latin-1 Supplement
  ⟨0xa0, [
    "NO-BREAK SPACE,INVERTED EXCLAMATION MARK,CENT SIGN,POUND~,CURRENCY~,YEN~,BROKEN BAR",
    "SECTION SIGN,DIAERESIS,COPYRIGHT SIGN,FEMININE ORDINAL INDICATOR",
    "LEFT-POINTING DOUBLE ANGLE QUOTATION MARK,NOT SIGN,SOFT HYPHEN,REGISTERED SIGN,MACRON",
    "DEGREE SIGN,PLUS-MINUS~,SUPERSCRIPT TWO,~THREE,ACUTE ACCENT,MICRO SIGN,PILCROW~,MIDDLE DOT",
    "CEDILLA,SUPERSCRIPT ONE,MASCULINE ORDINAL INDICATOR",
    "RIGHT-POINTING DOUBLE ANGLE QUOTATION MARK,VULGAR FRACTION ONE QUARTER,~~~HALF",
    "~~THREE QUARTERS,INVERTED QUESTION MARK,LATIN CAPITAL LETTER A WITH GRAVE,~~~~~ACUTE",
    "~~~~~CIRCUMFLEX,~~~~~TILDE,~~~~~DIAERESIS,~~~~~RING ABOVE,~~~AE,~~~C WITH CEDILLA",
    "~~~E~GRAVE,~~~~~ACUTE,~~~~~CIRCUMFLEX,~~~~~DIAERESIS,~~~I~GRAVE,~~~~~ACUTE,~~~~~CIRCUMFLEX",
    "~~~~~DIAERESIS,~~~ETH,~~~N WITH TILDE,~~~O~GRAVE,~~~~~ACUTE,~~~~~CIRCUMFLEX,~~~~~TILDE",
    "~~~~~DIAERESIS,MULTIPLICATION SIGN,LATIN CAPITAL LETTER O WITH STROKE,~~~U~GRAVE,~~~~~ACUTE",
    "~~~~~CIRCUMFLEX,~~~~~DIAERESIS,~~~Y~ACUTE,~~~THORN,~SMALL~SHARP S,~~~A WITH GRAVE",
    "~~~~~ACUTE,~~~~~CIRCUMFLEX,~~~~~TILDE,~~~~~DIAERESIS,~~~~~RING ABOVE,~~~AE",
    "~~~C WITH CEDILLA,~~~E~GRAVE,~~~~~ACUTE,~~~~~CIRCUMFLEX,~~~~~DIAERESIS,~~~I~GRAVE",
    "~~~~~ACUTE,~~~~~CIRCUMFLEX,~~~~~DIAERESIS,~~~ETH,~~~N WITH TILDE,~~~O~GRAVE,~~~~~ACUTE",
    "~~~~~CIRCUMFLEX,~~~~~TILDE,~~~~~DIAERESIS,DIVISION SIGN,LATIN SMALL LETTER O WITH STROKE",
    "~~~U~GRAVE,~~~~~ACUTE,~~~~~CIRCUMFLEX,~~~~~DIAERESIS,~~~Y~ACUTE,~~~THORN",
    "~~~Y WITH DIAERESIS"]⟩,
  -- Latin Extended-A
  ⟨0x100, [
    "LATIN CAPITAL LETTER A WITH MACRON,~SMALL~~~~,~CAPITAL~~~BREVE,~SMALL~~~~,~CAPITAL~~~OGONEK",
    "~SMALL~~~~,~CAPITAL~C~ACUTE,~SMALL~~~~,~CAPITAL~~~CIRCUMFLEX,~SMALL~~~~",
    "~CAPITAL~~~DOT ABOVE,~SMALL~~~~~,~CAPITAL~~~CARON,~SMALL~~~~,~CAPITAL~D~~,~SMALL~~~~",
    "~CAPITAL~~~STROKE,~SMALL~~~~,~CAPITAL~E~MACRON,~SMALL~~~~,~CAPITAL~~~BREVE,~SMALL~~~~",
    "~CAPITAL~~~DOT ABOVE,~SMALL~~~~~,~CAPITAL~~~OGONEK,~SMALL~~~~,~CAPITAL~~~CARON,~SMALL~~~~",
    "~CAPITAL~G~CIRCUMFLEX,~SMALL~~~~,~CAPITAL~~~BREVE,~SMALL~~~~,~CAPITAL~~~DOT ABOVE",
    "~SMALL~~~~~,~CAPITAL~~~CEDILLA,~SMALL~~~~,~CAPITAL~H~CIRCUMFLEX,~SMALL~~~~",
    "~CAPITAL~~~STROKE,~SMALL~~~~,~CAPITAL~I~TILDE,~SMALL~~~~,~CAPITAL~~~MACRON,~SMALL~~~~",
    "~CAPITAL~~~BREVE,~SMALL~~~~,~CAPITAL~~~OGONEK,~SMALL~~~~,~CAPITAL~~~DOT ABOVE",
    "~SMALL~DOTLESS I,~CAPITAL LIGATURE IJ,~SMALL~~,~CAPITAL LETTER J WITH CIRCUMFLEX,~SMALL~~~~",
    "~CAPITAL~K~CEDILLA,~SMALL~~~~,~~~KRA,~CAPITAL~L WITH ACUTE,~SMALL~~~~,~CAPITAL~~~CEDILLA",
    "~SMALL~~~~,~CAPITAL~~~CARON,~SMALL~~~~,~CAPITAL~~~MIDDLE DOT,~SMALL~~~~~,~CAPITAL~~~STROKE",
    "~SMALL~~~~,~CAPITAL~N~ACUTE,~SMALL~~~~,~CAPITAL~~~CEDILLA,~SMALL~~~~,~CAPITAL~~~CARON",
    "~SMALL~~~~,~~~~PRECEDED BY APOSTROPHE,~CAPITAL~ENG,~SMALL~~,~CAPITAL~O WITH MACRON",
    "~SMALL~~~~,~CAPITAL~~~BREVE,~SMALL~~~~,~CAPITAL~~~DOUBLE ACUTE,~SMALL~~~~~",
    "~CAPITAL LIGATURE OE,~SMALL~~,~CAPITAL LETTER R WITH ACUTE,~SMALL~~~~,~CAPITAL~~~CEDILLA",
    "~SMALL~~~~,~CAPITAL~~~CARON,~SMALL~~~~,~CAPITAL~S~ACUTE,~SMALL~~~~,~CAPITAL~~~CIRCUMFLEX",
    "~SMALL~~~~,~CAPITAL~~~CEDILLA,~SMALL~~~~,~CAPITAL~~~CARON,~SMALL~~~~,~CAPITAL~T~CEDILLA",
    "~SMALL~~~~,~CAPITAL~~~CARON,~SMALL~~~~,~CAPITAL~~~STROKE,~SMALL~~~~,~CAPITAL~U~TILDE",
    "~SMALL~~~~,~CAPITAL~~~MACRON,~SMALL~~~~,~CAPITAL~~~BREVE,~SMALL~~~~,~CAPITAL~~~RING ABOVE",
    "~SMALL~~~~~,~CAPITAL~~~DOUBLE ACUTE,~SMALL~~~~~,~CAPITAL~~~OGONEK,~SMALL~~~~",
    "~CAPITAL~W~CIRCUMFLEX,~SMALL~~~~,~CAPITAL~Y~~,~SMALL~~~~,~CAPITAL~~~DIAERESIS,~~~Z~ACUTE",
    "~SMALL~~~~,~CAPITAL~~~DOT ABOVE,~SMALL~~~~~,~CAPITAL~~~CARON,~SMALL~~~~,~~~LONG S"]⟩,
  -- Latin Extended-B
  ⟨0x180, [
    "LATIN SMALL LETTER B WITH STROKE,~CAPITAL~~~HOOK,~~~~~TOPBAR,~SMALL~~~~,~CAPITAL~TONE SIX",
    "~SMALL~~~,~CAPITAL~OPEN O,~~~C WITH HOOK,~SMALL~~~~,~CAPITAL~AFRICAN D,~~~D WITH HOOK",
    "~~~~~TOPBAR,~SMALL~~~~,~~~TURNED DELTA,~CAPITAL~REVERSED E,~~~SCHWA,~~~OPEN E",
    "~~~F WITH HOOK,~SMALL~~~~,~CAPITAL~G~~,~~~GAMMA,~SMALL~HV,~CAPITAL~IOTA,~~~I WITH STROKE",
    "~~~K~HOOK,~SMALL~~~~,~~~L~BAR,~~~LAMBDA~STROKE,~CAPITAL~TURNED M,~~~N WITH LEFT HOOK",
    "~SMALL~~~LONG RIGHT LEG,~CAPITAL~O~MIDDLE TILDE,~~~~~HORN,~SMALL~~~~,~CAPITAL~OI,~SMALL~~",
    "~CAPITAL~P WITH HOOK,~SMALL~~~~,~LETTER YR,~CAPITAL LETTER TONE TWO,~SMALL~~~,~CAPITAL~ESH",
    "~LETTER REVERSED~LOOP,~SMALL LETTER T WITH PALATAL HOOK,~CAPITAL~~~HOOK,~SMALL~~~~",
    "~CAPITAL~~~RETROFLEX HOOK,~~~U~HORN,~SMALL~~~~,~CAPITAL~UPSILON,~~~V WITH HOOK,~~~Y~~",
    "~SMALL~~~~,~CAPITAL~Z~STROKE,~SMALL~~~~,~CAPITAL~EZH,~~~~REVERSED,~SMALL~~~,~~~~WITH TAIL",
    "~LETTER TWO WITH STROKE,~CAPITAL LETTER TONE FIVE,~SMALL~~~",
    "~LETTER INVERTED GLOTTAL STOP WITH STROKE,~~WYNN,~~DENTAL CLICK,~~LATERAL~,~~ALVEOLAR~",
    "~~RETROFLEX~,~CAPITAL LETTER DZ WITH CARON,~~~D~SMALL LETTER Z WITH CARON,~SMALL~DZ~CARON",
    "~CAPITAL~LJ,~~~L WITH SMALL LETTER J,~SMALL~LJ,~CAPITAL~NJ,~~~N WITH SMALL LETTER J",
    "~SMALL~NJ,~CAPITAL~A WITH CARON,~SMALL~~~~,~CAPITAL~I~~,~SMALL~~~~,~CAPITAL~O~~,~SMALL~~~~",
    "~CAPITAL~U~~,~SMALL~~~~,~CAPITAL~~~DIAERESIS AND MACRON,~SMALL~~~~~~,~CAPITAL~~~~~ACUTE",
    "~SMALL~~~~~~,~CAPITAL~~~~~CARON,~SMALL~~~~~~,~CAPITAL~~~~~GRAVE,~SMALL~~~~~~,~~~TURNED E",
    "~CAPITAL~A WITH DIAERESIS AND MACRON,~SMALL~~~~~~,~CAPITAL~~~DOT ABOVE AND MACRON",
    "~SMALL~~~~~~~,~CAPITAL~AE~MACRON,~SMALL~~~~,~CAPITAL~G~STROKE,~SMALL~~~~,~CAPITAL~~~CARON",
    "~SMALL~~~~,~CAPITAL~K~~,~SMALL~~~~,~CAPITAL~O~OGONEK,~SMALL~~~~,~CAPITAL~~~~AND MACRON",
    "~SMALL~~~~~~,~CAPITAL~EZH~CARON,~SMALL~~~~,~~~J~~,~CAPITAL~DZ,~~~D WITH SMALL LETTER Z",
    "~SMALL~DZ,~CAPITAL~G WITH ACUTE,~SMALL~~~~,~CAPITAL~HWAIR,~~~WYNN,~~~N WITH GRAVE",
    "~SMALL~~~~,~CAPITAL~A~RING ABOVE AND ACUTE,~SMALL~~~~~~~,~CAPITAL~AE~ACUTE,~SMALL~~~~",
    "~CAPITAL~O~STROKE AND ACUTE,~SMALL~~~~~~,~CAPITAL~A~DOUBLE GRAVE,~SMALL~~~~~",
    "~CAPITAL~~~INVERTED BREVE,~SMALL~~~~~,~CAPITAL~E~DOUBLE GRAVE,~SMALL~~~~~",
    "~CAPITAL~~~INVERTED BREVE,~SMALL~~~~~,~CAPITAL~I~DOUBLE GRAVE,~SMALL~~~~~",
    "~CAPITAL~~~INVERTED BREVE,~SMALL~~~~~,~CAPITAL~O~DOUBLE GRAVE,~SMALL~~~~~",
    "~CAPITAL~~~INVERTED BREVE,~SMALL~~~~~,~CAPITAL~R~DOUBLE GRAVE,~SMALL~~~~~",
    "~CAPITAL~~~INVERTED BREVE,~SMALL~~~~~,~CAPITAL~U~DOUBLE GRAVE,~SMALL~~~~~",
    "~CAPITAL~~~INVERTED BREVE,~SMALL~~~~~,~CAPITAL~S~COMMA BELOW,~SMALL~~~~~,~CAPITAL~T~~~",
    "~SMALL~~~~~,~CAPITAL~YOGH,~SMALL~~,~CAPITAL~H WITH CARON,~SMALL~~~~",
    "~CAPITAL~N~LONG RIGHT LEG,~SMALL~D~CURL,~CAPITAL~OU,~SMALL~~,~CAPITAL~Z WITH HOOK",
    "~SMALL~~~~,~CAPITAL~A~DOT ABOVE,~SMALL~~~~~,~CAPITAL~E~CEDILLA,~SMALL~~~~",
    "~CAPITAL~O~DIAERESIS AND MACRON,~SMALL~~~~~~,~CAPITAL~~~TILDE~~,~SMALL~~~~~~",
    "~CAPITAL~~~DOT ABOVE,~SMALL~~~~~,~CAPITAL~~~~~AND MACRON,~SMALL~~~~~~~,~CAPITAL~Y~MACRON",
    "~SMALL~~~~,~~~L~CURL,~~~N~~,~~~T~~,~~~DOTLESS J,~~~DB DIGRAPH,~~~QP~,~CAPITAL~A WITH STROKE",
    "~~~C~~,~SMALL~~~~,~CAPITAL~L~BAR,~~~T~DIAGONAL STROKE,~SMALL~S~SWASH TAIL,~~~Z~~~",
    "~CAPITAL~GLOTTAL STOP,~SMALL~~~,~CAPITAL~B WITH STROKE,~~~U BAR,~~~TURNED V",
    "~~~E WITH STROKE,~SMALL~~~~,~CAPITAL~J~~,~SMALL~~~~,~CAPITAL~SMALL Q WITH HOOK TAIL",
    "~SMALL~Q WITH HOOK TAIL,~CAPITAL~R~STROKE,~SMALL~~~~,~CAPITAL~Y~~,~SMALL~~~~"]⟩,
  -- IPA Extensions
  ⟨0x250, [
    "LATIN SMALL LETTER TURNED A,~~~ALPHA,~~~TURNED ALPHA,~~~B WITH HOOK,~~~OPEN O",
    "~~~C WITH CURL,~~~D~TAIL,~~~~~HOOK,~~~REVERSED E,~~~SCHWA,~~~~WITH HOOK,~~~OPEN E",
    "~~~REVERSED OPEN E,~~~~~~WITH HOOK,~~~CLOSED REVERSED OPEN E,~~~DOTLESS J WITH STROKE",
    "~~~G WITH HOOK,~~~SCRIPT G,~LETTER SMALL CAPITAL~,~SMALL LETTER GAMMA,~~~RAMS HORN",
    "~~~TURNED H,~~~H WITH HOOK,~~~HENG~~,~~~I~STROKE,~~~IOTA,~LETTER SMALL CAPITAL I",
    "~SMALL LETTER L WITH MIDDLE TILDE,~~~~~BELT,~~~~~RETROFLEX HOOK,~~~LEZH,~~~TURNED M",
    "~~~~~WITH LONG LEG,~~~M WITH HOOK,~~~N~LEFT HOOK,~~~~~RETROFLEX~,~LETTER SMALL CAPITAL N",
    "~SMALL LETTER BARRED O,~LETTER SMALL CAPITAL OE,~SMALL LETTER CLOSED OMEGA,~~~PHI",
    "~~~TURNED R,~~~~~WITH LONG LEG,~~~~~~HOOK,~~~R WITH LONG LEG,~~~~~TAIL,~~~~~FISHHOOK",
    "~~~REVERSED R WITH FISHHOOK,~LETTER SMALL CAPITAL~,~~~~INVERTED R,~SMALL LETTER S WITH HOOK",
    "~~~ESH,~~~DOTLESS J WITH STROKE AND HOOK,~~~SQUAT REVERSED ESH,~~~ESH WITH CURL,~~~TURNED T",
    "~~~T WITH RETROFLEX HOOK,~~~U BAR,~~~UPSILON,~~~V WITH HOOK,~~~TURNED V,~~~~W,~~~~Y",
    "~LETTER SMALL CAPITAL~,~SMALL LETTER Z WITH RETROFLEX HOOK,~~~~~CURL,~~~EZH,~~~~WITH CURL",
    "~LETTER GLOTTAL STOP,~~PHARYNGEAL VOICED FRICATIVE,~~INVERTED GLOTTAL STOP,~~STRETCHED C",
    "~~BILABIAL CLICK,~~SMALL CAPITAL B,~SMALL LETTER CLOSED OPEN E",
    "~LETTER SMALL CAPITAL G WITH HOOK,~~~~H,~SMALL LETTER J WITH CROSSED-TAIL,~~~TURNED K",
    "~LETTER SMALL CAPITAL L,~SMALL LETTER Q WITH HOOK,~LETTER GLOTTAL STOP~STROKE",
    "~~REVERSED GLOTTAL STOP WITH STROKE,~SMALL LETTER DZ DIGRAPH,~~~DEZH~,~~~DZ~WITH CURL",
    "~~~TS~,~~~TESH~,~~~TC~WITH CURL,~~~FENG~,~~~LS~,~~~LZ~,~LETTER BILABIAL PERCUSSIVE",
    "~~BIDENTAL~,~SMALL LETTER TURNED H WITH FISHHOOK,~~~~~~~AND TAIL"]⟩,
  -- Spacing Modifier Letters
  ⟨0x2b0, [
    "MODIFIER LETTER SMALL H,~~~~WITH HOOK,~~~J,~~~R,~~~TURNED R,~~~~~WITH HOOK",
    "~~~CAPITAL INVERTED R,~~~W,~~~Y,~~PRIME,~~DOUBLE PRIME,~~TURNED COMMA,~~APOSTROPHE",
    "~~REVERSED COMMA,~~RIGHT HALF RING,~~LEFT~~,~~GLOTTAL STOP,~~REVERSED GLOTTAL STOP",
    "~~LEFT ARROWHEAD,~~RIGHT~,~~UP~,~~DOWN~,~~CIRCUMFLEX ACCENT,CARON",
    "MODIFIER LETTER VERTICAL LINE,~~MACRON,~~ACUTE ACCENT,~~GRAVE~,~~LOW VERTICAL LINE",
    "~~~MACRON,~~~GRAVE ACCENT,~~~ACUTE~,~~TRIANGULAR COLON,~~HALF TRIANGULAR COLON",
    "~~CENTRED RIGHT HALF RING,~~~LEFT~~,~~UP TACK,~~DOWN~,~~PLUS SIGN,~~MINUS~,BREVE,DOT ABOVE",
    "RING~,OGONEK,SMALL TILDE,DOUBLE ACUTE ACCENT,MODIFIER LETTER RHOTIC HOOK,~~CROSS ACCENT",
    "~~SMALL GAMMA,~~~L,~~~S,~~~X,~~~REVERSED GLOTTAL STOP,~~EXTRA-HIGH TONE BAR,~~HIGH~~",
    "~~MID~~,~~LOW~~,~~EXTRA-LOW~~,~~YIN DEPARTING TONE MARK,~~YANG~~~,~~VOICING,~~UNASPIRATED",
    "~~DOUBLE APOSTROPHE,~~LOW DOWN ARROWHEAD,~~~UP~,~~~LEFT~,~~~RIGHT~,~~~RING",
    "~~MIDDLE GRAVE ACCENT,~~~DOUBLE GRAVE ACCENT,~~~~ACUTE~,~~LOW TILDE,~~RAISED COLON",
    "~~BEGIN HIGH TONE,~~END~~,~~BEGIN LOW~,~~END~~,~~SHELF,~~OPEN SHELF,~~LOW LEFT ARROW"]⟩,
  -- Combining Diacritical Marks
  ⟨0x300, [
    "COMBINING GRAVE ACCENT,~ACUTE~,~CIRCUMFLEX~,~TILDE,~MACRON,~OVERLINE,~BREVE,~DOT ABOVE",
    "~DIAERESIS,~HOOK ABOVE,~RING~,~DOUBLE ACUTE ACCENT,~CARON,~VERTICAL LINE ABOVE",
    "~DOUBLE VERTICAL LINE ABOVE,~~GRAVE ACCENT,~CANDRABINDU,~INVERTED BREVE,~TURNED COMMA ABOVE",
    "~COMMA ABOVE,~REVERSED COMMA ABOVE,~COMMA ABOVE RIGHT,~GRAVE ACCENT BELOW,~ACUTE~~",
    "~LEFT TACK~,~RIGHT~~,~LEFT ANGLE ABOVE,~HORN,~LEFT HALF RING BELOW,~UP TACK BELOW,~DOWN~~",
    "~PLUS SIGN~,~MINUS~~,~PALATALIZED HOOK~,~RETROFLEX~~,~DOT BELOW,~DIAERESIS~,~RING~,~COMMA~",
    "~CEDILLA,~OGONEK,~VERTICAL LINE BELOW,~BRIDGE BELOW,~INVERTED DOUBLE ARCH BELOW",
    "~CARON BELOW,~CIRCUMFLEX ACCENT BELOW,~BREVE BELOW,~INVERTED BREVE BELOW,~TILDE BELOW",
    "~MACRON~,~LOW LINE,~DOUBLE LOW LINE,~TILDE OVERLAY,~SHORT STROKE OVERLAY,~LONG~~",
    "~SHORT SOLIDUS~,~LONG~~,~RIGHT HALF RING BELOW,~INVERTED BRIDGE BELOW,~SQUARE BELOW",
    "~SEAGULL~,~X ABOVE,~VERTICAL TILDE,~DOUBLE OVERLINE,~GRAVE TONE MARK,~ACUTE~~",
    "~GREEK PERISPOMENI,~~KORONIS,~~DIALYTIKA TONOS,~~YPOGEGRAMMENI,~BRIDGE ABOVE",
    "~EQUALS SIGN BELOW,~DOUBLE VERTICAL LINE BELOW,~LEFT ANGLE BELOW,~NOT TILDE ABOVE",
    "~HOMOTHETIC ABOVE,~ALMOST EQUAL TO ABOVE,~LEFT RIGHT ARROW BELOW,~UPWARDS ARROW BELOW",
    "~GRAPHEME JOINER,~RIGHT ARROWHEAD ABOVE,~LEFT HALF RING ABOVE,~FERMATA,~X BELOW",
    "~LEFT ARROWHEAD BELOW,~RIGHT~~,~~~AND UP ARROWHEAD BELOW,~~HALF RING ABOVE,~DOT ABOVE RIGHT",
    "~ASTERISK BELOW,~DOUBLE RING BELOW,~ZIGZAG ABOVE,~DOUBLE BREVE BELOW,~~~,~~MACRON,~~~BELOW",
    "~~TILDE,~~INVERTED BREVE,~~RIGHTWARDS ARROW BELOW,~LATIN SMALL LETTER A,~~~~E,~~~~I,~~~~O",
    "~~~~U,~~~~C,~~~~D,~~~~H,~~~~M,~~~~R,~~~~T,~~~~V,~~~~X"]⟩,
  -- Combining Diacritical Marks Extended
  ⟨0x1ab0, [
    "COMBINING DOUBLED CIRCUMFLEX ACCENT,~DIAERESIS-RING,~INFINITY,~DOWNWARDS ARROW,~TRIPLE DOT",
    "~X-X BELOW,~WIGGLY LINE BELOW,~OPEN MARK~,~DOUBLE OPEN MARK BELOW",
    "~LIGHT CENTRALIZATION STROKE~,~STRONG~~~,~PARENTHESES ABOVE,~DOUBLE PARENTHESES ABOVE",
    "~PARENTHESES BELOW,~~OVERLAY,~LATIN SMALL LETTER W BELOW,~~~~TURNED W BELOW",
    "~LEFT PARENTHESIS ABOVE LEFT,~RIGHT~~RIGHT,~LEFT~BELOW LEFT,~RIGHT~~RIGHT",
    "~SQUARE BRACKETS ABOVE,~NUMBER SIGN~,~INVERTED DOUBLE ARCH ABOVE,~PLUS SIGN ABOVE",
    "~DOUBLE PLUS SIGN ABOVE,~~~~BELOW,~TRIPLE ACUTE ACCENT,~LATIN SMALL LETTER INSULAR G,~~~~~R",
    "~~~~~T"]⟩,
  -- Phonetic Extensions
  ⟨0x1d00, [
    "LATIN LETTER SMALL CAPITAL A,~~~~AE,~SMALL LETTER TURNED~,~LETTER SMALL CAPITAL BARRED B",
    "~~~~C,~~~~D,~~~~ETH,~~~~E,~SMALL LETTER TURNED OPEN E,~~~~I,~LETTER SMALL CAPITAL J,~~~~K",
    "~~~~L WITH STROKE,~~~~M,~~~~REVERSED N,~~~~O,~~~~OPEN O,~SMALL LETTER SIDEWAYS O,~~~~OPEN O",
    "~~~~O WITH STROKE,~~~TURNED OE,~LETTER SMALL CAPITAL OU,~SMALL LETTER TOP HALF O",
    "~~~BOTTOM~~,~LETTER SMALL CAPITAL P,~~~~REVERSED R,~~~~TURNED~,~~~~T,~~~~U",
    "~SMALL LETTER SIDEWAYS~,~~~~DIAERESIZED U,~~~~TURNED M,~LETTER SMALL CAPITAL V,~~~~W,~~~~Z",
    "~~~~EZH,~~VOICED LARYNGEAL SPIRANT,~~AIN,GREEK~SMALL CAPITAL GAMMA,~~~~LAMDA,~~~~PI,~~~~RHO",
    "~~~~PSI,CYRILLIC~~~EL,MODIFIER~CAPITAL A,~~~AE,~~~B,~~~BARRED B,~~~D,~~~E,~~~REVERSED E",
    "~~~G,~~~H,~~~I,~~~J,~~~K,~~~L,~~~M,~~~N,~~~REVERSED N,~~~O,~~~OU,~~~P,~~~R,~~~T,~~~U,~~~W",
    "~~SMALL A,~~~TURNED A,~~~ALPHA,~~~TURNED AE,~~~B,~~~D,~~~E,~~~SCHWA,~~~OPEN E",
    "~~~TURNED OPEN E,~~~G,~~~TURNED I,~~~K,~~~M,~~~ENG,~~~O,~~~OPEN O,~~~TOP HALF O,~~~BOTTOM~~",
    "~~~P,~~~T,~~~U,~~~SIDEWAYS U,~~~TURNED M,~~~V,~~~AIN,~~~BETA,~~~GREEK GAMMA,~~~DELTA",
    "~~~GREEK PHI,~~~CHI,LATIN SUBSCRIPT~LETTER I,~~~~R,~~~~U,~~~~V,GREEK~~~BETA,~~~~GAMMA",
    "~~~~RHO,~~~~PHI,~~~~CHI,LATIN SMALL LETTER UE,~~~B WITH MIDDLE TILDE,~~~D~~~,~~~F~~~",
    "~~~M~~~,~~~N~~~,~~~P~~~,~~~R~~~,~~~~~FISHHOOK AND MIDDLE TILDE,~~~S~MIDDLE TILDE,~~~T~~~",
    "~~~Z~~~,~~~TURNED G,MODIFIER LETTER CYRILLIC EN,LATIN SMALL LETTER INSULAR G",
    "~~~TH WITH STRIKETHROUGH,~~CAPITAL LETTER I WITH STROKE,~~LETTER IOTA WITH STROKE,~~~P~~",
    "~~CAPITAL LETTER U WITH STROKE,~~LETTER UPSILON WITH STROKE"]⟩,
  -- Phonetic Extensions Supplement
  ⟨0x1d80, [
    "LATIN SMALL LETTER B WITH PALATAL HOOK,~~~D~~~,~~~F~~~,~~~G~~~,~~~K~~~,~~~L~~~,~~~M~~~",
    "~~~N~~~,~~~P~~~,~~~R~~~,~~~S~~~,~~~ESH~~~,~~~V~~~,~~~X~~~,~~~Z~~~,~~~A~RETROFLEX~",
    "~~~ALPHA~~~,~~~D~HOOK AND TAIL,~~~E~RETROFLEX HOOK,~~~OPEN E WITH RETROFLEX HOOK",
    "~~~REVERSED OPEN E WITH RETROFLEX HOOK,~~~SCHWA WITH RETROFLEX HOOK,~~~I~~~",
    "~~~OPEN O WITH RETROFLEX HOOK,~~~ESH WITH RETROFLEX HOOK,~~~U~~~,~~~EZH~~~",
    "MODIFIER LETTER SMALL TURNED ALPHA,~~~C,~~~~WITH CURL,~~~ETH,~~~REVERSED OPEN E,~~~F",
    "~~~DOTLESS J WITH STROKE,~~~SCRIPT G,~~~TURNED H,~~~I WITH STROKE,~~~IOTA,~~~CAPITAL I",
    "~~~~~WITH STROKE,~~~J WITH CROSSED-TAIL,~~~L~RETROFLEX HOOK,~~~~~PALATAL~,~~~CAPITAL L",
    "~~~M WITH HOOK,~~~TURNED M WITH LONG LEG,~~~N WITH LEFT HOOK,~~~~~RETROFLEX~,~~~CAPITAL N",
    "~~~BARRED O,~~~PHI,~~~S WITH HOOK,~~~ESH,~~~T WITH PALATAL HOOK,~~~U BAR,~~~UPSILON",
    "~~~CAPITAL U,~~~V WITH HOOK,~~~TURNED V,~~~Z,~~~~WITH RETROFLEX HOOK,~~~~~CURL,~~~EZH",
    "~~~THETA"]⟩,
  -- Combining Diacritical Marks Supplement
  ⟨0x1dc0, [
    "COMBINING DOTTED GRAVE ACCENT,~~ACUTE~,~SNAKE BELOW,~SUSPENSION MARK,~MACRON-ACUTE",
    "~GRAVE-MACRON,~MACRON-GRAVE,~ACUTE-MACRON,~GRAVE-ACUTE-GRAVE,~ACUTE-GRAVE-ACUTE",
    "~LATIN SMALL LETTER R BELOW,~BREVE-MACRON,~MACRON-BREVE,~DOUBLE CIRCUMFLEX ABOVE",
    "~OGONEK ABOVE,~ZIGZAG BELOW,~IS~,~UR ABOVE,~US~,~LATIN SMALL LETTER FLATTENED OPEN A ABOVE",
    "~~~~AE,~~~~AO,~~~~AV,~~~~C CEDILLA,~~~~INSULAR D,~~~~ETH,~~~~G,~~LETTER SMALL CAPITAL G",
    "~~SMALL LETTER K,~~~~L,~~LETTER SMALL CAPITAL L,~~~~~M,~~SMALL LETTER N",
    "~~LETTER SMALL CAPITAL N,~~~~~R,~~SMALL LETTER R ROTUNDA,~~~~S,~~~~LONG S,~~~~Z,~~~~ALPHA",
    "~~~~B,~~~~BETA,~~~~SCHWA,~~~~F,~~~~L WITH DOUBLE MIDDLE TILDE",
    "~~~~O~LIGHT CENTRALIZATION STROKE,~~~~P,~~~~ESH,~~~~U WITH LIGHT CENTRALIZATION STROKE",
    "~~~~W,~~~~A WITH DIAERESIS,~~~~O~~,~~~~U~~,~UP TACK ABOVE,~KAVYKA ABOVE RIGHT,~~~LEFT",
    "~DOT~~,~WIDE INVERTED BRIDGE BELOW,~DOT BELOW LEFT,~DELETION MARK",
    "~DOUBLE INVERTED BREVE BELOW,~ALMOST EQUAL TO~,~LEFT ARROWHEAD ABOVE",
    "~RIGHT~AND DOWN ARROWHEAD BELOW"]⟩,
  -- Latin Extended Additional
  ⟨0x1e00, [
    "LATIN CAPITAL LETTER A WITH RING BELOW,~SMALL~~~~~,~CAPITAL~B~DOT ABOVE,~SMALL~~~~~",
    "~CAPITAL~~~~BELOW,~SMALL~~~~~,~CAPITAL~~~LINE~,~SMALL~~~~~,~CAPITAL~C~CEDILLA AND ACUTE",
    "~SMALL~~~~~~,~CAPITAL~D~DOT ABOVE,~SMALL~~~~~,~CAPITAL~~~~BELOW,~SMALL~~~~~",
    "~CAPITAL~~~LINE~,~SMALL~~~~~,~CAPITAL~~~CEDILLA,~SMALL~~~~,~CAPITAL~~~CIRCUMFLEX BELOW",
    "~SMALL~~~~~,~CAPITAL~E~MACRON AND GRAVE,~SMALL~~~~~~,~CAPITAL~~~~~ACUTE,~SMALL~~~~~~",
    "~CAPITAL~~~CIRCUMFLEX BELOW,~SMALL~~~~~,~CAPITAL~~~TILDE~,~SMALL~~~~~",
    "~CAPITAL~~~CEDILLA AND BREVE,~SMALL~~~~~~,~CAPITAL~F~DOT ABOVE,~SMALL~~~~~",
    "~CAPITAL~G~MACRON,~SMALL~~~~,~CAPITAL~H~DOT ABOVE,~SMALL~~~~~,~CAPITAL~~~~BELOW,~SMALL~~~~~",
    "~CAPITAL~~~DIAERESIS,~SMALL~~~~,~CAPITAL~~~CEDILLA,~SMALL~~~~,~CAPITAL~~~BREVE BELOW",
    "~SMALL~~~~~,~CAPITAL~I~TILDE~,~SMALL~~~~~,~CAPITAL~~~DIAERESIS AND ACUTE,~SMALL~~~~~~",
    "~CAPITAL~K~ACUTE,~SMALL~~~~,~CAPITAL~~~DOT BELOW,~SMALL~~~~~,~CAPITAL~~~LINE~,~SMALL~~~~~",
    "~CAPITAL~L~DOT~,~SMALL~~~~~,~CAPITAL~~~~~AND MACRON,~SMALL~~~~~~~,~CAPITAL~~~LINE~",
    "~SMALL~~~~~,~CAPITAL~~~CIRCUMFLEX~,~SMALL~~~~~,~CAPITAL~M~ACUTE,~SMALL~~~~",
    "~CAPITAL~~~DOT ABOVE,~SMALL~~~~~,~CAPITAL~~~~BELOW,~SMALL~~~~~,~CAPITAL~N~~ABOVE",
    "~SMALL~~~~~,~CAPITAL~~~~BELOW,~SMALL~~~~~,~CAPITAL~~~LINE~,~SMALL~~~~~",
    "~CAPITAL~~~CIRCUMFLEX~,~SMALL~~~~~,~CAPITAL~O~TILDE AND ACUTE,~SMALL~~~~~~",
    "~CAPITAL~~~~~DIAERESIS,~SMALL~~~~~~,~CAPITAL~~~MACRON~GRAVE,~SMALL~~~~~~,~CAPITAL~~~~~ACUTE",
    "~SMALL~~~~~~,~CAPITAL~P~ACUTE,~SMALL~~~~,~CAPITAL~~~DOT ABOVE,~SMALL~~~~~,~CAPITAL~R~~~",
    "~SMALL~~~~~,~CAPITAL~~~~BELOW,~SMALL~~~~~,~CAPITAL~~~~~AND MACRON,~SMALL~~~~~~~",
    "~CAPITAL~~~LINE~,~SMALL~~~~~,~CAPITAL~S~DOT ABOVE,~SMALL~~~~~,~CAPITAL~~~~BELOW,~SMALL~~~~~",
    "~CAPITAL~~~ACUTE AND DOT ABOVE,~SMALL~~~~~~~,~CAPITAL~~~CARON~~~,~SMALL~~~~~~~",
    "~CAPITAL~~~DOT BELOW AND DOT ABOVE,~SMALL~~~~~~~~,~CAPITAL~T~~ABOVE,~SMALL~~~~~",
    "~CAPITAL~~~~BELOW,~SMALL~~~~~,~CAPITAL~~~LINE~,~SMALL~~~~~,~CAPITAL~~~CIRCUMFLEX~",
    "~SMALL~~~~~,~CAPITAL~U~DIAERESIS~,~SMALL~~~~~,~CAPITAL~~~TILDE~,~SMALL~~~~~",
    "~CAPITAL~~~CIRCUMFLEX~,~SMALL~~~~~,~CAPITAL~~~TILDE AND ACUTE,~SMALL~~~~~~",
    "~CAPITAL~~~MACRON~DIAERESIS,~SMALL~~~~~~,~CAPITAL~V~TILDE,~SMALL~~~~,~CAPITAL~~~DOT BELOW",
    "~SMALL~~~~~,~CAPITAL~W~GRAVE,~SMALL~~~~,~CAPITAL~~~ACUTE,~SMALL~~~~,~CAPITAL~~~DIAERESIS",
    "~SMALL~~~~,~CAPITAL~~~DOT ABOVE,~SMALL~~~~~,~CAPITAL~~~~BELOW,~SMALL~~~~~,~CAPITAL~X~~ABOVE",
    "~SMALL~~~~~,~CAPITAL~~~DIAERESIS,~SMALL~~~~,~CAPITAL~Y~DOT ABOVE,~SMALL~~~~~",
    "~CAPITAL~Z~CIRCUMFLEX,~SMALL~~~~,~CAPITAL~~~DOT BELOW,~SMALL~~~~~,~CAPITAL~~~LINE~",
    "~SMALL~~~~~,~~~H~~~,~~~T~DIAERESIS,~~~W~RING ABOVE,~~~Y~~~,~~~A~RIGHT HALF RING",
    "~~~LONG S WITH DOT ABOVE,~~~~~~DIAGONAL STROKE,~~~~~~HIGH~,~CAPITAL~SHARP~,~SMALL~DELTA",
    "~CAPITAL~A WITH DOT BELOW,~SMALL~~~~~,~CAPITAL~~~HOOK ABOVE,~SMALL~~~~~",
    "~CAPITAL~~~CIRCUMFLEX AND ACUTE,~SMALL~~~~~~,~CAPITAL~~~~~GRAVE,~SMALL~~~~~~",
    "~CAPITAL~~~~~HOOK ABOVE,~SMALL~~~~~~~,~CAPITAL~~~~~TILDE,~SMALL~~~~~~",
    "~CAPITAL~~~~~DOT BELOW,~SMALL~~~~~~~,~CAPITAL~~~BREVE~ACUTE,~SMALL~~~~~~,~CAPITAL~~~~~GRAVE",
    "~SMALL~~~~~~,~CAPITAL~~~~~HOOK ABOVE,~SMALL~~~~~~~,~CAPITAL~~~~~TILDE,~SMALL~~~~~~",
    "~CAPITAL~~~~~DOT BELOW,~SMALL~~~~~~~,~CAPITAL~E~DOT BELOW,~SMALL~~~~~,~CAPITAL~~~HOOK ABOVE",
    "~SMALL~~~~~,~CAPITAL~~~TILDE,~SMALL~~~~,~CAPITAL~~~CIRCUMFLEX AND ACUTE,~SMALL~~~~~~",
    "~CAPITAL~~~~~GRAVE,~SMALL~~~~~~,~CAPITAL~~~~~HOOK ABOVE,~SMALL~~~~~~~,~CAPITAL~~~~~TILDE",
    "~SMALL~~~~~~,~CAPITAL~~~~~DOT BELOW,~SMALL~~~~~~~,~CAPITAL~I~HOOK ABOVE,~SMALL~~~~~",
    "~CAPITAL~~~DOT BELOW,~SMALL~~~~~,~CAPITAL~O~~~,~SMALL~~~~~,~CAPITAL~~~HOOK ABOVE",
    "~SMALL~~~~~,~CAPITAL~~~CIRCUMFLEX AND ACUTE,~SMALL~~~~~~,~CAPITAL~~~~~GRAVE,~SMALL~~~~~~",
    "~CAPITAL~~~~~HOOK ABOVE,~SMALL~~~~~~~,~CAPITAL~~~~~TILDE,~SMALL~~~~~~",
    "~CAPITAL~~~~~DOT BELOW,~SMALL~~~~~~~,~CAPITAL~~~HORN~ACUTE,~SMALL~~~~~~,~CAPITAL~~~~~GRAVE",
    "~SMALL~~~~~~,~CAPITAL~~~~~HOOK ABOVE,~SMALL~~~~~~~,~CAPITAL~~~~~TILDE,~SMALL~~~~~~",
    "~CAPITAL~~~~~DOT BELOW,~SMALL~~~~~~~,~CAPITAL~U~DOT BELOW,~SMALL~~~~~,~CAPITAL~~~HOOK ABOVE",
    "~SMALL~~~~~,~CAPITAL~~~HORN AND ACUTE,~SMALL~~~~~~,~CAPITAL~~~~~GRAVE,~SMALL~~~~~~",
    "~CAPITAL~~~~~HOOK ABOVE,~SMALL~~~~~~~,~CAPITAL~~~~~TILDE,~SMALL~~~~~~",
    "~CAPITAL~~~~~DOT BELOW,~SMALL~~~~~~~,~CAPITAL~Y~GRAVE,~SMALL~~~~,~CAPITAL~~~DOT BELOW",
    "~SMALL~~~~~,~CAPITAL~~~HOOK ABOVE,~SMALL~~~~~,~CAPITAL~~~TILDE,~SMALL~~~~",
    "~CAPITAL~MIDDLE-WELSH LL,~SMALL~~~,~CAPITAL~~V,~SMALL~~~,~CAPITAL~Y WITH LOOP,~SMALL~~~~"]⟩,
  -- Combining Diacritical Marks for Symbols
  ⟨0x20d0, [
    "COMBINING LEFT HARPOON ABOVE,~RIGHT~~,~LONG VERTICAL LINE OVERLAY,~SHORT~~~",
    "~ANTICLOCKWISE ARROW ABOVE,~CLOCKWISE~~,~LEFT~~,~RIGHT~~,~RING OVERLAY",
    "~CLOCKWISE RING OVERLAY,~ANTICLOCKWISE~~,~THREE DOTS ABOVE,~FOUR~~,~ENCLOSING CIRCLE",
    "~~SQUARE,~~DIAMOND,~~CIRCLE BACKSLASH,~LEFT RIGHT ARROW ABOVE,~ENCLOSING SCREEN,~~KEYCAP",
    "~~UPWARD POINTING TRIANGLE,~REVERSE SOLIDUS OVERLAY,~DOUBLE VERTICAL STROKE OVERLAY",
    "~ANNUITY SYMBOL,~TRIPLE UNDERDOT,~WIDE BRIDGE ABOVE,~LEFTWARDS ARROW OVERLAY",
    "~LONG DOUBLE SOLIDUS OVERLAY,~RIGHTWARDS HARPOON WITH BARB DOWNWARDS,~LEFTWARDS~~~~",
    "~LEFT ARROW BELOW,~RIGHT~~,~ASTERISK ABOVE"]⟩,
  -- Latin Extended-C
  ⟨0x2c60, [
    "LATIN CAPITAL LETTER L WITH DOUBLE BAR,~SMALL~~~~~,~CAPITAL~~~MIDDLE TILDE,~~~P~STROKE",
    "~~~R~TAIL,~SMALL~A~STROKE,~~~T~DIAGONAL STROKE,~CAPITAL~H~DESCENDER,~SMALL~~~~,~CAPITAL~K~~",
    "~SMALL~~~~,~CAPITAL~Z~~,~SMALL~~~~,~CAPITAL~ALPHA,~~~M WITH HOOK,~~~TURNED A,~~~~ALPHA",
    "~SMALL~V WITH RIGHT HOOK,~CAPITAL~W~HOOK,~SMALL~~~~,~~~V~CURL,~CAPITAL~HALF H,~SMALL~~~",
    "~~~TAILLESS PHI,~~~E WITH NOTCH,~~~TURNED R WITH TAIL,~~~O WITH LOW RING INSIDE",
    "~LETTER SMALL CAPITAL TURNED E,~SUBSCRIPT~LETTER J,MODIFIER LETTER CAPITAL V",
    "LATIN CAPITAL LETTER S WITH SWASH TAIL,~~~Z~~~"]⟩,
  -- Modifier Tone Letters
  ⟨0xa700, [
    "MODIFIER LETTER CHINESE TONE YIN PING,~~~~YANG~,~~~~YIN SHANG,~~~~YANG~,~~~~YIN QU",
    "~~~~YANG~,~~~~YIN RU,~~~~YANG~,~~EXTRA-HIGH DOTTED TONE BAR,~~HIGH~~~,~~MID~~~,~~LOW~~~",
    "~~EXTRA-LOW~~~,~~EXTRA-HIGH~LEFT-STEM TONE BAR,~~HIGH~~~~,~~MID~~~~,~~LOW~~~~",
    "~~EXTRA-LOW~~~~,~~EXTRA-HIGH LEFT-STEM TONE BAR,~~HIGH~~~,~~MID~~~,~~LOW~~~,~~EXTRA-LOW~~~",
    "~~DOT VERTICAL BAR,~~~SLASH,~~~HORIZONTAL BAR,~~LOWER RIGHT CORNER ANGLE,~~RAISED UP ARROW",
    "~~~DOWN~,~~~EXCLAMATION MARK,~~~INVERTED EXCLAMATION MARK,~~LOW~~~"]⟩,
  -- Latin Extended-D
  ⟨0xa720, [
    "MODIFIER LETTER STRESS AND HIGH TONE,~~~~LOW~,LATIN CAPITAL LETTER EGYPTOLOGICAL ALEF",
    "~SMALL~~~,~CAPITAL~~AIN,~SMALL~~~,~CAPITAL~HENG,~SMALL~~,~CAPITAL~TZ,~SMALL~~",
    "~CAPITAL~TRESILLO,~SMALL~~,~CAPITAL~CUATRILLO,~SMALL~~,~CAPITAL~~WITH COMMA,~SMALL~~~~",
    "~LETTER SMALL CAPITAL F,~~~~S,~CAPITAL LETTER AA,~SMALL~~,~CAPITAL~AO,~SMALL~~,~CAPITAL~AU",
    "~SMALL~~,~CAPITAL~AV,~SMALL~~,~CAPITAL~~WITH HORIZONTAL BAR,~SMALL~~~~~,~CAPITAL~AY",
    "~SMALL~~,~CAPITAL~REVERSED C WITH DOT,~SMALL~~~~~,~CAPITAL~K WITH STROKE,~SMALL~~~~",
    "~CAPITAL~~~DIAGONAL STROKE,~SMALL~~~~~,~CAPITAL~~~STROKE AND DIAGONAL STROKE,~SMALL~~~~~~~",
    "~CAPITAL~BROKEN L,~SMALL~~~,~CAPITAL~L WITH HIGH STROKE,~SMALL~~~~~,~CAPITAL~O~LONG~OVERLAY",
    "~SMALL~~~~~~,~CAPITAL~~~LOOP,~SMALL~~~~,~CAPITAL~OO,~SMALL~~",
    "~CAPITAL~P WITH STROKE THROUGH DESCENDER,~SMALL~~~~~~,~CAPITAL~~~FLOURISH,~SMALL~~~~",
    "~CAPITAL~~~SQUIRREL TAIL,~SMALL~~~~~,~CAPITAL~Q~STROKE THROUGH DESCENDER,~SMALL~~~~~~",
    "~CAPITAL~~~DIAGONAL STROKE,~SMALL~~~~~,~CAPITAL~R ROTUNDA,~SMALL~~~,~CAPITAL~RUM~,~SMALL~~~",
    "~CAPITAL~V WITH DIAGONAL STROKE,~SMALL~~~~~,~CAPITAL~VY,~SMALL~~,~CAPITAL~VISIGOTHIC Z",
    "~SMALL~~~,~CAPITAL~THORN WITH STROKE,~SMALL~~~~,~CAPITAL~~~~THROUGH DESCENDER,~SMALL~~~~~~",
    "~CAPITAL~VEND,~SMALL~~,~CAPITAL~ET,~SMALL~~,~CAPITAL~IS,~SMALL~~,~CAPITAL~CON,~SMALL~~",
    "MODIFIER LETTER US,LATIN SMALL LETTER DUM,~~~LUM,~~~MUM,~~~NUM,~~~RUM",
    "~LETTER SMALL CAPITAL RUM,~SMALL LETTER TUM,~~~UM,~CAPITAL~INSULAR D,~SMALL~~~,~CAPITAL~~F",
    "~SMALL~~~,~CAPITAL~~G,~~~TURNED INSULAR G,~SMALL~~~~,~CAPITAL~~L,~SMALL~~~",
    "~CAPITAL~INSULAR R,~SMALL~~~,~CAPITAL~~S,~SMALL~~~,~CAPITAL~~T,~SMALL~~~",
    "MODIFIER LETTER LOW CIRCUMFLEX ACCENT,~~COLON,~~SHORT EQUALS SIGN",
    "LATIN CAPITAL LETTER SALTILLO,~SMALL~~,~CAPITAL~TURNED H",
    "~SMALL~L WITH RETROFLEX HOOK AND BELT,~LETTER SINOLOGICAL DOT",
    "~CAPITAL LETTER N WITH DESCENDER,~SMALL~~~~,~CAPITAL~C~BAR,~SMALL~~~~,~~~~~PALATAL HOOK",
    "~~~H~~~,~CAPITAL~B~FLOURISH,~SMALL~~~~,~CAPITAL~F~STROKE,~SMALL~~~~,~CAPITAL~VOLAPUK AE",
    "~SMALL~~~,~CAPITAL~~OE,~SMALL~~~,~CAPITAL~~UE,~SMALL~~~,~CAPITAL~G WITH OBLIQUE STROKE",
    "~SMALL~~~~~,~CAPITAL~K~~~,~SMALL~~~~~,~CAPITAL~N~~~,~SMALL~~~~~,~CAPITAL~R~~~,~SMALL~~~~~",
    "~CAPITAL~S~~~,~SMALL~~~~~,~CAPITAL~H~HOOK,~~~REVERSED OPEN E,~~~SCRIPT G,~~~L WITH BELT",
    "~~~SMALL CAPITAL I,~LETTER SMALL CAPITAL Q,~CAPITAL LETTER TURNED K,~~~~T",
    "~~~J WITH CROSSED-TAIL,~~~CHI,~~~BETA,~SMALL~~,~CAPITAL~OMEGA,~SMALL~~",
    "~CAPITAL~U WITH STROKE,~SMALL~~~~,~CAPITAL~GLOTTAL A,~SMALL~~~,~CAPITAL~~I,~SMALL~~~",
    "~CAPITAL~~U,~SMALL~~~,~CAPITAL~OLD POLISH O,~SMALL~~~~,~CAPITAL~ANGLICANA W,~SMALL~~~",
    "~CAPITAL~C WITH PALATAL HOOK,~~~S~HOOK,~~~Z~PALATAL HOOK,~~~D~SHORT STROKE OVERLAY",
    "~SMALL~~~~~~,~CAPITAL~S~~~~,~SMALL~~~~~~,,,,,,~CAPITAL~CLOSED INSULAR G,~SMALL~~~~,",
    "~~~DOUBLE THORN,,~~~~WYNN,~CAPITAL~MIDDLE SCOTS S,~SMALL~~~~,~CAPITAL~SIGMOID S,~SMALL~~~"]⟩,
  ⟨0xa7f2, [
    "MODIFIER LETTER CAPITAL C,~~~F,~~~Q,LATIN CAPITAL LETTER REVERSED HALF H,~SMALL~~~~",
    "~EPIGRAPHIC~SIDEWAYS I,MODIFIER LETTER CAPITAL H WITH STROKE,~~SMALL LIGATURE OE",
    "LATIN~~CAPITAL TURNED M,~EPIGRAPHIC LETTER REVERSED F,~~~~P,~~~INVERTED M,~~~I LONGA",
    "~~~ARCHAIC M"]⟩,
  -- Latin Extended-E
  ⟨0xab30, [
    "LATIN SMALL LETTER BARRED ALPHA,~~~A REVERSED-SCHWA,~~~BLACKLETTER E,~~~BARRED~",
    "~~~E WITH FLOURISH,~~~LENIS F,~~~SCRIPT G WITH CROSSED-TAIL,~~~L WITH INVERTED LAZY S",
    "~~~~~DOUBLE MIDDLE TILDE,~~~~~MIDDLE RING,~~~M~CROSSED-TAIL,~~~N~~,~~~ENG~~",
    "~~~BLACKLETTER O,~~~~~WITH STROKE,~~~OPEN~~~,~~~INVERTED OE,~~~TURNED~WITH STROKE",
    "~~~~~~HORIZONTAL STROKE,~~~~O OPEN-O,~~~~~~WITH STROKE,~~~STIRRUP R",
    "~LETTER SMALL CAPITAL~WITH RIGHT LEG,~SMALL LETTER R WITHOUT HANDLE,~~~DOUBLE R",
    "~~~R WITH CROSSED-TAIL,~~~DOUBLE R WITH CROSSED-TAIL,~~~SCRIPT~,~~~~~WITH RING",
    "~~~BASELINE ESH,~~~U WITH SHORT RIGHT LEG,~~~~BAR WITH SHORT RIGHT LEG,~~~UI,~~~TURNED UI",
    "~~~U WITH LEFT HOOK,~~~CHI,~~~~WITH LOW RIGHT RING,~~~~~~LEFT SERIF,~~~X~~RIGHT RING",
    "~~~~~LONG LEFT LEG,~~~~~~~~AND LOW RIGHT RING,~~~~~~~~WITH SERIF,~~~Y~SHORT RIGHT~",
    "MODIFIER BREVE WITH INVERTED BREVE,~LETTER SMALL HENG,~~~L WITH INVERTED LAZY S",
    "~~~~~MIDDLE TILDE,~~~U~LEFT HOOK,LATIN SMALL LETTER SAKHA YAT,~~~IOTIFIED E,~~~OPEN OE",
    "~~~UO,~~~INVERTED ALPHA,GREEK LETTER SMALL CAPITAL OMEGA",
    "LATIN SMALL LETTER DZ DIGRAPH WITH RETROFLEX HOOK,~~~TS~~~~,~~~TURNED R~MIDDLE TILDE",
    "MODIFIER LETTER SMALL~W,~~LEFT TACK,~~RIGHT~"]⟩,
  -- Alphabetic Presentation Forms
  ⟨0xfb00, [
    "LATIN SMALL LIGATURE FF,~~~FI,~~~FL,~~~FFI,~~~FFL,~~~LONG S T,~~~ST"]⟩,
  ⟨0xfb13, [
    "ARMENIAN SMALL LIGATURE MEN NOW,~~~~ECH,~~~~INI,~~~VEW NOW,~~~MEN XEH,,,,,",
    "HEBREW LETTER YOD WITH HIRIQ,~POINT JUDEO-SPANISH VARIKA,~LIGATURE YIDDISH YOD YOD PATAH",
    "~LETTER ALTERNATIVE AYIN,~~WIDE ALEF,~~~DALET,~~~HE,~~~KAF,~~~LAMED,~~~FINAL MEM,~~~RESH",
    "~~~TAV,~~ALTERNATIVE PLUS SIGN,~~SHIN WITH SHIN DOT,~~~~SIN~,~~~~DAGESH AND SHIN DOT",
    "~~~~~~SIN~,~~ALEF~PATAH,~~~~QAMATS,~~~~MAPIQ,~~BET~DAGESH,~~GIMEL~~,~~DALET~~,~~HE~MAPIQ",
    "~~VAV~DAGESH,~~ZAYIN~~,,~~TET~~,~~YOD~~,~~FINAL KAF WITH DAGESH,~~KAF WITH DAGESH,~~LAMED~~",
    ",~~MEM~~,,~~NUN~~,~~SAMEKH~~,,~~FINAL PE WITH DAGESH,~~PE WITH DAGESH,,~~TSADI~~,~~QOF~~",
    "~~RESH~~,~~SHIN~~,~~TAV~~,~~VAV~HOLAM,~~BET~RAFE,~~KAF~~,~~PE~~,~LIGATURE ALEF LAMED"]⟩,
  -- Combining Half Marks
  ⟨0xfe20, [
    "COMBINING LIGATURE LEFT HALF,~~RIGHT~,~DOUBLE TILDE LEFT HALF,~~~RIGHT~,~MACRON LEFT HALF",
    "~~RIGHT~,~CONJOINING MACRON,~LIGATURE LEFT HALF BELOW,~~RIGHT~~,~TILDE LEFT~~,~~RIGHT~~",
    "~MACRON LEFT~~,~~RIGHT~~,~CONJOINING MACRON BELOW,~CYRILLIC TITLO LEFT HALF,~~~RIGHT~"]⟩,
  -- Latin Extended-F
  ⟨0x10780, [
    "MODIFIER LETTER SMALL CAPITAL AA,~~SUPERSCRIPT TRIANGULAR COLON,~~~HALF TRIANGULAR COLON",
    "~~SMALL AE,~~~CAPITAL B,~~~B WITH HOOK,,~~~DZ DIGRAPH,~~~~~WITH RETROFLEX HOOK,~~~~~~CURL",
    "~~~DEZH~,~~~D WITH TAIL,~~~~~HOOK,~~~~~~AND TAIL,~~~REVERSED E,~~~CLOSED REVERSED OPEN E",
    "~~~FENG DIGRAPH,~~~RAMS HORN,~~~CAPITAL G,~~~G WITH HOOK,~~~CAPITAL G WITH HOOK",
    "~~~H WITH STROKE,~~~CAPITAL H,~~~HENG WITH HOOK,~~~DOTLESS J WITH STROKE AND HOOK",
    "~~~LS DIGRAPH,~~~LZ~,~~~L WITH BELT,~~~CAPITAL L WITH BELT",
    "~~~L WITH RETROFLEX HOOK AND BELT,~~~LEZH,~~~~WITH RETROFLEX HOOK,~~~TURNED Y",
    "~~~~~WITH BELT,~~~O WITH STROKE,~~~CAPITAL OE,~~~CLOSED OMEGA,~~~Q",
    "~~~TURNED R WITH LONG LEG,~~~~~~~~AND RETROFLEX HOOK,~~~R WITH TAIL,~~~~~FISHHOOK",
    "~~~CAPITAL R,~~~TC DIGRAPH WITH CURL,~~~TS~,~~~~~WITH RETROFLEX HOOK,~~~TESH~",
    "~~~T WITH RETROFLEX HOOK,~~~V~RIGHT~,,~~~CAPITAL Y,~~GLOTTAL STOP WITH STROKE",
    "~~REVERSED GLOTTAL STOP WITH STROKE,~~BILABIAL CLICK,~~DENTAL~,~~LATERAL~,~~ALVEOLAR~",
    "~~RETROFLEX~WITH RETROFLEX HOOK,~~SMALL S~CURL"]⟩,
  -- Latin Extended-G
  ⟨0x1df00, [
    "LATIN SMALL LETTER FENG DIGRAPH WITH TRILL,~~~REVERSED SCRIPT G",
    "~LETTER SMALL CAPITAL TURNED~,~SMALL LETTER REVERSED K,~LETTER SMALL CAPITAL L WITH BELT",
    "~SMALL LETTER LEZH WITH RETROFLEX HOOK,~~~TURNED Y WITH BELT,~~~REVERSED ENG",
    "~~~TURNED R WITH LONG LEG AND RETROFLEX HOOK,~~~T WITH HOOK AND RETROFLEX HOOK",
    "~LETTER RETROFLEX CLICK~RETROFLEX HOOK,~SMALL LETTER ESH~DOUBLE BAR,~~~~~~~AND CURL",
    "~~~TURNED T WITH CURL,~LETTER INVERTED GLOTTAL STOP~~,~~STRETCHED C WITH CURL",
    "~~SMALL CAPITAL TURNED K,~SMALL LETTER L WITH FISHHOOK,~~~DEZH DIGRAPH WITH PALATAL HOOK",
    "~~~L WITH BELT AND PALATAL HOOK,~~~ENG~PALATAL HOOK,~~~TURNED R WITH PALATAL HOOK",
    "~~~R WITH FISHHOOK AND PALATAL HOOK,~~~TESH DIGRAPH WITH PALATAL HOOK",
    "~~~EZH WITH PALATAL HOOK,~~~DEZH DIGRAPH WITH RETROFLEX HOOK",
    "~~~I WITH STROKE AND RETROFLEX HOOK,~~~O~RETROFLEX HOOK,~~~TESH DIGRAPH WITH RETROFLEX HOOK",
    "~~~C WITH RETROFLEX HOOK,~~~S~CURL"]⟩]

end AccessScopes.Text
