import AccessScopes.Text.CharName.Block

/-!
# `AccessScopes.Text.CharName.Symbol.Sign`: names of signs

Punctuation, currency signs, numbers and other signs that belong to no single script.
-/

set_option autoImplicit false

namespace AccessScopes.Text

/-- The blocks of signs. -/
def signBlocks : List NameBlock := [
  -- General Punctuation
  ⟨0x2000, [
    "EN QUAD,EM~,EN SPACE,EM~,THREE-PER-EM~,FOUR-PER-EM~,SIX-PER-EM~,FIGURE~,PUNCTUATION~,THIN~",
    "HAIR~,ZERO WIDTH SPACE,~~NON-JOINER,~~JOINER,LEFT-TO-RIGHT MARK,RIGHT-TO-LEFT~,HYPHEN",
    "NON-BREAKING HYPHEN,FIGURE DASH,EN~,EM~,HORIZONTAL BAR,DOUBLE VERTICAL LINE,~LOW~",
    "LEFT SINGLE QUOTATION MARK,RIGHT~~~,SINGLE LOW-9~~,~HIGH-REVERSED-9~~,LEFT DOUBLE~~",
    "RIGHT~~~,DOUBLE LOW-9~~,~HIGH-REVERSED-9~~,DAGGER,DOUBLE DAGGER,BULLET,TRIANGULAR BULLET",
    "ONE DOT LEADER,TWO~~,HORIZONTAL ELLIPSIS,HYPHENATION POINT,LINE SEPARATOR,PARAGRAPH~",
    "LEFT-TO-RIGHT EMBEDDING,RIGHT-TO-LEFT~,POP DIRECTIONAL FORMATTING,LEFT-TO-RIGHT OVERRIDE",
    "RIGHT-TO-LEFT~,NARROW NO-BREAK SPACE,PER MILLE SIGN,~TEN THOUSAND SIGN,PRIME,DOUBLE PRIME",
    "TRIPLE~,REVERSED~,~DOUBLE PRIME,~TRIPLE~,CARET,SINGLE LEFT-POINTING ANGLE QUOTATION MARK",
    "~RIGHT-POINTING~~~,REFERENCE MARK,DOUBLE EXCLAMATION MARK,INTERROBANG,OVERLINE,UNDERTIE",
    "CHARACTER TIE,CARET INSERTION POINT,ASTERISM,HYPHEN BULLET,FRACTION SLASH",
    "LEFT SQUARE BRACKET WITH QUILL,RIGHT~~~~,DOUBLE QUESTION MARK,QUESTION EXCLAMATION~",
    "EXCLAMATION QUESTION~,TIRONIAN SIGN ET,REVERSED PILCROW SIGN,BLACK LEFTWARDS BULLET",
    "~RIGHTWARDS~,LOW ASTERISK,REVERSED SEMICOLON,CLOSE UP,TWO ASTERISKS ALIGNED VERTICALLY",
    "COMMERCIAL MINUS SIGN,SWUNG DASH,INVERTED UNDERTIE,FLOWER PUNCTUATION MARK",
    "THREE DOT PUNCTUATION,QUADRUPLE PRIME,FOUR DOT PUNCTUATION,FIVE~~,TWO~~,FOUR~MARK",
    "DOTTED CROSS,TRICOLON,VERTICAL FOUR DOTS,MEDIUM MATHEMATICAL SPACE,WORD JOINER",
    "FUNCTION APPLICATION,INVISIBLE TIMES,~SEPARATOR,~PLUS,,LEFT-TO-RIGHT ISOLATE,RIGHT-TO-LEFT~",
    "FIRST STRONG ISOLATE,POP DIRECTIONAL~,INHIBIT SYMMETRIC SWAPPING,ACTIVATE~~",
    "INHIBIT ARABIC FORM SHAPING,ACTIVATE~~~,NATIONAL DIGIT SHAPES,NOMINAL~~"]⟩,
  -- Superscripts and Subscripts
  ⟨0x2070, [
    "SUPERSCRIPT ZERO,~LATIN SMALL LETTER I,,,~FOUR,~FIVE,~SIX,~SEVEN,~EIGHT,~NINE,~PLUS SIGN",
    "~MINUS,~EQUALS SIGN,~LEFT PARENTHESIS,~RIGHT~,~LATIN SMALL LETTER N,SUBSCRIPT ZERO,~ONE",
    "~TWO,~THREE,~FOUR,~FIVE,~SIX,~SEVEN,~EIGHT,~NINE,~PLUS SIGN,~MINUS,~EQUALS SIGN",
    "~LEFT PARENTHESIS,~RIGHT~,,LATIN SUBSCRIPT SMALL LETTER A,~~~~E,~~~~O,~~~~X,~~~~SCHWA,~~~~H",
    "~~~~K,~~~~L,~~~~M,~~~~N,~~~~P,~~~~S,~~~~T"]⟩,
  -- Currency Symbols
  ⟨0x20a0, [
    "EURO-CURRENCY SIGN,COLON~,CRUZEIRO~,FRENCH FRANC SIGN,LIRA SIGN,MILL~,NAIRA~,PESETA~,RUPEE~",
    "WON~,NEW SHEQEL SIGN,DONG SIGN,EURO~,KIP~,TUGRIK~,DRACHMA~,GERMAN PENNY SIGN,PESO SIGN",
    "GUARANI~,AUSTRAL~,HRYVNIA~,CEDI~,LIVRE TOURNOIS SIGN,SPESMILO SIGN,TENGE~,INDIAN RUPEE SIGN",
    "TURKISH LIRA~,NORDIC MARK~,MANAT SIGN,RUBLE~,LARI~,BITCOIN~,SOM~"]⟩,
  -- Letterlike Symbols
  ⟨0x2100, [
    "ACCOUNT OF,ADDRESSED TO THE SUBJECT,DOUBLE-STRUCK CAPITAL C,DEGREE CELSIUS",
    "CENTRE LINE SYMBOL,CARE OF,CADA UNA,EULER CONSTANT,SCRUPLE,DEGREE FAHRENHEIT,SCRIPT SMALL G",
    "~CAPITAL H,BLACK-LETTER~~,DOUBLE-STRUCK~~,PLANCK CONSTANT,~~OVER TWO PI,SCRIPT CAPITAL I",
    "BLACK-LETTER~~,SCRIPT~L,~SMALL~,L B BAR SYMBOL,DOUBLE-STRUCK CAPITAL N,NUMERO SIGN",
    "SOUND RECORDING COPYRIGHT,SCRIPT CAPITAL P,DOUBLE-STRUCK~~,~~Q,SCRIPT~R,BLACK-LETTER~~",
    "DOUBLE-STRUCK~~,PRESCRIPTION TAKE,RESPONSE,SERVICE MARK,TELEPHONE SIGN,TRADE MARK SIGN",
    "VERSICLE,DOUBLE-STRUCK CAPITAL Z,OUNCE SIGN,OHM~,INVERTED OHM SIGN,BLACK-LETTER CAPITAL Z",
    "TURNED GREEK SMALL LETTER IOTA,KELVIN SIGN,ANGSTROM~,SCRIPT CAPITAL B,BLACK-LETTER~C",
    "ESTIMATED SYMBOL,SCRIPT SMALL E,~CAPITAL~,~~F,TURNED~~,SCRIPT~M,~SMALL O,ALEF SYMBOL,BET~",
    "GIMEL~,DALET~,INFORMATION SOURCE,ROTATED CAPITAL Q,FACSIMILE SIGN,DOUBLE-STRUCK SMALL PI",
    "~~GAMMA,~CAPITAL~,~~PI,~N-ARY SUMMATION,TURNED SANS-SERIF CAPITAL G,~~~L,REVERSED~~~",
    "TURNED~~Y,DOUBLE-STRUCK ITALIC~D,~~SMALL~,~~~E,~~~I,~~~J,PROPERTY LINE,TURNED AMPERSAND",
    "PER SIGN,AKTIESELSKAB,TURNED SMALL F,SYMBOL FOR SAMARITAN SOURCE"]⟩,
  -- Number Forms
  ⟨0x2150, [
    "VULGAR FRACTION ONE SEVENTH,~~~NINTH,~~~TENTH,~~~THIRD,~~TWO THIRDS,~~ONE FIFTH",
    "~~TWO FIFTHS,~~THREE~,~~FOUR~,~~ONE SIXTH,~~FIVE SIXTHS,~~ONE EIGHTH,~~THREE EIGHTHS",
    "~~FIVE~,~~SEVEN~,FRACTION NUMERATOR ONE,ROMAN NUMERAL~,~~TWO,~~THREE,~~FOUR,~~FIVE,~~SIX",
    "~~SEVEN,~~EIGHT,~~NINE,~~TEN,~~ELEVEN,~~TWELVE,~~FIFTY,~~ONE HUNDRED,~~FIVE~,~~ONE THOUSAND",
    "SMALL ROMAN NUMERAL ONE,~~~TWO,~~~THREE,~~~FOUR,~~~FIVE,~~~SIX,~~~SEVEN,~~~EIGHT,~~~NINE",
    "~~~TEN,~~~ELEVEN,~~~TWELVE,~~~FIFTY,~~~ONE HUNDRED,~~~FIVE~,~~~ONE THOUSAND",
    "ROMAN NUMERAL ONE THOUSAND C D,~~FIVE~,~~TEN~,~~REVERSED ONE HUNDRED",
    "LATIN SMALL LETTER REVERSED C,ROMAN NUMERAL SIX LATE FORM,~~FIFTY EARLY~,~~~THOUSAND",
    "~~ONE HUNDRED THOUSAND,VULGAR FRACTION ZERO THIRDS,TURNED DIGIT TWO,~~THREE"]⟩,
  -- Control Pictures
  ⟨0x2400, [
    "SYMBOL FOR NULL,~~START OF HEADING,~~~~TEXT,~~END~~,~~~~TRANSMISSION,~~ENQUIRY",
    "~~ACKNOWLEDGE,~~BELL,~~BACKSPACE,~~HORIZONTAL TABULATION,~~LINE FEED,~~VERTICAL TABULATION",
    "~~FORM FEED,~~CARRIAGE RETURN,~~SHIFT OUT,~~~IN,~~DATA LINK ESCAPE,~~DEVICE CONTROL ONE",
    "~~~~TWO,~~~~THREE,~~~~FOUR,~~NEGATIVE ACKNOWLEDGE,~~SYNCHRONOUS IDLE",
    "~~END OF TRANSMISSION BLOCK,~~CANCEL,~~END OF MEDIUM,~~SUBSTITUTE,~~ESCAPE,~~FILE SEPARATOR",
    "~~GROUP~,~~RECORD~,~~UNIT~,~~SPACE,~~DELETE,BLANK SYMBOL,OPEN BOX,SYMBOL FOR NEWLINE",
    "~~DELETE FORM TWO,~~SUBSTITUTE~~"]⟩,
  -- Optical Character Recognition
  ⟨0x2440, [
    "OCR HOOK,~CHAIR,~FORK,~INVERTED FORK,~BELT BUCKLE,~BOW TIE,~BRANCH BANK IDENTIFICATION",
    "~AMOUNT OF CHECK,~DASH,~CUSTOMER ACCOUNT NUMBER,~DOUBLE BACKSLASH"]⟩,
  -- Enclosed Alphanumerics
  ⟨0x2460, [
    "CIRCLED DIGIT ONE,~~TWO,~~THREE,~~FOUR,~~FIVE,~~SIX,~~SEVEN,~~EIGHT,~~NINE,~NUMBER TEN",
    "~~ELEVEN,~~TWELVE,~~THIRTEEN,~~FOURTEEN,~~FIFTEEN,~~SIXTEEN,~~SEVENTEEN,~~EIGHTEEN",
    "~~NINETEEN,~~TWENTY,PARENTHESIZED DIGIT ONE,~~TWO,~~THREE,~~FOUR,~~FIVE,~~SIX,~~SEVEN",
    "~~EIGHT,~~NINE,~NUMBER TEN,~~ELEVEN,~~TWELVE,~~THIRTEEN,~~FOURTEEN,~~FIFTEEN,~~SIXTEEN",
    "~~SEVENTEEN,~~EIGHTEEN,~~NINETEEN,~~TWENTY,DIGIT ONE FULL STOP,~TWO~~,~THREE~~,~FOUR~~",
    "~FIVE~~,~SIX~~,~SEVEN~~,~EIGHT~~,~NINE~~,NUMBER TEN~~,~ELEVEN~~,~TWELVE~~,~THIRTEEN~~",
    "~FOURTEEN~~,~FIFTEEN~~,~SIXTEEN~~,~SEVENTEEN~~,~EIGHTEEN~~,~NINETEEN~~,~TWENTY~~",
    "PARENTHESIZED LATIN SMALL LETTER A,~~~~B,~~~~C,~~~~D,~~~~E,~~~~F,~~~~G,~~~~H,~~~~I,~~~~J",
    "~~~~K,~~~~L,~~~~M,~~~~N,~~~~O,~~~~P,~~~~Q,~~~~R,~~~~S,~~~~T,~~~~U,~~~~V,~~~~W,~~~~X,~~~~Y",
    "~~~~Z,CIRCLED~CAPITAL~A,~~~~B,~~~~C,~~~~D,~~~~E,~~~~F,~~~~G,~~~~H,~~~~I,~~~~J,~~~~K,~~~~L",
    "~~~~M,~~~~N,~~~~O,~~~~P,~~~~Q,~~~~R,~~~~S,~~~~T,~~~~U,~~~~V,~~~~W,~~~~X,~~~~Y,~~~~Z",
    "~~SMALL~A,~~~~B,~~~~C,~~~~D,~~~~E,~~~~F,~~~~G,~~~~H,~~~~I,~~~~J,~~~~K,~~~~L,~~~~M,~~~~N",
    "~~~~O,~~~~P,~~~~Q,~~~~R,~~~~S,~~~~T,~~~~U,~~~~V,~~~~W,~~~~X,~~~~Y,~~~~Z,~DIGIT ZERO",
    "NEGATIVE CIRCLED NUMBER ELEVEN,~~~TWELVE,~~~THIRTEEN,~~~FOURTEEN,~~~FIFTEEN,~~~SIXTEEN",
    "~~~SEVENTEEN,~~~EIGHTEEN,~~~NINETEEN,~~~TWENTY,DOUBLE~DIGIT ONE,~~~TWO,~~~THREE,~~~FOUR",
    "~~~FIVE,~~~SIX,~~~SEVEN,~~~EIGHT,~~~NINE,~~NUMBER TEN,NEGATIVE~DIGIT ZERO"]⟩,
  -- Supplemental Punctuation
  ⟨0x2e00, [
    "RIGHT ANGLE SUBSTITUTION MARKER,~~DOTTED SUBSTITUTION MARKER,LEFT SUBSTITUTION BRACKET",
    "RIGHT~~,LEFT DOTTED SUBSTITUTION BRACKET,RIGHT~~~,RAISED INTERPOLATION MARKER",
    "~DOTTED INTERPOLATION MARKER,DOTTED TRANSPOSITION MARKER,LEFT~BRACKET,RIGHT~~,RAISED SQUARE",
    "LEFT RAISED OMISSION BRACKET,RIGHT~~~,EDITORIAL CORONIS,PARAGRAPHOS,FORKED PARAGRAPHOS",
    "REVERSED FORKED PARAGRAPHOS,HYPODIASTOLE,DOTTED OBELOS,DOWNWARDS ANCORA,UPWARDS~",
    "DOTTED RIGHT-POINTING ANGLE,DOUBLE OBLIQUE HYPHEN,INVERTED INTERROBANG,PALM BRANCH",
    "HYPHEN WITH DIAERESIS,TILDE~RING ABOVE,LEFT LOW PARAPHRASE BRACKET,RIGHT~~~",
    "TILDE WITH DOT ABOVE,~~~BELOW,LEFT VERTICAL BAR WITH QUILL,RIGHT~~~~,TOP LEFT HALF BRACKET",
    "~RIGHT~~,BOTTOM LEFT~~,~RIGHT~~,LEFT SIDEWAYS U~,RIGHT~~~,LEFT DOUBLE PARENTHESIS,RIGHT~~",
    "TWO DOTS OVER ONE DOT PUNCTUATION,ONE DOT~TWO DOTS~,SQUARED FOUR DOT PUNCTUATION",
    "FIVE DOT MARK,REVERSED QUESTION~,VERTICAL TILDE,RING POINT,WORD SEPARATOR MIDDLE DOT",
    "TURNED COMMA,RAISED DOT,~COMMA,TURNED SEMICOLON,DAGGER WITH LEFT GUARD,~~RIGHT~",
    "TURNED DAGGER,TOP HALF SECTION SIGN,TWO-EM DASH,THREE-EM~,STENOGRAPHIC FULL STOP",
    "VERTICAL SIX DOTS,WIGGLY VERTICAL LINE,CAPITULUM,DOUBLE HYPHEN,REVERSED COMMA",
    "DOUBLE LOW-REVERSED-9 QUOTATION MARK,DASH WITH LEFT UPTURN,DOUBLE SUSPENSION MARK",
    "INVERTED LOW KAVYKA,~~~WITH KAVYKA ABOVE,LOW KAVYKA,~~WITH DOT,DOUBLE STACKED COMMA",
    "DOTTED SOLIDUS,TRIPLE DAGGER,MEDIEVAL COMMA,PARAGRAPHUS MARK,PUNCTUS ELEVATUS MARK",
    "CORNISH VERSE DIVIDER,CROSS PATTY WITH RIGHT CROSSBAR,~~~LEFT~,TIRONIAN SIGN CAPITAL ET",
    "MEDIEVAL EXCLAMATION MARK,~QUESTION~,LEFT SQUARE BRACKET WITH STROKE,RIGHT~~~~",
    "LEFT~~~DOUBLE STROKE,RIGHT~~~~~,TOP HALF LEFT PARENTHESIS,~~RIGHT~,BOTTOM~LEFT~,~~RIGHT~",
    "OBLIQUE HYPHEN"]⟩,
  -- Specials
  ⟨0xfff9, [
    "INTERLINEAR ANNOTATION ANCHOR,~~SEPARATOR,~~TERMINATOR,OBJECT REPLACEMENT CHARACTER",
    "REPLACEMENT CHARACTER"]⟩,
  -- Enclosed Alphanumeric Supplement
  ⟨0x1f100, [
    "DIGIT ZERO FULL STOP,~~COMMA,~ONE~,~TWO~,~THREE~,~FOUR~,~FIVE~,~SIX~,~SEVEN~,~EIGHT~,~NINE~",
    "DINGBAT CIRCLED SANS-SERIF DIGIT ZERO,~NEGATIVE CIRCLED SANS-SERIF DIGIT ZERO",
    "CIRCLED ZERO WITH SLASH,~ANTICLOCKWISE ARROW,~DOLLAR SIGN WITH OVERLAID BACKSLASH",
    "PARENTHESIZED LATIN CAPITAL LETTER A,~~~~B,~~~~C,~~~~D,~~~~E,~~~~F,~~~~G,~~~~H,~~~~I,~~~~J",
    "~~~~K,~~~~L,~~~~M,~~~~N,~~~~O,~~~~P,~~~~Q,~~~~R,~~~~S,~~~~T,~~~~U,~~~~V,~~~~W,~~~~X,~~~~Y",
    "~~~~Z,TORTOISE SHELL BRACKETED LATIN CAPITAL LETTER S,CIRCLED ITALIC LATIN CAPITAL LETTER C",
    "~~~~~R,~CD,~WZ,COPYLEFT SYMBOL,SQUARED LATIN CAPITAL LETTER A,~~~~B,~~~~C,~~~~D,~~~~E,~~~~F",
    "~~~~G,~~~~H,~~~~I,~~~~J,~~~~K,~~~~L,~~~~M,~~~~N,~~~~O,~~~~P,~~~~Q,~~~~R,~~~~S,~~~~T,~~~~U",
    "~~~~V,~~~~W,~~~~X,~~~~Y,~~~~Z,~HV,~MV,~SD,~SS,~PPV,~WC",
    "NEGATIVE CIRCLED LATIN CAPITAL LETTER A,~~~~~B,~~~~~C,~~~~~D,~~~~~E,~~~~~F,~~~~~G,~~~~~H",
    "~~~~~I,~~~~~J,~~~~~K,~~~~~L,~~~~~M,~~~~~N,~~~~~O,~~~~~P,~~~~~Q,~~~~~R,~~~~~S,~~~~~T,~~~~~U",
    "~~~~~V,~~~~~W,~~~~~X,~~~~~Y,~~~~~Z,RAISED MC SIGN,~MD~,~MR~,CIRCLED CC",
    "~C WITH OVERLAID BACKSLASH,~HUMAN FIGURE,NEGATIVE SQUARED LATIN CAPITAL LETTER A,~~~~~B",
    "~~~~~C,~~~~~D,~~~~~E,~~~~~F,~~~~~G,~~~~~H,~~~~~I,~~~~~J,~~~~~K,~~~~~L,~~~~~M,~~~~~N,~~~~~O",
    "~~~~~P,~~~~~Q,~~~~~R,~~~~~S,~~~~~T,~~~~~U,~~~~~V,~~~~~W,~~~~~X,~~~~~Y,~~~~~Z",
    "CROSSED NEGATIVE SQUARED LATIN CAPITAL LETTER P,NEGATIVE SQUARED IC,~~PA,~~SA,~~AB,~~WC",
    "SQUARE DJ,SQUARED CL,~COOL,~FREE,~ID,~NEW,~NG,~OK,~SOS,~UP WITH EXCLAMATION MARK,~VS",
    "~THREE D,~SECOND SCREEN,~TWO K,~FOUR~,~EIGHT~,~FIVE POINT ONE,~SEVEN~~,~TWENTY-TWO~TWO",
    "~SIXTY P,~ONE HUNDRED TWENTY P,~LATIN SMALL LETTER D,~HC,~HDR,~HI-RES,~LOSSLESS,~SHV,~UHD",
    "~VOD,MASK WORK SYMBOL"]⟩,
  ⟨0x1f1e6, [
    "REGIONAL INDICATOR SYMBOL LETTER A,~~~~B,~~~~C,~~~~D,~~~~E,~~~~F,~~~~G,~~~~H,~~~~I,~~~~J",
    "~~~~K,~~~~L,~~~~M,~~~~N,~~~~O,~~~~P,~~~~Q,~~~~R,~~~~S,~~~~T,~~~~U,~~~~V,~~~~W,~~~~X,~~~~Y",
    "~~~~Z"]⟩,
  -- Tags
  ⟨0xe0001, [
    "LANGUAGE TAG"]⟩,
  ⟨0xe0020, [
    "TAG SPACE,~EXCLAMATION MARK,~QUOTATION~,~NUMBER SIGN,~DOLLAR~,~PERCENT~,~AMPERSAND",
    "~APOSTROPHE,~LEFT PARENTHESIS,~RIGHT~,~ASTERISK,~PLUS SIGN,~COMMA,~HYPHEN-MINUS,~FULL STOP",
    "~SOLIDUS,~DIGIT ZERO,~~ONE,~~TWO,~~THREE,~~FOUR,~~FIVE,~~SIX,~~SEVEN,~~EIGHT,~~NINE,~COLON",
    "~SEMICOLON,~LESS-THAN SIGN,~EQUALS~,~GREATER-THAN~,~QUESTION MARK,~COMMERCIAL AT",
    "~LATIN CAPITAL LETTER A,~~~~B,~~~~C,~~~~D,~~~~E,~~~~F,~~~~G,~~~~H,~~~~I,~~~~J,~~~~K,~~~~L",
    "~~~~M,~~~~N,~~~~O,~~~~P,~~~~Q,~~~~R,~~~~S,~~~~T,~~~~U,~~~~V,~~~~W,~~~~X,~~~~Y,~~~~Z",
    "~LEFT SQUARE BRACKET,~REVERSE SOLIDUS,~RIGHT SQUARE BRACKET,~CIRCUMFLEX ACCENT,~LOW LINE",
    "~GRAVE ACCENT,~LATIN SMALL LETTER A,~~~~B,~~~~C,~~~~D,~~~~E,~~~~F,~~~~G,~~~~H,~~~~I,~~~~J",
    "~~~~K,~~~~L,~~~~M,~~~~N,~~~~O,~~~~P,~~~~Q,~~~~R,~~~~S,~~~~T,~~~~U,~~~~V,~~~~W,~~~~X,~~~~Y",
    "~~~~Z,~LEFT CURLY BRACKET,~VERTICAL LINE,~RIGHT CURLY BRACKET,~TILDE,CANCEL TAG"]⟩]

end AccessScopes.Text
