import AccessScopes.Text.CharName.Block

/-!
# `AccessScopes.Text.CharName.Script.EastAsia`: names of East Asian letters

Kana, the letters of Hangul, Bopomofo, Yi and the signs that stand beside ideographs. Ideographs
and the syllables of Hangul have names that follow a rule; they are not in a table.
-/

set_option autoImplicit false

namespace AccessScopes.Text

/-- The blocks of East Asian scripts. -/
def eastAsiaBlocks : List NameBlock := [
  -- Hangul Jamo
  ⟨0x1100, [
    "HANGUL CHOSEONG KIYEOK,~~SSANGKIYEOK,~~NIEUN,~~TIKEUT,~~SSANGTIKEUT,~~RIEUL,~~MIEUM,~~PIEUP",
    "~~SSANGPIEUP,~~SIOS,~~SSANGSIOS,~~IEUNG,~~CIEUC,~~SSANGCIEUC,~~CHIEUCH,~~KHIEUKH,~~THIEUTH",
    "~~PHIEUPH,~~HIEUH,~~NIEUN-KIYEOK,~~SSANGNIEUN,~~NIEUN-TIKEUT,~~NIEUN-PIEUP,~~TIKEUT-KIYEOK",
    "~~RIEUL-NIEUN,~~SSANGRIEUL,~~RIEUL-HIEUH,~~KAPYEOUNRIEUL,~~MIEUM-PIEUP,~~KAPYEOUNMIEUM",
    "~~PIEUP-KIYEOK,~~PIEUP-NIEUN,~~PIEUP-TIKEUT,~~PIEUP-SIOS,~~PIEUP-SIOS-KIYEOK",
    "~~PIEUP-SIOS-TIKEUT,~~PIEUP-SIOS-PIEUP,~~PIEUP-SSANGSIOS,~~PIEUP-SIOS-CIEUC,~~PIEUP-CIEUC",
    "~~PIEUP-CHIEUCH,~~PIEUP-THIEUTH,~~PIEUP-PHIEUPH,~~KAPYEOUNPIEUP,~~KAPYEOUNSSANGPIEUP",
    "~~SIOS-KIYEOK,~~SIOS-NIEUN,~~SIOS-TIKEUT,~~SIOS-RIEUL,~~SIOS-MIEUM,~~SIOS-PIEUP",
    "~~SIOS-PIEUP-KIYEOK,~~SIOS-SSANGSIOS,~~SIOS-IEUNG,~~SIOS-CIEUC,~~SIOS-CHIEUCH",
    "~~SIOS-KHIEUKH,~~SIOS-THIEUTH,~~SIOS-PHIEUPH,~~SIOS-HIEUH,~~CHITUEUMSIOS",
    "~~CHITUEUMSSANGSIOS,~~CEONGCHIEUMSIOS,~~CEONGCHIEUMSSANGSIOS,~~PANSIOS,~~IEUNG-KIYEOK",
    "~~IEUNG-TIKEUT,~~IEUNG-MIEUM,~~IEUNG-PIEUP,~~IEUNG-SIOS,~~IEUNG-PANSIOS,~~SSANGIEUNG",
    "~~IEUNG-CIEUC,~~IEUNG-CHIEUCH,~~IEUNG-THIEUTH,~~IEUNG-PHIEUPH,~~YESIEUNG,~~CIEUC-IEUNG",
    "~~CHITUEUMCIEUC,~~CHITUEUMSSANGCIEUC,~~CEONGCHIEUMCIEUC,~~CEONGCHIEUMSSANGCIEUC",
    "~~CHIEUCH-KHIEUKH,~~CHIEUCH-HIEUH,~~CHITUEUMCHIEUCH,~~CEONGCHIEUMCHIEUCH,~~PHIEUPH-PIEUP",
    "~~KAPYEOUNPHIEUPH,~~SSANGHIEUH,~~YEORINHIEUH,~~KIYEOK-TIKEUT,~~NIEUN-SIOS,~~NIEUN-CIEUC",
    "~~NIEUN-HIEUH,~~TIKEUT-RIEUL,~~FILLER,~JUNGSEONG~,~~A,~~AE,~~YA,~~YAE,~~EO,~~E,~~YEO,~~YE",
    "~~O,~~WA,~~WAE,~~OE,~~YO,~~U,~~WEO,~~WE,~~WI,~~YU,~~EU,~~YI,~~I,~~A-O,~~A-U,~~YA-O,~~YA-YO",
    "~~EO-O,~~EO-U,~~EO-EU,~~YEO-O,~~YEO-U,~~O-EO,~~O-E,~~O-YE,~~O-O,~~O-U,~~YO-YA,~~YO-YAE",
    "~~YO-YEO,~~YO-O,~~YO-I,~~U-A,~~U-AE,~~U-EO-EU,~~U-YE,~~U-U,~~YU-A,~~YU-EO,~~YU-E,~~YU-YEO",
    "~~YU-YE,~~YU-U,~~YU-I,~~EU-U,~~EU-EU,~~YI-U,~~I-A,~~I-YA,~~I-O,~~I-U,~~I-EU,~~I-ARAEA",
    "~~ARAEA,~~ARAEA-EO,~~ARAEA-U,~~ARAEA-I,~~SSANGARAEA,~~A-EU,~~YA-U,~~YEO-YA,~~O-YA,~~O-YAE",
    "~JONGSEONG KIYEOK,~~SSANGKIYEOK,~~KIYEOK-SIOS,~~NIEUN,~~NIEUN-CIEUC,~~NIEUN-HIEUH,~~TIKEUT",
    "~~RIEUL,~~RIEUL-KIYEOK,~~RIEUL-MIEUM,~~RIEUL-PIEUP,~~RIEUL-SIOS,~~RIEUL-THIEUTH",
    "~~RIEUL-PHIEUPH,~~RIEUL-HIEUH,~~MIEUM,~~PIEUP,~~PIEUP-SIOS,~~SIOS,~~SSANGSIOS,~~IEUNG",
    "~~CIEUC,~~CHIEUCH,~~KHIEUKH,~~THIEUTH,~~PHIEUPH,~~HIEUH,~~KIYEOK-RIEUL,~~KIYEOK-SIOS-KIYEOK",
    "~~NIEUN-KIYEOK,~~NIEUN-TIKEUT,~~NIEUN-SIOS,~~NIEUN-PANSIOS,~~NIEUN-THIEUTH,~~TIKEUT-KIYEOK",
    "~~TIKEUT-RIEUL,~~RIEUL-KIYEOK-SIOS,~~RIEUL-NIEUN,~~RIEUL-TIKEUT,~~RIEUL-TIKEUT-HIEUH",
    "~~SSANGRIEUL,~~RIEUL-MIEUM-KIYEOK,~~RIEUL-MIEUM-SIOS,~~RIEUL-PIEUP-SIOS,~~RIEUL-PIEUP-HIEUH",
    "~~RIEUL-KAPYEOUNPIEUP,~~RIEUL-SSANGSIOS,~~RIEUL-PANSIOS,~~RIEUL-KHIEUKH,~~RIEUL-YEORINHIEUH",
    "~~MIEUM-KIYEOK,~~MIEUM-RIEUL,~~MIEUM-PIEUP,~~MIEUM-SIOS,~~MIEUM-SSANGSIOS,~~MIEUM-PANSIOS",
    "~~MIEUM-CHIEUCH,~~MIEUM-HIEUH,~~KAPYEOUNMIEUM,~~PIEUP-RIEUL,~~PIEUP-PHIEUPH,~~PIEUP-HIEUH",
    "~~KAPYEOUNPIEUP,~~SIOS-KIYEOK,~~SIOS-TIKEUT,~~SIOS-RIEUL,~~SIOS-PIEUP,~~PANSIOS",
    "~~IEUNG-KIYEOK,~~IEUNG-SSANGKIYEOK,~~SSANGIEUNG,~~IEUNG-KHIEUKH,~~YESIEUNG,~~YESIEUNG-SIOS",
    "~~YESIEUNG-PANSIOS,~~PHIEUPH-PIEUP,~~KAPYEOUNPHIEUPH,~~HIEUH-NIEUN,~~HIEUH-RIEUL",
    "~~HIEUH-MIEUM,~~HIEUH-PIEUP,~~YEORINHIEUH,~~KIYEOK-NIEUN,~~KIYEOK-PIEUP,~~KIYEOK-CHIEUCH",
    "~~KIYEOK-KHIEUKH,~~KIYEOK-HIEUH,~~SSANGNIEUN"]⟩,
  -- CJK Radicals Supplement
  ⟨0x2e80, [
    "CJK RADICAL REPEAT,~~CLIFF,~~SECOND ONE,~~~TWO,~~~THREE,~~PERSON,~~BOX,~~TABLE,~~KNIFE ONE",
    "~~~TWO,~~DIVINATION,~~SEAL,~~SMALL ONE,~~~TWO,~~LAME ONE,~~~TWO,~~~THREE,~~~FOUR,~~SNAKE",
    "~~THREAD,~~SNOUT ONE,~~~TWO,~~HEART ONE,~~~TWO,~~HAND,~~RAP,,~~CHOKE,~~SUN,~~MOON,~~DEATH",
    "~~MOTHER,~~CIVILIAN,~~WATER ONE,~~~TWO,~~FIRE,~~PAW ONE,~~~TWO,~~SIMPLIFIED HALF TREE TRUNK",
    "~~COW,~~DOG,~~JADE,~~BOLT OF CLOTH,~~EYE,~~SPIRIT ONE,~~~TWO,~~BAMBOO,~~SILK",
    "~~C-SIMPLIFIED SILK,~~NET ONE,~~~TWO,~~~THREE,~~~FOUR,~~MESH,~~SHEEP,~~RAM,~~EWE,~~OLD",
    "~~BRUSH ONE,~~~TWO,~~MEAT,~~MORTAR,~~GRASS ONE,~~~TWO,~~~THREE,~~TIGER,~~CLOTHES,~~WEST ONE",
    "~~~TWO,~~C-SIMPLIFIED SEE,~~SIMPLIFIED HORN,~~HORN,~~C-SIMPLIFIED SPEECH,~~~SHELL,~~FOOT",
    "~~C-SIMPLIFIED CART,~~SIMPLIFIED WALK,~~WALK ONE,~~~TWO,~~CITY,~~C-SIMPLIFIED GOLD",
    "~~LONG ONE,~~~TWO,~~C-SIMPLIFIED LONG,~~~GATE,~~MOUND ONE,~~~TWO,~~RAIN,~~BLUE",
    "~~C-SIMPLIFIED TANNED LEATHER,~~~LEAF,~~~WIND,~~~FLY,~~EAT ONE,~~~TWO,~~~THREE",
    "~~C-SIMPLIFIED EAT,~~HEAD,~~C-SIMPLIFIED HORSE,~~BONE,~~GHOST,~~C-SIMPLIFIED FISH,~~~BIRD",
    "~~~SALT,~~SIMPLIFIED WHEAT,~~~YELLOW,~~C-SIMPLIFIED FROG,~~J-SIMPLIFIED EVEN",
    "~~C-SIMPLIFIED~,~~J-SIMPLIFIED TOOTH,~~C-SIMPLIFIED~,~~J-SIMPLIFIED DRAGON,~~C-SIMPLIFIED~",
    "~~TURTLE,~~J-SIMPLIFIED TURTLE,~~C-SIMPLIFIED~"]⟩,
  -- Kangxi Radicals
  ⟨0x2f00, [
    "KANGXI RADICAL ONE,~~LINE,~~DOT,~~SLASH,~~SECOND,~~HOOK,~~TWO,~~LID,~~MAN,~~LEGS,~~ENTER",
    "~~EIGHT,~~DOWN BOX,~~COVER,~~ICE,~~TABLE,~~OPEN BOX,~~KNIFE,~~POWER,~~WRAP,~~SPOON",
    "~~RIGHT OPEN BOX,~~HIDING ENCLOSURE,~~TEN,~~DIVINATION,~~SEAL,~~CLIFF,~~PRIVATE,~~AGAIN",
    "~~MOUTH,~~ENCLOSURE,~~EARTH,~~SCHOLAR,~~GO,~~~SLOWLY,~~EVENING,~~BIG,~~WOMAN,~~CHILD,~~ROOF",
    "~~INCH,~~SMALL,~~LAME,~~CORPSE,~~SPROUT,~~MOUNTAIN,~~RIVER,~~WORK,~~ONESELF,~~TURBAN,~~DRY",
    "~~SHORT THREAD,~~DOTTED CLIFF,~~LONG STRIDE,~~TWO HANDS,~~SHOOT,~~BOW,~~SNOUT,~~BRISTLE",
    "~~STEP,~~HEART,~~HALBERD,~~DOOR,~~HAND,~~BRANCH,~~RAP,~~SCRIPT,~~DIPPER,~~AXE,~~SQUARE",
    "~~NOT,~~SUN,~~SAY,~~MOON,~~TREE,~~LACK,~~STOP,~~DEATH,~~WEAPON,~~DO NOT,~~COMPARE,~~FUR",
    "~~CLAN,~~STEAM,~~WATER,~~FIRE,~~CLAW,~~FATHER,~~DOUBLE X,~~HALF TREE TRUNK,~~SLICE,~~FANG",
    "~~COW,~~DOG,~~PROFOUND,~~JADE,~~MELON,~~TILE,~~SWEET,~~LIFE,~~USE,~~FIELD,~~BOLT OF CLOTH",
    "~~SICKNESS,~~DOTTED TENT,~~WHITE,~~SKIN,~~DISH,~~EYE,~~SPEAR,~~ARROW,~~STONE,~~SPIRIT",
    "~~TRACK,~~GRAIN,~~CAVE,~~STAND,~~BAMBOO,~~RICE,~~SILK,~~JAR,~~NET,~~SHEEP,~~FEATHER,~~OLD",
    "~~AND,~~PLOW,~~EAR,~~BRUSH,~~MEAT,~~MINISTER,~~SELF,~~ARRIVE,~~MORTAR,~~TONGUE,~~OPPOSE",
    "~~BOAT,~~STOPPING,~~COLOR,~~GRASS,~~TIGER,~~INSECT,~~BLOOD,~~WALK ENCLOSURE,~~CLOTHES",
    "~~WEST,~~SEE,~~HORN,~~SPEECH,~~VALLEY,~~BEAN,~~PIG,~~BADGER,~~SHELL,~~RED,~~RUN,~~FOOT",
    "~~BODY,~~CART,~~BITTER,~~MORNING,~~WALK,~~CITY,~~WINE,~~DISTINGUISH,~~VILLAGE,~~GOLD,~~LONG",
    "~~GATE,~~MOUND,~~SLAVE,~~SHORT TAILED BIRD,~~RAIN,~~BLUE,~~WRONG,~~FACE,~~LEATHER",
    "~~TANNED LEATHER,~~LEEK,~~SOUND,~~LEAF,~~WIND,~~FLY,~~EAT,~~HEAD,~~FRAGRANT,~~HORSE,~~BONE",
    "~~TALL,~~HAIR,~~FIGHT,~~SACRIFICIAL WINE,~~CAULDRON,~~GHOST,~~FISH,~~BIRD,~~SALT,~~DEER",
    "~~WHEAT,~~HEMP,~~YELLOW,~~MILLET,~~BLACK,~~EMBROIDERY,~~FROG,~~TRIPOD,~~DRUM,~~RAT,~~NOSE",
    "~~EVEN,~~TOOTH,~~DRAGON,~~TURTLE,~~FLUTE"]⟩,
  -- Ideographic Description Characters
  ⟨0x2ff0, [
    "IDEOGRAPHIC DESCRIPTION CHARACTER LEFT TO RIGHT,~~~ABOVE~BELOW,~~~LEFT~MIDDLE AND RIGHT",
    "~~~ABOVE~~~BELOW,~~~FULL SURROUND,~~~SURROUND FROM ABOVE,~~~~~BELOW,~~~~~LEFT",
    "~~~~~UPPER LEFT,~~~~~~RIGHT,~~~~~LOWER LEFT,~~~OVERLAID"]⟩,
  -- CJK Symbols and Punctuation
  ⟨0x3000, [
    "IDEOGRAPHIC SPACE,~COMMA,~FULL STOP,DITTO MARK,JAPANESE INDUSTRIAL STANDARD SYMBOL",
    "IDEOGRAPHIC ITERATION MARK,~CLOSING~,~NUMBER ZERO,LEFT ANGLE BRACKET,RIGHT~~",
    "LEFT DOUBLE ANGLE BRACKET,RIGHT~~~,LEFT CORNER BRACKET,RIGHT~~,LEFT WHITE CORNER BRACKET",
    "RIGHT~~~,LEFT BLACK LENTICULAR~,RIGHT~~~,POSTAL MARK,GETA~,LEFT TORTOISE SHELL BRACKET",
    "RIGHT~~~,LEFT WHITE LENTICULAR~,RIGHT~~~,LEFT~TORTOISE SHELL BRACKET,RIGHT~~~~",
    "LEFT~SQUARE BRACKET,RIGHT~~~,WAVE DASH,REVERSED DOUBLE PRIME QUOTATION MARK",
    "DOUBLE PRIME QUOTATION MARK,LOW DOUBLE PRIME QUOTATION MARK,POSTAL MARK FACE",
    "HANGZHOU NUMERAL ONE,~~TWO,~~THREE,~~FOUR,~~FIVE,~~SIX,~~SEVEN,~~EIGHT,~~NINE",
    "IDEOGRAPHIC LEVEL TONE MARK,~RISING~~,~DEPARTING~~,~ENTERING~~,HANGUL SINGLE DOT TONE MARK",
    "~DOUBLE~~~,WAVY DASH,VERTICAL KANA REPEAT MARK,~~~WITH VOICED SOUND MARK,~~~MARK UPPER HALF",
    "~~~WITH VOICED SOUND MARK UPPER HALF,~~~MARK LOWER HALF,CIRCLED POSTAL MARK",
    "IDEOGRAPHIC TELEGRAPH LINE FEED SEPARATOR SYMBOL,HANGZHOU NUMERAL TEN,~~TWENTY,~~THIRTY",
    "VERTICAL IDEOGRAPHIC ITERATION MARK,MASU MARK,PART ALTERNATION MARK",
    "IDEOGRAPHIC VARIATION INDICATOR,~HALF FILL SPACE"]⟩,
  -- Hiragana
  ⟨0x3041, [
    "HIRAGANA LETTER SMALL A,~~A,~~SMALL I,~~I,~~SMALL U,~~U,~~SMALL E,~~E,~~SMALL O,~~O,~~KA",
    "~~GA,~~KI,~~GI,~~KU,~~GU,~~KE,~~GE,~~KO,~~GO,~~SA,~~ZA,~~SI,~~ZI,~~SU,~~ZU,~~SE,~~ZE,~~SO",
    "~~ZO,~~TA,~~DA,~~TI,~~DI,~~SMALL TU,~~TU,~~DU,~~TE,~~DE,~~TO,~~DO,~~NA,~~NI,~~NU,~~NE,~~NO",
    "~~HA,~~BA,~~PA,~~HI,~~BI,~~PI,~~HU,~~BU,~~PU,~~HE,~~BE,~~PE,~~HO,~~BO,~~PO,~~MA,~~MI,~~MU",
    "~~ME,~~MO,~~SMALL YA,~~YA,~~SMALL YU,~~YU,~~SMALL YO,~~YO,~~RA,~~RI,~~RU,~~RE,~~RO",
    "~~SMALL WA,~~WA,~~WI,~~WE,~~WO,~~N,~~VU,~~SMALL KA,~~~KE,,",
    "COMBINING KATAKANA-HIRAGANA VOICED SOUND MARK,~~SEMI-VOICED~~",
    "KATAKANA-HIRAGANA VOICED SOUND MARK,~SEMI-VOICED~~,HIRAGANA ITERATION MARK",
    "~VOICED ITERATION MARK,~DIGRAPH YORI"]⟩,
  -- Katakana
  ⟨0x30a0, [
    "KATAKANA-HIRAGANA DOUBLE HYPHEN,KATAKANA LETTER SMALL A,~~A,~~SMALL I,~~I,~~SMALL U,~~U",
    "~~SMALL E,~~E,~~SMALL O,~~O,~~KA,~~GA,~~KI,~~GI,~~KU,~~GU,~~KE,~~GE,~~KO,~~GO,~~SA,~~ZA",
    "~~SI,~~ZI,~~SU,~~ZU,~~SE,~~ZE,~~SO,~~ZO,~~TA,~~DA,~~TI,~~DI,~~SMALL TU,~~TU,~~DU,~~TE,~~DE",
    "~~TO,~~DO,~~NA,~~NI,~~NU,~~NE,~~NO,~~HA,~~BA,~~PA,~~HI,~~BI,~~PI,~~HU,~~BU,~~PU,~~HE,~~BE",
    "~~PE,~~HO,~~BO,~~PO,~~MA,~~MI,~~MU,~~ME,~~MO,~~SMALL YA,~~YA,~~SMALL YU,~~YU,~~SMALL YO",
    "~~YO,~~RA,~~RI,~~RU,~~RE,~~RO,~~SMALL WA,~~WA,~~WI,~~WE,~~WO,~~N,~~VU,~~SMALL KA,~~~KE,~~VA",
    "~~VI,~~VE,~~VO,~MIDDLE DOT,KATAKANA-HIRAGANA PROLONGED SOUND MARK,KATAKANA ITERATION MARK",
    "~VOICED ITERATION MARK,~DIGRAPH KOTO"]⟩,
  -- Bopomofo
  ⟨0x3105, [
    "BOPOMOFO LETTER B,~~P,~~M,~~F,~~D,~~T,~~N,~~L,~~G,~~K,~~H,~~J,~~Q,~~X,~~ZH,~~CH,~~SH,~~R",
    "~~Z,~~C,~~S,~~A,~~O,~~E,~~EH,~~AI,~~EI,~~AU,~~OU,~~AN,~~EN,~~ANG,~~ENG,~~ER,~~I,~~U,~~IU",
    "~~V,~~NG,~~GN,~~IH,~~O WITH DOT ABOVE,~~NN"]⟩,
  -- Hangul Compatibility Jamo
  ⟨0x3131, [
    "HANGUL LETTER KIYEOK,~~SSANGKIYEOK,~~KIYEOK-SIOS,~~NIEUN,~~NIEUN-CIEUC,~~NIEUN-HIEUH",
    "~~TIKEUT,~~SSANGTIKEUT,~~RIEUL,~~RIEUL-KIYEOK,~~RIEUL-MIEUM,~~RIEUL-PIEUP,~~RIEUL-SIOS",
    "~~RIEUL-THIEUTH,~~RIEUL-PHIEUPH,~~RIEUL-HIEUH,~~MIEUM,~~PIEUP,~~SSANGPIEUP,~~PIEUP-SIOS",
    "~~SIOS,~~SSANGSIOS,~~IEUNG,~~CIEUC,~~SSANGCIEUC,~~CHIEUCH,~~KHIEUKH,~~THIEUTH,~~PHIEUPH",
    "~~HIEUH,~~A,~~AE,~~YA,~~YAE,~~EO,~~E,~~YEO,~~YE,~~O,~~WA,~~WAE,~~OE,~~YO,~~U,~~WEO,~~WE",
    "~~WI,~~YU,~~EU,~~YI,~~I,~FILLER,~LETTER SSANGNIEUN,~~NIEUN-TIKEUT,~~NIEUN-SIOS",
    "~~NIEUN-PANSIOS,~~RIEUL-KIYEOK-SIOS,~~RIEUL-TIKEUT,~~RIEUL-PIEUP-SIOS,~~RIEUL-PANSIOS",
    "~~RIEUL-YEORINHIEUH,~~MIEUM-PIEUP,~~MIEUM-SIOS,~~MIEUM-PANSIOS,~~KAPYEOUNMIEUM",
    "~~PIEUP-KIYEOK,~~PIEUP-TIKEUT,~~PIEUP-SIOS-KIYEOK,~~PIEUP-SIOS-TIKEUT,~~PIEUP-CIEUC",
    "~~PIEUP-THIEUTH,~~KAPYEOUNPIEUP,~~KAPYEOUNSSANGPIEUP,~~SIOS-KIYEOK,~~SIOS-NIEUN",
    "~~SIOS-TIKEUT,~~SIOS-PIEUP,~~SIOS-CIEUC,~~PANSIOS,~~SSANGIEUNG,~~YESIEUNG,~~YESIEUNG-SIOS",
    "~~YESIEUNG-PANSIOS,~~KAPYEOUNPHIEUPH,~~SSANGHIEUH,~~YEORINHIEUH,~~YO-YA,~~YO-YAE,~~YO-I",
    "~~YU-YEO,~~YU-YE,~~YU-I,~~ARAEA,~~ARAEAE"]⟩,
  -- Kanbun
  ⟨0x3190, [
    "IDEOGRAPHIC ANNOTATION LINKING MARK,~~REVERSE~,~~ONE~,~~TWO~,~~THREE~,~~FOUR~,~~TOP~",
    "~~MIDDLE~,~~BOTTOM~,~~FIRST~,~~SECOND~,~~THIRD~,~~FOURTH~,~~HEAVEN~,~~EARTH~,~~MAN~"]⟩,
  -- Bopomofo Extended
  ⟨0x31a0, [
    "BOPOMOFO LETTER BU,~~ZI,~~JI,~~GU,~~EE,~~ENN,~~OO,~~ONN,~~IR,~~ANN,~~INN,~~UNN,~~IM,~~NGG",
    "~~AINN,~~AUNN,~~AM,~~OM,~~ONG,~~INNN,~FINAL LETTER P,~~~T,~~~K,~~~H,~LETTER GH,~~LH,~~ZY",
    "~FINAL LETTER G,~LETTER GW,~~KW,~~OE,~~AH"]⟩,
  -- CJK Strokes
  ⟨0x31c0, [
    "CJK STROKE T,~~WG,~~XG,~~BXG,~~SW,~~HZZ,~~HZG,~~HP,~~HZWG,~~SZWG,~~HZT,~~HZZP,~~HPWG,~~HZW",
    "~~HZZZ,~~N,~~H,~~S,~~P,~~SP,~~D,~~HZ,~~HG,~~SZ,~~SWZ,~~ST,~~SG,~~PD,~~PZ,~~TN,~~SZZ,~~SWG",
    "~~HXWG,~~HZZZG,~~PG,~~Q"]⟩,
  -- Katakana Phonetic Extensions
  ⟨0x31f0, [
    "KATAKANA LETTER SMALL KU,~~~SI,~~~SU,~~~TO,~~~NU,~~~HA,~~~HI,~~~HU,~~~HE,~~~HO,~~~MU,~~~RA",
    "~~~RI,~~~RU,~~~RE,~~~RO"]⟩,
  -- Enclosed CJK Letters and Months
  ⟨0x3200, [
    "PARENTHESIZED HANGUL KIYEOK,~~NIEUN,~~TIKEUT,~~RIEUL,~~MIEUM,~~PIEUP,~~SIOS,~~IEUNG,~~CIEUC",
    "~~CHIEUCH,~~KHIEUKH,~~THIEUTH,~~PHIEUPH,~~HIEUH,~~KIYEOK A,~~NIEUN~,~~TIKEUT~,~~RIEUL~",
    "~~MIEUM~,~~PIEUP~,~~SIOS~,~~IEUNG~,~~CIEUC~,~~CHIEUCH~,~~KHIEUKH~,~~THIEUTH~,~~PHIEUPH~",
    "~~HIEUH~,~~CIEUC U,~KOREAN CHARACTER OJEON,~~~O HU,,~IDEOGRAPH ONE,~~TWO,~~THREE,~~FOUR",
    "~~FIVE,~~SIX,~~SEVEN,~~EIGHT,~~NINE,~~TEN,~~MOON,~~FIRE,~~WATER,~~WOOD,~~METAL,~~EARTH",
    "~~SUN,~~STOCK,~~HAVE,~~SOCIETY,~~NAME,~~SPECIAL,~~FINANCIAL,~~CONGRATULATION,~~LABOR",
    "~~REPRESENT,~~CALL,~~STUDY,~~SUPERVISE,~~ENTERPRISE,~~RESOURCE,~~ALLIANCE,~~FESTIVAL,~~REST",
    "~~SELF,~~REACH,CIRCLED~QUESTION,~~KINDERGARTEN,~~SCHOOL,~~KOTO,~NUMBER TEN ON BLACK SQUARE",
    "~~TWENTY~~~,~~THIRTY~~~,~~FORTY~~~,~~FIFTY~~~,~~SIXTY~~~,~~SEVENTY~~~,~~EIGHTY~~~",
    "PARTNERSHIP SIGN,CIRCLED NUMBER TWENTY ONE,~~~TWO,~~~THREE,~~~FOUR,~~~FIVE,~~~SIX,~~~SEVEN",
    "~~~EIGHT,~~~NINE,~~THIRTY,~~~ONE,~~~TWO,~~~THREE,~~~FOUR,~~~FIVE,~HANGUL KIYEOK,~~NIEUN",
    "~~TIKEUT,~~RIEUL,~~MIEUM,~~PIEUP,~~SIOS,~~IEUNG,~~CIEUC,~~CHIEUCH,~~KHIEUKH,~~THIEUTH",
    "~~PHIEUPH,~~HIEUH,~~KIYEOK A,~~NIEUN~,~~TIKEUT~,~~RIEUL~,~~MIEUM~,~~PIEUP~,~~SIOS~,~~IEUNG~",
    "~~CIEUC~,~~CHIEUCH~,~~KHIEUKH~,~~THIEUTH~,~~PHIEUPH~,~~HIEUH~,~KOREAN CHARACTER CHAMKO",
    "~~~JUEUI,~HANGUL IEUNG U,KOREAN STANDARD SYMBOL,CIRCLED IDEOGRAPH ONE,~~TWO,~~THREE,~~FOUR",
    "~~FIVE,~~SIX,~~SEVEN,~~EIGHT,~~NINE,~~TEN,~~MOON,~~FIRE,~~WATER,~~WOOD,~~METAL,~~EARTH",
    "~~SUN,~~STOCK,~~HAVE,~~SOCIETY,~~NAME,~~SPECIAL,~~FINANCIAL,~~CONGRATULATION,~~LABOR",
    "~~SECRET,~~MALE,~~FEMALE,~~SUITABLE,~~EXCELLENT,~~PRINT,~~ATTENTION,~~ITEM,~~REST,~~COPY",
    "~~CORRECT,~~HIGH,~~CENTRE,~~LOW,~~LEFT,~~RIGHT,~~MEDICINE,~~RELIGION,~~STUDY,~~SUPERVISE",
    "~~ENTERPRISE,~~RESOURCE,~~ALLIANCE,~~NIGHT,~NUMBER THIRTY SIX,~~~SEVEN,~~~EIGHT,~~~NINE",
    "~~FORTY,~~~ONE,~~~TWO,~~~THREE,~~~FOUR,~~~FIVE,~~~SIX,~~~SEVEN,~~~EIGHT,~~~NINE,~~FIFTY",
    "IDEOGRAPHIC TELEGRAPH SYMBOL FOR JANUARY,~~~~FEBRUARY,~~~~MARCH,~~~~APRIL,~~~~MAY,~~~~JUNE",
    "~~~~JULY,~~~~AUGUST,~~~~SEPTEMBER,~~~~OCTOBER,~~~~NOVEMBER,~~~~DECEMBER,SQUARE HG,~ERG,~EV",
    "LIMITED LIABILITY SIGN,CIRCLED KATAKANA A,~~I,~~U,~~E,~~O,~~KA,~~KI,~~KU,~~KE,~~KO,~~SA",
    "~~SI,~~SU,~~SE,~~SO,~~TA,~~TI,~~TU,~~TE,~~TO,~~NA,~~NI,~~NU,~~NE,~~NO,~~HA,~~HI,~~HU,~~HE",
    "~~HO,~~MA,~~MI,~~MU,~~ME,~~MO,~~YA,~~YU,~~YO,~~RA,~~RI,~~RU,~~RE,~~RO,~~WA,~~WI,~~WE,~~WO",
    "SQUARE ERA NAME REIWA"]⟩,
  -- CJK Compatibility
  ⟨0x3300, [
    "SQUARE APAATO,~ARUHUA,~ANPEA,~AARU,~ININGU,~INTI,~UON,~ESUKUUDO,~EEKAA,~ONSU,~OOMU,~KAIRI",
    "~KARATTO,~KARORII,~GARON,~GANMA,~GIGA,~GINII,~KYURII,~GIRUDAA,~KIRO,~KIROGURAMU",
    "~KIROMEETORU,~KIROWATTO,~GURAMU,~GURAMUTON,~KURUZEIRO,~KUROONE,~KEESU,~KORUNA,~KOOPO",
    "~SAIKURU,~SANTIIMU,~SIRINGU,~SENTI,~SENTO,~DAASU,~DESI,~DORU,~TON,~NANO,~NOTTO,~HAITU",
    "~PAASENTO,~PAATU,~BAARERU,~PIASUTORU,~PIKURU,~PIKO,~BIRU,~HUARADDO,~HUIITO,~BUSSYERU,~HURAN",
    "~HEKUTAARU,~PESO,~PENIHI,~HERUTU,~PENSU,~PEEZI,~BEETA,~POINTO,~BORUTO,~HON,~PONDO,~HOORU",
    "~HOON,~MAIKURO,~MAIRU,~MAHHA,~MARUKU,~MANSYON,~MIKURON,~MIRI,~MIRIBAARU,~MEGA,~MEGATON",
    "~MEETORU,~YAADO,~YAARU,~YUAN,~RITTORU,~RIRA,~RUPII,~RUUBURU,~REMU,~RENTOGEN,~WATTO",
    "IDEOGRAPHIC TELEGRAPH SYMBOL FOR HOUR ZERO,~~~~~ONE,~~~~~TWO,~~~~~THREE,~~~~~FOUR,~~~~~FIVE",
    "~~~~~SIX,~~~~~SEVEN,~~~~~EIGHT,~~~~~NINE,~~~~~TEN,~~~~~ELEVEN,~~~~~TWELVE,~~~~~THIRTEEN",
    "~~~~~FOURTEEN,~~~~~FIFTEEN,~~~~~SIXTEEN,~~~~~SEVENTEEN,~~~~~EIGHTEEN,~~~~~NINETEEN",
    "~~~~~TWENTY,~~~~~TWENTY-ONE,~~~~~TWENTY-TWO,~~~~~TWENTY-THREE,~~~~~TWENTY-FOUR,SQUARE HPA",
    "~DA,~AU,~BAR,~OV,~PC,~DM,~~SQUARED,~~CUBED,~IU,~ERA NAME HEISEI,~~~SYOUWA,~~~TAISYOU",
    "~~~MEIZI,~CORPORATION,~PA AMPS,~NA,~MU A,~MA,~KA,~KB,~MB,~GB,~CAL,~KCAL,~PF,~NF,~MU F,~~G",
    "~MG,~KG,~HZ,~KHZ,~MHZ,~GHZ,~THZ,~MU L,~ML,~DL,~KL,~FM,~NM,~MU M,~MM,~CM,~KM,~MM SQUARED",
    "~CM~,~M~,~KM~,~MM CUBED,~CM~,~M~,~KM~,~M OVER S,~~~~SQUARED,~PA,~KPA,~MPA,~GPA,~RAD",
    "~~OVER S,~~~~SQUARED,~PS,~NS,~MU S,~MS,~PV,~NV,~MU V,~MV,~KV,~MV MEGA,~PW,~NW,~MU W,~MW,~KW",
    "~MW MEGA,~K OHM,~M~,~AM,~BQ,~CC,~CD,~C OVER KG,~CO,~DB,~GY,~HA,~HP,~IN,~KK,~KM CAPITAL,~KT",
    "~LM,~LN,~LOG,~LX,~MB SMALL,~MIL,~MOL,~PH,~PM,~PPM,~PR,~SR,~SV,~WB,~V OVER M,~A~~",
    "IDEOGRAPHIC TELEGRAPH SYMBOL FOR DAY ONE,~~~~~TWO,~~~~~THREE,~~~~~FOUR,~~~~~FIVE,~~~~~SIX",
    "~~~~~SEVEN,~~~~~EIGHT,~~~~~NINE,~~~~~TEN,~~~~~ELEVEN,~~~~~TWELVE,~~~~~THIRTEEN",
    "~~~~~FOURTEEN,~~~~~FIFTEEN,~~~~~SIXTEEN,~~~~~SEVENTEEN,~~~~~EIGHTEEN,~~~~~NINETEEN",
    "~~~~~TWENTY,~~~~~TWENTY-ONE,~~~~~TWENTY-TWO,~~~~~TWENTY-THREE,~~~~~TWENTY-FOUR",
    "~~~~~TWENTY-FIVE,~~~~~TWENTY-SIX,~~~~~TWENTY-SEVEN,~~~~~TWENTY-EIGHT,~~~~~TWENTY-NINE",
    "~~~~~THIRTY,~~~~~THIRTY-ONE,SQUARE GAL"]⟩,
  -- Yi Syllables
  ⟨0xa000, [
    "YI SYLLABLE IT,~~IX,~~I,~~IP,~~IET,~~IEX,~~IE,~~IEP,~~AT,~~AX,~~A,~~AP,~~UOX,~~UO,~~UOP",
    "~~OT,~~OX,~~O,~~OP,~~EX,~~E,~~WU,~~BIT,~~BIX,~~BI,~~BIP,~~BIET,~~BIEX,~~BIE,~~BIEP,~~BAT",
    "~~BAX,~~BA,~~BAP,~~BUOX,~~BUO,~~BUOP,~~BOT,~~BOX,~~BO,~~BOP,~~BEX,~~BE,~~BEP,~~BUT,~~BUX",
    "~~BU,~~BUP,~~BURX,~~BUR,~~BYT,~~BYX,~~BY,~~BYP,~~BYRX,~~BYR,~~PIT,~~PIX,~~PI,~~PIP,~~PIEX",
    "~~PIE,~~PIEP,~~PAT,~~PAX,~~PA,~~PAP,~~PUOX,~~PUO,~~PUOP,~~POT,~~POX,~~PO,~~POP,~~PUT,~~PUX",
    "~~PU,~~PUP,~~PURX,~~PUR,~~PYT,~~PYX,~~PY,~~PYP,~~PYRX,~~PYR,~~BBIT,~~BBIX,~~BBI,~~BBIP",
    "~~BBIET,~~BBIEX,~~BBIE,~~BBIEP,~~BBAT,~~BBAX,~~BBA,~~BBAP,~~BBUOX,~~BBUO,~~BBUOP,~~BBOT",
    "~~BBOX,~~BBO,~~BBOP,~~BBEX,~~BBE,~~BBEP,~~BBUT,~~BBUX,~~BBU,~~BBUP,~~BBURX,~~BBUR,~~BBYT",
    "~~BBYX,~~BBY,~~BBYP,~~NBIT,~~NBIX,~~NBI,~~NBIP,~~NBIEX,~~NBIE,~~NBIEP,~~NBAT,~~NBAX,~~NBA",
    "~~NBAP,~~NBOT,~~NBOX,~~NBO,~~NBOP,~~NBUT,~~NBUX,~~NBU,~~NBUP,~~NBURX,~~NBUR,~~NBYT,~~NBYX",
    "~~NBY,~~NBYP,~~NBYRX,~~NBYR,~~HMIT,~~HMIX,~~HMI,~~HMIP,~~HMIEX,~~HMIE,~~HMIEP,~~HMAT,~~HMAX",
    "~~HMA,~~HMAP,~~HMUOX,~~HMUO,~~HMUOP,~~HMOT,~~HMOX,~~HMO,~~HMOP,~~HMUT,~~HMUX,~~HMU,~~HMUP",
    "~~HMURX,~~HMUR,~~HMYX,~~HMY,~~HMYP,~~HMYRX,~~HMYR,~~MIT,~~MIX,~~MI,~~MIP,~~MIEX,~~MIE",
    "~~MIEP,~~MAT,~~MAX,~~MA,~~MAP,~~MUOT,~~MUOX,~~MUO,~~MUOP,~~MOT,~~MOX,~~MO,~~MOP,~~MEX,~~ME",
    "~~MUT,~~MUX,~~MU,~~MUP,~~MURX,~~MUR,~~MYT,~~MYX,~~MY,~~MYP,~~FIT,~~FIX,~~FI,~~FIP,~~FAT",
    "~~FAX,~~FA,~~FAP,~~FOX,~~FO,~~FOP,~~FUT,~~FUX,~~FU,~~FUP,~~FURX,~~FUR,~~FYT,~~FYX,~~FY",
    "~~FYP,~~VIT,~~VIX,~~VI,~~VIP,~~VIET,~~VIEX,~~VIE,~~VIEP,~~VAT,~~VAX,~~VA,~~VAP,~~VOT,~~VOX",
    "~~VO,~~VOP,~~VEX,~~VEP,~~VUT,~~VUX,~~VU,~~VUP,~~VURX,~~VUR,~~VYT,~~VYX,~~VY,~~VYP,~~VYRX",
    "~~VYR,~~DIT,~~DIX,~~DI,~~DIP,~~DIEX,~~DIE,~~DIEP,~~DAT,~~DAX,~~DA,~~DAP,~~DUOX,~~DUO,~~DOT",
    "~~DOX,~~DO,~~DOP,~~DEX,~~DE,~~DEP,~~DUT,~~DUX,~~DU,~~DUP,~~DURX,~~DUR,~~TIT,~~TIX,~~TI",
    "~~TIP,~~TIEX,~~TIE,~~TIEP,~~TAT,~~TAX,~~TA,~~TAP,~~TUOT,~~TUOX,~~TUO,~~TUOP,~~TOT,~~TOX",
    "~~TO,~~TOP,~~TEX,~~TE,~~TEP,~~TUT,~~TUX,~~TU,~~TUP,~~TURX,~~TUR,~~DDIT,~~DDIX,~~DDI,~~DDIP",
    "~~DDIEX,~~DDIE,~~DDIEP,~~DDAT,~~DDAX,~~DDA,~~DDAP,~~DDUOX,~~DDUO,~~DDUOP,~~DDOT,~~DDOX",
    "~~DDO,~~DDOP,~~DDEX,~~DDE,~~DDEP,~~DDUT,~~DDUX,~~DDU,~~DDUP,~~DDURX,~~DDUR,~~NDIT,~~NDIX",
    "~~NDI,~~NDIP,~~NDIEX,~~NDIE,~~NDAT,~~NDAX,~~NDA,~~NDAP,~~NDOT,~~NDOX,~~NDO,~~NDOP,~~NDEX",
    "~~NDE,~~NDEP,~~NDUT,~~NDUX,~~NDU,~~NDUP,~~NDURX,~~NDUR,~~HNIT,~~HNIX,~~HNI,~~HNIP,~~HNIET",
    "~~HNIEX,~~HNIE,~~HNIEP,~~HNAT,~~HNAX,~~HNA,~~HNAP,~~HNUOX,~~HNUO,~~HNOT,~~HNOX,~~HNOP",
    "~~HNEX,~~HNE,~~HNEP,~~HNUT,~~NIT,~~NIX,~~NI,~~NIP,~~NIEX,~~NIE,~~NIEP,~~NAX,~~NA,~~NAP",
    "~~NUOX,~~NUO,~~NUOP,~~NOT,~~NOX,~~NO,~~NOP,~~NEX,~~NE,~~NEP,~~NUT,~~NUX,~~NU,~~NUP,~~NURX",
    "~~NUR,~~HLIT,~~HLIX,~~HLI,~~HLIP,~~HLIEX,~~HLIE,~~HLIEP,~~HLAT,~~HLAX,~~HLA,~~HLAP,~~HLUOX",
    "~~HLUO,~~HLUOP,~~HLOX,~~HLO,~~HLOP,~~HLEX,~~HLE,~~HLEP,~~HLUT,~~HLUX,~~HLU,~~HLUP,~~HLURX",
    "~~HLUR,~~HLYT,~~HLYX,~~HLY,~~HLYP,~~HLYRX,~~HLYR,~~LIT,~~LIX,~~LI,~~LIP,~~LIET,~~LIEX,~~LIE",
    "~~LIEP,~~LAT,~~LAX,~~LA,~~LAP,~~LUOT,~~LUOX,~~LUO,~~LUOP,~~LOT,~~LOX,~~LO,~~LOP,~~LEX,~~LE",
    "~~LEP,~~LUT,~~LUX,~~LU,~~LUP,~~LURX,~~LUR,~~LYT,~~LYX,~~LY,~~LYP,~~LYRX,~~LYR,~~GIT,~~GIX",
    "~~GI,~~GIP,~~GIET,~~GIEX,~~GIE,~~GIEP,~~GAT,~~GAX,~~GA,~~GAP,~~GUOT,~~GUOX,~~GUO,~~GUOP",
    "~~GOT,~~GOX,~~GO,~~GOP,~~GET,~~GEX,~~GE,~~GEP,~~GUT,~~GUX,~~GU,~~GUP,~~GURX,~~GUR,~~KIT",
    "~~KIX,~~KI,~~KIP,~~KIEX,~~KIE,~~KIEP,~~KAT,~~KAX,~~KA,~~KAP,~~KUOX,~~KUO,~~KUOP,~~KOT,~~KOX",
    "~~KO,~~KOP,~~KET,~~KEX,~~KE,~~KEP,~~KUT,~~KUX,~~KU,~~KUP,~~KURX,~~KUR,~~GGIT,~~GGIX,~~GGI",
    "~~GGIEX,~~GGIE,~~GGIEP,~~GGAT,~~GGAX,~~GGA,~~GGAP,~~GGUOT,~~GGUOX,~~GGUO,~~GGUOP,~~GGOT",
    "~~GGOX,~~GGO,~~GGOP,~~GGET,~~GGEX,~~GGE,~~GGEP,~~GGUT,~~GGUX,~~GGU,~~GGUP,~~GGURX,~~GGUR",
    "~~MGIEX,~~MGIE,~~MGAT,~~MGAX,~~MGA,~~MGAP,~~MGUOX,~~MGUO,~~MGUOP,~~MGOT,~~MGOX,~~MGO,~~MGOP",
    "~~MGEX,~~MGE,~~MGEP,~~MGUT,~~MGUX,~~MGU,~~MGUP,~~MGURX,~~MGUR,~~HXIT,~~HXIX,~~HXI,~~HXIP",
    "~~HXIET,~~HXIEX,~~HXIE,~~HXIEP,~~HXAT,~~HXAX,~~HXA,~~HXAP,~~HXUOT,~~HXUOX,~~HXUO,~~HXUOP",
    "~~HXOT,~~HXOX,~~HXO,~~HXOP,~~HXEX,~~HXE,~~HXEP,~~NGIEX,~~NGIE,~~NGIEP,~~NGAT,~~NGAX,~~NGA",
    "~~NGAP,~~NGUOT,~~NGUOX,~~NGUO,~~NGOT,~~NGOX,~~NGO,~~NGOP,~~NGEX,~~NGE,~~NGEP,~~HIT,~~HIEX",
    "~~HIE,~~HAT,~~HAX,~~HA,~~HAP,~~HUOT,~~HUOX,~~HUO,~~HUOP,~~HOT,~~HOX,~~HO,~~HOP,~~HEX,~~HE",
    "~~HEP,~~WAT,~~WAX,~~WA,~~WAP,~~WUOX,~~WUO,~~WUOP,~~WOX,~~WO,~~WOP,~~WEX,~~WE,~~WEP,~~ZIT",
    "~~ZIX,~~ZI,~~ZIP,~~ZIEX,~~ZIE,~~ZIEP,~~ZAT,~~ZAX,~~ZA,~~ZAP,~~ZUOX,~~ZUO,~~ZUOP,~~ZOT,~~ZOX",
    "~~ZO,~~ZOP,~~ZEX,~~ZE,~~ZEP,~~ZUT,~~ZUX,~~ZU,~~ZUP,~~ZURX,~~ZUR,~~ZYT,~~ZYX,~~ZY,~~ZYP",
    "~~ZYRX,~~ZYR,~~CIT,~~CIX,~~CI,~~CIP,~~CIET,~~CIEX,~~CIE,~~CIEP,~~CAT,~~CAX,~~CA,~~CAP",
    "~~CUOX,~~CUO,~~CUOP,~~COT,~~COX,~~CO,~~COP,~~CEX,~~CE,~~CEP,~~CUT,~~CUX,~~CU,~~CUP,~~CURX",
    "~~CUR,~~CYT,~~CYX,~~CY,~~CYP,~~CYRX,~~CYR,~~ZZIT,~~ZZIX,~~ZZI,~~ZZIP,~~ZZIET,~~ZZIEX,~~ZZIE",
    "~~ZZIEP,~~ZZAT,~~ZZAX,~~ZZA,~~ZZAP,~~ZZOX,~~ZZO,~~ZZOP,~~ZZEX,~~ZZE,~~ZZEP,~~ZZUX,~~ZZU",
    "~~ZZUP,~~ZZURX,~~ZZUR,~~ZZYT,~~ZZYX,~~ZZY,~~ZZYP,~~ZZYRX,~~ZZYR,~~NZIT,~~NZIX,~~NZI,~~NZIP",
    "~~NZIEX,~~NZIE,~~NZIEP,~~NZAT,~~NZAX,~~NZA,~~NZAP,~~NZUOX,~~NZUO,~~NZOX,~~NZOP,~~NZEX,~~NZE",
    "~~NZUX,~~NZU,~~NZUP,~~NZURX,~~NZUR,~~NZYT,~~NZYX,~~NZY,~~NZYP,~~NZYRX,~~NZYR,~~SIT,~~SIX",
    "~~SI,~~SIP,~~SIEX,~~SIE,~~SIEP,~~SAT,~~SAX,~~SA,~~SAP,~~SUOX,~~SUO,~~SUOP,~~SOT,~~SOX,~~SO",
    "~~SOP,~~SEX,~~SE,~~SEP,~~SUT,~~SUX,~~SU,~~SUP,~~SURX,~~SUR,~~SYT,~~SYX,~~SY,~~SYP,~~SYRX",
    "~~SYR,~~SSIT,~~SSIX,~~SSI,~~SSIP,~~SSIEX,~~SSIE,~~SSIEP,~~SSAT,~~SSAX,~~SSA,~~SSAP,~~SSOT",
    "~~SSOX,~~SSO,~~SSOP,~~SSEX,~~SSE,~~SSEP,~~SSUT,~~SSUX,~~SSU,~~SSUP,~~SSYT,~~SSYX,~~SSY",
    "~~SSYP,~~SSYRX,~~SSYR,~~ZHAT,~~ZHAX,~~ZHA,~~ZHAP,~~ZHUOX,~~ZHUO,~~ZHUOP,~~ZHOT,~~ZHOX,~~ZHO",
    "~~ZHOP,~~ZHET,~~ZHEX,~~ZHE,~~ZHEP,~~ZHUT,~~ZHUX,~~ZHU,~~ZHUP,~~ZHURX,~~ZHUR,~~ZHYT,~~ZHYX",
    "~~ZHY,~~ZHYP,~~ZHYRX,~~ZHYR,~~CHAT,~~CHAX,~~CHA,~~CHAP,~~CHUOT,~~CHUOX,~~CHUO,~~CHUOP",
    "~~CHOT,~~CHOX,~~CHO,~~CHOP,~~CHET,~~CHEX,~~CHE,~~CHEP,~~CHUX,~~CHU,~~CHUP,~~CHURX,~~CHUR",
    "~~CHYT,~~CHYX,~~CHY,~~CHYP,~~CHYRX,~~CHYR,~~RRAX,~~RRA,~~RRUOX,~~RRUO,~~RROT,~~RROX,~~RRO",
    "~~RROP,~~RRET,~~RREX,~~RRE,~~RREP,~~RRUT,~~RRUX,~~RRU,~~RRUP,~~RRURX,~~RRUR,~~RRYT,~~RRYX",
    "~~RRY,~~RRYP,~~RRYRX,~~RRYR,~~NRAT,~~NRAX,~~NRA,~~NRAP,~~NROX,~~NRO,~~NROP,~~NRET,~~NREX",
    "~~NRE,~~NREP,~~NRUT,~~NRUX,~~NRU,~~NRUP,~~NRURX,~~NRUR,~~NRYT,~~NRYX,~~NRY,~~NRYP,~~NRYRX",
    "~~NRYR,~~SHAT,~~SHAX,~~SHA,~~SHAP,~~SHUOX,~~SHUO,~~SHUOP,~~SHOT,~~SHOX,~~SHO,~~SHOP,~~SHET",
    "~~SHEX,~~SHE,~~SHEP,~~SHUT,~~SHUX,~~SHU,~~SHUP,~~SHURX,~~SHUR,~~SHYT,~~SHYX,~~SHY,~~SHYP",
    "~~SHYRX,~~SHYR,~~RAT,~~RAX,~~RA,~~RAP,~~RUOX,~~RUO,~~RUOP,~~ROT,~~ROX,~~RO,~~ROP,~~REX,~~RE",
    "~~REP,~~RUT,~~RUX,~~RU,~~RUP,~~RURX,~~RUR,~~RYT,~~RYX,~~RY,~~RYP,~~RYRX,~~RYR,~~JIT,~~JIX",
    "~~JI,~~JIP,~~JIET,~~JIEX,~~JIE,~~JIEP,~~JUOT,~~JUOX,~~JUO,~~JUOP,~~JOT,~~JOX,~~JO,~~JOP",
    "~~JUT,~~JUX,~~JU,~~JUP,~~JURX,~~JUR,~~JYT,~~JYX,~~JY,~~JYP,~~JYRX,~~JYR,~~QIT,~~QIX,~~QI",
    "~~QIP,~~QIET,~~QIEX,~~QIE,~~QIEP,~~QUOT,~~QUOX,~~QUO,~~QUOP,~~QOT,~~QOX,~~QO,~~QOP,~~QUT",
    "~~QUX,~~QU,~~QUP,~~QURX,~~QUR,~~QYT,~~QYX,~~QY,~~QYP,~~QYRX,~~QYR,~~JJIT,~~JJIX,~~JJI",
    "~~JJIP,~~JJIET,~~JJIEX,~~JJIE,~~JJIEP,~~JJUOX,~~JJUO,~~JJUOP,~~JJOT,~~JJOX,~~JJO,~~JJOP",
    "~~JJUT,~~JJUX,~~JJU,~~JJUP,~~JJURX,~~JJUR,~~JJYT,~~JJYX,~~JJY,~~JJYP,~~NJIT,~~NJIX,~~NJI",
    "~~NJIP,~~NJIET,~~NJIEX,~~NJIE,~~NJIEP,~~NJUOX,~~NJUO,~~NJOT,~~NJOX,~~NJO,~~NJOP,~~NJUX",
    "~~NJU,~~NJUP,~~NJURX,~~NJUR,~~NJYT,~~NJYX,~~NJY,~~NJYP,~~NJYRX,~~NJYR,~~NYIT,~~NYIX,~~NYI",
    "~~NYIP,~~NYIET,~~NYIEX,~~NYIE,~~NYIEP,~~NYUOX,~~NYUO,~~NYUOP,~~NYOT,~~NYOX,~~NYO,~~NYOP",
    "~~NYUT,~~NYUX,~~NYU,~~NYUP,~~XIT,~~XIX,~~XI,~~XIP,~~XIET,~~XIEX,~~XIE,~~XIEP,~~XUOX,~~XUO",
    "~~XOT,~~XOX,~~XO,~~XOP,~~XYT,~~XYX,~~XY,~~XYP,~~XYRX,~~XYR,~~YIT,~~YIX,~~YI,~~YIP,~~YIET",
    "~~YIEX,~~YIE,~~YIEP,~~YUOT,~~YUOX,~~YUO,~~YUOP,~~YOT,~~YOX,~~YO,~~YOP,~~YUT,~~YUX,~~YU",
    "~~YUP,~~YURX,~~YUR,~~YYT,~~YYX,~~YY,~~YYP,~~YYRX,~~YYR"]⟩,
  -- Yi Radicals
  ⟨0xa490, [
    "YI RADICAL QOT,~~LI,~~KIT,~~NYIP,~~CYP,~~SSI,~~GGOP,~~GEP,~~MI,~~HXIT,~~LYR,~~BBUT,~~MOP",
    "~~YO,~~PUT,~~HXUO,~~TAT,~~GA,~~ZUP,~~CYT,~~DDUR,~~BUR,~~GGUO,~~NYOP,~~TU,~~OP,~~JJUT,~~ZOT",
    "~~PYT,~~HMO,~~YIT,~~VUR,~~SHY,~~VEP,~~ZA,~~JO,~~NZUP,~~JJY,~~GOT,~~JJIE,~~WO,~~DU,~~SHUR",
    "~~LIE,~~CY,~~CUOP,~~CIP,~~HXOP,~~SHAT,~~ZUR,~~SHOP,~~CHE,~~ZZIET,~~NBIE,~~KE"]⟩,
  -- Lisu
  ⟨0xa4d0, [
    "LISU LETTER BA,~~PA,~~PHA,~~DA,~~TA,~~THA,~~GA,~~KA,~~KHA,~~JA,~~CA,~~CHA,~~DZA,~~TSA",
    "~~TSHA,~~MA,~~NA,~~LA,~~SA,~~ZHA,~~ZA,~~NGA,~~HA,~~XA,~~HHA,~~FA,~~WA,~~SHA,~~YA,~~GHA,~~A",
    "~~AE,~~E,~~EU,~~I,~~O,~~U,~~UE,~~UH,~~OE,~~TONE MYA TI,~~~NA PO,~~~MYA CYA,~~~~BO,~~~~NA",
    "~~~~JEU,~PUNCTUATION COMMA,~~FULL STOP"]⟩,
  -- Hangul Jamo Extended-A
  ⟨0xa960, [
    "HANGUL CHOSEONG TIKEUT-MIEUM,~~TIKEUT-PIEUP,~~TIKEUT-SIOS,~~TIKEUT-CIEUC,~~RIEUL-KIYEOK",
    "~~RIEUL-SSANGKIYEOK,~~RIEUL-TIKEUT,~~RIEUL-SSANGTIKEUT,~~RIEUL-MIEUM,~~RIEUL-PIEUP",
    "~~RIEUL-SSANGPIEUP,~~RIEUL-KAPYEOUNPIEUP,~~RIEUL-SIOS,~~RIEUL-CIEUC,~~RIEUL-KHIEUKH",
    "~~MIEUM-KIYEOK,~~MIEUM-TIKEUT,~~MIEUM-SIOS,~~PIEUP-SIOS-THIEUTH,~~PIEUP-KHIEUKH",
    "~~PIEUP-HIEUH,~~SSANGSIOS-PIEUP,~~IEUNG-RIEUL,~~IEUNG-HIEUH,~~SSANGCIEUC-HIEUH",
    "~~SSANGTHIEUTH,~~PHIEUPH-HIEUH,~~HIEUH-SIOS,~~SSANGYEORINHIEUH"]⟩,
  -- Hangul Jamo Extended-B
  ⟨0xd7b0, [
    "HANGUL JUNGSEONG O-YEO,~~O-O-I,~~YO-A,~~YO-AE,~~YO-EO,~~U-YEO,~~U-I-I,~~YU-AE,~~YU-O,~~EU-A",
    "~~EU-EO,~~EU-E,~~EU-O,~~I-YA-O,~~I-YAE,~~I-YEO,~~I-YE,~~I-O-I,~~I-YO,~~I-YU,~~I-I,~~ARAEA-A",
    "~~ARAEA-E,,,,,~JONGSEONG NIEUN-RIEUL,~~NIEUN-CHIEUCH,~~SSANGTIKEUT,~~SSANGTIKEUT-PIEUP",
    "~~TIKEUT-PIEUP,~~TIKEUT-SIOS,~~TIKEUT-SIOS-KIYEOK,~~TIKEUT-CIEUC,~~TIKEUT-CHIEUCH",
    "~~TIKEUT-THIEUTH,~~RIEUL-SSANGKIYEOK,~~RIEUL-KIYEOK-HIEUH,~~SSANGRIEUL-KHIEUKH",
    "~~RIEUL-MIEUM-HIEUH,~~RIEUL-PIEUP-TIKEUT,~~RIEUL-PIEUP-PHIEUPH,~~RIEUL-YESIEUNG",
    "~~RIEUL-YEORINHIEUH-HIEUH,~~KAPYEOUNRIEUL,~~MIEUM-NIEUN,~~MIEUM-SSANGNIEUN,~~SSANGMIEUM",
    "~~MIEUM-PIEUP-SIOS,~~MIEUM-CIEUC,~~PIEUP-TIKEUT,~~PIEUP-RIEUL-PHIEUPH,~~PIEUP-MIEUM",
    "~~SSANGPIEUP,~~PIEUP-SIOS-TIKEUT,~~PIEUP-CIEUC,~~PIEUP-CHIEUCH,~~SIOS-MIEUM",
    "~~SIOS-KAPYEOUNPIEUP,~~SSANGSIOS-KIYEOK,~~SSANGSIOS-TIKEUT,~~SIOS-PANSIOS,~~SIOS-CIEUC",
    "~~SIOS-CHIEUCH,~~SIOS-THIEUTH,~~SIOS-HIEUH,~~PANSIOS-PIEUP,~~PANSIOS-KAPYEOUNPIEUP",
    "~~YESIEUNG-MIEUM,~~YESIEUNG-HIEUH,~~CIEUC-PIEUP,~~CIEUC-SSANGPIEUP,~~SSANGCIEUC",
    "~~PHIEUPH-SIOS,~~PHIEUPH-THIEUTH"]⟩,
  -- Vertical Forms
  ⟨0xfe10, [
    "PRESENTATION FORM FOR VERTICAL COMMA,~~~~IDEOGRAPHIC COMMA,~~~~~FULL STOP,~~~~COLON",
    "~~~~SEMICOLON,~~~~EXCLAMATION MARK,~~~~QUESTION~,~~~~LEFT WHITE LENTICULAR BRACKET",
    "~~~~RIGHT~~BRAKCET,~~~~HORIZONTAL ELLIPSIS"]⟩,
  -- CJK Compatibility Forms
  ⟨0xfe30, [
    "PRESENTATION FORM FOR VERTICAL TWO DOT LEADER,~~~~EM DASH,~~~~EN~,~~~~LOW LINE",
    "~~~~WAVY LOW LINE,~~~~LEFT PARENTHESIS,~~~~RIGHT~,~~~~LEFT CURLY BRACKET,~~~~RIGHT~~",
    "~~~~LEFT TORTOISE SHELL BRACKET,~~~~RIGHT~~~,~~~~LEFT BLACK LENTICULAR~,~~~~RIGHT~~~",
    "~~~~LEFT DOUBLE ANGLE~,~~~~RIGHT~~~,~~~~LEFT ANGLE BRACKET,~~~~RIGHT~~,~~~~LEFT CORNER~",
    "~~~~RIGHT~~,~~~~LEFT WHITE CORNER BRACKET,~~~~RIGHT~~~,SESAME DOT,WHITE SESAME DOT",
    "PRESENTATION FORM FOR VERTICAL LEFT SQUARE BRACKET,~~~~RIGHT~~,DASHED OVERLINE,CENTRELINE~",
    "WAVY~,DOUBLE WAVY OVERLINE,DASHED LOW LINE,CENTRELINE~~,WAVY~~"]⟩,
  -- Small Form Variants
  ⟨0xfe50, [
    "SMALL COMMA,~IDEOGRAPHIC COMMA,~FULL STOP,,~SEMICOLON,~COLON,~QUESTION MARK,~EXCLAMATION~",
    "~EM DASH,~LEFT PARENTHESIS,~RIGHT~,~LEFT CURLY BRACKET,~RIGHT~~",
    "~LEFT TORTOISE SHELL BRACKET,~RIGHT~~~,~NUMBER SIGN,~AMPERSAND,~ASTERISK,~PLUS SIGN",
    "~HYPHEN-MINUS,~LESS-THAN SIGN,~GREATER-THAN~,~EQUALS~,,~REVERSE SOLIDUS,~DOLLAR SIGN",
    "~PERCENT~,~COMMERCIAL AT"]⟩,
  -- Halfwidth and Fullwidth Forms
  ⟨0xff01, [
    "FULLWIDTH EXCLAMATION MARK,~QUOTATION~,~NUMBER SIGN,~DOLLAR~,~PERCENT~,~AMPERSAND",
    "~APOSTROPHE,~LEFT PARENTHESIS,~RIGHT~,~ASTERISK,~PLUS SIGN,~COMMA,~HYPHEN-MINUS,~FULL STOP",
    "~SOLIDUS,~DIGIT ZERO,~~ONE,~~TWO,~~THREE,~~FOUR,~~FIVE,~~SIX,~~SEVEN,~~EIGHT,~~NINE,~COLON",
    "~SEMICOLON,~LESS-THAN SIGN,~EQUALS~,~GREATER-THAN~,~QUESTION MARK,~COMMERCIAL AT",
    "~LATIN CAPITAL LETTER A,~~~~B,~~~~C,~~~~D,~~~~E,~~~~F,~~~~G,~~~~H,~~~~I,~~~~J,~~~~K,~~~~L",
    "~~~~M,~~~~N,~~~~O,~~~~P,~~~~Q,~~~~R,~~~~S,~~~~T,~~~~U,~~~~V,~~~~W,~~~~X,~~~~Y,~~~~Z",
    "~LEFT SQUARE BRACKET,~REVERSE SOLIDUS,~RIGHT SQUARE BRACKET,~CIRCUMFLEX ACCENT,~LOW LINE",
    "~GRAVE ACCENT,~LATIN SMALL LETTER A,~~~~B,~~~~C,~~~~D,~~~~E,~~~~F,~~~~G,~~~~H,~~~~I,~~~~J",
    "~~~~K,~~~~L,~~~~M,~~~~N,~~~~O,~~~~P,~~~~Q,~~~~R,~~~~S,~~~~T,~~~~U,~~~~V,~~~~W,~~~~X,~~~~Y",
    "~~~~Z,~LEFT CURLY BRACKET,~VERTICAL LINE,~RIGHT CURLY BRACKET,~TILDE",
    "~LEFT WHITE PARENTHESIS,~RIGHT~~,HALFWIDTH IDEOGRAPHIC FULL STOP,~LEFT CORNER BRACKET",
    "~RIGHT~~,~IDEOGRAPHIC COMMA,~KATAKANA MIDDLE DOT,~~LETTER WO,~~~SMALL A,~~~~I,~~~~U,~~~~E",
    "~~~~O,~~~~YA,~~~~YU,~~~~YO,~~~~TU,~KATAKANA-HIRAGANA PROLONGED SOUND MARK",
    "~KATAKANA LETTER A,~~~I,~~~U,~~~E,~~~O,~~~KA,~~~KI,~~~KU,~~~KE,~~~KO,~~~SA,~~~SI,~~~SU",
    "~~~SE,~~~SO,~~~TA,~~~TI,~~~TU,~~~TE,~~~TO,~~~NA,~~~NI,~~~NU,~~~NE,~~~NO,~~~HA,~~~HI,~~~HU",
    "~~~HE,~~~HO,~~~MA,~~~MI,~~~MU,~~~ME,~~~MO,~~~YA,~~~YU,~~~YO,~~~RA,~~~RI,~~~RU,~~~RE,~~~RO",
    "~~~WA,~~~N,~~VOICED SOUND MARK,~~SEMI-VOICED~~,~HANGUL FILLER,~~LETTER KIYEOK",
    "~~~SSANGKIYEOK,~~~KIYEOK-SIOS,~~~NIEUN,~~~NIEUN-CIEUC,~~~NIEUN-HIEUH,~~~TIKEUT",
    "~~~SSANGTIKEUT,~~~RIEUL,~~~RIEUL-KIYEOK,~~~RIEUL-MIEUM,~~~RIEUL-PIEUP,~~~RIEUL-SIOS",
    "~~~RIEUL-THIEUTH,~~~RIEUL-PHIEUPH,~~~RIEUL-HIEUH,~~~MIEUM,~~~PIEUP,~~~SSANGPIEUP",
    "~~~PIEUP-SIOS,~~~SIOS,~~~SSANGSIOS,~~~IEUNG,~~~CIEUC,~~~SSANGCIEUC,~~~CHIEUCH,~~~KHIEUKH",
    "~~~THIEUTH,~~~PHIEUPH,~~~HIEUH,,,,~~~A,~~~AE,~~~YA,~~~YAE,~~~EO,~~~E,,,~~~YEO,~~~YE,~~~O",
    "~~~WA,~~~WAE,~~~OE,,,~~~YO,~~~U,~~~WEO,~~~WE,~~~WI,~~~YU,,,~~~EU,~~~YI,~~~I,,,",
    "FULLWIDTH CENT SIGN,~POUND~,~NOT~,~MACRON,~BROKEN BAR,~YEN SIGN,~WON~,",
    "HALFWIDTH FORMS LIGHT VERTICAL,~LEFTWARDS ARROW,~UPWARDS~,~RIGHTWARDS~,~DOWNWARDS~",
    "~BLACK SQUARE,~WHITE CIRCLE"]⟩,
  -- Lisu Supplement
  ⟨0x11fb0, [
    "LISU LETTER YHA"]⟩,
  -- Miao
  ⟨0x16f00, [
    "MIAO LETTER PA,~~BA,~~YI PA,~~PLA,~~MA,~~MHA,~~ARCHAIC MA,~~FA,~~VA,~~VFA,~~TA,~~DA",
    "~~YI TTA,~~~TA,~~TTA,~~DDA,~~NA,~~NHA,~~YI NNA,~~ARCHAIC NA,~~NNA,~~NNHA,~~LA,~~LYA,~~LHA",
    "~~LHYA,~~TLHA,~~DLHA,~~TLHYA,~~DLHYA,~~KA,~~GA,~~YI KA,~~QA,~~QGA,~~NGA,~~NGHA",
    "~~ARCHAIC NGA,~~HA,~~XA,~~GHA,~~GHHA,~~TSSA,~~DZZA,~~NYA,~~NYHA,~~TSHA,~~DZHA,~~YI TSHA",
    "~~~DZHA,~~REFORMED TSHA,~~SHA,~~SSA,~~ZHA,~~ZSHA,~~TSA,~~DZA,~~YI TSA,~~SA,~~ZA,~~ZSA,~~ZZA",
    "~~ZZSA,~~ARCHAIC ZZA,~~ZZYA,~~ZZSYA,~~WA,~~AH,~~HHA,~~BRI,~~SYI,~~DZYI,~~TE,~~TSE,~~RTE,,,,",
    "~SIGN CONSONANT MODIFIER BAR,~LETTER NASALIZATION,~SIGN ASPIRATION,~~REFORMED VOICING",
    "~~~ASPIRATION,~VOWEL SIGN A,~~~AA,~~~AHH,~~~AN,~~~ANG,~~~O,~~~OO,~~~WO,~~~W,~~~E,~~~EN",
    "~~~ENG,~~~OEY,~~~I,~~~IA,~~~IAN,~~~IANG,~~~IO,~~~IE,~~~II,~~~IU,~~~ING,~~~U,~~~UA,~~~UAN",
    "~~~UANG,~~~UU,~~~UEI,~~~UNG,~~~Y,~~~YI,~~~AE,~~~AEE,~~~ERR,~~~ROUNDED ERR,~~~ER",
    "~~~ROUNDED ER,~~~AI,~~~EI,~~~AU,~~~OU,~~~N,~~~NG,~~~UOG,~~~YUI,~~~OG,~~~OER,~~~VW,~~~IG",
    "~~~EA,~~~IONG,~~~UI,,,,,,,,~TONE RIGHT,~~TOP RIGHT,~~ABOVE,~~BELOW,~LETTER TONE-2,~~TONE-3",
    "~~TONE-4,~~TONE-5,~~TONE-6,~~TONE-7,~~TONE-8,~~REFORMED TONE-1,~~~TONE-2,~~~TONE-4",
    "~~~TONE-5,~~~TONE-6,~~~TONE-8"]⟩,
  -- Ideographic Symbols and Punctuation
  ⟨0x16fe0, [
    "TANGUT ITERATION MARK,NUSHU~~,OLD CHINESE HOOK MARK,~~ITERATION~,KHITAN SMALL SCRIPT FILLER",
    ",,,,,,,,,,,VIETNAMESE ALTERNATE READING MARK CA,~~~~NHAY"]⟩,
  -- Kana Extended-B
  ⟨0x1aff0, [
    "KATAKANA LETTER MINNAN TONE-2,~~~TONE-3,~~~TONE-4,~~~TONE-5,,~~~TONE-7,~~~TONE-8",
    "~~~NASALIZED TONE-1,~~~~TONE-2,~~~~TONE-3,~~~~TONE-4,~~~~TONE-5,,~~~~TONE-7,~~~~TONE-8"]⟩,
  -- Kana Supplement
  ⟨0x1b000, [
    "KATAKANA LETTER ARCHAIC E,HIRAGANA~~YE,HENTAIGANA~A-1,~~A-2,~~A-3,~~A-WO,~~I-1,~~I-2,~~I-3",
    "~~I-4,~~U-1,~~U-2,~~U-3,~~U-4,~~U-5,~~E-2,~~E-3,~~E-4,~~E-5,~~E-6,~~O-1,~~O-2,~~O-3,~~KA-1",
    "~~KA-2,~~KA-3,~~KA-4,~~KA-5,~~KA-6,~~KA-7,~~KA-8,~~KA-9,~~KA-10,~~KA-11,~~KA-KE,~~KI-1",
    "~~KI-2,~~KI-3,~~KI-4,~~KI-5,~~KI-6,~~KI-7,~~KI-8,~~KU-1,~~KU-2,~~KU-3,~~KU-4,~~KU-5,~~KU-6",
    "~~KU-7,~~KE-1,~~KE-2,~~KE-3,~~KE-4,~~KE-5,~~KE-6,~~KO-1,~~KO-2,~~KO-3,~~KO-KI,~~SA-1,~~SA-2",
    "~~SA-3,~~SA-4,~~SA-5,~~SA-6,~~SA-7,~~SA-8,~~SI-1,~~SI-2,~~SI-3,~~SI-4,~~SI-5,~~SI-6,~~SU-1",
    "~~SU-2,~~SU-3,~~SU-4,~~SU-5,~~SU-6,~~SU-7,~~SU-8,~~SE-1,~~SE-2,~~SE-3,~~SE-4,~~SE-5,~~SO-1",
    "~~SO-2,~~SO-3,~~SO-4,~~SO-5,~~SO-6,~~SO-7,~~TA-1,~~TA-2,~~TA-3,~~TA-4,~~TI-1,~~TI-2,~~TI-3",
    "~~TI-4,~~TI-5,~~TI-6,~~TI-7,~~TU-1,~~TU-2,~~TU-3,~~TU-4,~~TU-TO,~~TE-1,~~TE-2,~~TE-3,~~TE-4",
    "~~TE-5,~~TE-6,~~TE-7,~~TE-8,~~TE-9,~~TO-1,~~TO-2,~~TO-3,~~TO-4,~~TO-5,~~TO-6,~~TO-RA,~~NA-1",
    "~~NA-2,~~NA-3,~~NA-4,~~NA-5,~~NA-6,~~NA-7,~~NA-8,~~NA-9,~~NI-1,~~NI-2,~~NI-3,~~NI-4,~~NI-5",
    "~~NI-6,~~NI-7,~~NI-TE,~~NU-1,~~NU-2,~~NU-3,~~NE-1,~~NE-2,~~NE-3,~~NE-4,~~NE-5,~~NE-6",
    "~~NE-KO,~~NO-1,~~NO-2,~~NO-3,~~NO-4,~~NO-5,~~HA-1,~~HA-2,~~HA-3,~~HA-4,~~HA-5,~~HA-6,~~HA-7",
    "~~HA-8,~~HA-9,~~HA-10,~~HA-11,~~HI-1,~~HI-2,~~HI-3,~~HI-4,~~HI-5,~~HI-6,~~HI-7,~~HU-1",
    "~~HU-2,~~HU-3,~~HE-1,~~HE-2,~~HE-3,~~HE-4,~~HE-5,~~HE-6,~~HE-7,~~HO-1,~~HO-2,~~HO-3,~~HO-4",
    "~~HO-5,~~HO-6,~~HO-7,~~HO-8,~~MA-1,~~MA-2,~~MA-3,~~MA-4,~~MA-5,~~MA-6,~~MA-7,~~MI-1,~~MI-2",
    "~~MI-3,~~MI-4,~~MI-5,~~MI-6,~~MI-7,~~MU-1,~~MU-2,~~MU-3,~~MU-4,~~ME-1,~~ME-2,~~ME-MA,~~MO-1",
    "~~MO-2,~~MO-3,~~MO-4,~~MO-5,~~MO-6,~~YA-1,~~YA-2,~~YA-3,~~YA-4,~~YA-5,~~YA-YO,~~YU-1,~~YU-2",
    "~~YU-3,~~YU-4,~~YO-1,~~YO-2,~~YO-3,~~YO-4,~~YO-5,~~YO-6,~~RA-1,~~RA-2,~~RA-3,~~RA-4,~~RI-1",
    "~~RI-2,~~RI-3,~~RI-4,~~RI-5,~~RI-6,~~RI-7,~~RU-1,~~RU-2,~~RU-3,~~RU-4,~~RU-5,~~RU-6,~~RE-1",
    "~~RE-2"]⟩,
  -- Kana Extended-A
  ⟨0x1b100, [
    "HENTAIGANA LETTER RE-3,~~RE-4,~~RO-1,~~RO-2,~~RO-3,~~RO-4,~~RO-5,~~RO-6,~~WA-1,~~WA-2",
    "~~WA-3,~~WA-4,~~WA-5,~~WI-1,~~WI-2,~~WI-3,~~WI-4,~~WI-5,~~WE-1,~~WE-2,~~WE-3,~~WE-4,~~WO-1",
    "~~WO-2,~~WO-3,~~WO-4,~~WO-5,~~WO-6,~~WO-7,~~N-MU-MO-1,~~N-MU-MO-2,HIRAGANA~ARCHAIC WU",
    "KATAKANA~~YI,~~~YE,~~~WU"]⟩,
  -- Small Kana Extension
  ⟨0x1b150, [
    "HIRAGANA LETTER SMALL WI,~~~WE,~~~WO"]⟩,
  ⟨0x1b164, [
    "KATAKANA LETTER SMALL WI,~~~WE,~~~WO,~~~N"]⟩,
  -- Enclosed Ideographic Supplement
  ⟨0x1f200, [
    "SQUARE HIRAGANA HOKA,SQUARED KATAKANA KOKO,~~SA"]⟩,
  ⟨0x1f210, [
    "SQUARED CJK UNIFIED IDEOGRAPH-624B,~~~IDEOGRAPH-5B57,~~~IDEOGRAPH-53CC,~KATAKANA DE",
    "~CJK UNIFIED IDEOGRAPH-4E8C,~~~IDEOGRAPH-591A,~~~IDEOGRAPH-89E3,~~~IDEOGRAPH-5929",
    "~~~IDEOGRAPH-4EA4,~~~IDEOGRAPH-6620,~~~IDEOGRAPH-7121,~~~IDEOGRAPH-6599,~~~IDEOGRAPH-524D",
    "~~~IDEOGRAPH-5F8C,~~~IDEOGRAPH-518D,~~~IDEOGRAPH-65B0,~~~IDEOGRAPH-521D,~~~IDEOGRAPH-7D42",
    "~~~IDEOGRAPH-751F,~~~IDEOGRAPH-8CA9,~~~IDEOGRAPH-58F0,~~~IDEOGRAPH-5439,~~~IDEOGRAPH-6F14",
    "~~~IDEOGRAPH-6295,~~~IDEOGRAPH-6355,~~~IDEOGRAPH-4E00,~~~IDEOGRAPH-4E09,~~~IDEOGRAPH-904A",
    "~~~IDEOGRAPH-5DE6,~~~IDEOGRAPH-4E2D,~~~IDEOGRAPH-53F3,~~~IDEOGRAPH-6307,~~~IDEOGRAPH-8D70",
    "~~~IDEOGRAPH-6253,~~~IDEOGRAPH-7981,~~~IDEOGRAPH-7A7A,~~~IDEOGRAPH-5408,~~~IDEOGRAPH-6E80",
    "~~~IDEOGRAPH-6709,~~~IDEOGRAPH-6708,~~~IDEOGRAPH-7533,~~~IDEOGRAPH-5272,~~~IDEOGRAPH-55B6",
    "~~~IDEOGRAPH-914D,,,,,TORTOISE SHELL BRACKETED CJK UNIFIED IDEOGRAPH-672C",
    "~~~~~IDEOGRAPH-4E09,~~~~~IDEOGRAPH-4E8C,~~~~~IDEOGRAPH-5B89,~~~~~IDEOGRAPH-70B9",
    "~~~~~IDEOGRAPH-6253,~~~~~IDEOGRAPH-76D7,~~~~~IDEOGRAPH-52DD,~~~~~IDEOGRAPH-6557,,,,,,,",
    "CIRCLED IDEOGRAPH ADVANTAGE,~~ACCEPT"]⟩,
  ⟨0x1f260, [
    "ROUNDED SYMBOL FOR FU,~~~LU,~~~SHOU,~~~XI,~~~SHUANGXI,~~~CAI"]⟩]

end AccessScopes.Text
