import AccessScopes.Text.CharName.Block

/-!
# `AccessScopes.Text.CharName.Script.Ancient`: names of ancient signs

Cuneiform, hieroglyphs, and the ancient scripts of the Aegean and Anatolia.
-/

set_option autoImplicit false

namespace AccessScopes.Text

/-- The blocks of ancient scripts. -/
def ancientBlocks : List NameBlock := [
  -- Linear B Syllabary
  ⟨0x10000, [
    "LINEAR B SYLLABLE B008 A,~~~B038 E,~~~B028 I,~~~B061 O,~~~B010 U,~~~B001 DA,~~~B045 DE",
    "~~~B007 DI,~~~B014 DO,~~~B051 DU,~~~B057 JA,~~~B046 JE,,~~~B036 JO,~~~B065 JU,~~~B077 KA",
    "~~~B044 KE,~~~B067 KI,~~~B070 KO,~~~B081 KU,~~~B080 MA,~~~B013 ME,~~~B073 MI,~~~B015 MO",
    "~~~B023 MU,~~~B006 NA,~~~B024 NE,~~~B030 NI,~~~B052 NO,~~~B055 NU,~~~B003 PA,~~~B072 PE",
    "~~~B039 PI,~~~B011 PO,~~~B050 PU,~~~B016 QA,~~~B078 QE,~~~B021 QI,~~~B032 QO,,~~~B060 RA",
    "~~~B027 RE,~~~B053 RI,~~~B002 RO,~~~B026 RU,~~~B031 SA,~~~B009 SE,~~~B041 SI,~~~B012 SO",
    "~~~B058 SU,~~~B059 TA,~~~B004 TE,~~~B037 TI,~~~B005 TO,~~~B069 TU,~~~B054 WA,~~~B075 WE",
    "~~~B040 WI,~~~B042 WO,,~~~B017 ZA,~~~B074 ZE,,~~~B020 ZO,~~~B025 A2,~~~B043 A3,~~~B085 AU",
    "~~~B071 DWE,~~~B090 DWO,~~~B048 NWA,~~~B029 PU2,~~~B062 PTE,~~~B076 RA2,~~~B033 RA3",
    "~~~B068 RO2,~~~B066 TA2,~~~B087 TWE,~~~B091 TWO,,,~~SYMBOL B018,~~~B019,~~~B022,~~~B034",
    "~~~B047,~~~B049,~~~B056,~~~B063,~~~B064,~~~B079,~~~B082,~~~B083,~~~B086,~~~B089"]⟩,
  -- Linear B Ideograms
  ⟨0x10080, [
    "LINEAR B IDEOGRAM B100 MAN,~~~B102 WOMAN,~~~B104 DEER,~~~B105 EQUID,~~~B105F MARE",
    "~~~B105M STALLION,~~~B106F EWE,~~~B106M RAM,~~~B107F SHE-GOAT,~~~B107M HE-GOAT,~~~B108F SOW",
    "~~~B108M BOAR,~~~B109F COW,~~~B109M BULL,~~~B120 WHEAT,~~~B121 BARLEY,~~~B122 OLIVE",
    "~~~B123 SPICE,~~~B125 CYPERUS,~~MONOGRAM B127 KAPO,~~~B128 KANAKO,~~IDEOGRAM B130 OIL",
    "~~~B131 WINE,~~~B132,~~MONOGRAM B133 AREPA,~~~B135 MERI,~~IDEOGRAM B140 BRONZE,~~~B141 GOLD",
    "~~~B142,~~~B145 WOOL,~~~B146,~~~B150,~~~B151 HORN,~~~B152,~~~B153,~~~B154",
    "~~MONOGRAM B156 TURO2,~~IDEOGRAM B157,~~~B158,~~~B159 CLOTH,~~~B160,~~~B161,~~~B162 GARMENT",
    "~~~B163 ARMOUR,~~~B164,~~~B165,~~~B166,~~~B167,~~~B168,~~~B169,~~~B170,~~~B171,~~~B172",
    "~~~B173 MONTH,~~~B174,~~~B176 TREE,~~~B177,~~~B178,~~~B179,~~~B180,~~~B181,~~~B182,~~~B183",
    "~~~B184,~~~B185,~~~B189,~~~B190,~~~B191 HELMET,~~~B220 FOOTSTOOL,~~~B225 BATHTUB",
    "~~~B230 SPEAR,~~~B231 ARROW,~~~B232,~~~B233 SWORD,~~~B234,~~~B236,~~~B240 WHEELED CHARIOT",
    "~~~B241 CHARIOT,~~~B242~FRAME,~~~B243 WHEEL,~~~B245,~~~B246,~~MONOGRAM B247 DIPTE",
    "~~IDEOGRAM B248,~~~B249,~~~B251,~~~B252,~~~B253,~~~B254 DART,~~~B255,~~~B256,~~~B257",
    "~~~B258,~~~B259,~~~VESSEL B155,~~~~B200,~~~~B201,~~~~B202,~~~~B203,~~~~B204,~~~~B205",
    "~~~~B206,~~~~B207,~~~~B208,~~~~B209,~~~~B210,~~~~B211,~~~~B212,~~~~B213,~~~~B214,~~~~B215",
    "~~~~B216,~~~~B217,~~~~B218,~~~~B219,~~~~B221,~~~~B222,~~~~B226,~~~~B227,~~~~B228,~~~~B229",
    "~~~~B250,~~~~B305"]⟩,
  -- Aegean Numbers
  ⟨0x10100, [
    "AEGEAN WORD SEPARATOR LINE,~~~DOT,~CHECK MARK,,,,,~NUMBER ONE,~~TWO,~~THREE,~~FOUR,~~FIVE",
    "~~SIX,~~SEVEN,~~EIGHT,~~NINE,~~TEN,~~TWENTY,~~THIRTY,~~FORTY,~~FIFTY,~~SIXTY,~~SEVENTY",
    "~~EIGHTY,~~NINETY,~~ONE HUNDRED,~~TWO~,~~THREE~,~~FOUR~,~~FIVE~,~~SIX~,~~SEVEN~,~~EIGHT~",
    "~~NINE~,~~ONE THOUSAND,~~TWO~,~~THREE~,~~FOUR~,~~FIVE~,~~SIX~,~~SEVEN~,~~EIGHT~,~~NINE~",
    "~~TEN~,~~TWENTY~,~~THIRTY~,~~FORTY~,~~FIFTY~,~~SIXTY~,~~SEVENTY~,~~EIGHTY~,~~NINETY~,,,",
    "~WEIGHT BASE UNIT,~~FIRST SUBUNIT,~~SECOND~,~~THIRD~,~~FOURTH~,~DRY MEASURE FIRST SUBUNIT",
    "~LIQUID~~~,~MEASURE SECOND SUBUNIT,~~THIRD~"]⟩,
  -- Ancient Greek Numbers
  ⟨0x10140, [
    "GREEK ACROPHONIC ATTIC ONE QUARTER,~~~~HALF,~~~~DRACHMA,~~~FIVE,~~~FIFTY,~~~FIVE HUNDRED",
    "~~~~THOUSAND,~~~FIFTY~,~~~FIVE TALENTS,~~~TEN~,~~~FIFTY~,~~~ONE HUNDRED TALENTS,~~~FIVE~~",
    "~~~ONE THOUSAND~,~~~FIVE~~,~~~~STATERS,~~~TEN~,~~~FIFTY~,~~~ONE HUNDRED STATERS,~~~FIVE~~",
    "~~~ONE THOUSAND~,~~~TEN~~,~~~FIFTY~~,~~~TEN MNAS,~~HERAEUM ONE PLETHRON,~~THESPIAN~",
    "~~HERMIONIAN~,~~EPIDAUREAN TWO,~~THESPIAN~,~~CYRENAIC~DRACHMAS,~~EPIDAUREAN~~",
    "~~TROEZENIAN FIVE,~~~TEN,~~~~ALTERNATE FORM,~~HERMIONIAN~,~~MESSENIAN~,~~THESPIAN~",
    "~~~THIRTY,~~TROEZENIAN FIFTY,~~~~ALTERNATE FORM,~~HERMIONIAN~,~~THESPIAN~,~~~ONE HUNDRED",
    "~~~THREE~,~~EPIDAUREAN FIVE~,~~TROEZENIAN~~,~~THESPIAN~~,~~CARYSTIAN~~,~~NAXIAN~~",
    "~~THESPIAN ONE THOUSAND,~~~FIVE~,~~DELPHIC~MNAS,~~STRATIAN FIFTY~,~ONE HALF SIGN",
    "~~~~ALTERNATE FORM,~TWO THIRDS~,~THREE QUARTERS~,~YEAR SIGN,~TALENT~,~DRACHMA~,~OBOL~",
    "~TWO OBOLS SIGN,~THREE~~,~FOUR~~,~FIVE~~,~METRETES SIGN,~KYATHOS BASE SIGN,~LITRA SIGN",
    "~OUNKIA~,~XESTES~,~ARTABE~,~AROURA~,~GRAMMA~,~TRYBLION BASE SIGN,~ZERO SIGN",
    "~ONE QUARTER SIGN,~SINUSOID SIGN,~INDICTION~,NOMISMA SIGN"]⟩,
  -- Ancient Symbols
  ⟨0x10190, [
    "ROMAN SEXTANS SIGN,~UNCIA~,~SEMUNCIA~,~SEXTULA~,~DIMIDIA SEXTULA SIGN,~SILIQUA SIGN",
    "~DENARIUS~,~QUINARIUS~,~SESTERTIUS~,~DUPONDIUS~,~AS~,~CENTURIAL~,ASCIA SYMBOL,,,",
    "GREEK~TAU RHO"]⟩,
  -- Phaistos Disc
  ⟨0x101d0, [
    "PHAISTOS DISC SIGN PEDESTRIAN,~~~PLUMED HEAD,~~~TATTOOED~,~~~CAPTIVE,~~~CHILD,~~~WOMAN",
    "~~~HELMET,~~~GAUNTLET,~~~TIARA,~~~ARROW,~~~BOW,~~~SHIELD,~~~CLUB,~~~MANACLES,~~~MATTOCK",
    "~~~SAW,~~~LID,~~~BOOMERANG,~~~CARPENTRY PLANE,~~~DOLIUM,~~~COMB,~~~SLING,~~~COLUMN",
    "~~~BEEHIVE,~~~SHIP,~~~HORN,~~~HIDE,~~~BULLS LEG,~~~CAT,~~~RAM,~~~EAGLE,~~~DOVE,~~~TUNNY",
    "~~~BEE,~~~PLANE TREE,~~~VINE,~~~PAPYRUS,~~~ROSETTE,~~~LILY,~~~OX BACK,~~~FLUTE,~~~GRATER",
    "~~~STRAINER,~~~SMALL AXE,~~~WAVY BAND,~~~COMBINING OBLIQUE STROKE"]⟩,
  -- Lycian
  ⟨0x10280, [
    "LYCIAN LETTER A,~~E,~~B,~~BH,~~G,~~D,~~I,~~W,~~Z,~~TH,~~J,~~K,~~Q,~~L,~~M,~~N,~~MM,~~NN,~~U",
    "~~P,~~KK,~~R,~~S,~~T,~~TT,~~AN,~~EN,~~H,~~X"]⟩,
  -- Carian
  ⟨0x102a0, [
    "CARIAN LETTER A,~~P2,~~D,~~L,~~UUU,~~R,~~LD,~~A2,~~Q,~~B,~~M,~~O,~~D2,~~T,~~SH,~~SH2,~~S",
    "~~C-18,~~U,~~NN,~~X,~~N,~~TT2,~~P,~~SS,~~I,~~E,~~UUUU,~~K,~~K2,~~ND,~~UU,~~G,~~G2,~~ST",
    "~~ST2,~~NG,~~II,~~C-39,~~TT,~~UUU2,~~RR,~~MB,~~MB2,~~MB3,~~MB4,~~LD2,~~E2,~~UUU3"]⟩,
  -- Ugaritic
  ⟨0x10380, [
    "UGARITIC LETTER ALPA,~~BETA,~~GAMLA,~~KHA,~~DELTA,~~HO,~~WO,~~ZETA,~~HOTA,~~TET,~~YOD,~~KAF",
    "~~SHIN,~~LAMDA,~~MEM,~~DHAL,~~NUN,~~ZU,~~SAMKA,~~AIN,~~PU,~~SADE,~~QOPA,~~RASHA,~~THANNA",
    "~~GHAIN,~~TO,~~I,~~U,~~SSU,,~WORD DIVIDER"]⟩,
  -- Old Persian
  ⟨0x103a0, [
    "OLD PERSIAN SIGN A,~~~I,~~~U,~~~KA,~~~KU,~~~GA,~~~GU,~~~XA,~~~CA,~~~JA,~~~JI,~~~TA,~~~TU",
    "~~~DA,~~~DI,~~~DU,~~~THA,~~~PA,~~~BA,~~~FA,~~~NA,~~~NU,~~~MA,~~~MI,~~~MU,~~~YA,~~~VA,~~~VI",
    "~~~RA,~~~RU,~~~LA,~~~SA,~~~ZA,~~~SHA,~~~SSA,~~~HA,,,,,~~~AURAMAZDAA,~~~AURAMAZDAA-2",
    "~~~AURAMAZDAAHA,~~~XSHAAYATHIYA,~~~DAHYAAUSH,~~~DAHYAAUSH-2,~~~BAGA,~~~BUUMISH",
    "~~WORD DIVIDER,~~NUMBER ONE,~~~TWO,~~~TEN,~~~TWENTY,~~~HUNDRED"]⟩,
  -- Linear A
  ⟨0x10600, [
    "LINEAR A SIGN AB001,~~~AB002,~~~AB003,~~~AB004,~~~AB005,~~~AB006,~~~AB007,~~~AB008,~~~AB009",
    "~~~AB010,~~~AB011,~~~AB013,~~~AB016,~~~AB017,~~~AB020,~~~AB021,~~~AB021F,~~~AB021M,~~~AB022",
    "~~~AB022F,~~~AB022M,~~~AB023,~~~AB023M,~~~AB024,~~~AB026,~~~AB027,~~~AB028,~~~A028B",
    "~~~AB029,~~~AB030,~~~AB031,~~~AB034,~~~AB037,~~~AB038,~~~AB039,~~~AB040,~~~AB041,~~~AB044",
    "~~~AB045,~~~AB046,~~~AB047,~~~AB048,~~~AB049,~~~AB050,~~~AB051,~~~AB053,~~~AB054,~~~AB055",
    "~~~AB056,~~~AB057,~~~AB058,~~~AB059,~~~AB060,~~~AB061,~~~AB065,~~~AB066,~~~AB067,~~~AB069",
    "~~~AB070,~~~AB073,~~~AB074,~~~AB076,~~~AB077,~~~AB078,~~~AB079,~~~AB080,~~~AB081,~~~AB082",
    "~~~AB085,~~~AB086,~~~AB087,~~~A100-102,~~~AB118,~~~AB120,~~~A120B,~~~AB122,~~~AB123",
    "~~~AB131A,~~~AB131B,~~~A131C,~~~AB164,~~~AB171,~~~AB180,~~~AB188,~~~AB191,~~~A301,~~~A302",
    "~~~A303,~~~A304,~~~A305,~~~A306,~~~A307,~~~A308,~~~A309A,~~~A309B,~~~A309C,~~~A310,~~~A311",
    "~~~A312,~~~A313A,~~~A313B,~~~A313C,~~~A314,~~~A315,~~~A316,~~~A317,~~~A318,~~~A319,~~~A320",
    "~~~A321,~~~A322,~~~A323,~~~A324,~~~A325,~~~A326,~~~A327,~~~A328,~~~A329,~~~A330,~~~A331",
    "~~~A332,~~~A333,~~~A334,~~~A335,~~~A336,~~~A337,~~~A338,~~~A339,~~~A340,~~~A341,~~~A342",
    "~~~A343,~~~A344,~~~A345,~~~A346,~~~A347,~~~A348,~~~A349,~~~A350,~~~A351,~~~A352,~~~A353",
    "~~~A354,~~~A355,~~~A356,~~~A357,~~~A358,~~~A359,~~~A360,~~~A361,~~~A362,~~~A363,~~~A364",
    "~~~A365,~~~A366,~~~A367,~~~A368,~~~A369,~~~A370,~~~A371,~~~A400-VAS,~~~A401-VAS,~~~A402-VAS",
    "~~~A403-VAS,~~~A404-VAS,~~~A405-VAS,~~~A406-VAS,~~~A407-VAS,~~~A408-VAS,~~~A409-VAS",
    "~~~A410-VAS,~~~A411-VAS,~~~A412-VAS,~~~A413-VAS,~~~A414-VAS,~~~A415-VAS,~~~A416-VAS",
    "~~~A417-VAS,~~~A418-VAS,~~~A501,~~~A502,~~~A503,~~~A504,~~~A505,~~~A506,~~~A508,~~~A509",
    "~~~A510,~~~A511,~~~A512,~~~A513,~~~A515,~~~A516,~~~A520,~~~A521,~~~A523,~~~A524,~~~A525",
    "~~~A526,~~~A527,~~~A528,~~~A529,~~~A530,~~~A531,~~~A532,~~~A534,~~~A535,~~~A536,~~~A537",
    "~~~A538,~~~A539,~~~A540,~~~A541,~~~A542,~~~A545,~~~A547,~~~A548,~~~A549,~~~A550,~~~A551",
    "~~~A552,~~~A553,~~~A554,~~~A555,~~~A556,~~~A557,~~~A559,~~~A563,~~~A564,~~~A565,~~~A566",
    "~~~A568,~~~A569,~~~A570,~~~A571,~~~A572,~~~A573,~~~A574,~~~A575,~~~A576,~~~A577,~~~A578",
    "~~~A579,~~~A580,~~~A581,~~~A582,~~~A583,~~~A584,~~~A585,~~~A586,~~~A587,~~~A588,~~~A589",
    "~~~A591,~~~A592,~~~A594,~~~A595,~~~A596,~~~A598,~~~A600,~~~A601,~~~A602,~~~A603,~~~A604",
    "~~~A606,~~~A608,~~~A609,~~~A610,~~~A611,~~~A612,~~~A613,~~~A614,~~~A615,~~~A616,~~~A617",
    "~~~A618,~~~A619,~~~A620,~~~A621,~~~A622,~~~A623,~~~A624,~~~A626,~~~A627,~~~A628,~~~A629",
    "~~~A634,~~~A637,~~~A638,~~~A640,~~~A642,~~~A643,~~~A644,~~~A645,~~~A646,~~~A648,~~~A649",
    "~~~A651,~~~A652,~~~A653,~~~A654,~~~A655,~~~A656,~~~A657,~~~A658,~~~A659,~~~A660,~~~A661",
    "~~~A662,~~~A663,~~~A664,,,,,,,,,,~~~A701 A,~~~A702 B,~~~A703 D,~~~A704 E,~~~A705 F",
    "~~~A706 H,~~~A707 J,~~~A708 K,~~~A709 L,~~~A709-2 L2,~~~A709-3 L3,~~~A709-4 L4,~~~A709-6 L6",
    "~~~A710 W,~~~A711 X,~~~A712 Y,~~~A713 OMEGA,~~~A714 ABB,~~~A715 BB,~~~A717 DD,~~~A726 EYYY",
    "~~~A732 JE,,,,,,,,,,,~~~A800,~~~A801,~~~A802,~~~A803,~~~A804,~~~A805,~~~A806,~~~A807"]⟩,
  -- Cypriot Syllabary
  ⟨0x10800, [
    "CYPRIOT SYLLABLE A,~~E,~~I,~~O,~~U,~~JA,,,~~JO,,~~KA,~~KE,~~KI,~~KO,~~KU,~~LA,~~LE,~~LI",
    "~~LO,~~LU,~~MA,~~ME,~~MI,~~MO,~~MU,~~NA,~~NE,~~NI,~~NO,~~NU,~~PA,~~PE,~~PI,~~PO,~~PU,~~RA",
    "~~RE,~~RI,~~RO,~~RU,~~SA,~~SE,~~SI,~~SO,~~SU,~~TA,~~TE,~~TI,~~TO,~~TU,~~WA,~~WE,~~WI,~~WO,",
    "~~XA,~~XE,,,,~~ZA,,,~~ZO"]⟩,
  -- Lydian
  ⟨0x10920, [
    "LYDIAN LETTER A,~~B,~~G,~~D,~~E,~~V,~~I,~~Y,~~K,~~L,~~M,~~N,~~O,~~R,~~SS,~~T,~~U,~~F,~~Q",
    "~~S,~~TT,~~AN,~~EN,~~LY,~~NN,~~C,,,,,,~TRIANGULAR MARK"]⟩,
  -- Meroitic Hieroglyphs
  ⟨0x10980, [
    "MEROITIC HIEROGLYPHIC LETTER A,~~~E,~~~I,~~~O,~~~YA,~~~WA,~~~BA,~~~BA-2,~~~PA,~~~MA,~~~NA",
    "~~~NA-2,~~~NE,~~~NE-2,~~~RA,~~~RA-2,~~~LA,~~~KHA,~~~HHA,~~~SA,~~~SA-2,~~~SE,~~~KA,~~~QA",
    "~~~TA,~~~TA-2,~~~TE,~~~TE-2,~~~TO,~~~DA,~~SYMBOL VIDJ,~~~VIDJ-2"]⟩,
  -- Meroitic Cursive
  ⟨0x109a0, [
    "MEROITIC CURSIVE LETTER A,~~~E,~~~I,~~~O,~~~YA,~~~WA,~~~BA,~~~PA,~~~MA,~~~NA,~~~NE,~~~RA",
    "~~~LA,~~~KHA,~~~HHA,~~~SA,~~~ARCHAIC SA,~~~SE,~~~KA,~~~QA,~~~TA,~~~TE,~~~TO,~~~DA,,,,",
    "~~FRACTION ELEVEN TWELFTHS,~~~ONE HALF,~~LOGOGRAM RMT,~~~IMN,~~NUMBER ONE,~~~TWO,~~~THREE",
    "~~~FOUR,~~~FIVE,~~~SIX,~~~SEVEN,~~~EIGHT,~~~NINE,~~~TEN,~~~TWENTY,~~~THIRTY,~~~FORTY",
    "~~~FIFTY,~~~SIXTY,~~~SEVENTY,,,~~~ONE HUNDRED,~~~TWO~,~~~THREE~,~~~FOUR~,~~~FIVE~,~~~SIX~",
    "~~~SEVEN~,~~~EIGHT~,~~~NINE~,~~~ONE THOUSAND,~~~TWO~,~~~THREE~,~~~FOUR~,~~~FIVE~,~~~SIX~",
    "~~~SEVEN~,~~~EIGHT~,~~~NINE~,~~~TEN~,~~~TWENTY~,~~~THIRTY~,~~~FORTY~,~~~FIFTY~,~~~SIXTY~",
    "~~~SEVENTY~,~~~EIGHTY~,~~~NINETY~,~~~ONE HUNDRED THOUSAND,~~~TWO~~,~~~THREE~~,~~~FOUR~~",
    "~~~FIVE~~,~~~SIX~~,~~~SEVEN~~,~~~EIGHT~~,~~~NINE~~,~~FRACTION ONE TWELFTH,~~~TWO TWELFTHS",
    "~~~THREE~,~~~FOUR~,~~~FIVE~,~~~SIX~,~~~SEVEN~,~~~EIGHT~,~~~NINE~,~~~TEN~"]⟩,
  -- Cuneiform
  ⟨0x12000, [
    "CUNEIFORM SIGN A,~~~TIMES A,~~~~BAD,~~~~GAN2 TENU,~~~~HA,~~~~IGI,~~~~LAGAR GUNU,~~~~MUSH",
    "~~~~SAG,~~A2,~~AB,~~~TIMES ASH2,~~~~DUN3 GUNU,~~~~GAL,~~~~GAN2 TENU,~~~~HA,~~~~IGI GUNU",
    "~~~~IMIN,~~~~LAGAB,~~~~SHESH,~~~~U PLUS U PLUS U,~~~GUNU,~~AB2,~~~TIMES BALAG,~~~~GAN2 TENU",
    "~~~~ME PLUS EN,~~~~SHA3,~~~~TAK4,~~AD,~~AK,~~~TIMES ERIN2,~~~~SHITA PLUS GISH,~~AL",
    "~~~TIMES AL,~~~~DIM2,~~~~GISH,~~~~HA,~~~~KAD3,~~~~KI,~~~~SHE,~~~~USH,~~ALAN,~~ALEPH,~~AMAR",
    "~~~TIMES SHE,~~AN,~~~OVER AN,~~~THREE TIMES,~~~PLUS NAGA OPPOSING AN PLUS NAGA,~~~~~SQUARED",
    "~~ANSHE,~~APIN,~~ARAD,~~~TIMES KUR,~~ARKAB,~~ASAL2,~~ASH,~~~ZIDA TENU,~~~KABA~",
    "~~~OVER ASH TUG2 OVER TUG2 TUG2 OVER TUG2 PAP,~~~~~OVER ASH",
    "~~~~~~~CROSSING ASH OVER ASH OVER ASH,~~ASH2,~~ASHGAB,~~BA,~~BAD,~~BAG3,~~BAHAR2,~~BAL",
    "~~~OVER BAL,~~BALAG,~~BAR,~~BARA2,~~BI,~~~TIMES A,~~~~GAR,~~~~IGI GUNU,~~BU,~~~OVER BU AB",
    "~~~~~UN,~~~CROSSING~,~~BULUG,~~~OVER BULUG,~~BUR,~~BUR2,~~DA,~~DAG",
    "~~~KISIM5 TIMES A PLUS MASH,~~~~~AMAR,~~~~~BALAG,~~~~~BI,~~~~~GA,~~~~~~PLUS MASH,~~~~~GI",
    "~~~~~GIR2,~~~~~GUD,~~~~~HA,~~~~~IR,~~~~~~PLUS LU,~~~~~KAK,~~~~~LA,~~~~~LU,~~~~~~PLUS MASH2",
    "~~~~~LUM,~~~~~NE,~~~~~PAP PLUS PAP,~~~~~SI,~~~~~TAK4,~~~~~U2 PLUS GIR2,~~~~~USH,~~DAM,~~DAR",
    "~~DARA3,~~DARA4,~~DI,~~DIB,~~DIM,~~~TIMES SHE,~~DIM2,~~DIN,~~~KASKAL U GUNU DISH,~~DISH",
    "~~DU,~~~OVER DU,~~~GUNU,~~~SHESHIG,~~DUB,~~~TIMES ESH2,~~DUB2,~~DUG,~~DUGUD,~~DUH,~~DUN",
    "~~DUN3,~~~GUNU,~~~~GUNU,~~DUN4,~~DUR2,~~E,~~~TIMES PAP,~~~OVER E NUN OVER NUN,~~E2",
    "~~~TIMES A PLUS HA PLUS DA,~~~~GAR,~~~~MI,~~~~SAL,~~~~SHE,~~~~U,~~EDIN,~~EGIR,~~EL,~~EN",
    "~~~TIMES GAN2,~~~~~TENU,~~~~ME,~~~CROSSING EN,~~~OPPOSING~,~~~SQUARED,~~EREN,~~ERIN2,~~ESH2",
    "~~EZEN,~~~TIMES A,~~~~~PLUS LAL,~~~~~~~TIMES LAL,~~~~AN,~~~~BAD,~~~~DUN3 GUNU,~~~~~~GUNU",
    "~~~~HA,~~~~~GUNU,~~~~IGI~,~~~~KASKAL,~~~~~SQUARED,~~~~KU3,~~~~LA,~~~~LAL TIMES LAL,~~~~LI",
    "~~~~LU,~~~~U2,~~~~UD,~~GA,~~~GUNU,~~GA2,~~~TIMES A PLUS DA PLUS HA,~~~~~~HA,~~~~~~IGI",
    "~~~~AB2 TENU PLUS TAB,~~~~AN,~~~~ASH,~~~~ASH2 PLUS GAL,~~~~BAD,~~~~BAR PLUS RA,~~~~BUR",
    "~~~~~PLUS RA,~~~~DA,~~~~DI,~~~~DIM TIMES SHE,~~~~DUB,~~~~EL,~~~~~PLUS LA,~~~~EN",
    "~~~~~TIMES GAN2 TENU,~~~~GAN2 TENU,~~~~GAR,~~~~GI,~~~~GI4,~~~~~PLUS A,~~~~GIR2~SU",
    "~~~~HA~LU PLUS ESH2,~~~~HAL,~~~~~PLUS LA,~~~~HI~LI,~~~~HUB2,~~~~IGI GUNU",
    "~~~~ISH PLUS HU PLUS ASH,~~~~KAK,~~~~KASKAL,~~~~KID,~~~~~PLUS LAL,~~~~KU3~AN,~~~~LA",
    "~~~~ME PLUS EN,~~~~MI,~~~~NUN,~~~~~OVER NUN,~~~~PA,~~~~SAL,~~~~SAR,~~~~SHE,~~~~~PLUS TUR",
    "~~~~SHID,~~~~SUM,~~~~TAK4,~~~~U,~~~~UD,~~~~~PLUS DU,~~~OVER GA2,~~GABA,~~~CROSSING GABA",
    "~~GAD,~~~OVER GAD GAR OVER GAR,~~GAL,~~~GAD OVER GAD GAR OVER GAR,~~GALAM,~~GAM,~~GAN",
    "~~GAN2,~~~TENU,~~~OVER GAN2,~~~CROSSING~,~~GAR,~~GAR3,~~GASHAN,~~GESHTIN,~~~TIMES KUR,~~GI",
    "~~~TIMES E,~~~~U,~~~CROSSING GI,~~GI4,~~~OVER GI4,~~~CROSSING~,~~GIDIM,~~GIR2,~~~GUNU",
    "~~GIR3,~~~TIMES A PLUS IGI,~~~~GAN2 TENU,~~~~IGI,~~~~LU PLUS IGI,~~~~PA,~~GISAL,~~GISH",
    "~~~CROSSING GISH,~~~TIMES BAD,~~~~TAK4,~~~TENU,~~GU,~~~CROSSING GU,~~GU2,~~~TIMES KAK",
    "~~~~~TIMES IGI GUNU,~~~~NUN,~~~~SAL PLUS TUG2,~~~GUNU,~~GUD,~~~TIMES A PLUS KUR,~~~~KUR",
    "~~~OVER GUD LUGAL,~~GUL,~~GUM,~~~TIMES SHE,~~GUR,~~GUR7,~~GURUN,~~GURUSH,~~HA,~~~TENU",
    "~~~GUNU,~~HAL,~~HI,~~~TIMES ASH,~~~~ASH2,~~~~BAD,~~~~DISH,~~~~GAD,~~~~KIN,~~~~NUN,~~~~SHE",
    "~~~~U,~~HU,~~HUB2,~~~TIMES AN,~~~~HAL,~~~~KASKAL,~~~~LISH,~~~~UD,~~HUL2,~~I,~~~A,~~IB",
    "~~IDIM,~~~OVER IDIM BUR,~~~~~SQUARED,~~IG,~~IGI,~~~DIB,~~~RI",
    "~~~OVER IGI SHIR OVER SHIR UD OVER UD,~~~GUNU,~~IL,~~~TIMES GAN2 TENU,~~IL2,~~IM",
    "~~~TIMES TAK4,~~~CROSSING IM,~~~OPPOSING~,~~~SQUARED,~~IMIN,~~IN,~~IR,~~ISH,~~KA,~~~TIMES A",
    "~~~~AD,~~~~~PLUS KU3,~~~~ASH2,~~~~BAD,~~~~BALAG,~~~~BAR,~~~~BI,~~~~ERIN2,~~~~ESH2,~~~~GA",
    "~~~~GAL,~~~~GAN2 TENU,~~~~GAR,~~~~~PLUS SHA3 PLUS A,~~~~GI,~~~~GIR2,~~~~GISH PLUS SAR",
    "~~~~~CROSSING GISH,~~~~GU,~~~~GUR7,~~~~IGI,~~~~IM,~~~~KAK,~~~~KI,~~~~KID,~~~~LI,~~~~LU",
    "~~~~ME,~~~~~PLUS DU,~~~~~~GI,~~~~~~TE,~~~~MI,~~~~~PLUS NUNUZ,~~~~NE,~~~~NUN,~~~~PI,~~~~RU",
    "~~~~SA,~~~~SAR,~~~~SHA,~~~~SHE,~~~~SHID,~~~~SHU,~~~~SIG,~~~~SUHUR,~~~~TAR,~~~~U,~~~~U2",
    "~~~~UD,~~~~UMUM TIMES PA,~~~~USH,~~~~ZI,~~KA2,~~~CROSSING KA2,~~KAB,~~KAD2,~~KAD3,~~KAD4",
    "~~KAD5,~~~OVER KAD5,~~KAK,~~~TIMES IGI GUNU,~~KAL,~~~TIMES BAD,~~~CROSSING KAL,~~KAM2",
    "~~KAM4,~~KASKAL,~~~LAGAB TIMES U OVER LAGAB TIMES U",
    "~~~OVER KASKAL LAGAB TIMES U OVER LAGAB TIMES U,~~KESH2,~~KI,~~~TIMES BAD,~~~~U,~~~~UD",
    "~~KID,~~KIN,~~KISAL,~~KISH,~~KISIM5,~~~OVER KISIM5,~~KU",
    "~~~OVER HI TIMES ASH2 KU OVER HI TIMES ASH2,~~KU3,~~KU4,~~~VARIANT FORM,~~KU7,~~KUL,~~~GUNU",
    "~~KUN,~~KUR,~~~OPPOSING KUR,~~KUSHU2,~~KWU318,~~LA,~~LAGAB,~~~TIMES A,~~~~~PLUS DA PLUS HA",
    "~~~~~~GAR,~~~~~~LAL,~~~~AL,~~~~AN,~~~~ASH ZIDA TENU,~~~~BAD,~~~~BI,~~~~DAR,~~~~EN,~~~~GA",
    "~~~~GAR,~~~~GUD,~~~~~PLUS GUD,~~~~HA,~~~~HAL,~~~~HI TIMES NUN,~~~~IGI GUNU,~~~~IM",
    "~~~~~PLUS HA,~~~~~~LU,~~~~KI,~~~~KIN,~~~~KU3,~~~~KUL,~~~~~PLUS HI PLUS A,~~~~LAGAB,~~~~LISH",
    "~~~~LU,~~~~LUL,~~~~ME,~~~~~PLUS EN,~~~~MUSH,~~~~NE,~~~~SHE PLUS SUM",
    "~~~~SHITA~GISH PLUS ERIN2,~~~~~~~TENU,~~~~SHU2,~~~~~PLUS SHU2,~~~~SUM,~~~~TAG,~~~~TAK4",
    "~~~~TE PLUS A PLUS SU PLUS NA,~~~~U,~~~~~PLUS A,~~~~~~U PLUS U,~~~~U2~ASH,~~~~UD,~~~~USH",
    "~~~SQUARED,~~LAGAR,~~~TIMES SHE,~~~~~PLUS SUM,~~~GUNU,~~~~OVER LAGAR GUNU SHE,~~LAHSHU",
    "~~LAL,~~~TIMES LAL,~~LAM,~~~TIMES KUR,~~~~~PLUS RU,~~LI,~~LIL,~~LIMMU2,~~LISH,~~LU",
    "~~~TIMES BAD,~~LU2,~~~TIMES AL,~~~~BAD,~~~~ESH2,~~~~~TENU,~~~~GAN2~,~~~~HI TIMES BAD,~~~~IM",
    "~~~~KAD2,~~~~KAD3,~~~~~PLUS ASH,~~~~KI,~~~~LA PLUS ASH,~~~~LAGAB,~~~~ME PLUS EN,~~~~NE",
    "~~~~NU,~~~~SI PLUS ASH,~~~~SIK2~BU,~~~~TUG2,~~~TENU,~~~CROSSING LU2,~~~OPPOSING~,~~~SQUARED",
    "~~~SHESHIG,~~LU3,~~LUGAL,~~~OVER LUGAL,~~~OPPOSING~,~~~SHESHIG,~~LUH,~~LUL,~~LUM",
    "~~~OVER LUM,~~~~~GAR OVER GAR,~~MA,~~~TIMES TAK4,~~~GUNU,~~MA2,~~MAH,~~MAR,~~MASH,~~MASH2",
    "~~ME,~~MES,~~MI,~~MIN,~~MU,~~~OVER MU,~~MUG,~~~GUNU,~~MUNSUB,~~MURGU2,~~MUSH,~~~TIMES A",
    "~~~~KUR,~~~~ZA,~~~OVER MUSH,~~~~~TIMES A PLUS NA,~~~CROSSING~,~~MUSH3,~~~TIMES A",
    "~~~~~PLUS DI,~~~~DI,~~~GUNU,~~NA,~~NA2,~~NAGA,~~~INVERTED,~~~TIMES SHU TENU",
    "~~~OPPOSING NAGA,~~NAGAR,~~NAM NUTILLU,~~~,~~NAM2,~~NE,~~~TIMES A,~~~~UD,~~~SHESHIG,~~NI",
    "~~~TIMES E,~~NI2,~~NIM,~~~TIMES GAN2 TENU,~~~~GAR PLUS GAN2 TENU,~~NINDA2,~~~TIMES AN",
    "~~~~ASH,~~~~~PLUS ASH,~~~~GUD,~~~~ME PLUS GAN2 TENU,~~~~NE,~~~~NUN,~~~~SHE,~~~~~PLUS A AN",
    "~~~~~~ASH,~~~~~~~PLUS ASH,~~~~U2~~,~~~~USH,~~NISAG,~~NU,~~NU11,~~NUN,~~~LAGAR TIMES GAR",
    "~~~~~MASH,~~~~~SAL,~~~~~~OVER NUN LAGAR TIMES SAL,~~~~~USH,~~~TENU,~~~OVER NUN,~~~CROSSING~",
    "~~~~~LAGAR OVER LAGAR,~~NUNUZ,~~~AB2 TIMES ASHGAB,~~~~~BI,~~~~~DUG,~~~~~GUD,~~~~~IGI GUNU",
    "~~~~~KAD3,~~~~~LA,~~~~~NE,~~~~~SILA3,~~~~~U2,~~~KISIM5~BI,~~~~~~U,~~PA,~~PAD,~~PAN,~~PAP",
    "~~PESH2,~~PI,~~~TIMES A,~~~~AB,~~~~BI,~~~~BU,~~~~E,~~~~I,~~~~IB,~~~~U,~~~~U2,~~~CROSSING PI",
    "~~PIRIG,~~~TIMES KAL,~~~~UD,~~~~ZA,~~~OPPOSING PIRIG,~~RA,~~RAB,~~RI,~~RU,~~SA",
    "~~SAG NUTILLU,~~~,~~~TIMES A,~~~~DU,~~~~DUB,~~~~HA,~~~~KAK,~~~~KUR,~~~~LUM,~~~~MI,~~~~NUN",
    "~~~~SAL,~~~~SHID,~~~~TAB,~~~~U2,~~~~UB,~~~~UM,~~~~UR,~~~~USH,~~~OVER SAG,~~~GUNU,~~SAL",
    "~~~LAGAB TIMES ASH2,~~SANGA2,~~SAR,~~SHA,~~SHA3,~~~TIMES A,~~~~BAD,~~~~GISH,~~~~NE,~~~~SHU2",
    "~~~~TUR,~~~~U,~~~~~PLUS A,~~SHA6,~~SHAB6,~~SHAR2,~~SHE,~~~HU",
    "~~~OVER SHE GAD OVER GAD GAR OVER GAR,~~~~~TAB~TAB~~~,~~SHEG9,~~SHEN,~~SHESH,~~SHESH2",
    "~~SHESHLAM,~~SHID,~~~TIMES A,~~~~IM,~~SHIM,~~~TIMES A,~~~~BAL,~~~~BULUG,~~~~DIN,~~~~GAR",
    "~~~~IGI,~~~~~GUNU,~~~~KUSHU2,~~~~LUL,~~~~MUG,~~~~SAL,~~SHINIG,~~SHIR,~~~TENU",
    "~~~OVER SHIR BUR OVER BUR,~~SHITA,~~SHU,~~~OVER INVERTED SHU,~~SHU2,~~SHUBUR,~~SI,~~~GUNU",
    "~~SIG,~~SIG4,~~~OVER SIG4 SHU2,~~SIK2,~~SILA3,~~SU,~~~OVER SU,~~SUD,~~SUD2,~~SUHUR,~~SUM",
    "~~SUMASH,~~SUR,~~SUR9,~~TA,~~~ASTERISK,~~~TIMES HI,~~~~MI,~~~GUNU,~~TAB",
    "~~~OVER TAB NI OVER NI DISH OVER DISH,~~~SQUARED,~~TAG,~~~TIMES BI,~~~~GUD,~~~~SHE,~~~~SHU",
    "~~~~TUG2,~~~~UD,~~TAK4,~~TAR,~~TE,~~~GUNU,~~TI,~~~TENU,~~TIL,~~TIR,~~~TIMES TAK4",
    "~~~OVER TIR,~~~~~GAD OVER GAD GAR OVER GAR,~~TU,~~TUG2,~~TUK,~~TUM,~~TUR",
    "~~~OVER TUR ZA OVER ZA,~~U,~~~GUD,~~~U U,~~~OVER~PA OVER PA GAR OVER GAR,~~~~~SUR~SUR",
    "~~~~~U REVERSED OVER U REVERSED,~~U2,~~UB,~~UD,~~~KUSHU2,~~~TIMES BAD,~~~~MI",
    "~~~~U PLUS U PLUS U,~~~~~~~~~GUNU,~~~GUNU,~~~SHESHIG,~~~~TIMES BAD,~~UDUG,~~UM",
    "~~~TIMES LAGAB,~~~~ME PLUS DA,~~~~SHA3,~~~~U,~~UMBIN,~~UMUM,~~~TIMES KASKAL,~~~~PA,~~UN",
    "~~~GUNU,~~UR,~~~CROSSING UR,~~~SHESHIG,~~UR2,~~~TIMES A PLUS HA,~~~~~~NA,~~~~AL,~~~~HA",
    "~~~~NUN,~~~~U2,~~~~~PLUS ASH,~~~~~~BI,~~UR4,~~URI,~~URI3,~~URU,~~~TIMES A,~~~~ASHGAB",
    "~~~~BAR,~~~~DUN,~~~~GA,~~~~GAL,~~~~GAN2 TENU,~~~~GAR,~~~~GU,~~~~HA,~~~~IGI,~~~~IM,~~~~ISH",
    "~~~~KI,~~~~LUM,~~~~MIN,~~~~PA,~~~~SHE,~~~~SIG4,~~~~TU,~~~~U PLUS GUD,~~~~UD,~~~~URUDA",
    "~~URUDA,~~~TIMES U,~~USH,~~~TIMES A,~~~~KU,~~~~KUR,~~~~TAK4,~~USHX,~~USH2,~~USHUMX,~~UTUKI",
    "~~UZ3,~~~TIMES KASKAL,~~UZU,~~ZA,~~~TENU,~~~SQUARED TIMES KUR,~~ZAG,~~ZAMX,~~ZE2,~~ZI",
    "~~~OVER ZI,~~ZI3,~~ZIB,~~~KABA TENU,~~ZIG,~~ZIZ2,~~ZU,~~ZU5,~~~TIMES A,~~ZUBUR,~~ZUM",
    "~~KAP ELAMITE,~~AB TIMES NUN,~~AB2~A,~~AMAR~KUG,~~DAG KISIM5 TIMES U2 PLUS MASH,~~DAG3",
    "~~DISH PLUS SHU,~~DUB TIMES SHE,~~EZEN~GUD,~~~~SHE,~~GA2~AN PLUS KAK PLUS A,~~~~ASH2,~~GE22",
    "~~GIG,~~HUSH,~~KA TIMES ANSHE,~~~~ASH3,~~~~GISH,~~~~GUD,~~~~HI TIMES ASH2,~~~~LUM,~~~~PA",
    "~~~~SHUL,~~~~TU,~~~~UR2,~~LAGAB~GI,~~LU2 SHESHIG TIMES BAD,~~~TIMES ESH2 PLUS LAL,~~~~SHU",
    "~~MESH,~~MUSH3 TIMES ZA,~~NA4,~~NIN,~~NIN9,~~NINDA2 TIMES BAL,~~~~GI",
    "~~NU11 ROTATED NINETY DEGREES,~~PESH2 ASTERISK,~~PIR2,~~SAG TIMES IGI GUNU,~~TI2",
    "~~UM TIMES ME,~~U U"]⟩,
  -- Cuneiform Numbers and Punctuation
  ⟨0x12400, [
    "CUNEIFORM NUMERIC SIGN TWO ASH,~~~THREE~,~~~FOUR~,~~~FIVE~,~~~SIX~,~~~SEVEN~,~~~EIGHT~",
    "~~~NINE~,~~~THREE DISH,~~~FOUR~,~~~FIVE~,~~~SIX~,~~~SEVEN~,~~~EIGHT~,~~~NINE~,~~~FOUR U",
    "~~~FIVE~,~~~SIX~,~~~SEVEN~,~~~EIGHT~,~~~NINE~,~~~ONE GESH2,~~~TWO~,~~~THREE~,~~~FOUR~",
    "~~~FIVE~,~~~SIX~,~~~SEVEN~,~~~EIGHT~,~~~NINE~,~~~ONE GESHU,~~~TWO~,~~~THREE~,~~~FOUR~",
    "~~~FIVE~,~~~TWO SHAR2,~~~THREE~,~~~~~VARIANT FORM,~~~FOUR~,~~~FIVE~,~~~SIX~,~~~SEVEN~",
    "~~~EIGHT~,~~~NINE~,~~~ONE SHARU,~~~TWO~,~~~THREE~,~~~~~VARIANT FORM,~~~FOUR~,~~~FIVE~",
    "~~~SHAR2 TIMES GAL PLUS DISH,~~~~~~~MIN,~~~ONE BURU,~~~TWO~,~~~THREE~,~~~~~VARIANT FORM",
    "~~~FOUR~,~~~FIVE~,~~~THREE VARIANT FORM ESH16,~~~~~~ESH21,~~~FOUR~~LIMMU,~~~~~~LIMMU4",
    "~~~~~~LIMMU A,~~~~~~~B,~~~SIX~~ASH9,~~~SEVEN~~IMIN3,~~~~~~IMIN A,~~~~~~~B,~~~EIGHT~~USSU",
    "~~~~~~USSU3,~~~NINE~~ILIMMU,~~~~~~ILIMMU3,~~~~~~ILIMMU4,~~~~~~ILIMMU A,~~~TWO ASH TENU",
    "~~~THREE~~,~~~FOUR~~,~~~FIVE~~,~~~SIX~~,~~~ONE BAN2,~~~TWO~,~~~THREE~,~~~FOUR~",
    "~~~~~VARIANT FORM,~~~FIVE~,~~~~~VARIANT FORM,~~~NIGIDAMIN,~~~NIGIDAESH,~~~ONE ESHE3,~~~TWO~",
    "~~~ONE THIRD DISH,~~~TWO THIRDS~,~~~FIVE SIXTHS~,~~~ONE THIRD VARIANT FORM A",
    "~~~TWO THIRDS~~~,~~~ONE EIGHTH ASH,~~~~QUARTER~,~~~OLD ASSYRIAN ONE SIXTH,~~~~~~QUARTER",
    "~~~ONE QUARTER GUR,~~~~HALF~,~~~ELAMITE ONE THIRD,~~~~TWO THIRDS,~~~~FORTY,~~~~FIFTY",
    "~~~FOUR U VARIANT FORM,~~~FIVE~~~,~~~SIX~~~,~~~SEVEN~~~,~~~EIGHT~~~,~~~NINE~~~,",
    "~PUNCTUATION~OLD ASSYRIAN WORD DIVIDER,~~~VERTICAL COLON,~~~DIAGONAL~,~~~~TRICOLON",
    "~~~~QUADCOLON"]⟩,
  -- Early Dynastic Cuneiform
  ⟨0x12480, [
    "CUNEIFORM SIGN AB TIMES NUN TENU,~~~~SHU2,~~AD~ESH2,~~BAD~DISH TENU,~~BAHAR2~AB2,~~~~NI",
    "~~~~ZA,~~BU OVER BU TIMES NA2,~~DA TIMES TAK4,~~DAG~KUR,~~DIM~IGI,~~~~U U U,~~DIM2~UD",
    "~~DUG~ANSHE,~~~~ASH,~~~~~AT LEFT,~~~~DIN,~~~~DUN,~~~~ERIN2,~~~~GA,~~~~GI,~~~~GIR2 GUNU",
    "~~~~GISH,~~~~HA,~~~~HI,~~~~IGI GUNU,~~~~KASKAL,~~~~KUR,~~~~KUSHU2,~~~~~PLUS KASKAL",
    "~~~~LAK-020,~~~~LAM,~~~~~TIMES KUR,~~~~LUH PLUS GISH,~~~~MASH,~~~~MES,~~~~MI,~~~~NI,~~~~PI",
    "~~~~SHE,~~~~SI GUNU,~~E2~KUR,~~~~PAP,~~ERIN2 X,~~ESH2 CROSSING ESH2",
    "~~EZEN SHESHIG TIMES ASH,~~~~~HI,~~~~~IGI GUNU,~~~~~LA,~~~~~LAL,~~~~~ME,~~~~~MES,~~~~~SU",
    "~~~TIMES SU,~~GA2~BAHAR2,~~~~DIM GUNU,~~~~DUG TIMES IGI GUNU,~~~~~~KASKAL,~~~~EREN,~~~~GA",
    "~~~~GAR PLUS DI,~~~~~~NE,~~~~HA~A,~~~~KUSHU2~KASKAL,~~~~LAM,~~~~~TIMES KUR,~~~~LUH,~~~~MUSH",
    "~~~~NE,~~~~~PLUS E2,~~~~~~GI,~~~~SHIM,~~~~ZIZ2,~~GABA ROTATED NINETY DEGREES",
    "~~GESHTIN TIMES U,~~GISH~GISH CROSSING GISH,~~GU2~IGI GUNU,~~GUD PLUS GISH TIMES TAK4",
    "~~HA TENU GUNU,~~HI TIMES ASH OVER HI TIMES ASH,~~KA~BU,~~~~KA,~~~~U U U,~~~~UR",
    "~~LAGAB~ZU OVER ZU,~~LAK-003,~~LAK-021,~~LAK-025,~~LAK-030,~~LAK-050,~~LAK-051,~~LAK-062",
    "~~LAK-079 OVER LAK-079 GUNU,~~LAK-080,~~LAK-081 OVER LAK-081,~~LAK-092,~~LAK-130,~~LAK-142",
    "~~LAK-210,~~LAK-219,~~LAK-220,~~LAK-225,~~LAK-228,~~LAK-238,~~LAK-265,~~LAK-266,~~LAK-343",
    "~~LAK-347,~~LAK-348,~~LAK-383,~~LAK-384,~~LAK-390,~~LAK-441,~~LAK-449,~~~TIMES GU,~~~~IGI",
    "~~~~PAP PLUS LU3,~~~~~~PAP PLUS LU3,~~~~U2~BA,~~LAK-450,~~LAK-457,~~LAK-470,~~LAK-483",
    "~~LAK-490,~~LAK-492,~~LAK-493,~~LAK-495,~~LAK-550,~~LAK-608,~~LAK-617,~~~TIMES ASH,~~~~BAD",
    "~~~~DUN3 GUNU GUNU,~~~~KU3,~~~~LA,~~~~TAR,~~~~TE,~~~~U2,~~~~UD,~~~~URUDA,~~LAK-636",
    "~~LAK-648,~~~TIMES DUB,~~~~GA,~~~~IGI,~~~~~GUNU,~~~~NI,~~~~PAP PLUS PAP PLUS LU3",
    "~~~~SHESH~KI,~~~~UD,~~~~URUDA,~~LAK-724,~~LAK-749,~~LU2 GUNU TIMES ASH,~~~TIMES DISH",
    "~~~~HAL,~~~~PAP,~~~~~PLUS PAP PLUS LU3,~~~~TAK4,~~MI PLUS ZA7,~~MUSH OVER MUSH TIMES GA",
    "~~~~~~KAK,~~NINDA2 TIMES DIM GUNU,~~~~GISH,~~~~GUL,~~~~HI,~~~~KESH2,~~~~LAK-050,~~~~MASH",
    "~~~~PAP PLUS PAP,~~~~U,~~~~~PLUS U,~~~~URUDA,~~SAG GUNU TIMES HA,~~~TIMES EN",
    "~~~~SHE AT LEFT,~~~~TAK4,~~SHA6 TENU,~~SHE OVER SHE,~~~PLUS HUB2,~~~~NAM2,~~~~SAR",
    "~~SHU2~DUG TIMES NI,~~~~E2~AN,~~SI TIMES TAK4,~~TAK4 PLUS SAG,~~TUM TIMES GAN2 TENU",
    "~~~~THREE DISH,~~UR2 INVERTED,~~~TIMES UD,~~URU~DARA3,~~~~LAK-668,~~~~LU3,~~ZA7",
    "~~ZU OVER ZU PLUS SAR,~~ZU5 TIMES THREE DISH TENU"]⟩,
  -- Cypro-Minoan
  ⟨0x12f90, [
    "CYPRO-MINOAN SIGN CM001,~~CM002,~~CM004,~~CM005,~~CM006,~~CM007,~~CM008,~~CM009,~~CM010",
    "~~CM011,~~CM012,~~CM012B,~~CM013,~~CM015,~~CM017,~~CM019,~~CM021,~~CM023,~~CM024,~~CM025",
    "~~CM026,~~CM027,~~CM028,~~CM029,~~CM030,~~CM033,~~CM034,~~CM035,~~CM036,~~CM037,~~CM038",
    "~~CM039,~~CM040,~~CM041,~~CM044,~~CM046,~~CM047,~~CM049,~~CM050,~~CM051,~~CM052,~~CM053",
    "~~CM054,~~CM055,~~CM056,~~CM058,~~CM059,~~CM060,~~CM061,~~CM062,~~CM063,~~CM064,~~CM066",
    "~~CM067,~~CM068,~~CM069,~~CM070,~~CM071,~~CM072,~~CM073,~~CM074,~~CM075,~~CM075B,~~CM076",
    "~~CM078,~~CM079,~~CM080,~~CM081,~~CM082,~~CM083,~~CM084,~~CM085,~~CM086,~~CM087,~~CM088",
    "~~CM089,~~CM090,~~CM091,~~CM092,~~CM094,~~CM095,~~CM096,~~CM097,~~CM098,~~CM099,~~CM100",
    "~~CM101,~~CM102,~~CM103,~~CM104,~~CM105,~~CM107,~~CM108,~~CM109,~~CM110,~~CM112,~~CM114",
    "~~CM301,~~CM302"]⟩,
  -- Egyptian Hieroglyphs
  ⟨0x13000, [
    "EGYPTIAN HIEROGLYPH A001,~~A002,~~A003,~~A004,~~A005,~~A005A,~~A006,~~A006A,~~A006B,~~A007",
    "~~A008,~~A009,~~A010,~~A011,~~A012,~~A013,~~A014,~~A014A,~~A015,~~A016,~~A017,~~A017A",
    "~~A018,~~A019,~~A020,~~A021,~~A022,~~A023,~~A024,~~A025,~~A026,~~A027,~~A028,~~A029,~~A030",
    "~~A031,~~A032,~~A032A,~~A033,~~A034,~~A035,~~A036,~~A037,~~A038,~~A039,~~A040,~~A040A",
    "~~A041,~~A042,~~A042A,~~A043,~~A043A,~~A044,~~A045,~~A045A,~~A046,~~A047,~~A048,~~A049",
    "~~A050,~~A051,~~A052,~~A053,~~A054,~~A055,~~A056,~~A057,~~A058,~~A059,~~A060,~~A061,~~A062",
    "~~A063,~~A064,~~A065,~~A066,~~A067,~~A068,~~A069,~~A070,~~B001,~~B002,~~B003,~~B004,~~B005",
    "~~B005A,~~B006,~~B007,~~B008,~~B009,~~C001,~~C002,~~C002A,~~C002B,~~C002C,~~C003,~~C004",
    "~~C005,~~C006,~~C007,~~C008,~~C009,~~C010,~~C010A,~~C011,~~C012,~~C013,~~C014,~~C015,~~C016",
    "~~C017,~~C018,~~C019,~~C020,~~C021,~~C022,~~C023,~~C024,~~D001,~~D002,~~D003,~~D004,~~D005",
    "~~D006,~~D007,~~D008,~~D008A,~~D009,~~D010,~~D011,~~D012,~~D013,~~D014,~~D015,~~D016,~~D017",
    "~~D018,~~D019,~~D020,~~D021,~~D022,~~D023,~~D024,~~D025,~~D026,~~D027,~~D027A,~~D028,~~D029",
    "~~D030,~~D031,~~D031A,~~D032,~~D033,~~D034,~~D034A,~~D035,~~D036,~~D037,~~D038,~~D039",
    "~~D040,~~D041,~~D042,~~D043,~~D044,~~D045,~~D046,~~D046A,~~D047,~~D048,~~D048A,~~D049",
    "~~D050,~~D050A,~~D050B,~~D050C,~~D050D,~~D050E,~~D050F,~~D050G,~~D050H,~~D050I,~~D051",
    "~~D052,~~D052A,~~D053,~~D054,~~D054A,~~D055,~~D056,~~D057,~~D058,~~D059,~~D060,~~D061",
    "~~D062,~~D063,~~D064,~~D065,~~D066,~~D067,~~D067A,~~D067B,~~D067C,~~D067D,~~D067E,~~D067F",
    "~~D067G,~~D067H,~~E001,~~E002,~~E003,~~E004,~~E005,~~E006,~~E007,~~E008,~~E008A,~~E009",
    "~~E009A,~~E010,~~E011,~~E012,~~E013,~~E014,~~E015,~~E016,~~E016A,~~E017,~~E017A,~~E018",
    "~~E019,~~E020,~~E020A,~~E021,~~E022,~~E023,~~E024,~~E025,~~E026,~~E027,~~E028,~~E028A",
    "~~E029,~~E030,~~E031,~~E032,~~E033,~~E034,~~E034A,~~E036,~~E037,~~E038,~~F001,~~F001A",
    "~~F002,~~F003,~~F004,~~F005,~~F006,~~F007,~~F008,~~F009,~~F010,~~F011,~~F012,~~F013,~~F013A",
    "~~F014,~~F015,~~F016,~~F017,~~F018,~~F019,~~F020,~~F021,~~F021A,~~F022,~~F023,~~F024,~~F025",
    "~~F026,~~F027,~~F028,~~F029,~~F030,~~F031,~~F031A,~~F032,~~F033,~~F034,~~F035,~~F036,~~F037",
    "~~F037A,~~F038,~~F038A,~~F039,~~F040,~~F041,~~F042,~~F043,~~F044,~~F045,~~F045A,~~F046",
    "~~F046A,~~F047,~~F047A,~~F048,~~F049,~~F050,~~F051,~~F051A,~~F051B,~~F051C,~~F052,~~F053",
    "~~G001,~~G002,~~G003,~~G004,~~G005,~~G006,~~G006A,~~G007,~~G007A,~~G007B,~~G008,~~G009",
    "~~G010,~~G011,~~G011A,~~G012,~~G013,~~G014,~~G015,~~G016,~~G017,~~G018,~~G019,~~G020",
    "~~G020A,~~G021,~~G022,~~G023,~~G024,~~G025,~~G026,~~G026A,~~G027,~~G028,~~G029,~~G030",
    "~~G031,~~G032,~~G033,~~G034,~~G035,~~G036,~~G036A,~~G037,~~G037A,~~G038,~~G039,~~G040",
    "~~G041,~~G042,~~G043,~~G043A,~~G044,~~G045,~~G045A,~~G046,~~G047,~~G048,~~G049,~~G050",
    "~~G051,~~G052,~~G053,~~G054,~~H001,~~H002,~~H003,~~H004,~~H005,~~H006,~~H006A,~~H007,~~H008",
    "~~I001,~~I002,~~I003,~~I004,~~I005,~~I005A,~~I006,~~I007,~~I008,~~I009,~~I009A,~~I010",
    "~~I010A,~~I011,~~I011A,~~I012,~~I013,~~I014,~~I015,~~K001,~~K002,~~K003,~~K004,~~K005",
    "~~K006,~~K007,~~K008,~~L001,~~L002,~~L002A,~~L003,~~L004,~~L005,~~L006,~~L006A,~~L007",
    "~~L008,~~M001,~~M001A,~~M001B,~~M002,~~M003,~~M003A,~~M004,~~M005,~~M006,~~M007,~~M008",
    "~~M009,~~M010,~~M010A,~~M011,~~M012,~~M012A,~~M012B,~~M012C,~~M012D,~~M012E,~~M012F,~~M012G",
    "~~M012H,~~M013,~~M014,~~M015,~~M015A,~~M016,~~M016A,~~M017,~~M017A,~~M018,~~M019,~~M020",
    "~~M021,~~M022,~~M022A,~~M023,~~M024,~~M024A,~~M025,~~M026,~~M027,~~M028,~~M028A,~~M029",
    "~~M030,~~M031,~~M031A,~~M032,~~M033,~~M033A,~~M033B,~~M034,~~M035,~~M036,~~M037,~~M038",
    "~~M039,~~M040,~~M040A,~~M041,~~M042,~~M043,~~M044,~~N001,~~N002,~~N003,~~N004,~~N005,~~N006",
    "~~N007,~~N008,~~N009,~~N010,~~N011,~~N012,~~N013,~~N014,~~N015,~~N016,~~N017,~~N018,~~N018A",
    "~~N018B,~~N019,~~N020,~~N021,~~N022,~~N023,~~N024,~~N025,~~N025A,~~N026,~~N027,~~N028",
    "~~N029,~~N030,~~N031,~~N032,~~N033,~~N033A,~~N034,~~N034A,~~N035,~~N035A,~~N036,~~N037",
    "~~N037A,~~N038,~~N039,~~N040,~~N041,~~N042,~~NL001,~~NL002,~~NL003,~~NL004,~~NL005,~~NL005A",
    "~~NL006,~~NL007,~~NL008,~~NL009,~~NL010,~~NL011,~~NL012,~~NL013,~~NL014,~~NL015,~~NL016",
    "~~NL017,~~NL017A,~~NL018,~~NL019,~~NL020,~~NU001,~~NU002,~~NU003,~~NU004,~~NU005,~~NU006",
    "~~NU007,~~NU008,~~NU009,~~NU010,~~NU010A,~~NU011,~~NU011A,~~NU012,~~NU013,~~NU014,~~NU015",
    "~~NU016,~~NU017,~~NU018,~~NU018A,~~NU019,~~NU020,~~NU021,~~NU022,~~NU022A,~~O001,~~O001A",
    "~~O002,~~O003,~~O004,~~O005,~~O005A,~~O006,~~O006A,~~O006B,~~O006C,~~O006D,~~O006E,~~O006F",
    "~~O007,~~O008,~~O009,~~O010,~~O010A,~~O010B,~~O010C,~~O011,~~O012,~~O013,~~O014,~~O015",
    "~~O016,~~O017,~~O018,~~O019,~~O019A,~~O020,~~O020A,~~O021,~~O022,~~O023,~~O024,~~O024A",
    "~~O025,~~O025A,~~O026,~~O027,~~O028,~~O029,~~O029A,~~O030,~~O030A,~~O031,~~O032,~~O033",
    "~~O033A,~~O034,~~O035,~~O036,~~O036A,~~O036B,~~O036C,~~O036D,~~O037,~~O038,~~O039,~~O040",
    "~~O041,~~O042,~~O043,~~O044,~~O045,~~O046,~~O047,~~O048,~~O049,~~O050,~~O050A,~~O050B",
    "~~O051,~~P001,~~P001A,~~P002,~~P003,~~P003A,~~P004,~~P005,~~P006,~~P007,~~P008,~~P009",
    "~~P010,~~P011,~~Q001,~~Q002,~~Q003,~~Q004,~~Q005,~~Q006,~~Q007,~~R001,~~R002,~~R002A,~~R003",
    "~~R003A,~~R003B,~~R004,~~R005,~~R006,~~R007,~~R008,~~R009,~~R010,~~R010A,~~R011,~~R012",
    "~~R013,~~R014,~~R015,~~R016,~~R016A,~~R017,~~R018,~~R019,~~R020,~~R021,~~R022,~~R023,~~R024",
    "~~R025,~~R026,~~R027,~~R028,~~R029,~~S001,~~S002,~~S002A,~~S003,~~S004,~~S005,~~S006",
    "~~S006A,~~S007,~~S008,~~S009,~~S010,~~S011,~~S012,~~S013,~~S014,~~S014A,~~S014B,~~S015",
    "~~S016,~~S017,~~S017A,~~S018,~~S019,~~S020,~~S021,~~S022,~~S023,~~S024,~~S025,~~S026",
    "~~S026A,~~S026B,~~S027,~~S028,~~S029,~~S030,~~S031,~~S032,~~S033,~~S034,~~S035,~~S035A",
    "~~S036,~~S037,~~S038,~~S039,~~S040,~~S041,~~S042,~~S043,~~S044,~~S045,~~S046,~~T001,~~T002",
    "~~T003,~~T003A,~~T004,~~T005,~~T006,~~T007,~~T007A,~~T008,~~T008A,~~T009,~~T009A,~~T010",
    "~~T011,~~T011A,~~T012,~~T013,~~T014,~~T015,~~T016,~~T016A,~~T017,~~T018,~~T019,~~T020",
    "~~T021,~~T022,~~T023,~~T024,~~T025,~~T026,~~T027,~~T028,~~T029,~~T030,~~T031,~~T032,~~T032A",
    "~~T033,~~T033A,~~T034,~~T035,~~T036,~~U001,~~U002,~~U003,~~U004,~~U005,~~U006,~~U006A",
    "~~U006B,~~U007,~~U008,~~U009,~~U010,~~U011,~~U012,~~U013,~~U014,~~U015,~~U016,~~U017,~~U018",
    "~~U019,~~U020,~~U021,~~U022,~~U023,~~U023A,~~U024,~~U025,~~U026,~~U027,~~U028,~~U029",
    "~~U029A,~~U030,~~U031,~~U032,~~U032A,~~U033,~~U034,~~U035,~~U036,~~U037,~~U038,~~U039",
    "~~U040,~~U041,~~U042,~~V001,~~V001A,~~V001B,~~V001C,~~V001D,~~V001E,~~V001F,~~V001G,~~V001H",
    "~~V001I,~~V002,~~V002A,~~V003,~~V004,~~V005,~~V006,~~V007,~~V007A,~~V007B,~~V008,~~V009",
    "~~V010,~~V011,~~V011A,~~V011B,~~V011C,~~V012,~~V012A,~~V012B,~~V013,~~V014,~~V015,~~V016",
    "~~V017,~~V018,~~V019,~~V020,~~V020A,~~V020B,~~V020C,~~V020D,~~V020E,~~V020F,~~V020G,~~V020H",
    "~~V020I,~~V020J,~~V020K,~~V020L,~~V021,~~V022,~~V023,~~V023A,~~V024,~~V025,~~V026,~~V027",
    "~~V028,~~V028A,~~V029,~~V029A,~~V030,~~V030A,~~V031,~~V031A,~~V032,~~V033,~~V033A,~~V034",
    "~~V035,~~V036,~~V037,~~V037A,~~V038,~~V039,~~V040,~~V040A,~~W001,~~W002,~~W003,~~W003A",
    "~~W004,~~W005,~~W006,~~W007,~~W008,~~W009,~~W009A,~~W010,~~W010A,~~W011,~~W012,~~W013",
    "~~W014,~~W014A,~~W015,~~W016,~~W017,~~W017A,~~W018,~~W018A,~~W019,~~W020,~~W021,~~W022",
    "~~W023,~~W024,~~W024A,~~W025,~~X001,~~X002,~~X003,~~X004,~~X004A,~~X004B,~~X005,~~X006",
    "~~X006A,~~X007,~~X008,~~X008A,~~Y001,~~Y001A,~~Y002,~~Y003,~~Y004,~~Y005,~~Y006,~~Y007",
    "~~Y008,~~Z001,~~Z002,~~Z002A,~~Z002B,~~Z002C,~~Z002D,~~Z003,~~Z003A,~~Z003B,~~Z004,~~Z004A",
    "~~Z005,~~Z005A,~~Z006,~~Z007,~~Z008,~~Z009,~~Z010,~~Z011,~~Z012,~~Z013,~~Z014,~~Z015",
    "~~Z015A,~~Z015B,~~Z015C,~~Z015D,~~Z015E,~~Z015F,~~Z015G,~~Z015H,~~Z015I,~~Z016,~~Z016A",
    "~~Z016B,~~Z016C,~~Z016D,~~Z016E,~~Z016F,~~Z016G,~~Z016H,~~AA001,~~AA002,~~AA003,~~AA004",
    "~~AA005,~~AA006,~~AA007,~~AA007A,~~AA007B,~~AA008,~~AA009,~~AA010,~~AA011,~~AA012,~~AA013",
    "~~AA014,~~AA015,~~AA016,~~AA017,~~AA018,~~AA019,~~AA020,~~AA021,~~AA022,~~AA023,~~AA024",
    "~~AA025,~~AA026,~~AA027,~~AA028,~~AA029,~~AA030,~~AA031,~~AA032"]⟩,
  -- Egyptian Hieroglyph Format Controls
  ⟨0x13430, [
    "EGYPTIAN HIEROGLYPH VERTICAL JOINER,~~HORIZONTAL~,~~INSERT AT TOP START,~~~~BOTTOM~",
    "~~~~TOP END,~~~~BOTTOM~,~~OVERLAY MIDDLE,~~BEGIN SEGMENT,~~END~"]⟩,
  -- Anatolian Hieroglyphs
  ⟨0x14400, [
    "ANATOLIAN HIEROGLYPH A001,~~A002,~~A003,~~A004,~~A005,~~A006,~~A007,~~A008,~~A009,~~A010",
    "~~A010A,~~A011,~~A012,~~A013,~~A014,~~A015,~~A016,~~A017,~~A018,~~A019,~~A020,~~A021,~~A022",
    "~~A023,~~A024,~~A025,~~A026,~~A026A,~~A027,~~A028,~~A029,~~A030,~~A031,~~A032,~~A033,~~A034",
    "~~A035,~~A036,~~A037,~~A038,~~A039,~~A039A,~~A040,~~A041,~~A041A,~~A042,~~A043,~~A044",
    "~~A045,~~A045A,~~A046,~~A046A,~~A046B,~~A047,~~A048,~~A049,~~A050,~~A051,~~A052,~~A053",
    "~~A054,~~A055,~~A056,~~A057,~~A058,~~A059,~~A060,~~A061,~~A062,~~A063,~~A064,~~A065,~~A066",
    "~~A066A,~~A066B,~~A066C,~~A067,~~A068,~~A069,~~A070,~~A071,~~A072,~~A073,~~A074,~~A075",
    "~~A076,~~A077,~~A078,~~A079,~~A080,~~A081,~~A082,~~A083,~~A084,~~A085,~~A086,~~A087,~~A088",
    "~~A089,~~A090,~~A091,~~A092,~~A093,~~A094,~~A095,~~A096,~~A097,~~A097A,~~A098,~~A098A",
    "~~A099,~~A100,~~A100A,~~A101,~~A101A,~~A102,~~A102A,~~A103,~~A104,~~A104A,~~A104B,~~A104C",
    "~~A105,~~A105A,~~A105B,~~A106,~~A107,~~A107A,~~A107B,~~A107C,~~A108,~~A109,~~A110,~~A110A",
    "~~A110B,~~A111,~~A112,~~A113,~~A114,~~A115,~~A115A,~~A116,~~A117,~~A118,~~A119,~~A120",
    "~~A121,~~A122,~~A123,~~A124,~~A125,~~A125A,~~A126,~~A127,~~A128,~~A129,~~A130,~~A131,~~A132",
    "~~A133,~~A134,~~A135,~~A135A,~~A136,~~A137,~~A138,~~A139,~~A140,~~A141,~~A142,~~A143,~~A144",
    "~~A145,~~A146,~~A147,~~A148,~~A149,~~A150,~~A151,~~A152,~~A153,~~A154,~~A155,~~A156,~~A157",
    "~~A158,~~A159,~~A160,~~A161,~~A162,~~A163,~~A164,~~A165,~~A166,~~A167,~~A168,~~A169,~~A170",
    "~~A171,~~A172,~~A173,~~A174,~~A175,~~A176,~~A177,~~A178,~~A179,~~A180,~~A181,~~A182,~~A183",
    "~~A184,~~A185,~~A186,~~A187,~~A188,~~A189,~~A190,~~A191,~~A192,~~A193,~~A194,~~A195,~~A196",
    "~~A197,~~A198,~~A199,~~A200,~~A201,~~A202,~~A202A,~~A202B,~~A203,~~A204,~~A205,~~A206",
    "~~A207,~~A207A,~~A208,~~A209,~~A209A,~~A210,~~A211,~~A212,~~A213,~~A214,~~A215,~~A215A",
    "~~A216,~~A216A,~~A217,~~A218,~~A219,~~A220,~~A221,~~A222,~~A223,~~A224,~~A225,~~A226,~~A227",
    "~~A227A,~~A228,~~A229,~~A230,~~A231,~~A232,~~A233,~~A234,~~A235,~~A236,~~A237,~~A238,~~A239",
    "~~A240,~~A241,~~A242,~~A243,~~A244,~~A245,~~A246,~~A247,~~A248,~~A249,~~A250,~~A251,~~A252",
    "~~A253,~~A254,~~A255,~~A256,~~A257,~~A258,~~A259,~~A260,~~A261,~~A262,~~A263,~~A264,~~A265",
    "~~A266,~~A267,~~A267A,~~A268,~~A269,~~A270,~~A271,~~A272,~~A273,~~A274,~~A275,~~A276,~~A277",
    "~~A278,~~A279,~~A280,~~A281,~~A282,~~A283,~~A284,~~A285,~~A286,~~A287,~~A288,~~A289,~~A289A",
    "~~A290,~~A291,~~A292,~~A293,~~A294,~~A294A,~~A295,~~A296,~~A297,~~A298,~~A299,~~A299A",
    "~~A300,~~A301,~~A302,~~A303,~~A304,~~A305,~~A306,~~A307,~~A308,~~A309,~~A309A,~~A310,~~A311",
    "~~A312,~~A313,~~A314,~~A315,~~A316,~~A317,~~A318,~~A319,~~A320,~~A321,~~A322,~~A323,~~A324",
    "~~A325,~~A326,~~A327,~~A328,~~A329,~~A329A,~~A330,~~A331,~~A332A,~~A332B,~~A332C,~~A333",
    "~~A334,~~A335,~~A336,~~A336A,~~A336B,~~A336C,~~A337,~~A338,~~A339,~~A340,~~A341,~~A342",
    "~~A343,~~A344,~~A345,~~A346,~~A347,~~A348,~~A349,~~A350,~~A351,~~A352,~~A353,~~A354,~~A355",
    "~~A356,~~A357,~~A358,~~A359,~~A359A,~~A360,~~A361,~~A362,~~A363,~~A364,~~A364A,~~A365",
    "~~A366,~~A367,~~A368,~~A368A,~~A369,~~A370,~~A371,~~A371A,~~A372,~~A373,~~A374,~~A375",
    "~~A376,~~A377,~~A378,~~A379,~~A380,~~A381,~~A381A,~~A382,~~A383 RA OR RI,~~A383A,~~A384",
    "~~A385,~~A386,~~A386A,~~A387,~~A388,~~A389,~~A390,~~A391,~~A392,~~A393 EIGHT,~~A394,~~A395",
    "~~A396,~~A397,~~A398,~~A399,~~A400,~~A401,~~A402,~~A403,~~A404,~~A405,~~A406,~~A407,~~A408",
    "~~A409,~~A410 BEGIN LOGOGRAM MARK,~~A410A END~~,~~A411,~~A412,~~A413,~~A414,~~A415,~~A416",
    "~~A417,~~A418,~~A419,~~A420,~~A421,~~A422,~~A423,~~A424,~~A425,~~A426,~~A427,~~A428,~~A429",
    "~~A430,~~A431,~~A432,~~A433,~~A434,~~A435,~~A436,~~A437,~~A438,~~A439,~~A440,~~A441,~~A442",
    "~~A443,~~A444,~~A445,~~A446,~~A447,~~A448,~~A449,~~A450,~~A450A,~~A451,~~A452,~~A453,~~A454",
    "~~A455,~~A456,~~A457,~~A457A,~~A458,~~A459,~~A460,~~A461,~~A462,~~A463,~~A464,~~A465,~~A466",
    "~~A467,~~A468,~~A469,~~A470,~~A471,~~A472,~~A473,~~A474,~~A475,~~A476,~~A477,~~A478,~~A479",
    "~~A480,~~A481,~~A482,~~A483,~~A484,~~A485,~~A486,~~A487,~~A488,~~A489,~~A490,~~A491,~~A492",
    "~~A493,~~A494,~~A495,~~A496,~~A497,~~A501,~~A502,~~A503,~~A504,~~A505,~~A506,~~A507,~~A508",
    "~~A509,~~A510,~~A511,~~A512,~~A513,~~A514,~~A515,~~A516,~~A517,~~A518,~~A519,~~A520,~~A521",
    "~~A522,~~A523,~~A524,~~A525,~~A526,~~A527,~~A528,~~A529,~~A530"]⟩]

end AccessScopes.Text
