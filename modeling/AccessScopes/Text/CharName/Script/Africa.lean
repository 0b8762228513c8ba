import AccessScopes.Text.CharName.Block

/-!
# `AccessScopes.Text.CharName.Script.Africa`: names of African letters

The scripts of Africa, from Ethiopic to Adlam.
-/

set_option autoImplicit false

namespace AccessScopes.Text

/-- The blocks of African scripts. -/
def africaBlocks : List NameBlock := [
  -- NKo
  ⟨0x7c0, [
    "NKO DIGIT ZERO,~~ONE,~~TWO,~~THREE,~~FOUR,~~FIVE,~~SIX,~~SEVEN,~~EIGHT,~~NINE,~LETTER A",
    "~~EE,~~I,~~E,~~U,~~OO,~~O,~~DAGBASINNA,~~N,~~BA,~~PA,~~TA,~~JA,~~CHA,~~DA,~~RA,~~RRA,~~SA",
    "~~GBA,~~FA,~~KA,~~LA,~~NA WOLOSO,~~MA,~~NYA,~~NA,~~HA,~~WA,~~YA,~~NYA WOLOSO,~~JONA JA",
    "~~~CHA,~~~RA,~COMBINING SHORT HIGH TONE,~~~LOW~,~~~RISING~,~~LONG DESCENDING~,~~~HIGH~",
    "~~~LOW~,~~~RISING~,~~NASALIZATION MARK,~~DOUBLE DOT ABOVE,~HIGH TONE APOSTROPHE,~LOW~~",
    "~SYMBOL OO DENNEN,~~GBAKURUNEN,~COMMA,~EXCLAMATION MARK,~LAJANYALAN,,,~DANTAYALAN",
    "~DOROME SIGN,~TAMAN~"]⟩,
  -- Ethiopic
  ⟨0x1200, [
    "ETHIOPIC SYLLABLE HA,~~HU,~~HI,~~HAA,~~HEE,~~HE,~~HO,~~HOA,~~LA,~~LU,~~LI,~~LAA,~~LEE,~~LE",
    "~~LO,~~LWA,~~HHA,~~HHU,~~HHI,~~HHAA,~~HHEE,~~HHE,~~HHO,~~HHWA,~~MA,~~MU,~~MI,~~MAA,~~MEE",
    "~~ME,~~MO,~~MWA,~~SZA,~~SZU,~~SZI,~~SZAA,~~SZEE,~~SZE,~~SZO,~~SZWA,~~RA,~~RU,~~RI,~~RAA",
    "~~REE,~~RE,~~RO,~~RWA,~~SA,~~SU,~~SI,~~SAA,~~SEE,~~SE,~~SO,~~SWA,~~SHA,~~SHU,~~SHI,~~SHAA",
    "~~SHEE,~~SHE,~~SHO,~~SHWA,~~QA,~~QU,~~QI,~~QAA,~~QEE,~~QE,~~QO,~~QOA,~~QWA,,~~QWI,~~QWAA",
    "~~QWEE,~~QWE,,,~~QHA,~~QHU,~~QHI,~~QHAA,~~QHEE,~~QHE,~~QHO,,~~QHWA,,~~QHWI,~~QHWAA,~~QHWEE",
    "~~QHWE,,,~~BA,~~BU,~~BI,~~BAA,~~BEE,~~BE,~~BO,~~BWA,~~VA,~~VU,~~VI,~~VAA,~~VEE,~~VE,~~VO",
    "~~VWA,~~TA,~~TU,~~TI,~~TAA,~~TEE,~~TE,~~TO,~~TWA,~~CA,~~CU,~~CI,~~CAA,~~CEE,~~CE,~~CO,~~CWA",
    "~~XA,~~XU,~~XI,~~XAA,~~XEE,~~XE,~~XO,~~XOA,~~XWA,,~~XWI,~~XWAA,~~XWEE,~~XWE,,,~~NA,~~NU",
    "~~NI,~~NAA,~~NEE,~~NE,~~NO,~~NWA,~~NYA,~~NYU,~~NYI,~~NYAA,~~NYEE,~~NYE,~~NYO,~~NYWA",
    "~~GLOTTAL A,~~~U,~~~I,~~~AA,~~~EE,~~~E,~~~O,~~~WA,~~KA,~~KU,~~KI,~~KAA,~~KEE,~~KE,~~KO",
    "~~KOA,~~KWA,,~~KWI,~~KWAA,~~KWEE,~~KWE,,,~~KXA,~~KXU,~~KXI,~~KXAA,~~KXEE,~~KXE,~~KXO,",
    "~~KXWA,,~~KXWI,~~KXWAA,~~KXWEE,~~KXWE,,,~~WA,~~WU,~~WI,~~WAA,~~WEE,~~WE,~~WO,~~WOA",
    "~~PHARYNGEAL A,~~~U,~~~I,~~~AA,~~~EE,~~~E,~~~O,,~~ZA,~~ZU,~~ZI,~~ZAA,~~ZEE,~~ZE,~~ZO,~~ZWA",
    "~~ZHA,~~ZHU,~~ZHI,~~ZHAA,~~ZHEE,~~ZHE,~~ZHO,~~ZHWA,~~YA,~~YU,~~YI,~~YAA,~~YEE,~~YE,~~YO",
    "~~YOA,~~DA,~~DU,~~DI,~~DAA,~~DEE,~~DE,~~DO,~~DWA,~~DDA,~~DDU,~~DDI,~~DDAA,~~DDEE,~~DDE",
    "~~DDO,~~DDWA,~~JA,~~JU,~~JI,~~JAA,~~JEE,~~JE,~~JO,~~JWA,~~GA,~~GU,~~GI,~~GAA,~~GEE,~~GE",
    "~~GO,~~GOA,~~GWA,,~~GWI,~~GWAA,~~GWEE,~~GWE,,,~~GGA,~~GGU,~~GGI,~~GGAA,~~GGEE,~~GGE,~~GGO",
    "~~GGWAA,~~THA,~~THU,~~THI,~~THAA,~~THEE,~~THE,~~THO,~~THWA,~~CHA,~~CHU,~~CHI,~~CHAA,~~CHEE",
    "~~CHE,~~CHO,~~CHWA,~~PHA,~~PHU,~~PHI,~~PHAA,~~PHEE,~~PHE,~~PHO,~~PHWA,~~TSA,~~TSU,~~TSI",
    "~~TSAA,~~TSEE,~~TSE,~~TSO,~~TSWA,~~TZA,~~TZU,~~TZI,~~TZAA,~~TZEE,~~TZE,~~TZO,~~TZOA,~~FA",
    "~~FU,~~FI,~~FAA,~~FEE,~~FE,~~FO,~~FWA,~~PA,~~PU,~~PI,~~PAA,~~PEE,~~PE,~~PO,~~PWA,~~RYA",
    "~~MYA,~~FYA,,,~COMBINING GEMINATION AND VOWEL LENGTH MARK,~~VOWEL LENGTH MARK",
    "~~GEMINATION MARK,~SECTION MARK,~WORDSPACE,~FULL STOP,~COMMA,~SEMICOLON,~COLON",
    "~PREFACE COLON,~QUESTION MARK,~PARAGRAPH SEPARATOR,~DIGIT ONE,~~TWO,~~THREE,~~FOUR,~~FIVE",
    "~~SIX,~~SEVEN,~~EIGHT,~~NINE,~NUMBER TEN,~~TWENTY,~~THIRTY,~~FORTY,~~FIFTY,~~SIXTY",
    "~~SEVENTY,~~EIGHTY,~~NINETY,~~HUNDRED,~~TEN THOUSAND"]⟩,
  -- Ethiopic Supplement
  ⟨0x1380, [
    "ETHIOPIC SYLLABLE SEBATBEIT MWA,~~MWI,~~MWEE,~~MWE,~~SEBATBEIT BWA,~~BWI,~~BWEE,~~BWE",
    "~~SEBATBEIT FWA,~~FWI,~~FWEE,~~FWE,~~SEBATBEIT PWA,~~PWI,~~PWEE,~~PWE,~TONAL MARK YIZET",
    "~~~DERET,~~~RIKRIK,~~~SHORT RIKRIK,~~~DIFAT,~~~KENAT,~~~CHIRET,~~~HIDET,~~~DERET-HIDET",
    "~~~KURT"]⟩,
  -- Tifinagh
  ⟨0x2d30, [
    "TIFINAGH LETTER YA,~~YAB,~~YABH,~~YAG,~~YAGHH,~~BERBER ACADEMY YAJ,~~YAJ,~~YAD,~~YADH",
    "~~YADD,~~YADDH,~~YEY,~~YAF,~~YAK,~~TUAREG YAK,~~YAKHH,~~YAH,~~BERBER ACADEMY YAH",
    "~~TUAREG YAH,~~YAHH,~~YAA,~~YAKH,~~TUAREG YAKH,~~YAQ,~~TUAREG YAQ,~~YI,~~YAZH",
    "~~AHAGGAR YAZH,~~TUAREG~,~~YAL,~~YAM,~~YAN,~~TUAREG YAGN,~~~YANG,~~YAP,~~YU,~~YAR,~~YARR",
    "~~YAGH,~~TUAREG YAGH,~~AYER~,~~YAS,~~YASS,~~YASH,~~YAT,~~YATH,~~YACH,~~YATT,~~YAV,~~YAW",
    "~~YAY,~~YAZ,~~TAWELLEMET YAZ,~~YAZZ,~~YE,~~YO,,,,,,,,~MODIFIER LETTER LABIALIZATION MARK",
    "~SEPARATOR MARK"]⟩,
  ⟨0x2d7f, [
    "TIFINAGH CONSONANT JOINER"]⟩,
  -- Ethiopic Extended
  ⟨0x2d80, [
    "ETHIOPIC SYLLABLE LOA,~~MOA,~~ROA,~~SOA,~~SHOA,~~BOA,~~TOA,~~COA,~~NOA,~~NYOA,~~GLOTTAL OA",
    "~~ZOA,~~DOA,~~DDOA,~~JOA,~~THOA,~~CHOA,~~PHOA,~~POA,~~GGWA,~~GGWI,~~GGWEE,~~GGWE,,,,,,,,,",
    "~~SSA,~~SSU,~~SSI,~~SSAA,~~SSEE,~~SSE,~~SSO,,~~CCA,~~CCU,~~CCI,~~CCAA,~~CCEE,~~CCE,~~CCO,",
    "~~ZZA,~~ZZU,~~ZZI,~~ZZAA,~~ZZEE,~~ZZE,~~ZZO,,~~CCHA,~~CCHU,~~CCHI,~~CCHAA,~~CCHEE,~~CCHE",
    "~~CCHO,,~~QYA,~~QYU,~~QYI,~~QYAA,~~QYEE,~~QYE,~~QYO,,~~KYA,~~KYU,~~KYI,~~KYAA,~~KYEE,~~KYE",
    "~~KYO,,~~XYA,~~XYU,~~XYI,~~XYAA,~~XYEE,~~XYE,~~XYO,,~~GYA,~~GYU,~~GYI,~~GYAA,~~GYEE,~~GYE",
    "~~GYO"]⟩,
  -- Vai
  ⟨0xa500, [
    "VAI SYLLABLE EE,~~EEN,~~HEE,~~WEE,~~WEEN,~~PEE,~~BHEE,~~BEE,~~MBEE,~~KPEE,~~MGBEE,~~GBEE",
    "~~FEE,~~VEE,~~TEE,~~THEE,~~DHEE,~~DHHEE,~~LEE,~~REE,~~DEE,~~NDEE,~~SEE,~~SHEE,~~ZEE,~~ZHEE",
    "~~CEE,~~JEE,~~NJEE,~~YEE,~~KEE,~~NGGEE,~~GEE,~~MEE,~~NEE,~~NYEE,~~I,~~IN,~~HI,~~HIN,~~WI",
    "~~WIN,~~PI,~~BHI,~~BI,~~MBI,~~KPI,~~MGBI,~~GBI,~~FI,~~VI,~~TI,~~THI,~~DHI,~~DHHI,~~LI,~~RI",
    "~~DI,~~NDI,~~SI,~~SHI,~~ZI,~~ZHI,~~CI,~~JI,~~NJI,~~YI,~~KI,~~NGGI,~~GI,~~MI,~~NI,~~NYI,~~A",
    "~~AN,~~NGAN,~~HA,~~HAN,~~WA,~~WAN,~~PA,~~BHA,~~BA,~~MBA,~~KPA,~~KPAN,~~MGBA,~~GBA,~~FA,~~VA",
    "~~TA,~~THA,~~DHA,~~DHHA,~~LA,~~RA,~~DA,~~NDA,~~SA,~~SHA,~~ZA,~~ZHA,~~CA,~~JA,~~NJA,~~YA",
    "~~KA,~~KAN,~~NGGA,~~GA,~~MA,~~NA,~~NYA,~~OO,~~OON,~~HOO,~~WOO,~~WOON,~~POO,~~BHOO,~~BOO",
    "~~MBOO,~~KPOO,~~MGBOO,~~GBOO,~~FOO,~~VOO,~~TOO,~~THOO,~~DHOO,~~DHHOO,~~LOO,~~ROO,~~DOO",
    "~~NDOO,~~SOO,~~SHOO,~~ZOO,~~ZHOO,~~COO,~~JOO,~~NJOO,~~YOO,~~KOO,~~NGGOO,~~GOO,~~MOO,~~NOO",
    "~~NYOO,~~U,~~UN,~~HU,~~HUN,~~WU,~~WUN,~~PU,~~BHU,~~BU,~~MBU,~~KPU,~~MGBU,~~GBU,~~FU,~~VU",
    "~~TU,~~THU,~~DHU,~~DHHU,~~LU,~~RU,~~DU,~~NDU,~~SU,~~SHU,~~ZU,~~ZHU,~~CU,~~JU,~~NJU,~~YU",
    "~~KU,~~NGGU,~~GU,~~MU,~~NU,~~NYU,~~O,~~ON,~~NGON,~~HO,~~HON,~~WO,~~WON,~~PO,~~BHO,~~BO",
    "~~MBO,~~KPO,~~MGBO,~~GBO,~~GBON,~~FO,~~VO,~~TO,~~THO,~~DHO,~~DHHO,~~LO,~~RO,~~DO,~~NDO,~~SO",
    "~~SHO,~~ZO,~~ZHO,~~CO,~~JO,~~NJO,~~YO,~~KO,~~NGGO,~~GO,~~MO,~~NO,~~NYO,~~E,~~EN,~~NGEN,~~HE",
    "~~HEN,~~WE,~~WEN,~~PE,~~BHE,~~BE,~~MBE,~~KPE,~~KPEN,~~MGBE,~~GBE,~~GBEN,~~FE,~~VE,~~TE",
    "~~THE,~~DHE,~~DHHE,~~LE,~~RE,~~DE,~~NDE,~~SE,~~SHE,~~ZE,~~ZHE,~~CE,~~JE,~~NJE,~~YE,~~KE",
    "~~NGGE,~~NGGEN,~~GE,~~GEN,~~ME,~~NE,~~NYE,~~NG,~~LENGTHENER,~COMMA,~FULL STOP",
    "~QUESTION MARK,~SYLLABLE NDOLE FA,~~~KA,~~~SOO,~SYMBOL FEENG,~~KEENG,~~TING,~~NII,~~BANG",
    "~~FAA,~~TAA,~~DANG,~~DOONG,~~KUNG,~~TONG,~~DO-O,~~JONG,~DIGIT ZERO,~~ONE,~~TWO,~~THREE",
    "~~FOUR,~~FIVE,~~SIX,~~SEVEN,~~EIGHT,~~NINE,~SYLLABLE NDOLE MA,~~~DO"]⟩,
  -- Bamum
  ⟨0xa6a0, [
    "BAMUM LETTER A,~~KA,~~U,~~KU,~~EE,~~REE,~~TAE,~~O,~~NYI,~~I,~~LA,~~PA,~~RII,~~RIEE,~~LEEEE",
    "~~MEEEE,~~TAA,~~NDAA,~~NJAEM,~~M,~~SUU,~~MU,~~SHII,~~SI,~~SHEUX,~~SEUX,~~KYEE,~~KET,~~NUAE",
    "~~NU,~~NJUAE,~~YOQ,~~SHU,~~YUQ,~~YA,~~NSHA,~~KEUX,~~PEUX,~~NJEE,~~NTEE,~~PUE,~~WUE,~~PEE",
    "~~FEE,~~RU,~~LU,~~MI,~~NI,~~REUX,~~RAE,~~KEN,~~NGKWAEN,~~NGGA,~~NGA,~~SHO,~~PUAE,~~FU,~~FOM",
    "~~WA,~~NA,~~LI,~~PI,~~LOQ,~~KO,~~MBEN,~~REN,~~MEN,~~MA,~~TI,~~KI,~~MO,~~MBAA,~~TET,~~KPA",
    "~~TEN,~~NTUU,~~SAMBA,~~FAAMAE,~~KOVUU,~~KOGHOM,~COMBINING MARK KOQNDON,~~~TUKWENTIS",
    "~NJAEMLI,~FULL STOP,~COLON,~COMMA,~SEMICOLON,~QUESTION MARK"]⟩,
  -- Ethiopic Extended-A
  ⟨0xab01, [
    "ETHIOPIC SYLLABLE TTHU,~~TTHI,~~TTHAA,~~TTHEE,~~TTHE,~~TTHO,,,~~DDHU,~~DDHI,~~DDHAA,~~DDHEE",
    "~~DDHE,~~DDHO,,,~~DZU,~~DZI,~~DZAA,~~DZEE,~~DZE,~~DZO,,,,,,,,,,~~CCHHA,~~CCHHU,~~CCHHI",
    "~~CCHHAA,~~CCHHEE,~~CCHHE,~~CCHHO,,~~BBA,~~BBU,~~BBI,~~BBAA,~~BBEE,~~BBE,~~BBO"]⟩,
  -- Osmanya
  ⟨0x10480, [
    "OSMANYA LETTER ALEF,~~BA,~~TA,~~JA,~~XA,~~KHA,~~DEEL,~~RA,~~SA,~~SHIIN,~~DHA,~~CAYN,~~GA",
    "~~FA,~~QAAF,~~KAAF,~~LAAN,~~MIIN,~~NUUN,~~WAW,~~HA,~~YA,~~A,~~E,~~I,~~O,~~U,~~AA,~~EE,~~OO,",
    ",~DIGIT ZERO,~~ONE,~~TWO,~~THREE,~~FOUR,~~FIVE,~~SIX,~~SEVEN,~~EIGHT,~~NINE"]⟩,
  -- Bamum Supplement
  ⟨0x16800, [
    "BAMUM LETTER PHASE-A NGKUE MFON,~~~GBIEE FON,~~~PON MFON PIPAEMGBIEE,~~~~~PIPAEMBA,~~~NAA~",
    "~~~SHUENSHUET,~~~TITA MFON,~~~NZA~,~~~SHINDA PA NJI,~~~PON~~PIPAEMGBIEE,~~~~~~PIPAEMBA",
    "~~~MAEMBGBIEE,~~~TU MAEMBA,~~~NGANGU,~~~MAEMVEUX,~~~MANSUAE,~~~MVEUAENGAM,~~~SEUNYAM",
    "~~~NTOQPEN,~~~KEUKEUTNDA,~~~NKINDI,~~~SUU,~~~NGKUENZEUM,~~~LAPAQ,~~~LET KUT,~~~NTAP MFAA",
    "~~~MAEKEUP,~~~PASHAE,~~~GHEUAERAE,~~~PAMSHAE,~~~MON NGGEUAET,~~~NZUN MEUT,~~~U YUQ NAE",
    "~~~GHEUAEGHEUAE,~~~NTAP NTAA,~~~SISA,~~~MGBASA,~~~MEUNJOMNDEUQ,~~~MOOMPUQ,~~~KAFA",
    "~~~PA LEERAEWA,~~~NDA~,~~~PET,~~~MAEMKPEN,~~~NIKA,~~~PUP,~~~TUAEP,~~~LUAEP,~~~SONJAM",
    "~~~TEUTEUWEN,~~~MAENYI,~~~KET,~~~NDAANGGEUAET,~~~KUOQ,~~~MOOMEUT,~~~SHUM,~~~LOMMAE,~~~FIRI",
    "~~~ROM,~~~KPOQ,~~~SOQ,~~~MAP PIEET,~~~SHIRAE,~~~NTAP,~~~SHOQ NSHUT YUM,~~~NYIT MONGKEUAEQ",
    "~~~PAARAE,~~~NKAARAE,~~~UNKNOWN,~~~NGGEN,~~~MAESI,~~~NJAM,~~~MBANYI,~~~NYET,~~~TEUAEN",
    "~~~SOT,~~~PAAM,~~~NSHIEE,~~~MAEM,~~~NYI,~~~KAQ,~~~NSHA,~~~VEE,~~~LU,~~~NEN,~~~NAQ,~~~MBAQ",
    "~~PHASE-B NSHUET,~~~TU MAEMGBIEE,~~~SIEE,~~~SET TU,~~~LOM NTEUM,~~~MBA MAELEE,~~~KIEEM",
    "~~~YEURAE,~~~MBAARAE,~~~KAM,~~~PEESHI,~~~YAFU LEERAEWA,~~~LAM NSHUT NYAM,~~~NTIEE SHEUOQ",
    "~~~NDU NJAA,~~~GHEUGHEUAEM,~~~PIT,~~~TU NSIEE,~~~SHET NJAQ,~~~SHEUAEQTU,~~~MFON TEUAEQ",
    "~~~MBIT MBAAKET,~~~NYI NTEUM,~~~KEUPUQ,~~~GHEUGHEN,~~~KEUYEUX,~~~LAANAE,~~~PARUM,~~~VEUM",
    "~~~NGKINDI MVOP,~~~NGGEU MBU,~~~WUAET,~~~SAKEUAE,~~~TAAM,~~~MEUQ,~~~NGGUOQ,~~~~LARGE",
    "~~~MFIYAQ,~~~SUE,~~~MBEURI,~~~MONTIEEN,~~~NYAEMAE,~~~PUNGAAM,~~~MEUT NGGEET,~~~FEUX",
    "~~~MBUOQ,~~~FEE,~~~KEUAEM,~~~MA NJEUAENA,~~~~NJUQA,~~~LET,~~~NGGAAM,~~~NSEN,~~~MA,~~~KIQ",
    "~~~NGOM,~~PHASE-C NGKUE MAEMBA,~~~NZA,~~~YUM,~~~WANGKUOQ,~~~NGGEN,~~~NDEUAEREE,~~~NGKAQ",
    "~~~GHARAE,~~~MBEEKEET,~~~GBAYI,~~~NYIR MKPARAQ MEUN,~~~NTU MBIT,~~~MBEUM,~~~PIRIEEN",
    "~~~NDOMBU,~~~MBAA CABBAGE-TREE,~~~KEUSHEUAEP,~~~GHAP,~~~KEUKAQ,~~~YU MUOMAE,~~~NZEUM",
    "~~~MBUE,~~~NSEUAEN,~~~MBIT,~~~YEUQ,~~~KPARAQ,~~~KAA,~~~SEUX,~~~NDIDA,~~~TAASHAE,~~~NJUEQ",
    "~~~TITA YUE,~~~SUAET,~~~NGGUAEN NYAM,~~~VEUX,~~~NANSANAQ,~~~MA KEUAERI,~~~NTAA,~~~NGGUON",
    "~~~LAP,~~~MBIRIEEN,~~~MGBASAQ,~~~NTEUNGBA,~~~TEUTEUX,~~~NGGUM,~~~FUE,~~~NDEUT,~~~NSA",
    "~~~NSHAQ,~~~BUNG,~~~VEUAEPEN,~~~MBERAE,~~~RU,~~~NJAEM,~~~LAM,~~~TITUAEP,~~~NSUOT NGOM",
    "~~~NJEEEE,~~~KET,~~~NGGU,~~~MAESI,~~~MBUAEM,~~~LU,~~~KUT,~~~NJAM,~~~NGOM,~~~WUP,~~~NGGUEET",
    "~~~NSOM,~~~NTEN,~~~KUOP NKAARAE,~~~NSUN,~~~NDAM,~~~MA NSIEE,~~~YAA,~~~NDAP,~~~SHUEQ",
    "~~~SETFON,~~~MBI,~~~MAEMBA,~~~MBANYI,~~~KEUSEUX,~~~MBEUX,~~~KEUM,~~~MBAA PICKET,~~~YUWOQ",
    "~~~NJEUX,~~~MIEE,~~~MUAE,~~~SHIQ,~~~KEN LAW,~~~~FATIGUE,~~~NGAQ,~~~NAQ,~~~LIQ,~~~PIN,~~~PEN",
    "~~~TET,~~PHASE-D MBUO,~~~WAP,~~~NJI,~~~MFON,~~~NJIEE,~~~LIEE,~~~NJEUT,~~~NSHEE,~~~NGGAAMAE",
    "~~~NYAM,~~~WUAEN,~~~NGKUN,~~~SHEE,~~~NGKAP,~~~KEUAETMEUN,~~~TEUT,~~~SHEUAE,~~~NJAP,~~~SUE",
    "~~~KET,~~~YAEMMAE,~~~KUOM,~~~SAP,~~~MFEUT,~~~NDEUX,~~~MALEERI,~~~MEUT,~~~SEUAEQ,~~~YEN",
    "~~~NJEUAEM,~~~KEUOT MBUAE,~~~NGKEURI,~~~TU,~~~GHAA,~~~NGKYEE,~~~FEUFEUAET,~~~NDEE",
    "~~~MGBOFUM,~~~LEUAEP,~~~NDON,~~~MONI,~~~MGBEUN,~~~PUUT,~~~MGBIEE,~~~MFO,~~~LUM,~~~NSIEEP",
    "~~~MBAA,~~~KWAET,~~~NYET,~~~TEUAEN,~~~SOT,~~~YUWOQ,~~~KEUM,~~~RAEM,~~~TEEEE,~~~NGKEUAEQ",
    "~~~MFEUAE,~~~NSIEET,~~~KEUP,~~~PIP,~~~PEUTAE,~~~NYUE,~~~LET,~~~NGGAAM,~~~MFIEE,~~~NGGWAEN",
    "~~~YUOM,~~~PAP,~~~YUOP,~~~NDAM,~~~NTEUM,~~~SUAE,~~~KUN,~~~NGGEUX,~~~NGKIEE,~~~TUOT,~~~MEUN",
    "~~~KUQ,~~~NSUM,~~~TEUN,~~~MAENJET,~~~NGGAP,~~~LEUM,~~~NGGUOM,~~~NSHUT,~~~NJUEQ,~~~GHEUAE",
    "~~~KU,~~~REN OLD,~~~TAE,~~~TOQ,~~~NYI,~~~RII,~~~LEEEE,~~~MEEEE,~~~M,~~~SUU,~~~MU,~~~SHII",
    "~~~SHEUX,~~~KYEE,~~~NU,~~~SHU,~~~NTEE,~~~PEE,~~~NI,~~~SHOQ,~~~PUQ,~~~MVOP,~~~LOQ",
    "~~~REN MUCH,~~~TI,~~~NTUU,~~~MBAA SEVEN,~~~SAQ,~~~FAA,~~PHASE-E NDAP,~~~TOON,~~~MBEUM",
    "~~~LAP,~~~VOM,~~~LOON,~~~PAA,~~~SOM,~~~RAQ,~~~NSHUOP,~~~NDUN,~~~PUAE,~~~TAM,~~~NGKA",
    "~~~KPEUX,~~~WUO,~~~SEE,~~~NGGEUAET,~~~PAAM,~~~TOO,~~~KUOP,~~~LOM,~~~NSHIEE,~~~NGOP,~~~MAEM",
    "~~~NGKEUX,~~~NGOQ,~~~NSHUE,~~~RIMGBA,~~~NJEUX,~~~PEEM,~~~SAA,~~~NGGURAE,~~~MGBA,~~~GHEUX",
    "~~~NGKEUAEM,~~~NJAEMLI,~~~MAP,~~~LOOT,~~~NGGEEEE,~~~NDIQ,~~~TAEN NTEUM,~~~SET,~~~PUM",
    "~~~NDAA SOFTNESS,~~~NGGUAESHAE NYAM,~~~YIEE,~~~GHEUN,~~~TUAE,~~~YEUAE,~~~PO,~~~TUMAE",
    "~~~KEUAE,~~~SUAEN,~~~TEUAEQ,~~~VEUAE,~~~WEUX,~~~LAAM,~~~PU,~~~TAAQ,~~~GHAAMAE,~~~NGEUREUT",
    "~~~SHEUAEQ,~~~MGBEN,~~~MBEE,~~~NZAQ,~~~NKOM,~~~GBET,~~~TUM,~~~KUET,~~~YAP,~~~NYI CLEAVER",
    "~~~YIT,~~~MFEUQ,~~~NDIAQ,~~~PIEEQ,~~~YUEQ,~~~LEUAEM,~~~FUE,~~~GBEUX,~~~NGKUP,~~~KET,~~~MAE",
    "~~~NGKAAMI,~~~GHET,~~~FA,~~~NTUM,~~~PEUT,~~~YEUM,~~~NGGEUAE,~~~NYI BETWEEN,~~~NZUQ,~~~POON",
    "~~~MIEE,~~~FUET,~~~NAE,~~~MUAE,~~~GHEUAE,~~~FU I,~~~MVI,~~~PUAQ,~~~NGKUM,~~~KUT,~~~PIET",
    "~~~NTAP,~~~YEUAET,~~~NGGUP,~~~PA PEOPLE,~~~FU CALL,~~~FOM,~~~NJEE,~~~A,~~~TOQ,~~~O,~~~I",
    "~~~LAQ,~~~PA PLURAL,~~~TAA,~~~TAQ,~~~NDAA MY HOUSE,~~~SHIQ,~~~YEUX,~~~NGUAE,~~~YUAEN",
    "~~~YOQ SWIMMING,~~~~COVER,~~~YUQ,~~~YUN,~~~KEUX,~~~PEUX,~~~NJEE EPOCH,~~~PUE,~~~WUE,~~~FEE",
    "~~~VEE,~~~LU,~~~MI,~~~REUX,~~~RAE,~~~NGUAET,~~~NGA,~~~SHO,~~~SHOQ,~~~FU REMEDY,~~~NA,~~~PI",
    "~~~LOQ,~~~KO,~~~MEN,~~~MA,~~~MAQ,~~~TEU,~~~KI,~~~MON,~~~TEN,~~~FAQ,~~~GHOM,~~PHASE-F KA",
    "~~~U,~~~KU,~~~EE,~~~REE,~~~TAE,~~~NYI,~~~LA,~~~RII,~~~RIEE,~~~MEEEE,~~~TAA,~~~NDAA,~~~NJAEM",
    "~~~M,~~~SUU,~~~SHII,~~~SI,~~~SEUX,~~~KYEE,~~~KET,~~~NUAE,~~~NU,~~~NJUAE,~~~YOQ,~~~SHU,~~~YA",
    "~~~NSHA,~~~PEUX,~~~NTEE,~~~WUE,~~~PEE,~~~RU,~~~NI,~~~REUX,~~~KEN,~~~NGKWAEN,~~~NGGA,~~~SHO",
    "~~~PUAE,~~~FOM,~~~WA,~~~LI,~~~LOQ,~~~KO,~~~MBEN,~~~REN,~~~MA,~~~MO,~~~MBAA,~~~TET,~~~KPA",
    "~~~SAMBA,~~~VUEQ"]⟩,
  -- Bassa Vah
  ⟨0x16ad0, [
    "BASSA VAH LETTER ENNI,~~~KA,~~~SE,~~~FA,~~~MBE,~~~YIE,~~~GAH,~~~DHII,~~~KPAH,~~~JO,~~~HWAH",
    "~~~WA,~~~ZO,~~~GBU,~~~DO,~~~CE,~~~UWU,~~~TO,~~~BA,~~~VU,~~~YEIN,~~~PA,~~~WADDA,~~~A,~~~O",
    "~~~OO,~~~U,~~~EE,~~~E,~~~I,,,~~COMBINING HIGH TONE,~~~LOW~,~~~MID~,~~~LOW-MID~,~~~HIGH-LOW~",
    "~~FULL STOP"]⟩,
  -- Medefaidrin
  ⟨0x16e40, [
    "MEDEFAIDRIN CAPITAL LETTER M,~~~S,~~~V,~~~W,~~~ATIU,~~~Z,~~~KP,~~~P,~~~T,~~~G,~~~F,~~~I",
    "~~~K,~~~A,~~~J,~~~E,~~~B,~~~C,~~~U,~~~YU,~~~L,~~~Q,~~~HP,~~~NY,~~~X,~~~D,~~~OE,~~~N,~~~R",
    "~~~O,~~~AI,~~~Y,~SMALL~M,~~~S,~~~V,~~~W,~~~ATIU,~~~Z,~~~KP,~~~P,~~~T,~~~G,~~~F,~~~I,~~~K",
    "~~~A,~~~J,~~~E,~~~B,~~~C,~~~U,~~~YU,~~~L,~~~Q,~~~HP,~~~NY,~~~X,~~~D,~~~OE,~~~N,~~~R,~~~O",
    "~~~AI,~~~Y,~DIGIT ZERO,~~ONE,~~TWO,~~THREE,~~FOUR,~~FIVE,~~SIX,~~SEVEN,~~EIGHT,~~NINE",
    "~NUMBER TEN,~~ELEVEN,~~TWELVE,~~THIRTEEN,~~FOURTEEN,~~FIFTEEN,~~SIXTEEN,~~SEVENTEEN",
    "~~EIGHTEEN,~~NINETEEN,~DIGIT ONE ALTERNATE FORM,~~TWO~~,~~THREE~~,~COMMA,~FULL STOP",
    "~SYMBOL AIVA,~EXCLAMATION OH"]⟩,
  -- Ethiopic Extended-B
  ⟨0x1e7e0, [
    "ETHIOPIC SYLLABLE HHYA,~~HHYU,~~HHYI,~~HHYAA,~~HHYEE,~~HHYE,~~HHYO,,~~GURAGE HHWA,~~HHWI",
    "~~HHWEE,~~HHWE,,~~GURAGE MWI,~~~MWEE,,~~~QWI,~~~QWEE,~~~QWE,~~~BWI,~~~BWEE,~~~KWI,~~~KWEE",
    "~~~KWE,~~~GWI,~~~GWEE,~~~GWE,~~~FWI,~~~FWEE,~~~PWI,~~~PWEE"]⟩,
  -- Mende Kikakui
  ⟨0x1e800, [
    "MENDE KIKAKUI SYLLABLE M001 KI,~~~M002 KA,~~~M003 KU,~~~M065 KEE,~~~M095 KE,~~~M076 KOO",
    "~~~M048 KO,~~~M179 KUA,~~~M004 WI,~~~M005 WA,~~~M006 WU,~~~M126 WEE,~~~M118 WE,~~~M114 WOO",
    "~~~M045 WO,~~~M194 WUI,~~~M143 WEI,~~~M061 WVI,~~~M049 WVA,~~~M139 WVE,~~~M007 MIN",
    "~~~M008 MAN,~~~M009 MUN,~~~M059 MEN,~~~M094 MON,~~~M154 MUAN,~~~M189 MUEN,~~~M010 BI",
    "~~~M011 BA,~~~M012 BU,~~~M150 BEE,~~~M097 BE,~~~M103 BOO,~~~M138 BO,~~~M013 I,~~~M014 A",
    "~~~M015 U,~~~M163 EE,~~~M100 E,~~~M165 OO,~~~M147 O,~~~M137 EI,~~~M131 IN,~~~M135~",
    "~~~M195 AN,~~~M178 EN,~~~M019 SI,~~~M020 SA,~~~M021 SU,~~~M162 SEE,~~~M116 SE,~~~M136 SOO",
    "~~~M079 SO,~~~M196 SIA,~~~M025 LI,~~~M026 LA,~~~M027 LU,~~~M084 LEE,~~~M073 LE,~~~M054 LOO",
    "~~~M153 LO,~~~M110 LONG LE,~~~M016 DI,~~~M017 DA,~~~M018 DU,~~~M089 DEE,~~~M180 DOO",
    "~~~M181 DO,~~~M022 TI,~~~M023 TA,~~~M024 TU,~~~M091 TEE,~~~M055 TE,~~~M104 TOO,~~~M069 TO",
    "~~~M028 JI,~~~M029 JA,~~~M030 JU,~~~M157 JEE,~~~M113 JE,~~~M160 JOO,~~~M063 JO",
    "~~~M175 LONG JO,~~~M031 YI,~~~M032 YA,~~~M033 YU,~~~M109 YEE,~~~M080 YE,~~~M141 YOO",
    "~~~M121 YO,~~~M034 FI,~~~M035 FA,~~~M036 FU,~~~M078 FEE,~~~M075 FE,~~~M133 FOO,~~~M088 FO",
    "~~~M197 FUA,~~~M101 FAN,~~~M037 NIN,~~~M038 NAN,~~~M039 NUN,~~~M117 NEN,~~~M169 NON",
    "~~~M176 HI,~~~M041 HA,~~~M186 HU,~~~M040 HEE,~~~M096 HE,~~~M042 HOO,~~~M140 HO,~~~M083 HEEI",
    "~~~M128 HOOU,~~~M053 HIN,~~~M130 HAN,~~~M087 HUN,~~~M052 HEN,~~~M193 HON,~~~M046 HUAN",
    "~~~M090 NGGI,~~~M043 NGGA,~~~M082 NGGU,~~~M115 NGGEE,~~~M146 NGGE,~~~M156 NGGOO",
    "~~~M120 NGGO,~~~M159 NGGAA,~~~M127 NGGUA,~~~M086 LONG NGGE,~~~M106~NGGOO,~~~M183~NGGO",
    "~~~M155 GI,~~~M111 GA,~~~M168 GU,~~~M190 GEE,~~~M166 GUEI,~~~M167 GUAN,~~~M184 NGEN",
    "~~~M057 NGON,~~~M177 NGUAN,~~~M068 PI,~~~M099 PA,~~~M050 PU,~~~M081 PEE,~~~M051 PE",
    "~~~M102 POO,~~~M066 PO,~~~M145 MBI,~~~M062 MBA,~~~M122 MBU,~~~M047 MBEE,~~~M188~",
    "~~~M072 MBE,~~~M172 MBOO,~~~M174 MBO,~~~M187 MBUU,~~~M161 LONG MBE,~~~M105~MBOO,~~~M142~MBO",
    "~~~M132 KPI,~~~M092 KPA,~~~M074 KPU,~~~M044 KPEE,~~~M108 KPE,~~~M112 KPOO,~~~M158 KPO",
    "~~~M124 GBI,~~~M056 GBA,~~~M148 GBU,~~~M093 GBEE,~~~M107 GBE,~~~M071 GBOO,~~~M070 GBO",
    "~~~M171 RA,~~~M123 NDI,~~~M129 NDA,~~~M125 NDU,~~~M191 NDEE,~~~M119 NDE,~~~M067 NDOO",
    "~~~M064 NDO,~~~M152 NJA,~~~M192 NJU,~~~M149 NJEE,~~~M134 NJOO,~~~M182 VI,~~~M185 VA",
    "~~~M151 VU,~~~M173 VEE,~~~M085 VE,~~~M144 VOO,~~~M077 VO,~~~M164 NYIN,~~~M058 NYAN",
    "~~~M170 NYUN,~~~M098 NYEN,~~~M060 NYON,,,~~DIGIT ONE,~~~TWO,~~~THREE,~~~FOUR,~~~FIVE,~~~SIX",
    "~~~SEVEN,~~~EIGHT,~~~NINE,~~COMBINING NUMBER TEENS,~~~~TENS,~~~~HUNDREDS,~~~~THOUSANDS",
    "~~~~TEN THOUSANDS,~~~~HUNDRED~,~~~~MILLIONS"]⟩,
  -- Adlam
  ⟨0x1e900, [
    "ADLAM CAPITAL LETTER ALIF,~~~DAALI,~~~LAAM,~~~MIIM,~~~BA,~~~SINNYIIYHE,~~~PE,~~~BHE,~~~RA",
    "~~~E,~~~FA,~~~I,~~~O,~~~DHA,~~~YHE,~~~WAW,~~~NUN,~~~KAF,~~~YA,~~~U,~~~JIIM,~~~CHI,~~~HA",
    "~~~QAAF,~~~GA,~~~NYA,~~~TU,~~~NHA,~~~VA,~~~KHA,~~~GBE,~~~ZAL,~~~KPO,~~~SHA,~SMALL~ALIF",
    "~~~DAALI,~~~LAAM,~~~MIIM,~~~BA,~~~SINNYIIYHE,~~~PE,~~~BHE,~~~RA,~~~E,~~~FA,~~~I,~~~O,~~~DHA",
    "~~~YHE,~~~WAW,~~~NUN,~~~KAF,~~~YA,~~~U,~~~JIIM,~~~CHI,~~~HA,~~~QAAF,~~~GA,~~~NYA,~~~TU",
    "~~~NHA,~~~VA,~~~KHA,~~~GBE,~~~ZAL,~~~KPO,~~~SHA,~ALIF LENGTHENER,~VOWEL~,~GEMINATION MARK",
    "~HAMZA,~CONSONANT MODIFIER,~GEMINATE CONSONANT MODIFIER,~NUKTA,~NASALIZATION MARK,,,,",
    "~DIGIT ZERO,~~ONE,~~TWO,~~THREE,~~FOUR,~~FIVE,~~SIX,~~SEVEN,~~EIGHT,~~NINE,,,,",
    "~INITIAL EXCLAMATION MARK,~~QUESTION~"]⟩]

end AccessScopes.Text
