import AccessScopes.Text.CharName.Block

/-!
# `AccessScopes.Text.CharName.Script.SoutheastAsia`: names of Southeast Asian letters

The scripts of Southeast Asia, of Indonesia and of the Philippines.
-/

set_option autoImplicit false

namespace AccessScopes.Text

/-- The blocks of Southeast Asian scripts. -/
def southeastAsiaBlocks : List NameBlock := [
  -- Thai
  ⟨0xe01, [
    "THAI CHARACTER KO KAI,~~KHO KHAI,~~~KHUAT,~~~KHWAI,~~~KHON,~~~RAKHANG,~~NGO NGU,~~CHO CHAN",
    "~~~CHING,~~~CHANG,~~SO SO,~~CHO CHOE,~~YO YING,~~DO CHADA,~~TO PATAK,~~THO THAN",
    "~~~NANGMONTHO,~~~PHUTHAO,~~NO NEN,~~DO DEK,~~TO TAO,~~THO THUNG,~~~THAHAN,~~~THONG,~~NO NU",
    "~~BO BAIMAI,~~PO PLA,~~PHO PHUNG,~~FO FA,~~PHO PHAN,~~FO FAN,~~PHO SAMPHAO,~~MO MA,~~YO YAK",
    "~~RO RUA,~~RU,~~LO LING,~~LU,~~WO WAEN,~~SO SALA,~~~RUSI,~~~SUA,~~HO HIP,~~LO CHULA,~~O ANG",
    "~~HO NOKHUK,~~PAIYANNOI,~~SARA A,~~MAI HAN-AKAT,~~SARA AA,~~~AM,~~~I,~~~II,~~~UE,~~~UEE",
    "~~~U,~~~UU,~~PHINTHU,,,,,~CURRENCY SYMBOL BAHT,~CHARACTER SARA E,~~~AE,~~~O,~~~AI MAIMUAN",
    "~~~~MAIMALAI,~~LAKKHANGYAO,~~MAIYAMOK,~~MAITAIKHU,~~MAI EK,~~~THO,~~~TRI,~~~CHATTAWA",
    "~~THANTHAKHAT,~~NIKHAHIT,~~YAMAKKAN,~~FONGMAN,~DIGIT ZERO,~~ONE,~~TWO,~~THREE,~~FOUR,~~FIVE",
    "~~SIX,~~SEVEN,~~EIGHT,~~NINE,~CHARACTER ANGKHANKHU,~~KHOMUT"]⟩,
  -- Lao
  ⟨0xe81, [
    "LAO LETTER KO,~~KHO SUNG,,~~~TAM,,~~PALI GHA,~~NGO,~~CO,~~PALI CHA,~~SO TAM,,~~PALI JHA",
    "~~NYO,~~PALI NYA,~~~TTA,~~~TTHA,~~~DDA,~~~DDHA,~~~NNA,~~DO,~~TO,~~THO SUNG,~~~TAM",
    "~~PALI DHA,~~NO,~~BO,~~PO,~~PHO SUNG,~~FO TAM,~~PHO~,~~FO SUNG,~~PALI BHA,~~MO,~~YO",
    "~~LO LING,,~~~LOOT,,~~WO,~~SANSKRIT SHA,~~~SSA,~~SO SUNG,~~HO~,~~PALI LLA,~~O,~~HO TAM",
    "~ELLIPSIS,~VOWEL SIGN A,~~~MAI KAN,~~~AA,~~~AM,~~~I,~~~II,~~~Y,~~~YY,~~~U,~~~UU",
    "~SIGN PALI VIRAMA,~VOWEL SIGN MAI KON,~SEMIVOWEL~LO,~~~NYO,,,~VOWEL~E,~~~EI,~~~O,~~~AY",
    "~~~AI,,~KO LA,,~TONE MAI EK,~~~THO,~~~TI,~~~CATAWA,~CANCELLATION MARK,~NIGGAHITA,,",
    "~DIGIT ZERO,~~ONE,~~TWO,~~THREE,~~FOUR,~~FIVE,~~SIX,~~SEVEN,~~EIGHT,~~NINE,,,~HO NO,~~MO",
    "~LETTER KHMU GO,~~~NYO"]⟩,
  -- Myanmar
  ⟨0x1000, [
    "MYANMAR LETTER KA,~~KHA,~~GA,~~GHA,~~NGA,~~CA,~~CHA,~~JA,~~JHA,~~NYA,~~NNYA,~~TTA,~~TTHA",
    "~~DDA,~~DDHA,~~NNA,~~TA,~~THA,~~DA,~~DHA,~~NA,~~PA,~~PHA,~~BA,~~BHA,~~MA,~~YA,~~RA,~~LA",
    "~~WA,~~SA,~~HA,~~LLA,~~A,~~SHAN A,~~I,~~II,~~U,~~UU,~~E,~~MON E,~~O,~~AU",
    "~VOWEL SIGN TALL AA,~~~AA,~~~I,~~~II,~~~U,~~~UU,~~~E,~~~AI,~~~MON II,~~~~O,~~~E ABOVE",
    "~SIGN ANUSVARA,~~DOT BELOW,~~VISARGA,~~VIRAMA,~~ASAT,~CONSONANT SIGN MEDIAL YA,~~~~RA",
    "~~~~WA,~~~~HA,~LETTER GREAT SA,~DIGIT ZERO,~~ONE,~~TWO,~~THREE,~~FOUR,~~FIVE,~~SIX,~~SEVEN",
    "~~EIGHT,~~NINE,~SIGN LITTLE SECTION,~~SECTION,~SYMBOL LOCATIVE,~~COMPLETED,~~AFOREMENTIONED",
    "~~GENITIVE,~LETTER SHA,~~SSA,~~VOCALIC R,~~~RR,~~~L,~~~LL,~VOWEL SIGN VOCALIC R,~~~~RR",
    "~~~~L,~~~~LL,~LETTER MON NGA,~~~JHA,~~~BBA,~~~BBE,~CONSONANT SIGN MON MEDIAL NA,~~~~~MA",
    "~~~~~LA,~LETTER SGAW KAREN SHA,~VOWEL SIGN SGAW KAREN EU,~TONE MARK~~HATHI,~~~~~KE PHO",
    "~LETTER WESTERN PWO~THA,~~~~~PWA,~VOWEL SIGN WESTERN PWO KAREN EU,~~~~~~UE",
    "~SIGN WESTERN PWO KAREN TONE-1,~~~~~TONE-2,~~~~~TONE-3,~~~~~TONE-4,~~~~~TONE-5",
    "~LETTER EASTERN~~NNA,~~~~~YWA,~~~~~GHWA,~VOWEL SIGN GEBA~I,~~~KAYAH OE,~~~~U,~~~~EE",
    "~LETTER SHAN KA,~~~KHA,~~~GA,~~~CA,~~~ZA,~~~NYA,~~~DA,~~~NA,~~~PHA,~~~FA,~~~BA,~~~THA,~~~HA",
    "~CONSONANT SIGN SHAN MEDIAL WA,~VOWEL~~AA,~~~~E,~~~~~ABOVE,~~~~FINAL Y,~SIGN SHAN TONE-2",
    "~~~TONE-3,~~~TONE-5,~~~TONE-6,~~~COUNCIL TONE-2,~~~~TONE-3,~~~~EMPHATIC TONE",
    "~LETTER RUMAI PALAUNG FA,~SIGN~~TONE-5,~SHAN DIGIT ZERO,~~~ONE,~~~TWO,~~~THREE,~~~FOUR",
    "~~~FIVE,~~~SIX,~~~SEVEN,~~~EIGHT,~~~NINE,~SIGN KHAMTI TONE-1,~~~TONE-3,~VOWEL SIGN AITON A",
    "~~~~AI,~SYMBOL SHAN ONE,~~~EXCLAMATION"]⟩,
  -- Tagalog
  ⟨0x1700, [
    "TAGALOG LETTER A,~~I,~~U,~~KA,~~GA,~~NGA,~~TA,~~DA,~~NA,~~PA,~~BA,~~MA,~~YA,~~RA,~~LA,~~WA",
    "~~SA,~~HA,~VOWEL SIGN I,~~~U,~SIGN VIRAMA,~~PAMUDPOD,,,,,,,,,,~LETTER ARCHAIC RA"]⟩,
  -- Hanunoo
  ⟨0x1720, [
    "HANUNOO LETTER A,~~I,~~U,~~KA,~~GA,~~NGA,~~TA,~~DA,~~NA,~~PA,~~BA,~~MA,~~YA,~~RA,~~LA,~~WA",
    "~~SA,~~HA,~VOWEL SIGN I,~~~U,~SIGN PAMUDPOD,PHILIPPINE SINGLE PUNCTUATION,~DOUBLE~"]⟩,
  -- Buhid
  ⟨0x1740, [
    "BUHID LETTER A,~~I,~~U,~~KA,~~GA,~~NGA,~~TA,~~DA,~~NA,~~PA,~~BA,~~MA,~~YA,~~RA,~~LA,~~WA",
    "~~SA,~~HA,~VOWEL SIGN I,~~~U"]⟩,
  -- Tagbanwa
  ⟨0x1760, [
    "TAGBANWA LETTER A,~~I,~~U,~~KA,~~GA,~~NGA,~~TA,~~DA,~~NA,~~PA,~~BA,~~MA,~~YA,,~~LA,~~WA",
    "~~SA,,~VOWEL SIGN I,~~~U"]⟩,
  -- Khmer
  ⟨0x1780, [
    "KHMER LETTER KA,~~KHA,~~KO,~~KHO,~~NGO,~~CA,~~CHA,~~CO,~~CHO,~~NYO,~~DA,~~TTHA,~~DO,~~TTHO",
    "~~NNO,~~TA,~~THA,~~TO,~~THO,~~NO,~~BA,~~PHA,~~PO,~~PHO,~~MO,~~YO,~~RO,~~LO,~~VO,~~SHA,~~SSO",
    "~~SA,~~HA,~~LA,~~QA,~INDEPENDENT VOWEL QAQ,~~~QAA,~~~QI,~~~QII,~~~QU,~~~QUK,~~~QUU,~~~QUUV",
    "~~~RY,~~~RYY,~~~LY,~~~LYY,~~~QE,~~~QAI,~~~QOO TYPE ONE,~~~~~TWO,~~~QAU,~VOWEL INHERENT AQ",
    "~~~AA,~~SIGN~,~~~I,~~~II,~~~Y,~~~YY,~~~U,~~~UU,~~~UA,~~~OE,~~~YA,~~~IE,~~~E,~~~AE,~~~AI",
    "~~~OO,~~~AU,~SIGN NIKAHIT,~~REAHMUK,~~YUUKALEAPINTU,~~MUUSIKATOAN,~~TRIISAP,~~BANTOC",
    "~~ROBAT,~~TOANDAKHIAT,~~KAKABAT,~~AHSDA,~~SAMYOK SANNYA,~~VIRIAM,~~COENG,~~BATHAMASAT",
    "~~KHAN,~~BARIYOOSAN,~~CAMNUC PII KUUH,~~LEK TOO,~~BEYYAL,~~PHNAEK MUAN,~~KOOMUUT",
    "~CURRENCY SYMBOL RIEL,~SIGN AVAKRAHASANYA,~~ATTHACAN,,,~DIGIT ZERO,~~ONE,~~TWO,~~THREE",
    "~~FOUR,~~FIVE,~~SIX,~~SEVEN,~~EIGHT,~~NINE,,,,,,,~SYMBOL LEK ATTAK SON,~~~~MUOY,~~~~PII",
    "~~~~BEI,~~~~BUON,~~~~PRAM,~~~~PRAM-MUOY,~~~~PRAM-PII,~~~~PRAM-BEI,~~~~PRAM-BUON"]⟩,
  -- Tai Le
  ⟨0x1950, [
    "TAI LE LETTER KA,~~~XA,~~~NGA,~~~TSA,~~~SA,~~~YA,~~~TA,~~~THA,~~~LA,~~~PA,~~~PHA,~~~MA",
    "~~~FA,~~~VA,~~~HA,~~~QA,~~~KHA,~~~TSHA,~~~NA,~~~A,~~~I,~~~EE,~~~EH,~~~U,~~~OO,~~~O,~~~UE",
    "~~~E,~~~AUE,~~~AI,,,~~~TONE-2,~~~TONE-3,~~~TONE-4,~~~TONE-5,~~~TONE-6"]⟩,
  -- New Tai Lue
  ⟨0x1980, [
    "NEW TAI LUE LETTER HIGH QA,~~~~LOW~,~~~~HIGH KA,~~~~~XA,~~~~~NGA,~~~~LOW KA,~~~~~XA",
    "~~~~~NGA,~~~~HIGH TSA,~~~~~SA,~~~~~YA,~~~~LOW TSA,~~~~~SA,~~~~~YA,~~~~HIGH TA,~~~~~THA",
    "~~~~~NA,~~~~LOW TA,~~~~~THA,~~~~~NA,~~~~HIGH PA,~~~~~PHA,~~~~~MA,~~~~LOW PA,~~~~~PHA",
    "~~~~~MA,~~~~HIGH FA,~~~~~VA,~~~~~LA,~~~~LOW FA,~~~~~VA,~~~~~LA,~~~~HIGH HA,~~~~~DA,~~~~~BA",
    "~~~~LOW HA,~~~~~DA,~~~~~BA,~~~~HIGH KVA,~~~~~XVA,~~~~LOW KVA,~~~~~XVA,~~~~HIGH SUA,~~~~LOW~",
    ",,,,~~~VOWEL SIGN VOWEL SHORTENER,~~~~~AA,~~~~~II,~~~~~U,~~~~~UU,~~~~~E,~~~~~AE,~~~~~O",
    "~~~~~OA,~~~~~UE,~~~~~AY,~~~~~AAY,~~~~~UY,~~~~~OY,~~~~~OAY,~~~~~UEY,~~~~~IY",
    "~~~LETTER FINAL V,~~~~~NG,~~~~~N,~~~~~M,~~~~~K,~~~~~D,~~~~~B,~~~TONE MARK-1,~~~~MARK-2,,,,,",
    ",~~~DIGIT ZERO,~~~~ONE,~~~~TWO,~~~~THREE,~~~~FOUR,~~~~FIVE,~~~~SIX,~~~~SEVEN,~~~~EIGHT",
    "~~~~NINE,~~~THAM DIGIT ONE,,,,~~~SIGN LAE,~~~~LAEV"]⟩,
  -- Khmer Symbols
  ⟨0x19e0, [
    "KHMER SYMBOL PATHAMASAT,~~MUOY KOET,~~PII~,~~BEI~,~~BUON~,~~PRAM~,~~PRAM-MUOY~,~~PRAM-PII~",
    "~~PRAM-BEI~,~~PRAM-BUON~,~~DAP~,~~DAP-MUOY~,~~DAP-PII~,~~DAP-BEI~,~~DAP-BUON~,~~DAP-PRAM~",
    "~~TUTEYASAT,~~MUOY ROC,~~PII~,~~BEI~,~~BUON~,~~PRAM~,~~PRAM-MUOY~,~~PRAM-PII~,~~PRAM-BEI~",
    "~~PRAM-BUON~,~~DAP~,~~DAP-MUOY~,~~DAP-PII~,~~DAP-BEI~,~~DAP-BUON~,~~DAP-PRAM~"]⟩,
  -- Buginese
  ⟨0x1a00, [
    "BUGINESE LETTER KA,~~GA,~~NGA,~~NGKA,~~PA,~~BA,~~MA,~~MPA,~~TA,~~DA,~~NA,~~NRA,~~CA,~~JA",
    "~~NYA,~~NYCA,~~YA,~~RA,~~LA,~~VA,~~SA,~~A,~~HA,~VOWEL SIGN I,~~~U,~~~E,~~~O,~~~AE,,",
    "~PALLAWA,~END OF SECTION"]⟩,
  -- Tai Tham
  ⟨0x1a20, [
    "TAI THAM LETTER HIGH KA,~~~~KHA,~~~~KXA,~~~LOW KA,~~~~KXA,~~~~KHA,~~~NGA,~~~HIGH CA,~~~~CHA",
    "~~~LOW CA,~~~~SA,~~~~CHA,~~~NYA,~~~RATA,~~~HIGH RATHA,~~~DA,~~~LOW RATHA,~~~RANA,~~~HIGH TA",
    "~~~~THA,~~~LOW TA,~~~~THA,~~~NA,~~~BA,~~~HIGH PA,~~~~PHA,~~~~FA,~~~LOW PA,~~~~FA,~~~~PHA",
    "~~~MA,~~~LOW YA,~~~HIGH~,~~~RA,~~~RUE,~~~LA,~~~LUE,~~~WA,~~~HIGH SHA,~~~~SSA,~~~~SA,~~~~HA",
    "~~~LLA,~~~A,~~~LOW HA,~~~I,~~~II,~~~U,~~~UU,~~~EE,~~~OO,~~~LAE,~~~GREAT SA",
    "~~CONSONANT SIGN MEDIAL RA,~~~~~LA,~~~~LA TANG LAI,~~SIGN MAI KANG LAI",
    "~~CONSONANT SIGN FINAL NGA,~~~~LOW PA,~~~~HIGH RATHA OR LOW PA,~~~~MA,~~~~BA,~~~~SA,",
    "~~SIGN SAKOT,~~VOWEL SIGN A,~~~~MAI SAT,~~~~AA,~~~~TALL AA,~~~~I,~~~~II,~~~~UE,~~~~UUE",
    "~~~~U,~~~~UU,~~~~O,~~~~OA BELOW,~~~~OY,~~~~E,~~~~AE,~~~~OO,~~~~AI,~~~~THAM AI,~~~~OA ABOVE",
    "~~SIGN MAI KANG,~~~TONE-1,~~~TONE-2,~~~KHUEN TONE-3,~~~~TONE-4,~~~~TONE-5,~~~RA HAAM",
    "~~~MAI SAM,~~~KHUEN-LUE KARAN,,,~~COMBINING CRYPTOGRAMMIC DOT,~~HORA DIGIT ZERO,~~~~ONE",
    "~~~~TWO,~~~~THREE,~~~~FOUR,~~~~FIVE,~~~~SIX,~~~~SEVEN,~~~~EIGHT,~~~~NINE,,,,,,,~~THAM~ZERO",
    "~~~~ONE,~~~~TWO,~~~~THREE,~~~~FOUR,~~~~FIVE,~~~~SIX,~~~~SEVEN,~~~~EIGHT,~~~~NINE,,,,,,",
    "~~SIGN WIANG,~~~WIANGWAAK,~~~SAWAN,~~~KEOW,~~~HOY,~~~DOKMAI,~~~REVERSED ROTATED RANA",
    "~~~MAI YAMOK,~~~KAAN,~~~KAANKUU,~~~SATKAAN,~~~SATKAANKUU,~~~HANG,~~~CAANG"]⟩,
  -- Balinese
  ⟨0x1b00, [
    "BALINESE SIGN ULU RICEM,~~~CANDRA,~~CECEK,~~SURANG,~~BISAH,~LETTER AKARA,~~~TEDUNG,~~IKARA",
    "~~~TEDUNG,~~UKARA,~~~TEDUNG,~~RA REPA,~~~~TEDUNG,~~LA LENGA,~~~~TEDUNG,~~EKARA,~~AIKARA",
    "~~OKARA,~~~TEDUNG,~~KA,~~~MAHAPRANA,~~GA,~~~GORA,~~NGA,~~CA,~~~LACA,~~JA,~~~JERA,~~NYA",
    "~~TA LATIK,~~~MURDA MAHAPRANA,~~DA~ALPAPRANA,~~~~MAHAPRANA,~~NA RAMBAT,~~TA,~~~TAWA,~~DA",
    "~~~MADU,~~NA,~~PA,~~~KAPAL,~~BA,~~~KEMBANG,~~MA,~~YA,~~RA,~~LA,~~WA,~~SA SAGA,~~~SAPA,~~~",
    "~~HA,~SIGN REREKAN,~VOWEL SIGN TEDUNG,~~~ULU,~~~~SARI,~~~SUKU,~~~~ILUT,~~~RA REPA",
    "~~~~~TEDUNG,~~~LA LENGA,~~~~~TEDUNG,~~~TALING,~~~~REPA,~~~~TEDUNG,~~~~REPA TEDUNG,~~~PEPET",
    "~~~~TEDUNG,~ADEG ADEG,~LETTER KAF SASAK,~~KHOT~,~~TZIR~,~~EF~,~~VE~,~~ZAL~,~~ASYURA~",
    "~~ARCHAIC JNYA,,,,~DIGIT ZERO,~~ONE,~~TWO,~~THREE,~~FOUR,~~FIVE,~~SIX,~~SEVEN,~~EIGHT",
    "~~NINE,~PANTI,~PAMADA,~WINDU,~CARIK PAMUNGKAH,~~SIKI,~~PAREREN,~PAMENENG",
    "~MUSICAL SYMBOL DONG,~~~DENG,~~~DUNG,~~~DANG,~~~~SURANG,~~~DING,~~~DAENG,~~~DEUNG,~~~DAING",
    "~~~DANG GEDE,~~~COMBINING TEGEH,~~~~ENDEP,~~~~KEMPUL,~~~~KEMPLI,~~~~JEGOGAN",
    "~~~~KEMPUL WITH JEGOGAN,~~~~KEMPLI~~,~~~~BENDE,~~~~GONG,~~~RIGHT-HAND OPEN DUG,~~~~~DAG",
    "~~~~CLOSED TUK,~~~~~TAK,~~~LEFT-HAND OPEN PANG,~~~~~PUNG,~~~~CLOSED PLAK,~~~~~PLUK",
    "~~~~OPEN PING,~PANTI LANTANG,~PAMADA~"]⟩,
  -- Sundanese
  ⟨0x1b80, [
    "SUNDANESE SIGN PANYECEK,~~PANGLAYAR,~~PANGWISAD,~LETTER A,~~I,~~U,~~AE,~~O,~~E,~~EU,~~KA",
    "~~QA,~~GA,~~NGA,~~CA,~~JA,~~ZA,~~NYA,~~TA,~~DA,~~NA,~~PA,~~FA,~~VA,~~BA,~~MA,~~YA,~~RA,~~LA",
    "~~WA,~~SA,~~XA,~~HA,~CONSONANT SIGN PAMINGKAL,~~~PANYAKRA,~~~PANYIKU,~VOWEL~PANGHULU",
    "~~~PANYUKU,~~~PANAELAENG,~~~PANOLONG,~~~PAMEPET,~~~PANEULEUNG,~SIGN PAMAAEH,~~VIRAMA",
    "~CONSONANT SIGN PASANGAN MA,~~~~WA,~LETTER KHA,~~SYA,~DIGIT ZERO,~~ONE,~~TWO,~~THREE,~~FOUR",
    "~~FIVE,~~SIX,~~SEVEN,~~EIGHT,~~NINE,~AVAGRAHA,~LETTER REU,~~LEU,~~BHA,~~FINAL K,~~~M"]⟩,
  -- Batak
  ⟨0x1bc0, [
    "BATAK LETTER A,~~SIMALUNGUN A,~~HA,~~SIMALUNGUN HA,~~MANDAILING~,~~BA,~~KARO BA,~~PA",
    "~~SIMALUNGUN PA,~~NA,~~MANDAILING NA,~~WA,~~SIMALUNGUN WA,~~PAKPAK~,~~GA,~~SIMALUNGUN GA",
    "~~JA,~~DA,~~RA,~~SIMALUNGUN RA,~~MA,~~SIMALUNGUN MA,~~SOUTHERN TA,~~NORTHERN~,~~SA",
    "~~SIMALUNGUN SA,~~MANDAILING~,~~YA,~~SIMALUNGUN YA,~~NGA,~~LA,~~SIMALUNGUN LA,~~NYA,~~CA",
    "~~NDA,~~MBA,~~I,~~U,~SIGN TOMPI,~VOWEL SIGN E,~~~PAKPAK E,~~~EE,~~~I,~~~KARO I,~~~O",
    "~~~KARO O,~~~U,~~~~FOR SIMALUNGUN SA,~CONSONANT~NG,~~~H,~PANGOLAT,~PANONGONAN,,,,,,,,",
    "~SYMBOL BINDU NA METEK,~~~PINARBORAS,~~~JUDUL,~~~PANGOLAT"]⟩,
  -- Sundanese Supplement
  ⟨0x1cc0, [
    "SUNDANESE PUNCTUATION BINDU SURYA,~~~PANGLONG,~~~PURNAMA,~~~CAKRA,~~~LEU SATANGA,~~~KA~",
    "~~~DA~,~~~BA~"]⟩,
  -- Kayah Li
  ⟨0xa900, [
    "KAYAH LI DIGIT ZERO,~~~ONE,~~~TWO,~~~THREE,~~~FOUR,~~~FIVE,~~~SIX,~~~SEVEN,~~~EIGHT,~~~NINE",
    "~~LETTER KA,~~~KHA,~~~GA,~~~NGA,~~~SA,~~~SHA,~~~ZA,~~~NYA,~~~TA,~~~HTA,~~~NA,~~~PA,~~~PHA",
    "~~~MA,~~~DA,~~~BA,~~~RA,~~~YA,~~~LA,~~~WA,~~~THA,~~~HA,~~~VA,~~~CA,~~~A,~~~OE,~~~I,~~~OO",
    "~~VOWEL UE,~~~E,~~~U,~~~EE,~~~O,~~TONE PLOPHU,~~~CALYA,~~~~PLOPHU,~~SIGN CWI,~~~SHYA"]⟩,
  -- Rejang
  ⟨0xa930, [
    "REJANG LETTER KA,~~GA,~~NGA,~~TA,~~DA,~~NA,~~PA,~~BA,~~MA,~~CA,~~JA,~~NYA,~~SA,~~RA,~~LA",
    "~~YA,~~WA,~~HA,~~MBA,~~NGGA,~~NDA,~~NYJA,~~A,~VOWEL SIGN I,~~~U,~~~E,~~~AI,~~~O,~~~AU,~~~EU",
    "~~~EA,~CONSONANT~NG,~~~N,~~~R,~~~H,~VIRAMA,,,,,,,,,,,,~SECTION MARK"]⟩,
  -- Javanese
  ⟨0xa980, [
    "JAVANESE SIGN PANYANGGA,~~CECAK,~~LAYAR,~~WIGNYAN,~LETTER A,~~I KAWI,~~~,~~II,~~U",
    "~~PA CEREK,~~NGA LELET,~~~~RASWADI,~~E,~~AI,~~O,~~KA,~~~SASAK,~~~MURDA,~~GA,~~~MURDA,~~NGA",
    "~~CA,~~~MURDA,~~JA,~~NYA MURDA,~~JA MAHAPRANA,~~NYA,~~TTA,~~~MAHAPRANA,~~DDA,~~~MAHAPRANA",
    "~~NA MURDA,~~TA,~~~MURDA,~~DA,~~~MAHAPRANA,~~NA,~~PA,~~~MURDA,~~BA,~~~MURDA,~~MA,~~YA,~~RA",
    "~~~AGUNG,~~LA,~~WA,~~SA MURDA,~~~MAHAPRANA,~~~,~~HA,~SIGN CECAK TELU,~VOWEL SIGN TARUNG",
    "~~~TOLONG,~~~WULU,~~~~MELIK,~~~SUKU,~~~~MENDUT,~~~TALING,~~~DIRGA MURE,~~~PEPET",
    "~CONSONANT~KERET,~~~PENGKAL,~~~CAKRA,~PANGKON,~LEFT RERENGGAN,~RIGHT~,~PADA ANDAP,~~MADYA",
    "~~LUHUR,~~WINDU,~~PANGKAT,~~LINGSA,~~LUNGSI,~~ADEG,~~~ADEG,~~PISELEH,~TURNED PADA PISELEH,",
    "~PANGRANGKEP,~DIGIT ZERO,~~ONE,~~TWO,~~THREE,~~FOUR,~~FIVE,~~SIX,~~SEVEN,~~EIGHT,~~NINE,,,,",
    "~PADA TIRTA TUMETES,~~ISEN-ISEN"]⟩,
  -- Myanmar Extended-B
  ⟨0xa9e0, [
    "MYANMAR LETTER SHAN GHA,~~~CHA,~~~JHA,~~~NNA,~~~BHA,~SIGN~SAW",
    "~MODIFIER LETTER SHAN REDUPLICATION,~LETTER TAI LAING NYA,~~~~FA,~~~~GA,~~~~GHA,~~~~JA",
    "~~~~JHA,~~~~DDA,~~~~DDHA,~~~~NNA,~TAI LAING DIGIT ZERO,~~~~ONE,~~~~TWO,~~~~THREE,~~~~FOUR",
    "~~~~FIVE,~~~~SIX,~~~~SEVEN,~~~~EIGHT,~~~~NINE,~LETTER TAI LAING LLA,~~~~DA,~~~~DHA,~~~~BA",
    "~~~~BHA"]⟩,
  -- Cham
  ⟨0xaa00, [
    "CHAM LETTER A,~~I,~~U,~~E,~~AI,~~O,~~KA,~~KHA,~~GA,~~GHA,~~NGUE,~~NGA,~~CHA,~~CHHA,~~JA",
    "~~JHA,~~NHUE,~~NHA,~~NHJA,~~TA,~~THA,~~DA,~~DHA,~~NUE,~~NA,~~DDA,~~PA,~~PPA,~~PHA,~~BA",
    "~~BHA,~~MUE,~~MA,~~BBA,~~YA,~~RA,~~LA,~~VA,~~SSA,~~SA,~~HA,~VOWEL SIGN AA,~~~I,~~~II,~~~EI",
    "~~~U,~~~OE,~~~O,~~~AI,~~~AU,~~~UE,~CONSONANT~YA,~~~RA,~~~LA,~~~WA,,,,,,,,,,~LETTER FINAL K",
    "~~~G,~~~NG,~CONSONANT SIGN FINAL NG,~LETTER FINAL CH,~~~T,~~~N,~~~P,~~~Y,~~~R,~~~L,~~~SS",
    "~CONSONANT SIGN FINAL M,~~~~H,,,~DIGIT ZERO,~~ONE,~~TWO,~~THREE,~~FOUR,~~FIVE,~~SIX,~~SEVEN",
    "~~EIGHT,~~NINE,,,~PUNCTUATION SPIRAL,~~DANDA,~~DOUBLE DANDA,~~TRIPLE~"]⟩,
  -- Myanmar Extended-A
  ⟨0xaa60, [
    "MYANMAR LETTER KHAMTI GA,~~~CA,~~~CHA,~~~JA,~~~JHA,~~~NYA,~~~TTA,~~~TTHA,~~~DDA,~~~DDHA",
    "~~~DHA,~~~NA,~~~SA,~~~HA,~~~HHA,~~~FA,~MODIFIER LETTER KHAMTI REDUPLICATION",
    "~LETTER KHAMTI XA,~~~ZA,~~~RA,~LOGOGRAM~OAY,~~~QN,~~~HM,~SYMBOL AITON EXCLAMATION,~~~ONE",
    "~~~TWO,~LETTER~RA,~SIGN PAO KAREN TONE,~~TAI LAING TONE-2,~~~~TONE-5",
    "~LETTER SHWE PALAUNG CHA,~~~~SHA"]⟩,
  -- Tai Viet
  ⟨0xaa80, [
    "TAI VIET LETTER LOW KO,~~~HIGH~,~~~LOW KHO,~~~HIGH~,~~~LOW KHHO,~~~HIGH~,~~~LOW GO,~~~HIGH~",
    "~~~LOW NGO,~~~HIGH~,~~~LOW CO,~~~HIGH~,~~~LOW CHO,~~~HIGH~,~~~LOW SO,~~~HIGH~,~~~LOW NYO",
    "~~~HIGH~,~~~LOW DO,~~~HIGH~,~~~LOW TO,~~~HIGH~,~~~LOW THO,~~~HIGH~,~~~LOW NO,~~~HIGH~",
    "~~~LOW BO,~~~HIGH~,~~~LOW PO,~~~HIGH~,~~~LOW PHO,~~~HIGH~,~~~LOW FO,~~~HIGH~,~~~LOW MO",
    "~~~HIGH~,~~~LOW YO,~~~HIGH~,~~~LOW RO,~~~HIGH~,~~~LOW LO,~~~HIGH~,~~~LOW VO,~~~HIGH~",
    "~~~LOW HO,~~~HIGH~,~~~LOW O,~~~HIGH~,~~MAI KANG,~~VOWEL AA,~~~I,~~~UE,~~~U,~~~E,~~~O",
    "~~MAI KHIT,~~VOWEL IA,~~~UEA,~~~UA,~~~AUE,~~~AY,~~~AN,~~~AM,~~TONE MAI EK,~~~~NUENG,~~~~THO",
    "~~~~SONG"]⟩,
  ⟨0xaadb, [
    "TAI VIET SYMBOL KON,~~~NUENG,~~~SAM,~~~HO HOI,~~~KOI KOI"]⟩,
  -- Pau Cin Hau
  ⟨0x11ac0, [
    "PAU CIN HAU LETTER PA,~~~~KA,~~~~LA,~~~~MA,~~~~DA,~~~~ZA,~~~~VA,~~~~NGA,~~~~HA,~~~~GA",
    "~~~~KHA,~~~~SA,~~~~BA,~~~~CA,~~~~TA,~~~~THA,~~~~NA,~~~~PHA,~~~~RA,~~~~FA,~~~~CHA,~~~~A",
    "~~~~E,~~~~I,~~~~O,~~~~U,~~~~UA,~~~~IA,~~~~FINAL P,~~~~~K,~~~~~T,~~~~~M,~~~~~N,~~~~~L,~~~~~W",
    "~~~~~NG,~~~~~Y,~~~RISING TONE LONG,~~~~~,~~~SANDHI GLOTTAL STOP,~~~RISING TONE LONG FINAL",
    "~~~~~FINAL,~~~SANDHI GLOTTAL STOP FINAL,~~~~TONE LONG,~~~~~,~~~~~LONG FINAL,~~~~~FINAL",
    "~~~MID-LEVEL~,~~~GLOTTAL STOP VARIANT,~~~MID-LEVEL TONE LONG FINAL,~~~~~FINAL",
    "~~~LOW-FALLING~LONG,~~~~~,~~~GLOTTAL STOP,~~~LOW-FALLING TONE LONG FINAL,~~~~~FINAL",
    "~~~GLOTTAL STOP~"]⟩,
  -- Makasar
  ⟨0x11ee0, [
    "MAKASAR LETTER KA,~~GA,~~NGA,~~PA,~~BA,~~MA,~~TA,~~DA,~~NA,~~CA,~~JA,~~NYA,~~YA,~~RA,~~LA",
    "~~VA,~~SA,~~A,~ANGKA,~VOWEL SIGN I,~~~U,~~~E,~~~O,~PASSIMBANG,~END OF SECTION"]⟩,
  -- Pahawh Hmong
  ⟨0x16b00, [
    "PAHAWH HMONG VOWEL KEEB,~~~KEEV,~~~KIB,~~~KIV,~~~KAUB,~~~KAUV,~~~KUB,~~~KUV,~~~KEB,~~~KEV",
    "~~~KAIB,~~~KAIV,~~~KOOB,~~~KOOV,~~~KAWB,~~~KAWV,~~~KUAB,~~~KUAV,~~~KOB,~~~KOV,~~~KIAB",
    "~~~KIAV,~~~KAB,~~~KAV,~~~KWB,~~~KWV,~~~KAAB,~~~KAAV,~~CONSONANT VAU,~~~NTSAU,~~~LAU,~~~HAU",
    "~~~NLAU,~~~RAU,~~~NKAU,~~~QHAU,~~~YAU,~~~HLAU,~~~MAU,~~~CHAU,~~~NCHAU,~~~HNAU,~~~PLHAU",
    "~~~NTHAU,~~~NAU,~~~AU,~~~XAU,~~~CAU,~~MARK CIM TUB,~~~~SO,~~~~KES,~~~~KHAV,~~~~SUAM,~~~~HOM",
    "~~~~TAUM,~~SIGN VOS THOM,~~~~TSHAB CEEB,~~~CIM CHEEM,~~~VOS THIAB,~~~~FEEM,~~~XYEEM NTXIV",
    "~~~~RHO,~~~~TOV,~~~~FAIB,~~~VOS SEEV,~~~MEEJ SUAB,~~~VOS NRUA,~~~IB YAM,~~~XAUS",
    "~~~CIM TSOV ROG,,,,,,,,,,,~~DIGIT ZERO,~~~ONE,~~~TWO,~~~THREE,~~~FOUR,~~~FIVE,~~~SIX",
    "~~~SEVEN,~~~EIGHT,~~~NINE,,~~NUMBER TENS,~~~HUNDREDS,~~~TEN THOUSANDS,~~~MILLIONS",
    "~~~HUNDRED MILLIONS,~~~TEN BILLIONS,~~~TRILLIONS,,~~SIGN VOS LUB,~~~XYOO,~~~HLI",
    "~~~THIRD-STAGE HLI,~~~ZWJ THAJ,~~~HNUB,~~~NQIG,~~~XIAB,~~~NTUJ,~~~AV,~~~TXHEEJ CEEV",
    "~~~MEEJ TSEEB,~~~TAU,~~~LOS,~~~MUS,~~~CIM HAIS LUS NTOG NTOG,~~~~CUAM TSHOOJ,~~~~TXWV",
    "~~~~~CHWV,~~~~PUB DAWB,~~~~NRES TOS,,,,,,~~CLAN SIGN TSHEEJ,~~~~YEEG,~~~~LIS,~~~~LAUJ",
    "~~~~XYOOJ,~~~~KOO,~~~~HAWJ,~~~~MUAS,~~~~THOJ,~~~~TSAB,~~~~PHAB,~~~~KHAB,~~~~HAM,~~~~VAJ",
    "~~~~FAJ,~~~~YAJ,~~~~TSWB,~~~~KWM,~~~~VWJ"]⟩,
  -- Nyiakeng Puachue Hmong
  ⟨0x1e100, [
    "NYIAKENG PUACHUE HMONG LETTER MA,~~~~TSA,~~~~NTA,~~~~TA,~~~~HA,~~~~NA,~~~~XA,~~~~NKA,~~~~CA",
    "~~~~LA,~~~~SA,~~~~ZA,~~~~NCA,~~~~NTSA,~~~~KA,~~~~DA,~~~~NYA,~~~~NRA,~~~~VA,~~~~NTXA,~~~~TXA",
    "~~~~FA,~~~~RA,~~~~QA,~~~~YA,~~~~NQA,~~~~PA,~~~~XYA,~~~~NPA,~~~~DLA,~~~~NPLA,~~~~HAH,~~~~MLA",
    "~~~~PLA,~~~~GA,~~~~RRA,~~~~A,~~~~AA,~~~~I,~~~~U,~~~~O,~~~~OO,~~~~E,~~~~EE,~~~~W,,,",
    "~~~TONE-B,~~~TONE-M,~~~TONE-J,~~~TONE-V,~~~TONE-S,~~~TONE-G,~~~TONE-D,~~~SIGN FOR PERSON",
    "~~~~~THING,~~~~~LOCATION,~~~~~ANIMAL,~~~~~INVERTEBRATE,~~~~XW XW,~~~SYLLABLE LENGTHENER,,",
    "~~~DIGIT ZERO,~~~~ONE,~~~~TWO,~~~~THREE,~~~~FOUR,~~~~FIVE,~~~~SIX,~~~~SEVEN,~~~~EIGHT",
    "~~~~NINE,,,,,~~~LOGOGRAM NYAJ,~~~CIRCLED CA"]⟩]

end AccessScopes.Text
