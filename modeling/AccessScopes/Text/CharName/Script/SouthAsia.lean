import AccessScopes.Text.CharName.Block

/-!
# `AccessScopes.Text.CharName.Script.SouthAsia`: names of South Asian letters

The scripts of India and of its neighbours, with their digits and vowel signs.
-/

set_option autoImplicit false

namespace AccessScopes.Text

/-- The blocks of South Asian scripts. -/
def southAsiaBlocks : List NameBlock := [
  -- Thaana
  ⟨0x780, [
    "THAANA LETTER HAA,~~SHAVIYANI,~~NOONU,~~RAA,~~BAA,~~LHAVIYANI,~~KAAFU,~~ALIFU,~~VAAVU",
    "~~MEEMU,~~FAAFU,~~DHAALU,~~THAA,~~LAAMU,~~GAAFU,~~GNAVIYANI,~~SEENU,~~DAVIYANI,~~ZAVIYANI",
    "~~TAVIYANI,~~YAA,~~PAVIYANI,~~JAVIYANI,~~CHAVIYANI,~~TTAA,~~HHAA,~~KHAA,~~THAALU,~~ZAA",
    "~~SHEENU,~~SAADHU,~~DAADHU,~~TO,~~ZO,~~AINU,~~GHAINU,~~QAAFU,~~WAAVU,~ABAFILI,~AABAAFILI",
    "~IBIFILI,~EEBEEFILI,~UBUFILI,~OOBOOFILI,~EBEFILI,~EYBEYFILI,~OBOFILI,~OABOAFILI,~SUKUN",
    "~LETTER NAA"]⟩,
  -- Devanagari
  ⟨0x900, [
    "DEVANAGARI SIGN INVERTED CANDRABINDU,~~CANDRABINDU,~~ANUSVARA,~~VISARGA,~LETTER SHORT A,~~A",
    "~~AA,~~I,~~II,~~U,~~UU,~~VOCALIC R,~~~L,~~CANDRA E,~~SHORT~,~~E,~~AI,~~CANDRA O,~~SHORT~",
    "~~O,~~AU,~~KA,~~KHA,~~GA,~~GHA,~~NGA,~~CA,~~CHA,~~JA,~~JHA,~~NYA,~~TTA,~~TTHA,~~DDA,~~DDHA",
    "~~NNA,~~TA,~~THA,~~DA,~~DHA,~~NA,~~NNNA,~~PA,~~PHA,~~BA,~~BHA,~~MA,~~YA,~~RA,~~RRA,~~LA",
    "~~LLA,~~LLLA,~~VA,~~SHA,~~SSA,~~SA,~~HA,~VOWEL SIGN OE,~~~OOE,~SIGN NUKTA,~~AVAGRAHA",
    "~VOWEL SIGN AA,~~~I,~~~II,~~~U,~~~UU,~~~VOCALIC R,~~~~RR,~~~CANDRA E,~~~SHORT~,~~~E,~~~AI",
    "~~~CANDRA O,~~~SHORT~,~~~O,~~~AU,~SIGN VIRAMA,~VOWEL SIGN PRISHTHAMATRA E,~~~AW,~OM",
    "~STRESS SIGN UDATTA,~~~ANUDATTA,~GRAVE ACCENT,~ACUTE~,~VOWEL SIGN CANDRA LONG E,~~~UE",
    "~~~UUE,~LETTER QA,~~KHHA,~~GHHA,~~ZA,~~DDDHA,~~RHA,~~FA,~~YYA,~~VOCALIC RR,~~~LL",
    "~VOWEL SIGN VOCALIC L,~~~~LL,~DANDA,~DOUBLE DANDA,~DIGIT ZERO,~~ONE,~~TWO,~~THREE,~~FOUR",
    "~~FIVE,~~SIX,~~SEVEN,~~EIGHT,~~NINE,~ABBREVIATION SIGN,~SIGN HIGH SPACING DOT",
    "~LETTER CANDRA A,~~OE,~~OOE,~~AW,~~UE,~~UUE,~~MARWARI DDA,~~ZHA,~~HEAVY YA,~~GGA,~~JJA",
    "~~GLOTTAL STOP,~~DDDA,~~BBA"]⟩,
  -- Bengali
  ⟨0x980, [
    "BENGALI ANJI,~SIGN CANDRABINDU,~~ANUSVARA,~~VISARGA,,~LETTER A,~~AA,~~I,~~II,~~U,~~UU",
    "~~VOCALIC R,~~~L,,,~~E,~~AI,,,~~O,~~AU,~~KA,~~KHA,~~GA,~~GHA,~~NGA,~~CA,~~CHA,~~JA,~~JHA",
    "~~NYA,~~TTA,~~TTHA,~~DDA,~~DDHA,~~NNA,~~TA,~~THA,~~DA,~~DHA,~~NA,,~~PA,~~PHA,~~BA,~~BHA",
    "~~MA,~~YA,~~RA,,~~LA,,,,~~SHA,~~SSA,~~SA,~~HA,,,~SIGN NUKTA,~~AVAGRAHA,~VOWEL SIGN AA,~~~I",
    "~~~II,~~~U,~~~UU,~~~VOCALIC R,~~~~RR,,,~~~E,~~~AI,,,~~~O,~~~AU,~SIGN VIRAMA",
    "~LETTER KHANDA TA,,,,,,,,,~AU LENGTH MARK,,,,,~LETTER RRA,~~RHA,,~~YYA,~~VOCALIC RR,~~~LL",
    "~VOWEL SIGN VOCALIC L,~~~~LL,,,~DIGIT ZERO,~~ONE,~~TWO,~~THREE,~~FOUR,~~FIVE,~~SIX,~~SEVEN",
    "~~EIGHT,~~NINE,~LETTER RA WITH MIDDLE DIAGONAL,~~~~LOWER~,~RUPEE MARK,~~SIGN",
    "~CURRENCY NUMERATOR ONE,~~~TWO,~~~THREE,~~~FOUR,~~~ONE LESS THAN THE DENOMINATOR",
    "~~DENOMINATOR SIXTEEN,~ISSHAR,~GANDA MARK,~LETTER VEDIC ANUSVARA,~ABBREVIATION SIGN",
    "~SANDHI MARK"]⟩,
  -- Gurmukhi
  ⟨0xa01, [
    "GURMUKHI SIGN ADAK BINDI,~~BINDI,~~VISARGA,,~LETTER A,~~AA,~~I,~~II,~~U,~~UU,,,,,~~EE,~~AI,",
    ",~~OO,~~AU,~~KA,~~KHA,~~GA,~~GHA,~~NGA,~~CA,~~CHA,~~JA,~~JHA,~~NYA,~~TTA,~~TTHA,~~DDA",
    "~~DDHA,~~NNA,~~TA,~~THA,~~DA,~~DHA,~~NA,,~~PA,~~PHA,~~BA,~~BHA,~~MA,~~YA,~~RA,,~~LA,~~LLA,",
    "~~VA,~~SHA,,~~SA,~~HA,,,~SIGN NUKTA,,~VOWEL SIGN AA,~~~I,~~~II,~~~U,~~~UU,,,,,~~~EE,~~~AI,,",
    "~~~OO,~~~AU,~SIGN VIRAMA,,,,~~UDAAT,,,,,,,,~LETTER KHHA,~~GHHA,~~ZA,~~RRA,,~~FA,,,,,,,",
    "~DIGIT ZERO,~~ONE,~~TWO,~~THREE,~~FOUR,~~FIVE,~~SIX,~~SEVEN,~~EIGHT,~~NINE,~TIPPI,~ADDAK",
    "~IRI,~URA,~EK ONKAR,~SIGN YAKASH,~ABBREVIATION SIGN"]⟩,
  -- Gujarati
  ⟨0xa81, [
    "GUJARATI SIGN CANDRABINDU,~~ANUSVARA,~~VISARGA,,~LETTER A,~~AA,~~I,~~II,~~U,~~UU",
    "~~VOCALIC R,~~~L,~VOWEL CANDRA E,,~LETTER E,~~AI,~VOWEL CANDRA O,,~LETTER O,~~AU,~~KA,~~KHA",
    "~~GA,~~GHA,~~NGA,~~CA,~~CHA,~~JA,~~JHA,~~NYA,~~TTA,~~TTHA,~~DDA,~~DDHA,~~NNA,~~TA,~~THA",
    "~~DA,~~DHA,~~NA,,~~PA,~~PHA,~~BA,~~BHA,~~MA,~~YA,~~RA,,~~LA,~~LLA,,~~VA,~~SHA,~~SSA,~~SA",
    "~~HA,,,~SIGN NUKTA,~~AVAGRAHA,~VOWEL SIGN AA,~~~I,~~~II,~~~U,~~~UU,~~~VOCALIC R,~~~~RR",
    "~~~CANDRA E,,~~~E,~~~AI,~~~CANDRA O,,~~~O,~~~AU,~SIGN VIRAMA,,,~OM"]⟩,
  ⟨0xae0, [
    "GUJARATI LETTER VOCALIC RR,~~~LL,~VOWEL SIGN VOCALIC L,~~~~LL,,,~DIGIT ZERO,~~ONE,~~TWO",
    "~~THREE,~~FOUR,~~FIVE,~~SIX,~~SEVEN,~~EIGHT,~~NINE,~ABBREVIATION SIGN,~RUPEE~,,,,,,,",
    "~LETTER ZHA,~SIGN SUKUN,~~SHADDA,~~MADDAH,~~THREE-DOT NUKTA ABOVE,~~CIRCLE~~,~~TWO-CIRCLE~~"]⟩,
  -- Oriya
  ⟨0xb01, [
    "ORIYA SIGN CANDRABINDU,~~ANUSVARA,~~VISARGA,,~LETTER A,~~AA,~~I,~~II,~~U,~~UU,~~VOCALIC R",
    "~~~L,,,~~E,~~AI,,,~~O,~~AU,~~KA,~~KHA,~~GA,~~GHA,~~NGA,~~CA,~~CHA,~~JA,~~JHA,~~NYA,~~TTA",
    "~~TTHA,~~DDA,~~DDHA,~~NNA,~~TA,~~THA,~~DA,~~DHA,~~NA,,~~PA,~~PHA,~~BA,~~BHA,~~MA,~~YA,~~RA,",
    "~~LA,~~LLA,,~~VA,~~SHA,~~SSA,~~SA,~~HA,,,~SIGN NUKTA,~~AVAGRAHA,~VOWEL SIGN AA,~~~I,~~~II",
    "~~~U,~~~UU,~~~VOCALIC R,~~~~RR,,,~~~E,~~~AI,,,~~~O,~~~AU,~SIGN VIRAMA,,,,,,,,~~OVERLINE",
    "~AI LENGTH MARK,~AU~~,,,,,~LETTER RRA,~~RHA,,~~YYA,~~VOCALIC RR,~~~LL,~VOWEL SIGN VOCALIC L",
    "~~~~LL,,,~DIGIT ZERO,~~ONE,~~TWO,~~THREE,~~FOUR,~~FIVE,~~SIX,~~SEVEN,~~EIGHT,~~NINE,~ISSHAR",
    "~LETTER WA,~FRACTION ONE QUARTER,~~~HALF,~~THREE QUARTERS,~~ONE SIXTEENTH,~~~EIGHTH",
    "~~THREE SIXTEENTHS"]⟩,
  -- Tamil
  ⟨0xb82, [
    "TAMIL SIGN ANUSVARA,~~VISARGA,,~LETTER A,~~AA,~~I,~~II,~~U,~~UU,,,,~~E,~~EE,~~AI,,~~O,~~OO",
    "~~AU,~~KA,,,,~~NGA,~~CA,,~~JA,,~~NYA,~~TTA,,,,~~NNA,~~TA,,,,~~NA,~~NNNA,~~PA,,,,~~MA,~~YA",
    "~~RA,~~RRA,~~LA,~~LLA,~~LLLA,~~VA,~~SHA,~~SSA,~~SA,~~HA,,,,,~VOWEL SIGN AA,~~~I,~~~II,~~~U",
    "~~~UU,,,,~~~E,~~~EE,~~~AI,,~~~O,~~~OO,~~~AU,~SIGN VIRAMA,,,~OM,,,,,,,~AU LENGTH MARK"]⟩,
  ⟨0xbe6, [
    "TAMIL DIGIT ZERO,~~ONE,~~TWO,~~THREE,~~FOUR,~~FIVE,~~SIX,~~SEVEN,~~EIGHT,~~NINE,~NUMBER TEN",
    "~~ONE HUNDRED,~~~THOUSAND,~DAY SIGN,~MONTH~,~YEAR~,~DEBIT~,~CREDIT~,~AS ABOVE SIGN",
    "~RUPEE SIGN,~NUMBER~"]⟩,
  -- Telugu
  ⟨0xc00, [
    "TELUGU SIGN COMBINING CANDRABINDU ABOVE,~~CANDRABINDU,~~ANUSVARA,~~VISARGA",
    "~~COMBINING ANUSVARA ABOVE,~LETTER A,~~AA,~~I,~~II,~~U,~~UU,~~VOCALIC R,~~~L,,~~E,~~EE,~~AI",
    ",~~O,~~OO,~~AU,~~KA,~~KHA,~~GA,~~GHA,~~NGA,~~CA,~~CHA,~~JA,~~JHA,~~NYA,~~TTA,~~TTHA,~~DDA",
    "~~DDHA,~~NNA,~~TA,~~THA,~~DA,~~DHA,~~NA,,~~PA,~~PHA,~~BA,~~BHA,~~MA,~~YA,~~RA,~~RRA,~~LA",
    "~~LLA,~~LLLA,~~VA,~~SHA,~~SSA,~~SA,~~HA,,,~SIGN NUKTA,~~AVAGRAHA,~VOWEL SIGN AA,~~~I,~~~II",
    "~~~U,~~~UU,~~~VOCALIC R,~~~~RR,,~~~E,~~~EE,~~~AI,,~~~O,~~~OO,~~~AU,~SIGN VIRAMA,,,,,,,",
    "~LENGTH MARK,~AI LENGTH MARK,,~LETTER TSA,~~DZA,~~RRRA,,,~~NAKAARA POLLU,,,~~VOCALIC RR",
    "~~~LL,~VOWEL SIGN VOCALIC L,~~~~LL,,,~DIGIT ZERO,~~ONE,~~TWO,~~THREE,~~FOUR,~~FIVE,~~SIX",
    "~~SEVEN,~~EIGHT,~~NINE,,,,,,,,~SIGN SIDDHAM,~FRACTION DIGIT ZERO FOR ODD POWERS OF FOUR",
    "~~~ONE~~~~~,~~~TWO~~~~~,~~~THREE~~~~~,~~~ONE~EVEN~~~,~~~TWO~~~~~,~~~THREE~~~~~,~SIGN TUUMU"]⟩,
  -- Kannada
  ⟨0xc80, [
    "KANNADA SIGN SPACING CANDRABINDU,~~CANDRABINDU,~~ANUSVARA,~~VISARGA,~~SIDDHAM,~LETTER A",
    "~~AA,~~I,~~II,~~U,~~UU,~~VOCALIC R,~~~L,,~~E,~~EE,~~AI,,~~O,~~OO,~~AU,~~KA,~~KHA,~~GA,~~GHA",
    "~~NGA,~~CA,~~CHA,~~JA,~~JHA,~~NYA,~~TTA,~~TTHA,~~DDA,~~DDHA,~~NNA,~~TA,~~THA,~~DA,~~DHA",
    "~~NA,,~~PA,~~PHA,~~BA,~~BHA,~~MA,~~YA,~~RA,~~RRA,~~LA,~~LLA,,~~VA,~~SHA,~~SSA,~~SA,~~HA,,",
    "~SIGN NUKTA,~~AVAGRAHA,~VOWEL SIGN AA,~~~I,~~~II,~~~U,~~~UU,~~~VOCALIC R,~~~~RR,,~~~E,~~~EE",
    "~~~AI,,~~~O,~~~OO,~~~AU,~SIGN VIRAMA,,,,,,,,~LENGTH MARK,~AI LENGTH MARK,,,,,,",
    "~LETTER NAKAARA POLLU,~~FA,,~~VOCALIC RR,~~~LL,~VOWEL SIGN VOCALIC L,~~~~LL,,,~DIGIT ZERO",
    "~~ONE,~~TWO,~~THREE,~~FOUR,~~FIVE,~~SIX,~~SEVEN,~~EIGHT,~~NINE,,~SIGN JIHVAMULIYA",
    "~~UPADHMANIYA"]⟩,
  -- Malayalam
  ⟨0xd00, [
    "MALAYALAM SIGN COMBINING ANUSVARA ABOVE,~~CANDRABINDU,~~ANUSVARA,~~VISARGA",
    "~LETTER VEDIC ANUSVARA,~~A,~~AA,~~I,~~II,~~U,~~UU,~~VOCALIC R,~~~L,,~~E,~~EE,~~AI,,~~O,~~OO",
    "~~AU,~~KA,~~KHA,~~GA,~~GHA,~~NGA,~~CA,~~CHA,~~JA,~~JHA,~~NYA,~~TTA,~~TTHA,~~DDA,~~DDHA",
    "~~NNA,~~TA,~~THA,~~DA,~~DHA,~~NA,~~NNNA,~~PA,~~PHA,~~BA,~~BHA,~~MA,~~YA,~~RA,~~RRA,~~LA",
    "~~LLA,~~LLLA,~~VA,~~SHA,~~SSA,~~SA,~~HA,~~TTTA,~SIGN VERTICAL BAR VIRAMA,~~CIRCULAR VIRAMA",
    "~~AVAGRAHA,~VOWEL SIGN AA,~~~I,~~~II,~~~U,~~~UU,~~~VOCALIC R,~~~~RR,,~~~E,~~~EE,~~~AI,,~~~O",
    "~~~OO,~~~AU,~SIGN VIRAMA,~LETTER DOT REPH,~SIGN PARA,,,,,~LETTER CHILLU M,~~~Y,~~~LLL",
    "~AU LENGTH MARK,~FRACTION ONE ONE-HUNDRED-AND-SIXTIETH,~~~FORTIETH,~~THREE EIGHTIETHS",
    "~~ONE TWENTIETH,~~~TENTH,~~THREE TWENTIETHS,~~ONE FIFTH,~LETTER ARCHAIC II,~~VOCALIC RR",
    "~~~LL,~VOWEL SIGN VOCALIC L,~~~~LL,,,~DIGIT ZERO,~~ONE,~~TWO,~~THREE,~~FOUR,~~FIVE,~~SIX",
    "~~SEVEN,~~EIGHT,~~NINE,~NUMBER TEN,~~ONE HUNDRED,~~~THOUSAND,~FRACTION~QUARTER,~~~HALF",
    "~~THREE QUARTERS,~~ONE SIXTEENTH,~~~EIGHTH,~~THREE SIXTEENTHS,~DATE MARK,~LETTER CHILLU NN",
    "~~~N,~~~RR,~~~L,~~~LL,~~~K"]⟩,
  -- Sinhala
  ⟨0xd81, [
    "SINHALA SIGN CANDRABINDU,~~ANUSVARAYA,~~VISARGAYA,,~LETTER AYANNA,~~AAYANNA,~~AEYANNA",
    "~~AEEYANNA,~~IYANNA,~~IIYANNA,~~UYANNA,~~UUYANNA,~~IRUYANNA,~~IRUUYANNA,~~ILUYANNA",
    "~~ILUUYANNA,~~EYANNA,~~EEYANNA,~~AIYANNA,~~OYANNA,~~OOYANNA,~~AUYANNA,,,",
    "~~ALPAPRAANA KAYANNA,~~MAHAAPRAANA~,~~ALPAPRAANA GAYANNA,~~MAHAAPRAANA~",
    "~~KANTAJA NAASIKYAYA,~~SANYAKA GAYANNA,~~ALPAPRAANA CAYANNA,~~MAHAAPRAANA~",
    "~~ALPAPRAANA JAYANNA,~~MAHAAPRAANA~,~~TAALUJA NAASIKYAYA,~~~SANYOOGA NAAKSIKYAYA",
    "~~SANYAKA JAYANNA,~~ALPAPRAANA TTAYANNA,~~MAHAAPRAANA~,~~ALPAPRAANA DDAYANNA,~~MAHAAPRAANA~",
    "~~MUURDHAJA NAYANNA,~~SANYAKA DDAYANNA,~~ALPAPRAANA TAYANNA,~~MAHAAPRAANA~",
    "~~ALPAPRAANA DAYANNA,~~MAHAAPRAANA~,~~DANTAJA NAYANNA,,~~SANYAKA DAYANNA",
    "~~ALPAPRAANA PAYANNA,~~MAHAAPRAANA~,~~ALPAPRAANA BAYANNA,~~MAHAAPRAANA~,~~MAYANNA",
    "~~AMBA BAYANNA,~~YAYANNA,~~RAYANNA,,~~DANTAJA LAYANNA,,,~~VAYANNA,~~TAALUJA SAYANNA",
    "~~MUURDHAJA~,~~DANTAJA~,~~HAYANNA,~~MUURDHAJA LAYANNA,~~FAYANNA,,,,~SIGN AL-LAKUNA,,,,",
    "~VOWEL SIGN AELA-PILLA,~~~KETTI AEDA-PILLA,~~~DIGA~,~~~KETTI IS-PILLA,~~~DIGA~",
    "~~~KETTI PAA-PILLA,,~~~DIGA~,,~~~GAETTA-PILLA,~~~KOMBUVA,~~~DIGA KOMBUVA,~~~KOMBU DEKA",
    "~~~KOMBUVA HAA AELA-PILLA,~~~~~DIGA AELA-PILLA,~~~~~GAYANUKITTA,~~~GAYANUKITTA,,,,,,",
    "~LITH DIGIT ZERO,~~~ONE,~~~TWO,~~~THREE,~~~FOUR,~~~FIVE,~~~SIX,~~~SEVEN,~~~EIGHT,~~~NINE,,",
    "~VOWEL SIGN DIGA GAETTA-PILLA,~~~~GAYANUKITTA,~PUNCTUATION KUNDDALIYA"]⟩,
  -- Limbu
  ⟨0x1900, [
    "LIMBU VOWEL-CARRIER LETTER,~LETTER KA,~~KHA,~~GA,~~GHA,~~NGA,~~CA,~~CHA,~~JA,~~JHA,~~YAN",
    "~~TA,~~THA,~~DA,~~DHA,~~NA,~~PA,~~PHA,~~BA,~~BHA,~~MA,~~YA,~~RA,~~LA,~~WA,~~SHA,~~SSA,~~SA",
    "~~HA,~~GYAN,~~TRA,,~VOWEL SIGN A,~~~I,~~~U,~~~EE,~~~AI,~~~OO,~~~AU,~~~E,~~~O",
    "~SUBJOINED LETTER YA,~~~RA,~~~WA,,,,,~SMALL~KA,~~~NGA,~~~ANUSVARA,~~~TA,~~~NA,~~~PA,~~~MA",
    "~~~RA,~~~LA,~SIGN MUKPHRENG,~~KEMPHRENG,~~SA-I,,,,,~~LOO,,,,~EXCLAMATION MARK,~QUESTION~",
    "~DIGIT ZERO,~~ONE,~~TWO,~~THREE,~~FOUR,~~FIVE,~~SIX,~~SEVEN,~~EIGHT,~~NINE"]⟩,
  -- Lepcha
  ⟨0x1c00, [
    "LEPCHA LETTER KA,~~KLA,~~KHA,~~GA,~~GLA,~~NGA,~~CA,~~CHA,~~JA,~~NYA,~~TA,~~THA,~~DA,~~NA",
    "~~PA,~~PLA,~~PHA,~~FA,~~FLA,~~BA,~~BLA,~~MA,~~MLA,~~TSA,~~TSHA,~~DZA,~~YA,~~RA,~~LA,~~HA",
    "~~HLA,~~VA,~~SA,~~SHA,~~WA,~~A,~SUBJOINED LETTER YA,~~~RA,~VOWEL SIGN AA,~~~I,~~~O,~~~OO",
    "~~~U,~~~UU,~~~E,~CONSONANT~K,~~~M,~~~L,~~~N,~~~P,~~~R,~~~T,~~~NYIN-DO,~~~KANG,~SIGN RAN",
    "~~NUKTA,,,,~PUNCTUATION TA-ROL,~~NYET THYOOM TA-ROL,~~CER-WA,~~TSHOOK CER-WA,~~~",
    "~DIGIT ZERO,~~ONE,~~TWO,~~THREE,~~FOUR,~~FIVE,~~SIX,~~SEVEN,~~EIGHT,~~NINE,,,,~LETTER TTA",
    "~~TTHA,~~DDA"]⟩,
  -- Ol Chiki
  ⟨0x1c50, [
    "OL CHIKI DIGIT ZERO,~~~ONE,~~~TWO,~~~THREE,~~~FOUR,~~~FIVE,~~~SIX,~~~SEVEN,~~~EIGHT,~~~NINE",
    "~~LETTER LA,~~~AT,~~~AG,~~~ANG,~~~AL,~~~LAA,~~~AAK,~~~AAJ,~~~AAM,~~~AAW,~~~LI,~~~IS,~~~IH",
    "~~~INY,~~~IR,~~~LU,~~~UC,~~~UD,~~~UNN,~~~UY,~~~LE,~~~EP,~~~EDD,~~~EN,~~~ERR,~~~LO,~~~OTT",
    "~~~OB,~~~OV,~~~OH,~~MU TTUDDAG,~~GAAHLAA TTUDDAAG,~~MU-GAAHLAA~,~~RELAA,~~PHAARKAA,~~AHAD",
    "~~PUNCTUATION MUCAAD,~~~DOUBLE MUCAAD"]⟩,
  -- Vedic Extensions
  ⟨0x1cd0, [
    "VEDIC TONE KARSHANA,~~SHARA,~~PRENKHA,~SIGN NIHSHVASA,~~YAJURVEDIC MIDLINE SVARITA",
    "~TONE~AGGRAVATED INDEPENDENT SVARITA,~~~INDEPENDENT SVARITA,~~~KATHAKA INDEPENDENT SVARITA",
    "~~CANDRA BELOW,~~YAJURVEDIC KATHAKA INDEPENDENT SVARITA SCHROEDER,~~DOUBLE SVARITA",
    "~~TRIPLE~,~~KATHAKA ANUDATTA,~~DOT BELOW,~~TWO DOTS BELOW,~~THREE~~",
    "~~RIGVEDIC KASHMIRI INDEPENDENT SVARITA,~~ATHARVAVEDIC INDEPENDENT SVARITA",
    "~SIGN VISARGA SVARITA,~~~UDATTA,~~REVERSED VISARGA UDATTA,~~VISARGA ANUDATTA",
    "~~REVERSED VISARGA ANUDATTA,~~VISARGA UDATTA WITH TAIL,~~~ANUDATTA~~",
    "~~ANUSVARA ANTARGOMUKHA,~~~BAHIRGOMUKHA,~~~VAMAGOMUKHA,~~~~WITH TAIL,~~TIRYAK",
    "~~HEXIFORM LONG ANUSVARA,~~LONG ANUSVARA,~~RTHANG LONG ANUSVARA,~~ANUSVARA UBHAYATO MUKHA",
    "~~ARDHAVISARGA,~~ROTATED ARDHAVISARGA,~TONE CANDRA ABOVE,~SIGN JIHVAMULIYA,~~UPADHMANIYA",
    "~~ATIKRAMA,~TONE RING ABOVE,~~DOUBLE RING ABOVE,~SIGN~ANUSVARA ANTARGOMUKHA"]⟩,
  -- Syloti Nagri
  ⟨0xa800, [
    "SYLOTI NAGRI LETTER A,~~~I,~~SIGN DVISVARA,~~LETTER U,~~~E,~~~O,~~SIGN HASANTA,~~LETTER KO",
    "~~~KHO,~~~GO,~~~GHO,~~SIGN ANUSVARA,~~LETTER CO,~~~CHO,~~~JO,~~~JHO,~~~TTO,~~~TTHO,~~~DDO",
    "~~~DDHO,~~~TO,~~~THO,~~~DO,~~~DHO,~~~NO,~~~PO,~~~PHO,~~~BO,~~~BHO,~~~MO,~~~RO,~~~LO,~~~RRO",
    "~~~SO,~~~HO,~~VOWEL SIGN A,~~~~I,~~~~U,~~~~E,~~~~OO,~~POETRY MARK-1,~~~MARK-2,~~~MARK-3",
    "~~~MARK-4,~~SIGN ALTERNATE HASANTA"]⟩,
  -- Common Indic Number Forms
  ⟨0xa830, [
    "NORTH INDIC FRACTION ONE QUARTER,~~~~HALF,~~~THREE QUARTERS,~~~ONE SIXTEENTH,~~~~EIGHTH",
    "~~~THREE SIXTEENTHS,~~QUARTER MARK,~~PLACEHOLDER~,~~RUPEE~,~~QUANTITY~"]⟩,
  -- Saurashtra
  ⟨0xa880, [
    "SAURASHTRA SIGN ANUSVARA,~~VISARGA,~LETTER A,~~AA,~~I,~~II,~~U,~~UU,~~VOCALIC R,~~~RR,~~~L",
    "~~~LL,~~E,~~EE,~~AI,~~O,~~OO,~~AU,~~KA,~~KHA,~~GA,~~GHA,~~NGA,~~CA,~~CHA,~~JA,~~JHA,~~NYA",
    "~~TTA,~~TTHA,~~DDA,~~DDHA,~~NNA,~~TA,~~THA,~~DA,~~DHA,~~NA,~~PA,~~PHA,~~BA,~~BHA,~~MA,~~YA",
    "~~RA,~~LA,~~VA,~~SHA,~~SSA,~~SA,~~HA,~~LLA,~CONSONANT SIGN HAARU,~VOWEL~AA,~~~I,~~~II,~~~U",
    "~~~UU,~~~VOCALIC R,~~~~RR,~~~~L,~~~~LL,~~~E,~~~EE,~~~AI,~~~O,~~~OO,~~~AU,~SIGN VIRAMA",
    "~~CANDRABINDU,,,,,,,,,~DANDA,~DOUBLE DANDA,~DIGIT ZERO,~~ONE,~~TWO,~~THREE,~~FOUR,~~FIVE",
    "~~SIX,~~SEVEN,~~EIGHT,~~NINE"]⟩,
  -- Devanagari Extended
  ⟨0xa8e0, [
    "COMBINING DEVANAGARI DIGIT ZERO,~~~ONE,~~~TWO,~~~THREE,~~~FOUR,~~~FIVE,~~~SIX,~~~SEVEN",
    "~~~EIGHT,~~~NINE,~~LETTER A,~~~U,~~~KA,~~~NA,~~~PA,~~~RA,~~~VI,~~SIGN AVAGRAHA",
    "DEVANAGARI SIGN SPACING CANDRABINDU,~~CANDRABINDU VIRAMA,~~DOUBLE CANDRABINDU VIRAMA",
    "~~CANDRABINDU TWO,~~~THREE,~~~AVAGRAHA,~~PUSHPIKA,~GAP FILLER,~CARET,~HEADSTROKE",
    "~SIGN SIDDHAM,~JAIN OM,~LETTER AY,~VOWEL SIGN AY"]⟩,
  -- Meetei Mayek Extensions
  ⟨0xaae0, [
    "MEETEI MAYEK LETTER E,~~~O,~~~CHA,~~~NYA,~~~TTA,~~~TTHA,~~~DDA,~~~DDHA,~~~NNA,~~~SHA,~~~SSA",
    "~~VOWEL SIGN II,~~~~UU,~~~~AAI,~~~~AU,~~~~AAU,~~CHEIKHAN,~~AHANG KHUDAM,~~ANJI",
    "~~SYLLABLE REPETITION MARK,~~WORD~~,~~VOWEL SIGN VISARGA,~~VIRAMA"]⟩,
  -- Meetei Mayek
  ⟨0xabc0, [
    "MEETEI MAYEK LETTER KOK,~~~SAM,~~~LAI,~~~MIT,~~~PA,~~~NA,~~~CHIL,~~~TIL,~~~KHOU,~~~NGOU",
    "~~~THOU,~~~WAI,~~~YANG,~~~HUK,~~~UN,~~~I,~~~PHAM,~~~ATIYA,~~~GOK,~~~JHAM,~~~RAI,~~~BA",
    "~~~JIL,~~~DIL,~~~GHOU,~~~DHOU,~~~BHAM,~~~KOK LONSUM,~~~LAI~,~~~MIT~,~~~PA~,~~~NA~,~~~TIL~",
    "~~~NGOU~,~~~I~,~~VOWEL SIGN ONAP,~~~~INAP,~~~~ANAP,~~~~YENAP,~~~~SOUNAP,~~~~UNAP",
    "~~~~CHEINAP,~~~~NUNG,~~CHEIKHEI,~~LUM IYEK,~~APUN~,,,~~DIGIT ZERO,~~~ONE,~~~TWO,~~~THREE",
    "~~~FOUR,~~~FIVE,~~~SIX,~~~SEVEN,~~~EIGHT,~~~NINE"]⟩,
  -- Hanifi Rohingya
  ⟨0x10d00, [
    "HANIFI ROHINGYA LETTER A,~~~BA,~~~PA,~~~TA,~~~TTA,~~~JA,~~~CA,~~~HA,~~~KHA,~~~FA,~~~DA",
    "~~~DDA,~~~RA,~~~RRA,~~~ZA,~~~SA,~~~SHA,~~~KA,~~~GA,~~~LA,~~~MA,~~~NA,~~~WA,~~~KINNA WA",
    "~~~YA,~~~KINNA YA,~~~NGA,~~~NYA,~~~VA,~~VOWEL A,~~~I,~~~U,~~~E,~~~O,~~MARK SAKIN",
    "~~~NA KHONNA,~~SIGN HARBAHAY,~~~TAHALA,~~~TANA,~~~TASSI,,,,,,,,,~~DIGIT ZERO,~~~ONE,~~~TWO",
    "~~~THREE,~~~FOUR,~~~FIVE,~~~SIX,~~~SEVEN,~~~EIGHT,~~~NINE"]⟩,
  -- Brahmi
  ⟨0x11000, [
    "BRAHMI SIGN CANDRABINDU,~~ANUSVARA,~~VISARGA,~~JIHVAMULIYA,~~UPADHMANIYA,~LETTER A,~~AA,~~I",
    "~~II,~~U,~~UU,~~VOCALIC R,~~~RR,~~~L,~~~LL,~~E,~~AI,~~O,~~AU,~~KA,~~KHA,~~GA,~~GHA,~~NGA",
    "~~CA,~~CHA,~~JA,~~JHA,~~NYA,~~TTA,~~TTHA,~~DDA,~~DDHA,~~NNA,~~TA,~~THA,~~DA,~~DHA,~~NA,~~PA",
    "~~PHA,~~BA,~~BHA,~~MA,~~YA,~~RA,~~LA,~~VA,~~SHA,~~SSA,~~SA,~~HA,~~LLA,~~OLD TAMIL LLLA",
    "~~~~RRA,~~~~NNNA,~VOWEL SIGN AA,~~~BHATTIPROLU AA,~~~I,~~~II,~~~U,~~~UU,~~~VOCALIC R,~~~~RR",
    "~~~~L,~~~~LL,~~~E,~~~AI,~~~O,~~~AU,~VIRAMA,~DANDA,~DOUBLE DANDA,~PUNCTUATION DOT",
    "~~DOUBLE DOT,~~LINE,~~CRESCENT BAR,~~LOTUS,,,,,~NUMBER ONE,~~TWO,~~THREE,~~FOUR,~~FIVE",
    "~~SIX,~~SEVEN,~~EIGHT,~~NINE,~~TEN,~~TWENTY,~~THIRTY,~~FORTY,~~FIFTY,~~SIXTY,~~SEVENTY",
    "~~EIGHTY,~~NINETY,~~ONE HUNDRED,~~~THOUSAND,~DIGIT ZERO,~~ONE,~~TWO,~~THREE,~~FOUR,~~FIVE",
    "~~SIX,~~SEVEN,~~EIGHT,~~NINE,~SIGN OLD TAMIL VIRAMA,~LETTER~~SHORT E,~~~~~O",
    "~VOWEL SIGN OLD TAMIL SHORT E,~~~~~~O,~LETTER OLD TAMIL LLA,,,,,,,,,,~NUMBER JOINER"]⟩,
  -- Kaithi
  ⟨0x11080, [
    "KAITHI SIGN CANDRABINDU,~~ANUSVARA,~~VISARGA,~LETTER A,~~AA,~~I,~~II,~~U,~~UU,~~E,~~AI,~~O",
    "~~AU,~~KA,~~KHA,~~GA,~~GHA,~~NGA,~~CA,~~CHA,~~JA,~~JHA,~~NYA,~~TTA,~~TTHA,~~DDA,~~DDDHA",
    "~~DDHA,~~RHA,~~NNA,~~TA,~~THA,~~DA,~~DHA,~~NA,~~PA,~~PHA,~~BA,~~BHA,~~MA,~~YA,~~RA,~~LA",
    "~~VA,~~SHA,~~SSA,~~SA,~~HA,~VOWEL SIGN AA,~~~I,~~~II,~~~U,~~~UU,~~~E,~~~AI,~~~O,~~~AU",
    "~SIGN VIRAMA,~~NUKTA,~ABBREVIATION SIGN,~ENUMERATION~,~NUMBER~,~SECTION MARK",
    "~DOUBLE SECTION MARK,~DANDA,~DOUBLE DANDA,~VOWEL SIGN VOCALIC R,,,,,,,,,,,~NUMBER~ABOVE"]⟩,
  -- Sora Sompeng
  ⟨0x110d0, [
    "SORA SOMPENG LETTER SAH,~~~TAH,~~~BAH,~~~CAH,~~~DAH,~~~GAH,~~~MAH,~~~NGAH,~~~LAH,~~~NAH",
    "~~~VAH,~~~PAH,~~~YAH,~~~RAH,~~~HAH,~~~KAH,~~~JAH,~~~NYAH,~~~AH,~~~EEH,~~~IH,~~~UH,~~~OH",
    "~~~EH,~~~MAE,,,,,,,,~~DIGIT ZERO,~~~ONE,~~~TWO,~~~THREE,~~~FOUR,~~~FIVE,~~~SIX,~~~SEVEN",
    "~~~EIGHT,~~~NINE"]⟩,
  -- Chakma
  ⟨0x11100, [
    "CHAKMA SIGN CANDRABINDU,~~ANUSVARA,~~VISARGA,~LETTER AA,~~I,~~U,~~E,~~KAA,~~KHAA,~~GAA",
    "~~GHAA,~~NGAA,~~CAA,~~CHAA,~~JAA,~~JHAA,~~NYAA,~~TTAA,~~TTHAA,~~DDAA,~~DDHAA,~~NNAA,~~TAA",
    "~~THAA,~~DAA,~~DHAA,~~NAA,~~PAA,~~PHAA,~~BAA,~~BHAA,~~MAA,~~YYAA,~~YAA,~~RAA,~~LAA,~~WAA",
    "~~SAA,~~HAA,~VOWEL SIGN A,~~~I,~~~II,~~~U,~~~UU,~~~E,~~~AI,~~~O,~~~AU,~~~OI,~O MARK,~AU~",
    "~VIRAMA,~MAAYYAA,,~DIGIT ZERO,~~ONE,~~TWO,~~THREE,~~FOUR,~~FIVE,~~SIX,~~SEVEN,~~EIGHT",
    "~~NINE,~SECTION MARK,~DANDA,~DOUBLE DANDA,~QUESTION MARK,~LETTER LHAA,~VOWEL SIGN AA,~~~EI",
    "~LETTER VAA"]⟩,
  -- Mahajani
  ⟨0x11150, [
    "MAHAJANI LETTER A,~~I,~~U,~~E,~~O,~~KA,~~KHA,~~GA,~~GHA,~~CA,~~CHA,~~JA,~~JHA,~~NYA,~~TTA",
    "~~TTHA,~~DDA,~~DDHA,~~NNA,~~TA,~~THA,~~DA,~~DHA,~~NA,~~PA,~~PHA,~~BA,~~BHA,~~MA,~~RA,~~LA",
    "~~VA,~~SA,~~HA,~~RRA,~SIGN NUKTA,~ABBREVIATION SIGN,~SECTION MARK,~LIGATURE SHRI"]⟩,
  -- Sharada
  ⟨0x11180, [
    "SHARADA SIGN CANDRABINDU,~~ANUSVARA,~~VISARGA,~LETTER A,~~AA,~~I,~~II,~~U,~~UU,~~VOCALIC R",
    "~~~RR,~~~L,~~~LL,~~E,~~AI,~~O,~~AU,~~KA,~~KHA,~~GA,~~GHA,~~NGA,~~CA,~~CHA,~~JA,~~JHA,~~NYA",
    "~~TTA,~~TTHA,~~DDA,~~DDHA,~~NNA,~~TA,~~THA,~~DA,~~DHA,~~NA,~~PA,~~PHA,~~BA,~~BHA,~~MA,~~YA",
    "~~RA,~~LA,~~LLA,~~VA,~~SHA,~~SSA,~~SA,~~HA,~VOWEL SIGN AA,~~~I,~~~II,~~~U,~~~UU",
    "~~~VOCALIC R,~~~~RR,~~~~L,~~~~LL,~~~E,~~~AI,~~~O,~~~AU,~SIGN VIRAMA,~~AVAGRAHA",
    "~~JIHVAMULIYA,~~UPADHMANIYA,~OM,~DANDA,~DOUBLE DANDA,~ABBREVIATION SIGN,~SEPARATOR",
    "~SANDHI MARK,~SIGN NUKTA,~VOWEL MODIFIER MARK,~EXTRA SHORT VOWEL MARK,~SUTRA MARK",
    "~VOWEL SIGN PRISHTHAMATRA E,~SIGN INVERTED CANDRABINDU,~DIGIT ZERO,~~ONE,~~TWO,~~THREE",
    "~~FOUR,~~FIVE,~~SIX,~~SEVEN,~~EIGHT,~~NINE,~EKAM,~SIGN SIDDHAM,~HEADSTROKE",
    "~CONTINUATION SIGN,~SECTION MARK-1,~~MARK-2"]⟩,
  -- Sinhala Archaic Numbers
  ⟨0x111e1, [
    "SINHALA ARCHAIC DIGIT ONE,~~~TWO,~~~THREE,~~~FOUR,~~~FIVE,~~~SIX,~~~SEVEN,~~~EIGHT,~~~NINE",
    "~~NUMBER TEN,~~~TWENTY,~~~THIRTY,~~~FORTY,~~~FIFTY,~~~SIXTY,~~~SEVENTY,~~~EIGHTY,~~~NINETY",
    "~~~ONE HUNDRED,~~~~THOUSAND"]⟩,
  -- Khojki
  ⟨0x11200, [
    "KHOJKI LETTER A,~~AA,~~I,~~U,~~E,~~AI,~~O,~~AU,~~KA,~~KHA,~~GA,~~GGA,~~GHA,~~NGA,~~CA,~~CHA",
    "~~JA,~~JJA,,~~NYA,~~TTA,~~TTHA,~~DDA,~~DDHA,~~NNA,~~TA,~~THA,~~DA,~~DDDA,~~DHA,~~NA,~~PA",
    "~~PHA,~~BA,~~BBA,~~BHA,~~MA,~~YA,~~RA,~~LA,~~VA,~~SA,~~HA,~~LLA,~VOWEL SIGN AA,~~~I,~~~II",
    "~~~U,~~~E,~~~AI,~~~O,~~~AU,~SIGN ANUSVARA,~~VIRAMA,~~NUKTA,~~SHADDA,~DANDA,~DOUBLE DANDA",
    "~WORD SEPARATOR,~SECTION MARK,~DOUBLE SECTION MARK,~ABBREVIATION SIGN,~SIGN SUKUN"]⟩,
  -- Multani
  ⟨0x11280, [
    "MULTANI LETTER A,~~I,~~U,~~E,~~KA,~~KHA,~~GA,,~~GHA,,~~CA,~~CHA,~~JA,~~JJA,,~~NYA,~~TTA",
    "~~TTHA,~~DDA,~~DDDA,~~DDHA,~~NNA,~~TA,~~THA,~~DA,~~DHA,~~NA,~~PA,~~PHA,~~BA,,~~BHA,~~MA",
    "~~YA,~~RA,~~LA,~~VA,~~SA,~~HA,~~RRA,~~RHA,~SECTION MARK"]⟩,
  -- Khudawadi
  ⟨0x112b0, [
    "KHUDAWADI LETTER A,~~AA,~~I,~~II,~~U,~~UU,~~E,~~AI,~~O,~~AU,~~KA,~~KHA,~~GA,~~GGA,~~GHA",
    "~~NGA,~~CA,~~CHA,~~JA,~~JJA,~~JHA,~~NYA,~~TTA,~~TTHA,~~DDA,~~DDDA,~~RRA,~~DDHA,~~NNA,~~TA",
    "~~THA,~~DA,~~DHA,~~NA,~~PA,~~PHA,~~BA,~~BBA,~~BHA,~~MA,~~YA,~~RA,~~LA,~~VA,~~SHA,~~SA,~~HA",
    "~SIGN ANUSVARA,~VOWEL SIGN AA,~~~I,~~~II,~~~U,~~~UU,~~~E,~~~AI,~~~O,~~~AU,~SIGN NUKTA",
    "~~VIRAMA,,,,,,~DIGIT ZERO,~~ONE,~~TWO,~~THREE,~~FOUR,~~FIVE,~~SIX,~~SEVEN,~~EIGHT,~~NINE"]⟩,
  -- Grantha
  ⟨0x11300, [
    "GRANTHA SIGN COMBINING ANUSVARA ABOVE,~~CANDRABINDU,~~ANUSVARA,~~VISARGA,,~LETTER A,~~AA",
    "~~I,~~II,~~U,~~UU,~~VOCALIC R,~~~L,,,~~EE,~~AI,,,~~OO,~~AU,~~KA,~~KHA,~~GA,~~GHA,~~NGA,~~CA",
    "~~CHA,~~JA,~~JHA,~~NYA,~~TTA,~~TTHA,~~DDA,~~DDHA,~~NNA,~~TA,~~THA,~~DA,~~DHA,~~NA,,~~PA",
    "~~PHA,~~BA,~~BHA,~~MA,~~YA,~~RA,,~~LA,~~LLA,,~~VA,~~SHA,~~SSA,~~SA,~~HA,",
    "COMBINING BINDU BELOW,GRANTHA SIGN NUKTA,~~AVAGRAHA,~VOWEL SIGN AA,~~~I,~~~II,~~~U,~~~UU",
    "~~~VOCALIC R,~~~~RR,,,~~~EE,~~~AI,,,~~~OO,~~~AU,~SIGN VIRAMA,,,~OM,,,,,,,~AU LENGTH MARK,,,",
    ",,~SIGN PLUTA,~LETTER VEDIC ANUSVARA,~~~DOUBLE ANUSVARA,~~VOCALIC RR,~~~LL",
    "~VOWEL SIGN VOCALIC L,~~~~LL,,,COMBINING GRANTHA DIGIT ZERO,~~~ONE,~~~TWO,~~~THREE,~~~FOUR",
    "~~~FIVE,~~~SIX,,,,~~LETTER A,~~~KA,~~~NA,~~~VI,~~~PA"]⟩,
  -- Newa
  ⟨0x11400, [
    "NEWA LETTER A,~~AA,~~I,~~II,~~U,~~UU,~~VOCALIC R,~~~RR,~~~L,~~~LL,~~E,~~AI,~~O,~~AU,~~KA",
    "~~KHA,~~GA,~~GHA,~~NGA,~~NGHA,~~CA,~~CHA,~~JA,~~JHA,~~NYA,~~NYHA,~~TTA,~~TTHA,~~DDA,~~DDHA",
    "~~NNA,~~TA,~~THA,~~DA,~~DHA,~~NA,~~NHA,~~PA,~~PHA,~~BA,~~BHA,~~MA,~~MHA,~~YA,~~RA,~~RHA",
    "~~LA,~~LHA,~~WA,~~SHA,~~SSA,~~SA,~~HA,~VOWEL SIGN AA,~~~I,~~~II,~~~U,~~~UU,~~~VOCALIC R",
    "~~~~RR,~~~~L,~~~~LL,~~~E,~~~AI,~~~O,~~~AU,~SIGN VIRAMA,~~CANDRABINDU,~~ANUSVARA,~~VISARGA",
    "~~NUKTA,~~AVAGRAHA,~~FINAL ANUSVARA,~OM,~SIDDHI,~DANDA,~DOUBLE DANDA,~COMMA,~GAP FILLER",
    "~ABBREVIATION SIGN,~DIGIT ZERO,~~ONE,~~TWO,~~THREE,~~FOUR,~~FIVE,~~SIX,~~SEVEN,~~EIGHT",
    "~~NINE,~DOUBLE COMMA,~PLACEHOLDER MARK,,~INSERTION SIGN,~SANDHI MARK,~LETTER VEDIC ANUSVARA",
    "~SIGN JIHVAMULIYA,~~UPADHMANIYA"]⟩,
  -- Tirhuta
  ⟨0x11480, [
    "TIRHUTA ANJI,~LETTER A,~~AA,~~I,~~II,~~U,~~UU,~~VOCALIC R,~~~RR,~~~L,~~~LL,~~E,~~AI,~~O",
    "~~AU,~~KA,~~KHA,~~GA,~~GHA,~~NGA,~~CA,~~CHA,~~JA,~~JHA,~~NYA,~~TTA,~~TTHA,~~DDA,~~DDHA",
    "~~NNA,~~TA,~~THA,~~DA,~~DHA,~~NA,~~PA,~~PHA,~~BA,~~BHA,~~MA,~~YA,~~RA,~~LA,~~VA,~~SHA,~~SSA",
    "~~SA,~~HA,~VOWEL SIGN AA,~~~I,~~~II,~~~U,~~~UU,~~~VOCALIC R,~~~~RR,~~~~L,~~~~LL,~~~E",
    "~~~SHORT E,~~~AI,~~~O,~~~SHORT O,~~~AU,~SIGN CANDRABINDU,~~ANUSVARA,~~VISARGA,~~VIRAMA",
    "~~NUKTA,~~AVAGRAHA,~GVANG,~ABBREVIATION SIGN,~OM,,,,,,,,,~DIGIT ZERO,~~ONE,~~TWO,~~THREE",
    "~~FOUR,~~FIVE,~~SIX,~~SEVEN,~~EIGHT,~~NINE"]⟩,
  -- Siddham
  ⟨0x11580, [
    "SIDDHAM LETTER A,~~AA,~~I,~~II,~~U,~~UU,~~VOCALIC R,~~~RR,~~~L,~~~LL,~~E,~~AI,~~O,~~AU,~~KA",
    "~~KHA,~~GA,~~GHA,~~NGA,~~CA,~~CHA,~~JA,~~JHA,~~NYA,~~TTA,~~TTHA,~~DDA,~~DDHA,~~NNA,~~TA",
    "~~THA,~~DA,~~DHA,~~NA,~~PA,~~PHA,~~BA,~~BHA,~~MA,~~YA,~~RA,~~LA,~~VA,~~SHA,~~SSA,~~SA,~~HA",
    "~VOWEL SIGN AA,~~~I,~~~II,~~~U,~~~UU,~~~VOCALIC R,~~~~RR,,,~~~E,~~~AI,~~~O,~~~AU",
    "~SIGN CANDRABINDU,~~ANUSVARA,~~VISARGA,~~VIRAMA,~~NUKTA,~~SIDDHAM,~DANDA,~DOUBLE DANDA",
    "~SEPARATOR DOT,~~BAR,~REPETITION MARK-1,~~MARK-2,~~MARK-3,~END OF TEXT MARK",
    "~SECTION MARK WITH TRIDENT AND U-SHAPED ORNAMENTS,~~~~~~DOTTED CRESCENTS,~~~~RAYS~~~",
    "~~~~~~~DOUBLE CRESCENTS,~~~~~~~TRIPLE~,~~~DOUBLE RING,~~~~~WITH RAYS",
    "~~~WITH DOUBLE CRESCENTS,~~~~TRIPLE~,~~~~QUADRUPLE~,~~~~SEPTUPLE~,~~~~CIRCLES AND RAYS",
    "~~~~~~TWO ENCLOSURES,~~~~~~FOUR~,~LETTER THREE-CIRCLE ALTERNATE I,~~TWO-CIRCLE~~,~~~~II",
    "~~ALTERNATE U,~VOWEL SIGN ALTERNATE U,~~~~UU"]⟩,
  -- Modi
  ⟨0x11600, [
    "MODI LETTER A,~~AA,~~I,~~II,~~U,~~UU,~~VOCALIC R,~~~RR,~~~L,~~~LL,~~E,~~AI,~~O,~~AU,~~KA",
    "~~KHA,~~GA,~~GHA,~~NGA,~~CA,~~CHA,~~JA,~~JHA,~~NYA,~~TTA,~~TTHA,~~DDA,~~DDHA,~~NNA,~~TA",
    "~~THA,~~DA,~~DHA,~~NA,~~PA,~~PHA,~~BA,~~BHA,~~MA,~~YA,~~RA,~~LA,~~VA,~~SHA,~~SSA,~~SA,~~HA",
    "~~LLA,~VOWEL SIGN AA,~~~I,~~~II,~~~U,~~~UU,~~~VOCALIC R,~~~~RR,~~~~L,~~~~LL,~~~E,~~~AI,~~~O",
    "~~~AU,~SIGN ANUSVARA,~~VISARGA,~~VIRAMA,~~ARDHACANDRA,~DANDA,~DOUBLE DANDA",
    "~ABBREVIATION SIGN,~SIGN HUVA,,,,,,,,,,,,~DIGIT ZERO,~~ONE,~~TWO,~~THREE,~~FOUR,~~FIVE",
    "~~SIX,~~SEVEN,~~EIGHT,~~NINE"]⟩,
  -- Takri
  ⟨0x11680, [
    "TAKRI LETTER A,~~AA,~~I,~~II,~~U,~~UU,~~E,~~AI,~~O,~~AU,~~KA,~~KHA,~~GA,~~GHA,~~NGA,~~CA",
    "~~CHA,~~JA,~~JHA,~~NYA,~~TTA,~~TTHA,~~DDA,~~DDHA,~~NNA,~~TA,~~THA,~~DA,~~DHA,~~NA,~~PA",
    "~~PHA,~~BA,~~BHA,~~MA,~~YA,~~RA,~~LA,~~VA,~~SHA,~~SA,~~HA,~~RRA,~SIGN ANUSVARA,~~VISARGA",
    "~VOWEL SIGN AA,~~~I,~~~II,~~~U,~~~UU,~~~E,~~~AI,~~~O,~~~AU,~SIGN VIRAMA,~~NUKTA",
    "~LETTER ARCHAIC KHA,~ABBREVIATION SIGN,,,,,,,~DIGIT ZERO,~~ONE,~~TWO,~~THREE,~~FOUR,~~FIVE",
    "~~SIX,~~SEVEN,~~EIGHT,~~NINE"]⟩,
  -- Ahom
  ⟨0x11700, [
    "AHOM LETTER KA,~~KHA,~~NGA,~~NA,~~TA,~~ALTERNATE TA,~~PA,~~PHA,~~BA,~~MA,~~JA,~~CHA,~~THA",
    "~~RA,~~LA,~~SA,~~NYA,~~HA,~~A,~~DA,~~DHA,~~GA,~~ALTERNATE GA,~~GHA,~~BHA,~~JHA",
    "~~ALTERNATE BA,,,~CONSONANT SIGN MEDIAL LA,~~~~RA,~~~~LIGATING RA,~VOWEL~A,~~~AA,~~~I,~~~II",
    "~~~U,~~~UU,~~~E,~~~AW,~~~O,~~~AI,~~~AM,~SIGN KILLER,,,,,~DIGIT ZERO,~~ONE,~~TWO,~~THREE",
    "~~FOUR,~~FIVE,~~SIX,~~SEVEN,~~EIGHT,~~NINE,~NUMBER TEN,~~TWENTY,~SIGN SMALL SECTION",
    "~~SECTION,~~RULAI,~SYMBOL VI,~LETTER CA,~~TTA,~~TTHA,~~DDA,~~DDHA,~~NNA,~~LLA"]⟩,
  -- Dogra
  ⟨0x11800, [
    "DOGRA LETTER A,~~AA,~~I,~~II,~~U,~~UU,~~E,~~AI,~~O,~~AU,~~KA,~~KHA,~~GA,~~GHA,~~NGA,~~CA",
    "~~CHA,~~JA,~~JHA,~~NYA,~~TTA,~~TTHA,~~DDA,~~DDHA,~~NNA,~~TA,~~THA,~~DA,~~DHA,~~NA,~~PA",
    "~~PHA,~~BA,~~BHA,~~MA,~~YA,~~RA,~~LA,~~VA,~~SHA,~~SSA,~~SA,~~HA,~~RRA,~VOWEL SIGN AA,~~~I",
    "~~~II,~~~U,~~~UU,~~~VOCALIC R,~~~~RR,~~~E,~~~AI,~~~O,~~~AU,~SIGN ANUSVARA,~~VISARGA",
    "~~VIRAMA,~~NUKTA,~ABBREVIATION SIGN"]⟩,
  -- Warang Citi
  ⟨0x118a0, [
    "WARANG CITI CAPITAL LETTER NGAA,~~~~A,~~~~WI,~~~~YU,~~~~YA,~~~~YO,~~~~II,~~~~UU,~~~~E,~~~~O",
    "~~~~ANG,~~~~GA,~~~~KO,~~~~ENY,~~~~YUJ,~~~~UC,~~~~ENN,~~~~ODD,~~~~TTE,~~~~NUNG,~~~~DA,~~~~AT",
    "~~~~AM,~~~~BU,~~~~PU,~~~~HIYO,~~~~HOLO,~~~~HORR,~~~~HAR,~~~~SSUU,~~~~SII,~~~~VIYO",
    "~~SMALL~NGAA,~~~~A,~~~~WI,~~~~YU,~~~~YA,~~~~YO,~~~~II,~~~~UU,~~~~E,~~~~O,~~~~ANG,~~~~GA",
    "~~~~KO,~~~~ENY,~~~~YUJ,~~~~UC,~~~~ENN,~~~~ODD,~~~~TTE,~~~~NUNG,~~~~DA,~~~~AT,~~~~AM,~~~~BU",
    "~~~~PU,~~~~HIYO,~~~~HOLO,~~~~HORR,~~~~HAR,~~~~SSUU,~~~~SII,~~~~VIYO,~~DIGIT ZERO,~~~ONE",
    "~~~TWO,~~~THREE,~~~FOUR,~~~FIVE,~~~SIX,~~~SEVEN,~~~EIGHT,~~~NINE,~~NUMBER TEN,~~~TWENTY",
    "~~~THIRTY,~~~FORTY,~~~FIFTY,~~~SIXTY,~~~SEVENTY,~~~EIGHTY,~~~NINETY"]⟩,
  ⟨0x118ff, [
    "WARANG CITI OM"]⟩,
  -- Dives Akuru
  ⟨0x11900, [
    "DIVES AKURU LETTER A,~~~AA,~~~I,~~~II,~~~U,~~~UU,~~~E,,,~~~O,,,~~~KA,~~~KHA,~~~GA,~~~GHA",
    "~~~NGA,~~~CA,~~~CHA,~~~JA,,~~~NYA,~~~TTA,,~~~DDA,~~~DDHA,~~~NNA,~~~TA,~~~THA,~~~DA,~~~DHA",
    "~~~NA,~~~PA,~~~PHA,~~~BA,~~~BHA,~~~MA,~~~YA,~~~YYA,~~~RA,~~~LA,~~~VA,~~~SHA,~~~SSA,~~~SA",
    "~~~HA,~~~LLA,~~~ZA,~~VOWEL SIGN AA,~~~~I,~~~~II,~~~~U,~~~~UU,~~~~E,,~~~~AI,~~~~O,,",
    "~~SIGN ANUSVARA,~~~CANDRABINDU,~~~HALANTA,~~VIRAMA,~~PREFIXED NASAL SIGN,~~MEDIAL YA",
    "~~INITIAL RA,~~MEDIAL~,~~SIGN NUKTA,~~DOUBLE DANDA,~~GAP FILLER,~~END OF TEXT MARK,,,,,,,,,",
    "~~DIGIT ZERO,~~~ONE,~~~TWO,~~~THREE,~~~FOUR,~~~FIVE,~~~SIX,~~~SEVEN,~~~EIGHT,~~~NINE"]⟩,
  -- Nandinagari
  ⟨0x119a0, [
    "NANDINAGARI LETTER A,~~AA,~~I,~~II,~~U,~~UU,~~VOCALIC R,~~~RR,,,~~E,~~AI,~~O,~~AU,~~KA",
    "~~KHA,~~GA,~~GHA,~~NGA,~~CA,~~CHA,~~JA,~~JHA,~~NYA,~~TTA,~~TTHA,~~DDA,~~DDHA,~~NNA,~~TA",
    "~~THA,~~DA,~~DHA,~~NA,~~PA,~~PHA,~~BA,~~BHA,~~MA,~~YA,~~RA,~~LA,~~VA,~~SHA,~~SSA,~~SA,~~HA",
    "~~LLA,~~RRA,~VOWEL SIGN AA,~~~I,~~~II,~~~U,~~~UU,~~~VOCALIC R,~~~~RR,,,~~~E,~~~AI,~~~O",
    "~~~AU,~SIGN ANUSVARA,~~VISARGA,~~VIRAMA,~~AVAGRAHA,~~SIDDHAM,~HEADSTROKE",
    "~VOWEL SIGN PRISHTHAMATRA E"]⟩,
  -- Bhaiksuki
  ⟨0x11c00, [
    "BHAIKSUKI LETTER A,~~AA,~~I,~~II,~~U,~~UU,~~VOCALIC R,~~~RR,~~~L,,~~E,~~AI,~~O,~~AU,~~KA",
    "~~KHA,~~GA,~~GHA,~~NGA,~~CA,~~CHA,~~JA,~~JHA,~~NYA,~~TTA,~~TTHA,~~DDA,~~DDHA,~~NNA,~~TA",
    "~~THA,~~DA,~~DHA,~~NA,~~PA,~~PHA,~~BA,~~BHA,~~MA,~~YA,~~RA,~~LA,~~VA,~~SHA,~~SSA,~~SA,~~HA",
    "~VOWEL SIGN AA,~~~I,~~~II,~~~U,~~~UU,~~~VOCALIC R,~~~~RR,~~~~L,,~~~E,~~~AI,~~~O,~~~AU",
    "~SIGN CANDRABINDU,~~ANUSVARA,~~VISARGA,~~VIRAMA,~~AVAGRAHA,~DANDA,~DOUBLE DANDA",
    "~WORD SEPARATOR,~GAP FILLER-1,~~FILLER-2,,,,,,,,,,,~DIGIT ZERO,~~ONE,~~TWO,~~THREE,~~FOUR",
    "~~FIVE,~~SIX,~~SEVEN,~~EIGHT,~~NINE,~NUMBER ONE,~~TWO,~~THREE,~~FOUR,~~FIVE,~~SIX,~~SEVEN",
    "~~EIGHT,~~NINE,~~TEN,~~TWENTY,~~THIRTY,~~FORTY,~~FIFTY,~~SIXTY,~~SEVENTY,~~EIGHTY,~~NINETY",
    "~HUNDREDS UNIT MARK"]⟩,
  -- Masaram Gondi
  ⟨0x11d00, [
    "MASARAM GONDI LETTER A,~~~AA,~~~I,~~~II,~~~U,~~~UU,~~~E,,~~~AI,~~~O,,~~~AU,~~~KA,~~~KHA",
    "~~~GA,~~~GHA,~~~NGA,~~~CA,~~~CHA,~~~JA,~~~JHA,~~~NYA,~~~TTA,~~~TTHA,~~~DDA,~~~DDHA,~~~NNA",
    "~~~TA,~~~THA,~~~DA,~~~DHA,~~~NA,~~~PA,~~~PHA,~~~BA,~~~BHA,~~~MA,~~~YA,~~~RA,~~~LA,~~~VA",
    "~~~SHA,~~~SSA,~~~SA,~~~HA,~~~LLA,~~~KSSA,~~~JNYA,~~~TRA,~~VOWEL SIGN AA,~~~~I,~~~~II,~~~~U",
    "~~~~UU,~~~~VOCALIC R,,,,~~~~E,,~~~~AI,~~~~O,,~~~~AU,~~SIGN ANUSVARA,~~~VISARGA,~~~NUKTA",
    "~~~CANDRA,~~~HALANTA,~~VIRAMA,~~REPHA,~~RA-KARA,,,,,,,,,~~DIGIT ZERO,~~~ONE,~~~TWO,~~~THREE",
    "~~~FOUR,~~~FIVE,~~~SIX,~~~SEVEN,~~~EIGHT,~~~NINE"]⟩,
  -- Gunjala Gondi
  ⟨0x11d60, [
    "GUNJALA GONDI LETTER A,~~~AA,~~~I,~~~II,~~~U,~~~UU,,~~~EE,~~~AI,,~~~OO,~~~AU,~~~YA,~~~VA",
    "~~~BA,~~~BHA,~~~MA,~~~KA,~~~KHA,~~~TA,~~~THA,~~~LA,~~~GA,~~~GHA,~~~DA,~~~DHA,~~~NA,~~~CA",
    "~~~CHA,~~~TTA,~~~TTHA,~~~LLA,~~~JA,~~~JHA,~~~DDA,~~~DDHA,~~~NGA,~~~PA,~~~PHA,~~~HA,~~~RA",
    "~~~SA,~~VOWEL SIGN AA,~~~~I,~~~~II,~~~~U,~~~~UU,,~~~~EE,~~~~AI,,~~~~OO,~~~~AU",
    "~~SIGN ANUSVARA,~~~VISARGA,~~VIRAMA,~~OM,,,,,,,,~~DIGIT ZERO,~~~ONE,~~~TWO,~~~THREE,~~~FOUR",
    "~~~FIVE,~~~SIX,~~~SEVEN,~~~EIGHT,~~~NINE"]⟩,
  -- Tamil Supplement
  ⟨0x11fc0, [
    "TAMIL FRACTION ONE THREE-HUNDRED-AND-TWENTIETH,~~~ONE-HUNDRED-AND-SIXTIETH,~~~EIGHTIETH",
    "~~~SIXTY-FOURTH,~~~FORTIETH,~~~THIRTY-SECOND,~~THREE EIGHTIETHS,~~~SIXTY-FOURTHS",
    "~~ONE TWENTIETH,~~~SIXTEENTH-1,~~~SIXTEENTH-2,~~~TENTH,~~~EIGHTH,~~THREE TWENTIETHS",
    "~~~SIXTEENTHS,~~ONE FIFTH,~~~QUARTER,~~~HALF-1,~~~HALF-2,~~THREE QUARTERS",
    "~~DOWNSCALING FACTOR KIIZH,~SIGN NEL,~~CEVITU,~~AAZHAAKKU,~~UZHAKKU,~~MUUVUZHAKKU,~~KURUNI",
    "~~PATHAKKU,~~MUKKURUNI,~~KAACU,~~PANAM,~~PON,~~VARAAKAN,~~PAARAM,~~KUZHI,~~VELI",
    "~WET CULTIVATION SIGN,~DRY~~,~LAND SIGN,~SALT PAN SIGN,~TRADITIONAL CREDIT~,~~NUMBER~",
    "~CURRENT SIGN,~AND ODD SIGN,~SPENT SIGN,~TOTAL~,~IN POSSESSION SIGN,~STARTING FROM~",
    "~SIGN MUTHALIYA,~~VAKAIYARAA"]⟩,
  ⟨0x11fff, [
    "TAMIL PUNCTUATION END OF TEXT"]⟩,
  -- Mro
  ⟨0x16a40, [
    "MRO LETTER TA,~~NGI,~~YO,~~MIM,~~BA,~~DA,~~A,~~PHI,~~KHAI,~~HAO,~~DAI,~~CHU,~~KEAAE,~~OL",
    "~~MAEM,~~NIN,~~PA,~~OO,~~O,~~RO,~~SHI,~~THEA,~~EA,~~WA,~~E,~~KO,~~LAN,~~LA,~~HAI,~~RI,~~TEK",
    ",~DIGIT ZERO,~~ONE,~~TWO,~~THREE,~~FOUR,~~FIVE,~~SIX,~~SEVEN,~~EIGHT,~~NINE,,,,,~DANDA",
    "~DOUBLE DANDA"]⟩,
  -- Tangsa
  ⟨0x16a70, [
    "TANGSA LETTER OZ,~~OC,~~OQ,~~OX,~~AZ,~~AC,~~AQ,~~AX,~~VZ,~~VC,~~VQ,~~VX,~~EZ,~~EC,~~EQ,~~EX",
    "~~IZ,~~IC,~~IQ,~~IX,~~UZ,~~UC,~~UQ,~~UX,~~AWZ,~~AWC,~~AWQ,~~AWX,~~UIZ,~~UIC,~~UIQ,~~UIX",
    "~~FINAL NG,~~LONG UEX,~~SHORT UEZ,~~~AWX,~~UEC,~~UEZ,~~UEQ,~~UEX,~~UIUZ,~~UIUC,~~UIUQ",
    "~~UIUX,~~MZ,~~MC,~~MQ,~~MX,~~KA,~~KHA,~~GA,~~NGA,~~SA,~~YA,~~WA,~~PA,~~NYA,~~PHA,~~BA,~~MA",
    "~~NA,~~HA,~~LA,~~HTA,~~TA,~~DA,~~RA,~~NHA,~~SHA,~~CA,~~TSA,~~GHA,~~HTTA,~~THA,~~XA,~~FA",
    "~~DHA,~~CHA,~~ZA,,~DIGIT ZERO,~~ONE,~~TWO,~~THREE,~~FOUR,~~FIVE,~~SIX,~~SEVEN,~~EIGHT",
    "~~NINE"]⟩,
  -- Toto
  ⟨0x1e290, [
    "TOTO LETTER PA,~~BA,~~TA,~~DA,~~KA,~~GA,~~MA,~~NA,~~NGA,~~SA,~~CHA,~~YA,~~WA,~~JA,~~HA,~~RA",
    "~~LA,~~I,~~BREATHY I,~~IU,~~BREATHY IU,~~U,~~E,~~BREATHY E,~~EO,~~BREATHY EO,~~O,~~AE",
    "~~BREATHY AE,~~A,~SIGN RISING TONE"]⟩,
  -- Wancho
  ⟨0x1e2c0, [
    "WANCHO LETTER AA,~~A,~~BA,~~CA,~~DA,~~GA,~~YA,~~PHA,~~LA,~~NA,~~PA,~~TA,~~THA,~~FA,~~SA",
    "~~SHA,~~JA,~~ZA,~~WA,~~VA,~~KA,~~O,~~AU,~~RA,~~MA,~~KHA,~~HA,~~E,~~I,~~NGA,~~U,~~LLHA,~~TSA",
    "~~TRA,~~ONG,~~AANG,~~ANG,~~ING,~~ON,~~EN,~~AAN,~~NYA,~~UEN,~~YIH,~TONE TUP,~~TUPNI,~~KOI",
    "~~KOINI,~DIGIT ZERO,~~ONE,~~TWO,~~THREE,~~FOUR,~~FIVE,~~SIX,~~SEVEN,~~EIGHT,~~NINE,,,,,",
    "~NGUN SIGN"]⟩,
  -- Indic Siyaq Numbers
  ⟨0x1ec71, [
    "INDIC SIYAQ NUMBER ONE,~~~TWO,~~~THREE,~~~FOUR,~~~FIVE,~~~SIX,~~~SEVEN,~~~EIGHT,~~~NINE",
    "~~~TEN,~~~TWENTY,~~~THIRTY,~~~FORTY,~~~FIFTY,~~~SIXTY,~~~SEVENTY,~~~EIGHTY,~~~NINETY",
    "~~~ONE HUNDRED,~~~TWO~,~~~THREE~,~~~FOUR~,~~~FIVE~,~~~SIX~,~~~SEVEN~,~~~EIGHT~,~~~NINE~",
    "~~~ONE THOUSAND,~~~TWO~,~~~THREE~,~~~FOUR~,~~~FIVE~,~~~SIX~,~~~SEVEN~,~~~EIGHT~,~~~NINE~",
    "~~~TEN~,~~~TWENTY~,~~~THIRTY~,~~~FORTY~,~~~FIFTY~,~~~SIXTY~,~~~SEVENTY~,~~~EIGHTY~",
    "~~~NINETY~,~~~LAKH,~~~LAKHAN,~~LAKH MARK,~~NUMBER KAROR,~~~KARORAN,~~~PREFIXED ONE,~~~~TWO",
    "~~~~THREE,~~~~FOUR,~~~~FIVE,~~~~SIX,~~~~SEVEN,~~~~EIGHT,~~~~NINE,~~PLACEHOLDER",
    "~~FRACTION ONE QUARTER,~~~~HALF,~~~THREE QUARTERS,~~RUPEE MARK,~~NUMBER ALTERNATE ONE",
    "~~~~TWO,~~~~TEN THOUSAND,~~ALTERNATE LAKH MARK"]⟩]

end AccessScopes.Text
