import AccessScopes.Text.CharName.Block

/-!
# `AccessScopes.Text.CharName.Script.CentralAsia`: names of Central Asian letters

The scripts of Tibet, of Mongolia and along the Silk Road.
-/

set_option autoImplicit false

namespace AccessScopes.Text

/-- The blocks of Central Asian scripts. -/
def centralAsiaBlocks : List NameBlock := [
  -- Tibetan
  ⟨0xf00, [
    "TIBETAN SYLLABLE OM,~MARK GTER YIG MGO TRUNCATED A,~~~~~-UM RNAM BCAD MA,~~~~~~GTER TSHEG~",
    "~~INITIAL~~MDUN MA,~~CLOSING~~SGAB~,~~CARET~~PHUR SHAD MA,~~YIG MGO TSHEG SHAD MA",
    "~~SBRUL SHAD,~~BSKUR YIG MGO,~~BKA- SHOG YIG MGO,~~INTERSYLLABIC TSHEG,~~DELIMITER~BSTAR",
    "~~SHAD,~~NYIS SHAD,~~TSHEG~,~~NYIS TSHEG SHAD,~~RIN CHEN SPUNGS SHAD,~~RGYA GRAM SHAD",
    "~~CARET -DZUD RTAGS ME LONG CAN,~~GTER TSHEG,~LOGOTYPE SIGN CHAD RTAGS,~~~LHAG~",
    "~ASTROLOGICAL~SGRA GCAN -CHAR RTAGS,~~~-KHYUD PA,~~~SDONG TSHUGS,~SIGN RDEL DKAR GCIG",
    "~~~~GNYIS,~~~~GSUM,~~~NAG GCIG,~~~~GNYIS,~~~DKAR RDEL NAG,~DIGIT ZERO,~~ONE,~~TWO,~~THREE",
    "~~FOUR,~~FIVE,~~SIX,~~SEVEN,~~EIGHT,~~NINE,~~HALF ONE,~~~TWO,~~~THREE,~~~FOUR,~~~FIVE",
    "~~~SIX,~~~SEVEN,~~~EIGHT,~~~NINE,~~~ZERO,~MARK BSDUS RTAGS,~~NGAS BZUNG NYI ZLA",
    "~~CARET -DZUD RTAGS BZHI MIG CAN,~~NGAS BZUNG SGOR RTAGS,~~CHE MGO,~~TSA -PHRU",
    "~~GUG RTAGS GYON,~~~~GYAS,~~ANG KHANG GYON,~~~~GYAS,~SIGN YAR TSHES,~~MAR~,~LETTER KA,~~KHA",
    "~~GA,~~GHA,~~NGA,~~CA,~~CHA,~~JA,,~~NYA,~~TTA,~~TTHA,~~DDA,~~DDHA,~~NNA,~~TA,~~THA,~~DA",
    "~~DHA,~~NA,~~PA,~~PHA,~~BA,~~BHA,~~MA,~~TSA,~~TSHA,~~DZA,~~DZHA,~~WA,~~ZHA,~~ZA,~~-A,~~YA",
    "~~RA,~~LA,~~SHA,~~SSA,~~SA,~~HA,~~A,~~KSSA,~~FIXED-FORM RA,~~KKA,~~RRA,,,,,~VOWEL SIGN AA",
    "~~~I,~~~II,~~~U,~~~UU,~~~VOCALIC R,~~~~RR,~~~~L,~~~~LL,~~~E,~~~EE,~~~O,~~~OO",
    "~SIGN RJES SU NGA RO,~~RNAM BCAD,~VOWEL SIGN REVERSED I,~~~~II,~SIGN NYI ZLA NAA DA",
    "~~SNA LDAN,~MARK HALANTA,~~PALUTA,~SIGN LCI RTAGS,~~YANG~,~~LCE TSA CAN,~~MCHU CAN",
    "~~GRU~RGYINGS,~~~MED~,~~INVERTED MCHU CAN,~SUBJOINED SIGN LCE TSA CAN,~~~MCHU CAN",
    "~~~INVERTED MCHU CAN,~~LETTER KA,~~~KHA,~~~GA,~~~GHA,~~~NGA,~~~CA,~~~CHA,~~~JA,,~~~NYA",
    "~~~TTA,~~~TTHA,~~~DDA,~~~DDHA,~~~NNA,~~~TA,~~~THA,~~~DA,~~~DHA,~~~NA,~~~PA,~~~PHA,~~~BA",
    "~~~BHA,~~~MA,~~~TSA,~~~TSHA,~~~DZA,~~~DZHA,~~~WA,~~~ZHA,~~~ZA,~~~-A,~~~YA,~~~RA,~~~LA",
    "~~~SHA,~~~SSA,~~~SA,~~~HA,~~~A,~~~KSSA,~~~FIXED-FORM WA,~~~~YA,~~~~RA,,~KU RU KHA",
    "~~~~BZHI MIG CAN,~CANTILLATION SIGN HEAVY BEAT,~~~LIGHT~,~~~CANG TE-U,~~~SBUB -CHAL",
    "~SYMBOL DRIL BU,~~RDO RJE,~~PADMA GDAN,~~RDO RJE RGYA GRAM,~~PHUR PA,~~NOR BU",
    "~~~~NYIS -KHYIL,~~~~GSUM~,~~~~BZHI~,,~SIGN RDEL NAG RDEL DKAR,~~~~GSUM",
    "~MARK BSKA- SHOG GI MGO RGYAN,~~MNYAM YIG~~~,~~NYIS TSHEG",
    "~~INITIAL BRDA RNYING YIG MGO MDUN MA,~~CLOSING~~~~SGAB~,RIGHT-FACING SVASTI SIGN",
    "LEFT-FACING~~,RIGHT-FACING~~WITH DOTS,LEFT-FACING~~~~,TIBETAN MARK LEADING MCHAN RTAGS",
    "~~TRAILING~~"]⟩,
  -- Mongolian
  ⟨0x1800, [
    "MONGOLIAN BIRGA,~ELLIPSIS,~COMMA,~FULL STOP,~COLON,~FOUR DOTS,~TODO SOFT HYPHEN",
    "~SIBE SYLLABLE BOUNDARY MARKER,~MANCHU COMMA,~~FULL STOP,~NIRUGU",
    "~FREE VARIATION SELECTOR ONE,~~~~TWO,~~~~THREE,~VOWEL SEPARATOR",
    "~FREE VARIATION SELECTOR FOUR,~DIGIT ZERO,~~ONE,~~TWO,~~THREE,~~FOUR,~~FIVE,~~SIX,~~SEVEN",
    "~~EIGHT,~~NINE,,,,,,,~LETTER A,~~E,~~I,~~O,~~U,~~OE,~~UE,~~EE,~~NA,~~ANG,~~BA,~~PA,~~QA",
    "~~GA,~~MA,~~LA,~~SA,~~SHA,~~TA,~~DA,~~CHA,~~JA,~~YA,~~RA,~~WA,~~FA,~~KA,~~KHA,~~TSA,~~ZA",
    "~~HAA,~~ZRA,~~LHA,~~ZHI,~~CHI,~~TODO LONG VOWEL SIGN,~~~E,~~~I,~~~O,~~~U,~~~OE,~~~UE,~~~ANG",
    "~~~BA,~~~PA,~~~QA,~~~GA,~~~MA,~~~TA,~~~DA,~~~CHA,~~~JA,~~~TSA,~~~YA,~~~WA,~~~KA,~~~GAA",
    "~~~HAA,~~~JIA,~~~NIA,~~~DZA,~~SIBE E,~~~I,~~~IY,~~~UE,~~~U,~~~ANG,~~~KA,~~~GA,~~~HA,~~~PA",
    "~~~SHA,~~~TA,~~~DA,~~~JA,~~~FA,~~~GAA,~~~HAA,~~~TSA,~~~ZA,~~~RAA,~~~CHA,~~~ZHA,~~MANCHU I",
    "~~~KA,~~~RA,~~~FA,~~~ZHA,~~CHA WITH TWO DOTS,,,,,,,,~~ALI GALI ANUSVARA ONE,~~~~VISARGA~",
    "~~~~DAMARU,~~~~UBADAMA,~~~~INVERTED UBADAMA,~~~~BALUDA,~~~~THREE BALUDA,~~~~A,~~~~I,~~~~KA",
    "~~~~NGA,~~~~CA,~~~~TTA,~~~~TTHA,~~~~DDA,~~~~NNA,~~~~TA,~~~~DA,~~~~PA,~~~~PHA,~~~~SSA",
    "~~~~ZHA,~~~~ZA,~~~~AH,~~TODO ALI GALI TA,~~~~~ZHA,~~MANCHU~~GHA,~~~~~NGA,~~~~~CA,~~~~~JHA",
    "~~~~~TTA,~~~~~DDHA,~~~~~TA,~~~~~DHA,~~~~~SSA,~~~~~CYA,~~~~~ZHA,~~~~~ZA,~~ALI GALI HALF U",
    "~~~~~YA,~~MANCHU ALI GALI BHA,~~ALI GALI DAGALGA,~~MANCHU ALI GALI LHA"]⟩,
  -- Phags-pa
  ⟨0xa840, [
    "PHAGS-PA LETTER KA,~~KHA,~~GA,~~NGA,~~CA,~~CHA,~~JA,~~NYA,~~TA,~~THA,~~DA,~~NA,~~PA,~~PHA",
    "~~BA,~~MA,~~TSA,~~TSHA,~~DZA,~~WA,~~ZHA,~~ZA,~~SMALL A,~~YA,~~RA,~~LA,~~SHA,~~SA,~~HA,~~A",
    "~~I,~~U,~~E,~~O,~~QA,~~XA,~~FA,~~GGA,~~EE,~SUBJOINED LETTER WA,~~~YA,~LETTER TTA,~~TTHA",
    "~~DDA,~~NNA,~~ALTERNATE YA,~~VOICELESS SHA,~~VOICED HA,~~ASPIRATED FA,~SUBJOINED LETTER RA",
    "~SUPERFIXED~~,~LETTER CANDRABINDU,~SINGLE HEAD MARK,~DOUBLE~~,~MARK SHAD,~~DOUBLE SHAD"]⟩,
  -- Kharoshthi
  ⟨0x10a00, [
    "KHAROSHTHI LETTER A,~VOWEL SIGN I,~~~U,~~~VOCALIC R,,~~~E,~~~O,,,,,,~~LENGTH MARK",
    "~SIGN DOUBLE RING BELOW,~~ANUSVARA,~~VISARGA,~LETTER KA,~~KHA,~~GA,~~GHA,,~~CA,~~CHA,~~JA,",
    "~~NYA,~~TTA,~~TTHA,~~DDA,~~DDHA,~~NNA,~~TA,~~THA,~~DA,~~DHA,~~NA,~~PA,~~PHA,~~BA,~~BHA,~~MA",
    "~~YA,~~RA,~~LA,~~VA,~~SHA,~~SSA,~~SA,~~ZA,~~HA,~~KKA,~~TTTHA,~~TTTA,~~VHA,,,~SIGN BAR ABOVE",
    "~~CAUDA,~~DOT BELOW,,,,,~VIRAMA,~DIGIT ONE,~~TWO,~~THREE,~~FOUR,~NUMBER TEN,~~TWENTY",
    "~~ONE HUNDRED,~~~THOUSAND,~FRACTION~HALF,,,,,,,,~PUNCTUATION DOT,~~SMALL CIRCLE,~~CIRCLE",
    "~~CRESCENT BAR,~~MANGALAM,~~LOTUS,~~DANDA,~~DOUBLE DANDA,~~LINES"]⟩,
  -- Old Turkic
  ⟨0x10c00, [
    "OLD TURKIC LETTER ORKHON A,~~~YENISEI~,~~~~AE,~~~ORKHON I,~~~YENISEI~,~~~~E,~~~ORKHON O",
    "~~~~OE,~~~YENISEI~,~~~ORKHON AB,~~~YENISEI~,~~~ORKHON AEB,~~~YENISEI~,~~~ORKHON AG",
    "~~~YENISEI~,~~~ORKHON AEG,~~~YENISEI~,~~~ORKHON AD,~~~YENISEI~,~~~ORKHON AED,~~~~EZ",
    "~~~YENISEI~,~~~ORKHON AY,~~~YENISEI~,~~~ORKHON AEY,~~~YENISEI~,~~~ORKHON AEK,~~~YENISEI~",
    "~~~ORKHON OEK,~~~YENISEI~,~~~ORKHON AL,~~~YENISEI~,~~~ORKHON AEL,~~~~ELT,~~~~EM,~~~~AN",
    "~~~~AEN,~~~YENISEI~,~~~ORKHON ENT,~~~YENISEI~,~~~ORKHON ENC,~~~YENISEI~,~~~ORKHON ENY",
    "~~~YENISEI~,~~~~ANG,~~~ORKHON ENG,~~~YENISEI AENG,~~~ORKHON EP,~~~~OP,~~~~IC,~~~~EC",
    "~~~YENISEI~,~~~ORKHON AQ,~~~YENISEI~,~~~ORKHON IQ,~~~YENISEI~,~~~ORKHON OQ,~~~YENISEI~",
    "~~~ORKHON AR,~~~YENISEI~,~~~ORKHON AER,~~~~AS,~~~~AES,~~~~ASH,~~~YENISEI~,~~~ORKHON ESH",
    "~~~YENISEI~,~~~ORKHON AT,~~~YENISEI~,~~~ORKHON AET,~~~YENISEI~,~~~ORKHON OT,~~~~BASH"]⟩,
  -- Old Sogdian
  ⟨0x10f00, [
    "OLD SOGDIAN LETTER ALEPH,~~~FINAL ALEPH,~~~BETH,~~~FINAL BETH,~~~GIMEL,~~~HE,~~~FINAL HE",
    "~~~WAW,~~~ZAYIN,~~~HETH,~~~YODH,~~~KAPH,~~~LAMEDH,~~~MEM,~~~NUN,~~~FINAL NUN",
    "~~~~~WITH VERTICAL TAIL,~~~SAMEKH,~~~AYIN,~~~ALTERNATE AYIN,~~~PE,~~~SADHE,~~~FINAL SADHE",
    "~~~~~WITH VERTICAL TAIL,~~~RESH-AYIN-DALETH,~~~SHIN,~~~TAW,~~~FINAL TAW",
    "~~~~~WITH VERTICAL TAIL,~~NUMBER ONE,~~~TWO,~~~THREE,~~~FOUR,~~~FIVE,~~~TEN,~~~TWENTY",
    "~~~THIRTY,~~~ONE HUNDRED,~~FRACTION~HALF,~~LIGATURE AYIN-DALETH"]⟩,
  -- Sogdian
  ⟨0x10f30, [
    "SOGDIAN LETTER ALEPH,~~BETH,~~GIMEL,~~HE,~~WAW,~~ZAYIN,~~HETH,~~YODH,~~KAPH,~~LAMEDH,~~MEM",
    "~~NUN,~~SAMEKH,~~AYIN,~~PE,~~SADHE,~~RESH-AYIN,~~SHIN,~~TAW,~~FETH,~~LESH,~INDEPENDENT SHIN",
    "~COMBINING DOT BELOW,~~TWO DOTS BELOW,~~DOT ABOVE,~~TWO DOTS ABOVE,~~CURVE ABOVE,~~~BELOW",
    "~~HOOK ABOVE,~~~BELOW,~~LONG HOOK BELOW,~~RESH BELOW,~~STROKE~,~NUMBER ONE,~~TEN,~~TWENTY",
    "~~ONE HUNDRED,~PUNCTUATION TWO VERTICAL BARS,~~~~~WITH DOTS,~~CIRCLE WITH DOT",
    "~~TWO CIRCLES WITH DOTS,~~HALF CIRCLE~DOT"]⟩,
  -- Old Uyghur
  ⟨0x10f70, [
    "OLD UYGHUR LETTER ALEPH,~~~BETH,~~~GIMEL-HETH,~~~WAW,~~~ZAYIN,~~~FINAL HETH,~~~YODH,~~~KAPH",
    "~~~LAMEDH,~~~MEM,~~~NUN,~~~SAMEKH,~~~PE,~~~SADHE,~~~RESH,~~~SHIN,~~~TAW,~~~LESH",
    "~~COMBINING DOT ABOVE,~~~~BELOW,~~~TWO DOTS ABOVE,~~~~~BELOW,~~PUNCTUATION BAR,~~~TWO BARS",
    "~~~~DOTS,~~~FOUR~"]⟩,
  -- Mongolian Supplement
  ⟨0x11660, [
    "MONGOLIAN BIRGA WITH ORNAMENT,~ROTATED BIRGA,~DOUBLE~WITH ORNAMENT,~TRIPLE~~~",
    "~BIRGA WITH DOUBLE~,~ROTATED BIRGA WITH~,~~~~DOUBLE ORNAMENT,~INVERTED~",
    "~~~WITH DOUBLE ORNAMENT,~SWIRL~,~~~WITH ORNAMENT,~~~~DOUBLE ORNAMENT",
    "~TURNED SWIRL BIRGA WITH DOUBLE ORNAMENT"]⟩,
  -- Zanabazar Square
  ⟨0x11a00, [
    "ZANABAZAR SQUARE LETTER A,~~VOWEL SIGN I,~~~~UE,~~~~U,~~~~E,~~~~OE,~~~~O,~~~~AI,~~~~AU",
    "~~~~REVERSED I,~~~LENGTH MARK,~~LETTER KA,~~~KHA,~~~GA,~~~GHA,~~~NGA,~~~CA,~~~CHA,~~~JA",
    "~~~NYA,~~~TTA,~~~TTHA,~~~DDA,~~~DDHA,~~~NNA,~~~TA,~~~THA,~~~DA,~~~DHA,~~~NA,~~~PA,~~~PHA",
    "~~~BA,~~~BHA,~~~MA,~~~TSA,~~~TSHA,~~~DZA,~~~DZHA,~~~ZHA,~~~ZA,~~~-A,~~~YA,~~~RA,~~~LA,~~~VA",
    "~~~SHA,~~~SSA,~~~SA,~~~HA,~~~KSSA,~~FINAL CONSONANT MARK,~~SIGN VIRAMA,~~~CANDRABINDU",
    "~~~~WITH ORNAMENT,~~~CANDRA~~,~~~ANUSVARA,~~~VISARGA,~~CLUSTER-INITIAL LETTER RA",
    "~~CLUSTER-FINAL~YA,~~~~RA,~~~~LA,~~~~VA,~~INITIAL HEAD MARK,~~CLOSING~~,~~MARK TSHEG",
    "~~~SHAD,~~~DOUBLE SHAD,~~~LONG TSHEG,~~INITIAL DOUBLE-LINED HEAD MARK,~~CLOSING~~~",
    "~~SUBJOINER"]⟩,
  -- Soyombo
  ⟨0x11a50, [
    "SOYOMBO LETTER A,~VOWEL SIGN I,~~~UE,~~~U,~~~E,~~~O,~~~OE,~~~AI,~~~AU,~~~VOCALIC R,~~~~L",
    "~~LENGTH MARK,~LETTER KA,~~KHA,~~GA,~~GHA,~~NGA,~~CA,~~CHA,~~JA,~~JHA,~~NYA,~~TTA,~~TTHA",
    "~~DDA,~~DDHA,~~NNA,~~TA,~~THA,~~DA,~~DHA,~~NA,~~PA,~~PHA,~~BA,~~BHA,~~MA,~~TSA,~~TSHA,~~DZA",
    "~~ZHA,~~ZA,~~-A,~~YA,~~RA,~~LA,~~VA,~~SHA,~~SSA,~~SA,~~HA,~~KSSA,~SIGN JIHVAMULIYA",
    "~~UPADHMANIYA,~CLUSTER-INITIAL LETTER RA,~~~LA,~~~SHA,~~~SA,~FINAL CONSONANT SIGN G,~~~~K",
    "~~~~NG,~~~~D,~~~~N,~~~~B,~~~~M,~~~~R,~~~~L,~~~~SH,~~~~S,~~~~-A,~SIGN ANUSVARA,~~VISARGA",
    "~GEMINATION MARK,~SUBJOINER,~MARK TSHEG,~~SHAD,~~DOUBLE SHAD,~~PLUTA",
    "~HEAD MARK WITH MOON AND SUN AND TRIPLE FLAME,~~~~~~~~FLAME,~~~~~~~,~TERMINAL MARK-1",
    "~~MARK-2"]⟩,
  -- Marchen
  ⟨0x11c70, [
    "MARCHEN HEAD MARK,~MARK SHAD,~LETTER KA,~~KHA,~~GA,~~NGA,~~CA,~~CHA,~~JA,~~NYA,~~TA,~~THA",
    "~~DA,~~NA,~~PA,~~PHA,~~BA,~~MA,~~TSA,~~TSHA,~~DZA,~~WA,~~ZHA,~~ZA,~~-A,~~YA,~~RA,~~LA,~~SHA",
    "~~SA,~~HA,~~A,,,~SUBJOINED LETTER KA,~~~KHA,~~~GA,~~~NGA,~~~CA,~~~CHA,~~~JA,~~~NYA,~~~TA",
    "~~~THA,~~~DA,~~~NA,~~~PA,~~~PHA,~~~BA,~~~MA,~~~TSA,~~~TSHA,~~~DZA,~~~WA,~~~ZHA,~~~ZA,,~~~YA",
    "~~~RA,~~~LA,~~~SHA,~~~SA,~~~HA,~~~A,~VOWEL SIGN AA,~~~I,~~~U,~~~E,~~~O,~SIGN ANUSVARA",
    "~~CANDRABINDU"]⟩]

end AccessScopes.Text
