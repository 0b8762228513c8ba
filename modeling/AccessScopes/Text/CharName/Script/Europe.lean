import AccessScopes.Text.CharName.Block

/-!
# `AccessScopes.Text.CharName.Script.Europe`: names of European letters

The other scripts of Europe and the Caucasus, from Greek and Cyrillic to runes.
-/

set_option autoImplicit false

namespace AccessScopes.Text

/-- The blocks of European scripts other than Latin. -/
def europeBlocks : List NameBlock := [
  -- Greek and Coptic
  ⟨0x370, [
    "GREEK CAPITAL LETTER HETA,~SMALL~~,~CAPITAL~ARCHAIC SAMPI,~SMALL~~~,~NUMERAL SIGN",
    "~LOWER NUMERAL SIGN,~CAPITAL LETTER PAMPHYLIAN DIGAMMA,~SMALL~~~,,,~YPOGEGRAMMENI",
    "~SMALL REVERSED LUNATE SIGMA SYMBOL,~~DOTTED~~~,~~REVERSED DOTTED LUNATE SIGMA SYMBOL",
    "~QUESTION MARK,~CAPITAL LETTER YOT,,,,,~TONOS,~DIALYTIKA TONOS",
    "~CAPITAL LETTER ALPHA WITH TONOS,~ANO TELEIA,~CAPITAL LETTER EPSILON WITH TONOS,~~~ETA~~",
    "~~~IOTA~~,,~~~OMICRON~~,,~~~UPSILON~~,~~~OMEGA~~,~SMALL~IOTA~DIALYTIKA AND TONOS",
    "~CAPITAL~ALPHA,~~~BETA,~~~GAMMA,~~~DELTA,~~~EPSILON,~~~ZETA,~~~ETA,~~~THETA,~~~IOTA",
    "~~~KAPPA,~~~LAMDA,~~~MU,~~~NU,~~~XI,~~~OMICRON,~~~PI,~~~RHO,,~~~SIGMA,~~~TAU,~~~UPSILON",
    "~~~PHI,~~~CHI,~~~PSI,~~~OMEGA,~~~IOTA WITH DIALYTIKA,~~~UPSILON~~,~SMALL~ALPHA~TONOS",
    "~~~EPSILON~~,~~~ETA~~,~~~IOTA~~,~~~UPSILON~DIALYTIKA AND TONOS,~~~ALPHA,~~~BETA,~~~GAMMA",
    "~~~DELTA,~~~EPSILON,~~~ZETA,~~~ETA,~~~THETA,~~~IOTA,~~~KAPPA,~~~LAMDA,~~~MU,~~~NU,~~~XI",
    "~~~OMICRON,~~~PI,~~~RHO,~~~FINAL SIGMA,~~~SIGMA,~~~TAU,~~~UPSILON,~~~PHI,~~~CHI,~~~PSI",
    "~~~OMEGA,~~~IOTA WITH DIALYTIKA,~~~UPSILON~~,~~~OMICRON~TONOS,~~~UPSILON~~,~~~OMEGA~~",
    "~CAPITAL KAI SYMBOL,~BETA SYMBOL,~THETA~,~UPSILON WITH HOOK SYMBOL,~~~ACUTE AND HOOK SYMBOL",
    "~~~DIAERESIS~~~,~PHI SYMBOL,~PI~,~KAI~,~LETTER ARCHAIC KOPPA,~SMALL LETTER ARCHAIC KOPPA",
    "~LETTER STIGMA,~SMALL LETTER STIGMA,~LETTER DIGAMMA,~SMALL LETTER DIGAMMA,~LETTER KOPPA",
    "~SMALL LETTER KOPPA,~LETTER SAMPI,~SMALL LETTER SAMPI,COPTIC CAPITAL~SHEI,~SMALL~~",
    "~CAPITAL~FEI,~SMALL~~,~CAPITAL~KHEI,~SMALL~~,~CAPITAL~HORI,~SMALL~~,~CAPITAL~GANGIA",
    "~SMALL~~,~CAPITAL~SHIMA,~SMALL~~,~CAPITAL~DEI,~SMALL~~,GREEK KAPPA SYMBOL,~RHO~",
    "~LUNATE SIGMA SYMBOL,~LETTER YOT,~CAPITAL THETA SYMBOL,~LUNATE EPSILON~",
    "~REVERSED LUNATE EPSILON SYMBOL,~CAPITAL LETTER SHO,~SMALL~~,~CAPITAL LUNATE SIGMA SYMBOL",
    "~~LETTER SAN,~SMALL~~,~RHO WITH STROKE SYMBOL,~CAPITAL REVERSED LUNATE SIGMA SYMBOL",
    "~~DOTTED~~~,~~REVERSED DOTTED LUNATE SIGMA SYMBOL"]⟩,
  -- Cyrillic
  ⟨0x400, [
    "CYRILLIC CAPITAL LETTER IE WITH GRAVE,~~~IO,~~~DJE,~~~GJE,~~~UKRAINIAN IE,~~~DZE",
    "~~~BYELORUSSIAN-UKRAINIAN I,~~~YI,~~~JE,~~~LJE,~~~NJE,~~~TSHE,~~~KJE,~~~I WITH GRAVE",
    "~~~SHORT U,~~~DZHE,~~~A,~~~BE,~~~VE,~~~GHE,~~~DE,~~~IE,~~~ZHE,~~~ZE,~~~I,~~~SHORT I,~~~KA",
    "~~~EL,~~~EM,~~~EN,~~~O,~~~PE,~~~ER,~~~ES,~~~TE,~~~U,~~~EF,~~~HA,~~~TSE,~~~CHE,~~~SHA",
    "~~~SHCHA,~~~HARD SIGN,~~~YERU,~~~SOFT SIGN,~~~E,~~~YU,~~~YA,~SMALL~A,~~~BE,~~~VE,~~~GHE",
    "~~~DE,~~~IE,~~~ZHE,~~~ZE,~~~I,~~~SHORT I,~~~KA,~~~EL,~~~EM,~~~EN,~~~O,~~~PE,~~~ER,~~~ES",
    "~~~TE,~~~U,~~~EF,~~~HA,~~~TSE,~~~CHE,~~~SHA,~~~SHCHA,~~~HARD SIGN,~~~YERU,~~~SOFT SIGN,~~~E",
    "~~~YU,~~~YA,~~~IE WITH GRAVE,~~~IO,~~~DJE,~~~GJE,~~~UKRAINIAN IE,~~~DZE",
    "~~~BYELORUSSIAN-UKRAINIAN I,~~~YI,~~~JE,~~~LJE,~~~NJE,~~~TSHE,~~~KJE,~~~I WITH GRAVE",
    "~~~SHORT U,~~~DZHE,~CAPITAL~OMEGA,~SMALL~~,~CAPITAL~YAT,~SMALL~~,~CAPITAL~IOTIFIED E",
    "~SMALL~~~,~CAPITAL~LITTLE YUS,~SMALL~~~,~CAPITAL~IOTIFIED LITTLE YUS,~SMALL~~~~",
    "~CAPITAL~BIG YUS,~SMALL~~~,~CAPITAL~IOTIFIED BIG YUS,~SMALL~~~~,~CAPITAL~KSI,~SMALL~~",
    "~CAPITAL~PSI,~SMALL~~,~CAPITAL~FITA,~SMALL~~,~CAPITAL~IZHITSA,~SMALL~~",
    "~CAPITAL~~WITH DOUBLE GRAVE ACCENT,~SMALL~~~~~~,~CAPITAL~UK,~SMALL~~,~CAPITAL~ROUND OMEGA",
    "~SMALL~~~,~CAPITAL~OMEGA WITH TITLO,~SMALL~~~~,~CAPITAL~OT,~SMALL~~,~CAPITAL~KOPPA,~SMALL~~",
    "~THOUSANDS SIGN,COMBINING CYRILLIC TITLO,~~PALATALIZATION,~~DASIA PNEUMATA,~~PSILI~",
    "~~POKRYTIE,~~HUNDRED THOUSANDS SIGN,~~MILLIONS SIGN",
    "CYRILLIC CAPITAL LETTER SHORT I WITH TAIL,~SMALL~~~~~,~CAPITAL~SEMISOFT SIGN,~SMALL~~~",
    "~CAPITAL~ER WITH TICK,~SMALL~~~~,~CAPITAL~GHE~UPTURN,~SMALL~~~~,~CAPITAL~~~STROKE",
    "~SMALL~~~~,~CAPITAL~~~MIDDLE HOOK,~SMALL~~~~~,~CAPITAL~ZHE~DESCENDER,~SMALL~~~~",
    "~CAPITAL~ZE~~,~SMALL~~~~,~CAPITAL~KA~~,~SMALL~~~~,~CAPITAL~~~VERTICAL STROKE,~SMALL~~~~~",
    "~CAPITAL~~~STROKE,~SMALL~~~~,~CAPITAL~BASHKIR KA,~SMALL~~~,~CAPITAL~EN WITH DESCENDER",
    "~SMALL~~~~,~CAPITAL LIGATURE~GHE,~SMALL~~~,~CAPITAL LETTER PE WITH MIDDLE HOOK,~SMALL~~~~~",
    "~CAPITAL~ABKHASIAN HA,~SMALL~~~,~CAPITAL~ES WITH DESCENDER,~SMALL~~~~,~CAPITAL~TE~~",
    "~SMALL~~~~,~CAPITAL~STRAIGHT U,~SMALL~~~,~CAPITAL~~~WITH STROKE,~SMALL~~~~~",
    "~CAPITAL~HA WITH DESCENDER,~SMALL~~~~,~CAPITAL LIGATURE TE TSE,~SMALL~~~",
    "~CAPITAL LETTER CHE WITH DESCENDER,~SMALL~~~~,~CAPITAL~~~VERTICAL STROKE,~SMALL~~~~~",
    "~CAPITAL~SHHA,~SMALL~~,~CAPITAL~ABKHASIAN CHE,~SMALL~~~,~CAPITAL~~~WITH DESCENDER",
    "~SMALL~~~~~,~LETTER PALOCHKA,~CAPITAL LETTER ZHE WITH BREVE,~SMALL~~~~,~CAPITAL~KA~HOOK",
    "~SMALL~~~~,~CAPITAL~EL~TAIL,~SMALL~~~~,~CAPITAL~EN~HOOK,~SMALL~~~~,~CAPITAL~~~TAIL",
    "~SMALL~~~~,~CAPITAL~KHAKASSIAN CHE,~SMALL~~~,~CAPITAL~EM WITH TAIL,~SMALL~~~~,~~~PALOCHKA",
    "~CAPITAL~A WITH BREVE,~SMALL~~~~,~CAPITAL~~~DIAERESIS,~SMALL~~~~,~CAPITAL LIGATURE~IE",
    "~SMALL~~~,~CAPITAL LETTER IE WITH BREVE,~SMALL~~~~,~CAPITAL~SCHWA,~SMALL~~",
    "~CAPITAL~~WITH DIAERESIS,~SMALL~~~~,~CAPITAL~ZHE~~,~SMALL~~~~,~CAPITAL~ZE~~,~SMALL~~~~",
    "~CAPITAL~ABKHASIAN DZE,~SMALL~~~,~CAPITAL~I WITH MACRON,~SMALL~~~~,~CAPITAL~~~DIAERESIS",
    "~SMALL~~~~,~CAPITAL~O~~,~SMALL~~~~,~CAPITAL~BARRED O,~SMALL~~~,~CAPITAL~~~WITH DIAERESIS",
    "~SMALL~~~~~,~CAPITAL~E WITH DIAERESIS,~SMALL~~~~,~CAPITAL~U~MACRON,~SMALL~~~~",
    "~CAPITAL~~~DIAERESIS,~SMALL~~~~,~CAPITAL~~~DOUBLE ACUTE,~SMALL~~~~~,~CAPITAL~CHE~DIAERESIS",
    "~SMALL~~~~,~CAPITAL~GHE~DESCENDER,~SMALL~~~~,~CAPITAL~YERU~DIAERESIS,~SMALL~~~~",
    "~CAPITAL~GHE~STROKE AND HOOK,~SMALL~~~~~~,~CAPITAL~HA~HOOK,~SMALL~~~~,~CAPITAL~~~STROKE",
    "~SMALL~~~~"]⟩,
  -- Cyrillic Supplement
  ⟨0x500, [
    "CYRILLIC CAPITAL LETTER KOMI DE,~SMALL~~~,~CAPITAL~~DJE,~SMALL~~~,~CAPITAL~~ZJE,~SMALL~~~",
    "~CAPITAL~~DZJE,~SMALL~~~,~CAPITAL~~LJE,~SMALL~~~,~CAPITAL~~NJE,~SMALL~~~,~CAPITAL~~SJE",
    "~SMALL~~~,~CAPITAL~~TJE,~SMALL~~~,~CAPITAL~REVERSED ZE,~SMALL~~~,~CAPITAL~EL WITH HOOK",
    "~SMALL~~~~,~CAPITAL~LHA,~SMALL~~,~CAPITAL~RHA,~SMALL~~,~CAPITAL~YAE,~SMALL~~,~CAPITAL~QA",
    "~SMALL~~,~CAPITAL~WE,~SMALL~~,~CAPITAL~ALEUT KA,~SMALL~~~,~CAPITAL~EL WITH MIDDLE HOOK",
    "~SMALL~~~~~,~CAPITAL~EN~~~,~SMALL~~~~~,~CAPITAL~PE~DESCENDER,~SMALL~~~~,~CAPITAL~SHHA~~",
    "~SMALL~~~~,~CAPITAL~EN~LEFT HOOK,~SMALL~~~~~,~CAPITAL~DZZHE,~SMALL~~,~CAPITAL~DCHE,~SMALL~~",
    "~CAPITAL~EL WITH DESCENDER,~SMALL~~~~"]⟩,
  -- Armenian
  ⟨0x531, [
    "ARMENIAN CAPITAL LETTER AYB,~~~BEN,~~~GIM,~~~DA,~~~ECH,~~~ZA,~~~EH,~~~ET,~~~TO,~~~ZHE",
    "~~~INI,~~~LIWN,~~~XEH,~~~CA,~~~KEN,~~~HO,~~~JA,~~~GHAD,~~~CHEH,~~~MEN,~~~YI,~~~NOW,~~~SHA",
    "~~~VO,~~~CHA,~~~PEH,~~~JHEH,~~~RA,~~~SEH,~~~VEW,~~~TIWN,~~~REH,~~~CO,~~~YIWN,~~~PIWR,~~~KEH",
    "~~~OH,~~~FEH,,,~MODIFIER~LEFT HALF RING,~APOSTROPHE,~EMPHASIS MARK,~EXCLAMATION~,~COMMA",
    "~QUESTION MARK,~ABBREVIATION~,~SMALL LETTER TURNED AYB,~~~AYB,~~~BEN,~~~GIM,~~~DA,~~~ECH",
    "~~~ZA,~~~EH,~~~ET,~~~TO,~~~ZHE,~~~INI,~~~LIWN,~~~XEH,~~~CA,~~~KEN,~~~HO,~~~JA,~~~GHAD",
    "~~~CHEH,~~~MEN,~~~YI,~~~NOW,~~~SHA,~~~VO,~~~CHA,~~~PEH,~~~JHEH,~~~RA,~~~SEH,~~~VEW,~~~TIWN",
    "~~~REH,~~~CO,~~~YIWN,~~~PIWR,~~~KEH,~~~OH,~~~FEH,~~LIGATURE ECH YIWN",
    "~~LETTER YI WITH STROKE,~FULL STOP,~HYPHEN,,,RIGHT-FACING ARMENIAN ETERNITY SIGN",
    "LEFT-FACING~~~,ARMENIAN DRAM SIGN"]⟩,
  -- Georgian
  ⟨0x10a0, [
    "GEORGIAN CAPITAL LETTER AN,~~~BAN,~~~GAN,~~~DON,~~~EN,~~~VIN,~~~ZEN,~~~TAN,~~~IN,~~~KAN",
    "~~~LAS,~~~MAN,~~~NAR,~~~ON,~~~PAR,~~~ZHAR,~~~RAE,~~~SAN,~~~TAR,~~~UN,~~~PHAR,~~~KHAR",
    "~~~GHAN,~~~QAR,~~~SHIN,~~~CHIN,~~~CAN,~~~JIL,~~~CIL,~~~CHAR,~~~XAN,~~~JHAN,~~~HAE,~~~HE",
    "~~~HIE,~~~WE,~~~HAR,~~~HOE,,~~~YN,,,,,,~~~AEN,,,~LETTER AN,~~BAN,~~GAN,~~DON,~~EN,~~VIN",
    "~~ZEN,~~TAN,~~IN,~~KAN,~~LAS,~~MAN,~~NAR,~~ON,~~PAR,~~ZHAR,~~RAE,~~SAN,~~TAR,~~UN,~~PHAR",
    "~~KHAR,~~GHAN,~~QAR,~~SHIN,~~CHIN,~~CAN,~~JIL,~~CIL,~~CHAR,~~XAN,~~JHAN,~~HAE,~~HE,~~HIE",
    "~~WE,~~HAR,~~HOE,~~FI,~~YN,~~ELIFI,~~TURNED GAN,~~AIN,~PARAGRAPH SEPARATOR",
    "MODIFIER LETTER GEORGIAN NAR,GEORGIAN~AEN,~~HARD SIGN,~~LABIAL~"]⟩,
  -- Ogham
  ⟨0x1680, [
    "OGHAM SPACE MARK,~LETTER BEITH,~~LUIS,~~FEARN,~~SAIL,~~NION,~~UATH,~~DAIR,~~TINNE,~~COLL",
    "~~CEIRT,~~MUIN,~~GORT,~~NGEADAL,~~STRAIF,~~RUIS,~~AILM,~~ONN,~~UR,~~EADHADH,~~IODHADH",
    "~~EABHADH,~~OR,~~UILLEANN,~~IFIN,~~EAMHANCHOLL,~~PEITH,~FEATHER MARK,~REVERSED FEATHER MARK"]⟩,
  -- Runic
  ⟨0x16a0, [
    "RUNIC LETTER FEHU FEOH FE F,~~V,~~URUZ UR U,~~YR,~~Y,~~W,~~THURISAZ THURS THORN,~~ETH",
    "~~ANSUZ A,~~OS O,~~AC A,~~AESC,~~LONG-BRANCH-OSS O,~~SHORT-TWIG-OSS~,~~O,~~OE,~~ON",
    "~~RAIDO RAD REID R,~~KAUNA,~~CEN,~~KAUN K,~~G,~~ENG,~~GEBO GYFU G,~~GAR,~~WUNJO WYNN W",
    "~~HAGLAZ H,~~HAEGL~,~~LONG-BRANCH-HAGALL~,~~SHORT-TWIG-HAGALL~,~~NAUDIZ NYD NAUD N",
    "~~SHORT-TWIG-NAUD N,~~DOTTED-N,~~ISAZ IS ISS I,~~E,~~JERAN J,~~GER,~~LONG-BRANCH-AR AE",
    "~~SHORT-TWIG-AR A,~~IWAZ EOH,~~PERTHO PEORTH P,~~ALGIZ EOLHX,~~SOWILO S",
    "~~SIGEL LONG-BRANCH-SOL S,~~SHORT-TWIG-SOL S,~~C,~~Z,~~TIWAZ TIR TYR T,~~SHORT-TWIG-TYR T",
    "~~D,~~BERKANAN BEORC BJARKAN B,~~SHORT-TWIG-BJARKAN B,~~DOTTED-P,~~OPEN-P,~~EHWAZ EH E",
    "~~MANNAZ MAN M,~~LONG-BRANCH-MADR M,~~SHORT-TWIG-MADR~,~~LAUKAZ LAGU LOGR L,~~DOTTED-L",
    "~~INGWAZ,~~ING,~~DAGAZ DAEG D,~~OTHALAN ETHEL O,~~EAR,~~IOR,~~CWEORTH,~~CALC,~~CEALC,~~STAN",
    "~~LONG-BRANCH-YR,~~SHORT-TWIG-YR,~~ICELANDIC-YR,~~Q,~~X,~SINGLE PUNCTUATION,~MULTIPLE~",
    "~CROSS~,~ARLAUG SYMBOL,~TVIMADUR~,~BELGTHOR~,~LETTER K,~~SH,~~OO,~~FRANKS CASKET OS,~~~~IS",
    "~~~~EH,~~~~AC,~~~~AESC"]⟩,
  -- Cyrillic Extended-C
  ⟨0x1c80, [
    "CYRILLIC SMALL LETTER ROUNDED VE,~~~LONG-LEGGED DE,~~~NARROW O,~~~WIDE ES,~~~TALL TE",
    "~~~THREE-LEGGED~,~~~TALL HARD SIGN,~~~~YAT,~~~UNBLENDED UK"]⟩,
  -- Georgian Extended
  ⟨0x1c90, [
    "GEORGIAN MTAVRULI CAPITAL LETTER AN,~~~~BAN,~~~~GAN,~~~~DON,~~~~EN,~~~~VIN,~~~~ZEN,~~~~TAN",
    "~~~~IN,~~~~KAN,~~~~LAS,~~~~MAN,~~~~NAR,~~~~ON,~~~~PAR,~~~~ZHAR,~~~~RAE,~~~~SAN,~~~~TAR",
    "~~~~UN,~~~~PHAR,~~~~KHAR,~~~~GHAN,~~~~QAR,~~~~SHIN,~~~~CHIN,~~~~CAN,~~~~JIL,~~~~CIL",
    "~~~~CHAR,~~~~XAN,~~~~JHAN,~~~~HAE,~~~~HE,~~~~HIE,~~~~WE,~~~~HAR,~~~~HOE,~~~~FI,~~~~YN",
    "~~~~ELIFI,~~~~TURNED GAN,~~~~AIN,,,~~~~AEN,~~~~HARD SIGN,~~~~LABIAL~"]⟩,
  -- Greek Extended
  ⟨0x1f00, [
    "GREEK SMALL LETTER ALPHA WITH PSILI,~~~~~DASIA,~~~~~PSILI AND VARIA,~~~~~DASIA~~",
    "~~~~~PSILI~OXIA,~~~~~DASIA~~,~~~~~PSILI~PERISPOMENI,~~~~~DASIA~~,~CAPITAL~~~PSILI",
    "~~~~~DASIA,~~~~~PSILI AND VARIA,~~~~~DASIA~~,~~~~~PSILI~OXIA,~~~~~DASIA~~",
    "~~~~~PSILI~PERISPOMENI,~~~~~DASIA~~,~SMALL~EPSILON~PSILI,~~~~~DASIA,~~~~~PSILI AND VARIA",
    "~~~~~DASIA~~,~~~~~PSILI~OXIA,~~~~~DASIA~~,,,~CAPITAL~~~PSILI,~~~~~DASIA",
    "~~~~~PSILI AND VARIA,~~~~~DASIA~~,~~~~~PSILI~OXIA,~~~~~DASIA~~,,,~SMALL~ETA~PSILI",
    "~~~~~DASIA,~~~~~PSILI AND VARIA,~~~~~DASIA~~,~~~~~PSILI~OXIA,~~~~~DASIA~~",
    "~~~~~PSILI~PERISPOMENI,~~~~~DASIA~~,~CAPITAL~~~PSILI,~~~~~DASIA,~~~~~PSILI AND VARIA",
    "~~~~~DASIA~~,~~~~~PSILI~OXIA,~~~~~DASIA~~,~~~~~PSILI~PERISPOMENI,~~~~~DASIA~~",
    "~SMALL~IOTA~PSILI,~~~~~DASIA,~~~~~PSILI AND VARIA,~~~~~DASIA~~,~~~~~PSILI~OXIA,~~~~~DASIA~~",
    "~~~~~PSILI~PERISPOMENI,~~~~~DASIA~~,~CAPITAL~~~PSILI,~~~~~DASIA,~~~~~PSILI AND VARIA",
    "~~~~~DASIA~~,~~~~~PSILI~OXIA,~~~~~DASIA~~,~~~~~PSILI~PERISPOMENI,~~~~~DASIA~~",
    "~SMALL~OMICRON~PSILI,~~~~~DASIA,~~~~~PSILI AND VARIA,~~~~~DASIA~~,~~~~~PSILI~OXIA",
    "~~~~~DASIA~~,,,~CAPITAL~~~PSILI,~~~~~DASIA,~~~~~PSILI AND VARIA,~~~~~DASIA~~",
    "~~~~~PSILI~OXIA,~~~~~DASIA~~,,,~SMALL~UPSILON~PSILI,~~~~~DASIA,~~~~~PSILI AND VARIA",
    "~~~~~DASIA~~,~~~~~PSILI~OXIA,~~~~~DASIA~~,~~~~~PSILI~PERISPOMENI,~~~~~DASIA~~,,~CAPITAL~~~~",
    ",~~~~~~AND VARIA,,~~~~~~~OXIA,,~~~~~~~PERISPOMENI,~SMALL~OMEGA~PSILI,~~~~~DASIA",
    "~~~~~PSILI AND VARIA,~~~~~DASIA~~,~~~~~PSILI~OXIA,~~~~~DASIA~~,~~~~~PSILI~PERISPOMENI",
    "~~~~~DASIA~~,~CAPITAL~~~PSILI,~~~~~DASIA,~~~~~PSILI AND VARIA,~~~~~DASIA~~,~~~~~PSILI~OXIA",
    "~~~~~DASIA~~,~~~~~PSILI~PERISPOMENI,~~~~~DASIA~~,~SMALL~ALPHA~VARIA,~~~~~OXIA",
    "~~~EPSILON~VARIA,~~~~~OXIA,~~~ETA~VARIA,~~~~~OXIA,~~~IOTA~VARIA,~~~~~OXIA,~~~OMICRON~VARIA",
    "~~~~~OXIA,~~~UPSILON~VARIA,~~~~~OXIA,~~~OMEGA~VARIA,~~~~~OXIA,,",
    "~~~ALPHA~PSILI AND YPOGEGRAMMENI,~~~~~DASIA~~,~~~~~PSILI~VARIA AND YPOGEGRAMMENI",
    "~~~~~DASIA~~~~,~~~~~PSILI~OXIA~~,~~~~~DASIA~~~~,~~~~~PSILI~PERISPOMENI~~,~~~~~DASIA~~~~",
    "~CAPITAL~~~PSILI~PROSGEGRAMMENI,~~~~~DASIA~~,~~~~~PSILI~VARIA AND PROSGEGRAMMENI",
    "~~~~~DASIA~~~~,~~~~~PSILI~OXIA~~,~~~~~DASIA~~~~,~~~~~PSILI~PERISPOMENI~~,~~~~~DASIA~~~~",
    "~SMALL~ETA~PSILI~YPOGEGRAMMENI,~~~~~DASIA~~,~~~~~PSILI~VARIA AND YPOGEGRAMMENI",
    "~~~~~DASIA~~~~,~~~~~PSILI~OXIA~~,~~~~~DASIA~~~~,~~~~~PSILI~PERISPOMENI~~,~~~~~DASIA~~~~",
    "~CAPITAL~~~PSILI~PROSGEGRAMMENI,~~~~~DASIA~~,~~~~~PSILI~VARIA AND PROSGEGRAMMENI",
    "~~~~~DASIA~~~~,~~~~~PSILI~OXIA~~,~~~~~DASIA~~~~,~~~~~PSILI~PERISPOMENI~~,~~~~~DASIA~~~~",
    "~SMALL~OMEGA~PSILI~YPOGEGRAMMENI,~~~~~DASIA~~,~~~~~PSILI~VARIA AND YPOGEGRAMMENI",
    "~~~~~DASIA~~~~,~~~~~PSILI~OXIA~~,~~~~~DASIA~~~~,~~~~~PSILI~PERISPOMENI~~,~~~~~DASIA~~~~",
    "~CAPITAL~~~PSILI~PROSGEGRAMMENI,~~~~~DASIA~~,~~~~~PSILI~VARIA AND PROSGEGRAMMENI",
    "~~~~~DASIA~~~~,~~~~~PSILI~OXIA~~,~~~~~DASIA~~~~,~~~~~PSILI~PERISPOMENI~~,~~~~~DASIA~~~~",
    "~SMALL~ALPHA~VRACHY,~~~~~MACRON,~~~~~VARIA AND YPOGEGRAMMENI,~~~~~YPOGEGRAMMENI",
    "~~~~~OXIA AND YPOGEGRAMMENI,,~~~~~PERISPOMENI,~~~~~~AND YPOGEGRAMMENI,~CAPITAL~~~VRACHY",
    "~~~~~MACRON,~~~~~VARIA,~~~~~OXIA,~~~~~PROSGEGRAMMENI,~KORONIS,~PROSGEGRAMMENI,~PSILI",
    "~PERISPOMENI,~DIALYTIKA AND PERISPOMENI,~SMALL LETTER ETA WITH VARIA AND YPOGEGRAMMENI",
    "~~~~~YPOGEGRAMMENI,~~~~~OXIA AND YPOGEGRAMMENI,,~~~~~PERISPOMENI,~~~~~~AND YPOGEGRAMMENI",
    "~CAPITAL~EPSILON~VARIA,~~~~~OXIA,~~~ETA~VARIA,~~~~~OXIA,~~~~~PROSGEGRAMMENI",
    "~PSILI AND VARIA,~~~OXIA,~~~PERISPOMENI,~SMALL LETTER IOTA WITH VRACHY,~~~~~MACRON",
    "~~~~~DIALYTIKA AND VARIA,~~~~~~~OXIA,,,~~~~~PERISPOMENI,~~~~~DIALYTIKA AND PERISPOMENI",
    "~CAPITAL~~~VRACHY,~~~~~MACRON,~~~~~VARIA,~~~~~OXIA,,~DASIA AND VARIA,~~~OXIA,~~~PERISPOMENI",
    "~SMALL LETTER UPSILON WITH VRACHY,~~~~~MACRON,~~~~~DIALYTIKA AND VARIA,~~~~~~~OXIA",
    "~~~RHO~PSILI,~~~~~DASIA,~~~UPSILON~PERISPOMENI,~~~~~DIALYTIKA AND PERISPOMENI",
    "~CAPITAL~~~VRACHY,~~~~~MACRON,~~~~~VARIA,~~~~~OXIA,~~~RHO~DASIA,~DIALYTIKA AND VARIA",
    "~~~OXIA,~VARIA,,,~SMALL LETTER OMEGA WITH VARIA AND YPOGEGRAMMENI,~~~~~YPOGEGRAMMENI",
    "~~~~~OXIA AND YPOGEGRAMMENI,,~~~~~PERISPOMENI,~~~~~~AND YPOGEGRAMMENI",
    "~CAPITAL~OMICRON~VARIA,~~~~~OXIA,~~~OMEGA~VARIA,~~~~~OXIA,~~~~~PROSGEGRAMMENI,~OXIA,~DASIA"]⟩,
  -- Glagolitic
  ⟨0x2c00, [
    "GLAGOLITIC CAPITAL LETTER AZU,~~~BUKY,~~~VEDE,~~~GLAGOLI,~~~DOBRO,~~~YESTU,~~~ZHIVETE",
    "~~~DZELO,~~~ZEMLJA,~~~IZHE,~~~INITIAL IZHE,~~~I,~~~DJERVI,~~~KAKO,~~~LJUDIJE,~~~MYSLITE",
    "~~~NASHI,~~~ONU,~~~POKOJI,~~~RITSI,~~~SLOVO,~~~TVRIDO,~~~UKU,~~~FRITU,~~~HERU,~~~OTU,~~~PE",
    "~~~SHTA,~~~TSI,~~~CHRIVI,~~~SHA,~~~YERU,~~~YERI,~~~YATI,~~~SPIDERY HA,~~~YU,~~~SMALL YUS",
    "~~~~~WITH TAIL,~~~YO,~~~IOTATED SMALL YUS,~~~BIG YUS,~~~IOTATED BIG YUS,~~~FITA,~~~IZHITSA",
    "~~~SHTAPIC,~~~TROKUTASTI A,~~~LATINATE MYSLITE,~~~CAUDATE CHRIVI,~SMALL~AZU,~~~BUKY,~~~VEDE",
    "~~~GLAGOLI,~~~DOBRO,~~~YESTU,~~~ZHIVETE,~~~DZELO,~~~ZEMLJA,~~~IZHE,~~~INITIAL IZHE,~~~I",
    "~~~DJERVI,~~~KAKO,~~~LJUDIJE,~~~MYSLITE,~~~NASHI,~~~ONU,~~~POKOJI,~~~RITSI,~~~SLOVO",
    "~~~TVRIDO,~~~UKU,~~~FRITU,~~~HERU,~~~OTU,~~~PE,~~~SHTA,~~~TSI,~~~CHRIVI,~~~SHA,~~~YERU",
    "~~~YERI,~~~YATI,~~~SPIDERY HA,~~~YU,~~~SMALL YUS,~~~~~WITH TAIL,~~~YO,~~~IOTATED SMALL YUS",
    "~~~BIG YUS,~~~IOTATED BIG YUS,~~~FITA,~~~IZHITSA,~~~SHTAPIC,~~~TROKUTASTI A",
    "~~~LATINATE MYSLITE,~~~CAUDATE CHRIVI"]⟩,
  -- Coptic
  ⟨0x2c80, [
    "COPTIC CAPITAL LETTER ALFA,~SMALL~~,~CAPITAL~VIDA,~SMALL~~,~CAPITAL~GAMMA,~SMALL~~",
    "~CAPITAL~DALDA,~SMALL~~,~CAPITAL~EIE,~SMALL~~,~CAPITAL~SOU,~SMALL~~,~CAPITAL~ZATA,~SMALL~~",
    "~CAPITAL~HATE,~SMALL~~,~CAPITAL~THETHE,~SMALL~~,~CAPITAL~IAUDA,~SMALL~~,~CAPITAL~KAPA",
    "~SMALL~~,~CAPITAL~LAULA,~SMALL~~,~CAPITAL~MI,~SMALL~~,~CAPITAL~NI,~SMALL~~,~CAPITAL~KSI",
    "~SMALL~~,~CAPITAL~O,~SMALL~~,~CAPITAL~PI,~SMALL~~,~CAPITAL~RO,~SMALL~~,~CAPITAL~SIMA",
    "~SMALL~~,~CAPITAL~TAU,~SMALL~~,~CAPITAL~UA,~SMALL~~,~CAPITAL~FI,~SMALL~~,~CAPITAL~KHI",
    "~SMALL~~,~CAPITAL~PSI,~SMALL~~,~CAPITAL~OOU,~SMALL~~,~CAPITAL~DIALECT-P ALEF,~SMALL~~~",
    "~CAPITAL~OLD COPTIC AIN,~SMALL~~~~,~CAPITAL~CRYPTOGRAMMIC EIE,~SMALL~~~",
    "~CAPITAL~DIALECT-P KAPA,~SMALL~~~,~CAPITAL~~NI,~SMALL~~~,~CAPITAL~CRYPTOGRAMMIC~,~SMALL~~~",
    "~CAPITAL~OLD COPTIC OOU,~SMALL~~~~,~CAPITAL~SAMPI,~SMALL~~,~CAPITAL~CROSSED SHEI,~SMALL~~~",
    "~CAPITAL~OLD COPTIC SHEI,~SMALL~~~~,~CAPITAL~~~ESH,~SMALL~~~~,~CAPITAL~AKHMIMIC KHEI",
    "~SMALL~~~,~CAPITAL~DIALECT-P HORI,~SMALL~~~,~CAPITAL~OLD COPTIC HORI,~SMALL~~~~",
    "~CAPITAL~~~HA,~SMALL~~~~,~CAPITAL~L-SHAPED HA,~SMALL~~~,~CAPITAL~OLD COPTIC HEI,~SMALL~~~~",
    "~CAPITAL~~~HAT,~SMALL~~~~,~CAPITAL~~~GANGIA,~SMALL~~~~,~CAPITAL~~~DJA,~SMALL~~~~",
    "~CAPITAL~~~SHIMA,~SMALL~~~~,~CAPITAL~~NUBIAN~,~SMALL~~~~,~CAPITAL~~~NGI,~SMALL~~~~",
    "~CAPITAL~~~NYI,~SMALL~~~~,~CAPITAL~~~WAU,~SMALL~~~~,~SYMBOL KAI,~~MI RO,~~PI~,~~STAUROS",
    "~~TAU RO,~~KHI~,~~SHIMA SIMA,~CAPITAL LETTER CRYPTOGRAMMIC SHEI,~SMALL~~~,~CAPITAL~~GANGIA",
    "~SMALL~~~,~COMBINING NI ABOVE,~~SPIRITUS ASPER,~~~LENIS,~CAPITAL LETTER BOHAIRIC KHEI",
    "~SMALL~~~,,,,,,~OLD NUBIAN FULL STOP,~~~DIRECT QUESTION MARK,~~~INDIRECT~~,~~~VERSE DIVIDER",
    "~FRACTION ONE HALF,~FULL STOP,~MORPHOLOGICAL DIVIDER"]⟩,
  -- Georgian Supplement
  ⟨0x2d00, [
    "GEORGIAN SMALL LETTER AN,~~~BAN,~~~GAN,~~~DON,~~~EN,~~~VIN,~~~ZEN,~~~TAN,~~~IN,~~~KAN",
    "~~~LAS,~~~MAN,~~~NAR,~~~ON,~~~PAR,~~~ZHAR,~~~RAE,~~~SAN,~~~TAR,~~~UN,~~~PHAR,~~~KHAR",
    "~~~GHAN,~~~QAR,~~~SHIN,~~~CHIN,~~~CAN,~~~JIL,~~~CIL,~~~CHAR,~~~XAN,~~~JHAN,~~~HAE,~~~HE",
    "~~~HIE,~~~WE,~~~HAR,~~~HOE,,~~~YN,,,,,,~~~AEN"]⟩,
  -- Cyrillic Extended-A
  ⟨0x2de0, [
    "COMBINING CYRILLIC LETTER BE,~~~VE,~~~GHE,~~~DE,~~~ZHE,~~~ZE,~~~KA,~~~EL,~~~EM,~~~EN,~~~O",
    "~~~PE,~~~ER,~~~ES,~~~TE,~~~HA,~~~TSE,~~~CHE,~~~SHA,~~~SHCHA,~~~FITA,~~~ES-TE,~~~A,~~~IE",
    "~~~DJERV,~~~MONOGRAPH UK,~~~YAT,~~~YU,~~~IOTIFIED A,~~~LITTLE YUS,~~~BIG~",
    "~~~IOTIFIED BIG YUS"]⟩,
  -- Cyrillic Extended-B
  ⟨0xa640, [
    "CYRILLIC CAPITAL LETTER ZEMLYA,~SMALL~~,~CAPITAL~DZELO,~SMALL~~,~CAPITAL~REVERSED DZE",
    "~SMALL~~~,~CAPITAL~IOTA,~SMALL~~,~CAPITAL~DJERV,~SMALL~~,~CAPITAL~MONOGRAPH UK,~SMALL~~~",
    "~CAPITAL~BROAD OMEGA,~SMALL~~~,~CAPITAL~NEUTRAL YER,~SMALL~~~,~CAPITAL~YERU WITH BACK YER",
    "~SMALL~~~~~,~CAPITAL~IOTIFIED YAT,~SMALL~~~,~CAPITAL~REVERSED YU,~SMALL~~~",
    "~CAPITAL~IOTIFIED A,~SMALL~~~,~CAPITAL~CLOSED LITTLE YUS,~SMALL~~~~,~CAPITAL~BLENDED YUS",
    "~SMALL~~~,~CAPITAL~IOTIFIED CLOSED LITTLE YUS,~SMALL~~~~~,~CAPITAL~YN,~SMALL~~",
    "~CAPITAL~REVERSED TSE,~SMALL~~~,~CAPITAL~SOFT DE,~SMALL~~~,~CAPITAL~~EL,~SMALL~~~",
    "~CAPITAL~~EM,~SMALL~~~,~CAPITAL~MONOCULAR O,~SMALL~~~,~CAPITAL~BINOCULAR~,~SMALL~~~",
    "~CAPITAL~DOUBLE MONOCULAR O,~SMALL~~~~,~LETTER MULTIOCULAR O,COMBINING CYRILLIC VZMET",
    "~~TEN MILLIONS SIGN,~~HUNDRED~~,~~THOUSAND~~,SLAVONIC ASTERISK",
    "COMBINING CYRILLIC LETTER UKRAINIAN IE,~~~I,~~~YI,~~~U,~~~HARD SIGN,~~~YERU,~~~SOFT SIGN",
    "~~~OMEGA,~~KAVYKA,~~PAYEROK,CYRILLIC KAVYKA,~PAYEROK,~CAPITAL LETTER DWE,~SMALL~~",
    "~CAPITAL~DZWE,~SMALL~~,~CAPITAL~ZHWE,~SMALL~~,~CAPITAL~CCHE,~SMALL~~,~CAPITAL~DZZE,~SMALL~~",
    "~CAPITAL~TE WITH MIDDLE HOOK,~SMALL~~~~~,~CAPITAL~TWE,~SMALL~~,~CAPITAL~TSWE,~SMALL~~",
    "~CAPITAL~TSSE,~SMALL~~,~CAPITAL~TCHE,~SMALL~~,~CAPITAL~HWE,~SMALL~~,~CAPITAL~SHWE,~SMALL~~",
    "~CAPITAL~DOUBLE O,~SMALL~~~,~CAPITAL~CROSSED~,~SMALL~~~,MODIFIER LETTER CYRILLIC HARD SIGN",
    "~~~SOFT~,COMBINING CYRILLIC LETTER EF,~~~IOTIFIED E"]⟩,
  -- Coptic Epact Numbers
  ⟨0x102e0, [
    "COPTIC EPACT THOUSANDS MARK,~~DIGIT ONE,~~~TWO,~~~THREE,~~~FOUR,~~~FIVE,~~~SIX,~~~SEVEN",
    "~~~EIGHT,~~~NINE,~~NUMBER TEN,~~~TWENTY,~~~THIRTY,~~~FORTY,~~~FIFTY,~~~SIXTY,~~~SEVENTY",
    "~~~EIGHTY,~~~NINETY,~~~ONE HUNDRED,~~~TWO~,~~~THREE~,~~~FOUR~,~~~FIVE~,~~~SIX~,~~~SEVEN~",
    "~~~EIGHT~,~~~NINE~"]⟩,
  -- Old Italic
  ⟨0x10300, [
    "OLD ITALIC LETTER A,~~~BE,~~~KE,~~~DE,~~~E,~~~VE,~~~ZE,~~~HE,~~~THE,~~~I,~~~KA,~~~EL,~~~EM",
    "~~~EN,~~~ESH,~~~O,~~~PE,~~~SHE,~~~KU,~~~ER,~~~ES,~~~TE,~~~U,~~~EKS,~~~PHE,~~~KHE,~~~EF",
    "~~~ERS,~~~CHE,~~~II,~~~UU,~~~ESS,~~NUMERAL ONE,~~~FIVE,~~~TEN,~~~FIFTY,,,,,,,,,,~~LETTER YE",
    "~~~NORTHERN TSE,~~~SOUTHERN~"]⟩,
  -- Gothic
  ⟨0x10330, [
    "GOTHIC LETTER AHSA,~~BAIRKAN,~~GIBA,~~DAGS,~~AIHVUS,~~QAIRTHRA,~~IUJA,~~HAGL,~~THIUTH,~~EIS",
    "~~KUSMA,~~LAGUS,~~MANNA,~~NAUTHS,~~JER,~~URUS,~~PAIRTHRA,~~NINETY,~~RAIDA,~~SAUIL,~~TEIWS",
    "~~WINJA,~~FAIHU,~~IGGWS,~~HWAIR,~~OTHAL,~~NINE HUNDRED"]⟩,
  -- Old Permic
  ⟨0x10350, [
    "OLD PERMIC LETTER AN,~~~BUR,~~~GAI,~~~DOI,~~~E,~~~ZHOI,~~~DZHOI,~~~ZATA,~~~DZITA,~~~I",
    "~~~KOKE,~~~LEI,~~~MENOE,~~~NENOE,~~~VOOI,~~~PEEI,~~~REI,~~~SII,~~~TAI,~~~U,~~~CHERY",
    "~~~SHOOI,~~~SHCHOOI,~~~YRY,~~~YERU,~~~O,~~~OO,~~~EF,~~~HA,~~~TSIU,~~~VER,~~~YER,~~~YERI",
    "~~~YAT,~~~IE,~~~YU,~~~YA,~~~IA,COMBINING OLD PERMIC LETTER AN,~~~~DOI,~~~~ZATA,~~~~NENOE",
    "~~~~SII"]⟩,
  -- Shavian
  ⟨0x10450, [
    "SHAVIAN LETTER PEEP,~~TOT,~~KICK,~~FEE,~~THIGH,~~SO,~~SURE,~~CHURCH,~~YEA,~~HUNG,~~BIB",
    "~~DEAD,~~GAG,~~VOW,~~THEY,~~ZOO,~~MEASURE,~~JUDGE,~~WOE,~~HA-HA,~~LOLL,~~MIME,~~IF,~~EGG",
    "~~ASH,~~ADO,~~ON,~~WOOL,~~OUT,~~AH,~~ROAR,~~NUN,~~EAT,~~AGE,~~ICE,~~UP,~~OAK,~~OOZE,~~OIL",
    "~~AWE,~~ARE,~~OR,~~AIR,~~ERR,~~ARRAY,~~EAR,~~IAN,~~YEW"]⟩,
  -- Elbasan
  ⟨0x10500, [
    "ELBASAN LETTER A,~~BE,~~CE,~~CHE,~~DE,~~NDE,~~DHE,~~EI,~~E,~~FE,~~GE,~~GJE,~~HE,~~I,~~JE",
    "~~KE,~~LE,~~LLE,~~ME,~~NE,~~NA,~~NJE,~~O,~~PE,~~QE,~~RE,~~RRE,~~SE,~~SHE,~~TE,~~THE,~~U",
    "~~VE,~~XE,~~Y,~~ZE,~~ZHE,~~GHE,~~GHAMMA,~~KHE"]⟩,
  -- Caucasian Albanian
  ⟨0x10530, [
    "CAUCASIAN ALBANIAN LETTER ALT,~~~BET,~~~GIM,~~~DAT,~~~EB,~~~ZARL,~~~EYN,~~~ZHIL,~~~TAS",
    "~~~CHA,~~~YOWD,~~~ZHA,~~~IRB,~~~SHA,~~~LAN,~~~INYA,~~~XEYN,~~~DYAN,~~~CAR,~~~JHOX,~~~KAR",
    "~~~LYIT,~~~HEYT,~~~QAY,~~~AOR,~~~CHOY,~~~CHI,~~~CYAY,~~~MAQ,~~~QAR,~~~NOWC,~~~DZYAY,~~~SHAK",
    "~~~JAYN,~~~ON,~~~TYAY,~~~FAM,~~~DZAY,~~~CHAT,~~~PEN,~~~GHEYS,~~~RAT,~~~SEYK,~~~VEYZ,~~~TIWR",
    "~~~SHOY,~~~IWN,~~~CYAW,~~~CAYN,~~~YAYD,~~~PIWR,~~~KIW,,,,,,,,,,,,~~CITATION MARK"]⟩,
  -- Vithkuqi
  ⟨0x10570, [
    "VITHKUQI CAPITAL LETTER A,~~~BBE,~~~BE,~~~CE,~~~CHE,~~~DE,~~~DHE,~~~EI,~~~E,~~~FE,~~~GA,",
    "~~~HA,~~~HHA,~~~I,~~~IJE,~~~JE,~~~KA,~~~LA,~~~LLA,~~~ME,~~~NE,~~~NJE,~~~O,~~~PE,~~~QA,~~~RE",
    ",~~~SE,~~~SHE,~~~TE,~~~THE,~~~U,~~~VE,~~~XE,,~~~Y,~~~ZE,,~SMALL~A,~~~BBE,~~~BE,~~~CE,~~~CHE",
    "~~~DE,~~~DHE,~~~EI,~~~E,~~~FE,~~~GA,,~~~HA,~~~HHA,~~~I,~~~IJE,~~~JE,~~~KA,~~~LA,~~~LLA",
    "~~~ME,~~~NE,~~~NJE,~~~O,~~~PE,~~~QA,~~~RE,,~~~SE,~~~SHE,~~~TE,~~~THE,~~~U,~~~VE,~~~XE,,~~~Y",
    "~~~ZE"]⟩,
  -- Old Hungarian
  ⟨0x10c80, [
    "OLD HUNGARIAN CAPITAL LETTER A,~~~~AA,~~~~EB,~~~~AMB,~~~~EC,~~~~ENC,~~~~ECS,~~~~ED,~~~~AND",
    "~~~~E,~~~~CLOSE E,~~~~EE,~~~~EF,~~~~EG,~~~~EGY,~~~~EH,~~~~I,~~~~II,~~~~EJ,~~~~EK,~~~~AK",
    "~~~~UNK,~~~~EL,~~~~ELY,~~~~EM,~~~~EN,~~~~ENY,~~~~O,~~~~OO,~~~~NIKOLSBURG OE,~~~~RUDIMENTA~",
    "~~~~OEE,~~~~EP,~~~~EMP,~~~~ER,~~~~SHORT ER,~~~~ES,~~~~ESZ,~~~~ET,~~~~ENT,~~~~ETY,~~~~ECH",
    "~~~~U,~~~~UU,~~~~NIKOLSBURG UE,~~~~RUDIMENTA~,~~~~EV,~~~~EZ,~~~~EZS,~~~~ENT-SHAPED SIGN",
    "~~~~US"]⟩,
  ⟨0x10cc0, [
    "OLD HUNGARIAN SMALL LETTER A,~~~~AA,~~~~EB,~~~~AMB,~~~~EC,~~~~ENC,~~~~ECS,~~~~ED,~~~~AND",
    "~~~~E,~~~~CLOSE E,~~~~EE,~~~~EF,~~~~EG,~~~~EGY,~~~~EH,~~~~I,~~~~II,~~~~EJ,~~~~EK,~~~~AK",
    "~~~~UNK,~~~~EL,~~~~ELY,~~~~EM,~~~~EN,~~~~ENY,~~~~O,~~~~OO,~~~~NIKOLSBURG OE,~~~~RUDIMENTA~",
    "~~~~OEE,~~~~EP,~~~~EMP,~~~~ER,~~~~SHORT ER,~~~~ES,~~~~ESZ,~~~~ET,~~~~ENT,~~~~ETY,~~~~ECH",
    "~~~~U,~~~~UU,~~~~NIKOLSBURG UE,~~~~RUDIMENTA~,~~~~EV,~~~~EZ,~~~~EZS,~~~~ENT-SHAPED SIGN",
    "~~~~US,,,,,,,,~~NUMBER ONE,~~~FIVE,~~~TEN,~~~FIFTY,~~~ONE HUNDRED,~~~~THOUSAND"]⟩,
  -- Glagolitic Supplement
  ⟨0x1e000, [
    "COMBINING GLAGOLITIC LETTER AZU,~~~BUKY,~~~VEDE,~~~GLAGOLI,~~~DOBRO,~~~YESTU,~~~ZHIVETE,",
    "~~~ZEMLJA,~~~IZHE,~~~INITIAL IZHE,~~~I,~~~DJERVI,~~~KAKO,~~~LJUDIJE,~~~MYSLITE,~~~NASHI",
    "~~~ONU,~~~POKOJI,~~~RITSI,~~~SLOVO,~~~TVRIDO,~~~UKU,~~~FRITU,~~~HERU,,,~~~SHTA,~~~TSI",
    "~~~CHRIVI,~~~SHA,~~~YERU,~~~YERI,~~~YATI,,~~~YU,~~~SMALL YUS,,~~~YO,~~~IOTATED SMALL YUS",
    "~~~BIG YUS,~~~IOTATED BIG YUS,~~~FITA"]⟩]

end AccessScopes.Text
