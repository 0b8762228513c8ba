import AccessScopes.Text.CharName.Block

/-!
# `AccessScopes.Text.CharName.Symbol.Notation`: names in notations

Notations of music and of movement, shorthand, writing to be felt, and divination.
-/

set_option autoImplicit false

namespace AccessScopes.Text

/-- The blocks of notations. -/
def notationBlocks : List NameBlock := [
  -- Braille Patterns
  ⟨0x2800, [
    "BRAILLE PATTERN BLANK,~~DOTS-1,~~DOTS-2,~~DOTS-12,~~DOTS-3,~~DOTS-13,~~DOTS-23,~~DOTS-123",
    "~~DOTS-4,~~DOTS-14,~~DOTS-24,~~DOTS-124,~~DOTS-34,~~DOTS-134,~~DOTS-234,~~DOTS-1234",
    "~~DOTS-5,~~DOTS-15,~~DOTS-25,~~DOTS-125,~~DOTS-35,~~DOTS-135,~~DOTS-235,~~DOTS-1235",
    "~~DOTS-45,~~DOTS-145,~~DOTS-245,~~DOTS-1245,~~DOTS-345,~~DOTS-1345,~~DOTS-2345,~~DOTS-12345",
    "~~DOTS-6,~~DOTS-16,~~DOTS-26,~~DOTS-126,~~DOTS-36,~~DOTS-136,~~DOTS-236,~~DOTS-1236",
    "~~DOTS-46,~~DOTS-146,~~DOTS-246,~~DOTS-1246,~~DOTS-346,~~DOTS-1346,~~DOTS-2346,~~DOTS-12346",
    "~~DOTS-56,~~DOTS-156,~~DOTS-256,~~DOTS-1256,~~DOTS-356,~~DOTS-1356,~~DOTS-2356,~~DOTS-12356",
    "~~DOTS-456,~~DOTS-1456,~~DOTS-2456,~~DOTS-12456,~~DOTS-3456,~~DOTS-13456,~~DOTS-23456",
    "~~DOTS-123456,~~DOTS-7,~~DOTS-17,~~DOTS-27,~~DOTS-127,~~DOTS-37,~~DOTS-137,~~DOTS-237",
    "~~DOTS-1237,~~DOTS-47,~~DOTS-147,~~DOTS-247,~~DOTS-1247,~~DOTS-347,~~DOTS-1347,~~DOTS-2347",
    "~~DOTS-12347,~~DOTS-57,~~DOTS-157,~~DOTS-257,~~DOTS-1257,~~DOTS-357,~~DOTS-1357,~~DOTS-2357",
    "~~DOTS-12357,~~DOTS-457,~~DOTS-1457,~~DOTS-2457,~~DOTS-12457,~~DOTS-3457,~~DOTS-13457",
    "~~DOTS-23457,~~DOTS-123457,~~DOTS-67,~~DOTS-167,~~DOTS-267,~~DOTS-1267,~~DOTS-367",
    "~~DOTS-1367,~~DOTS-2367,~~DOTS-12367,~~DOTS-467,~~DOTS-1467,~~DOTS-2467,~~DOTS-12467",
    "~~DOTS-3467,~~DOTS-13467,~~DOTS-23467,~~DOTS-123467,~~DOTS-567,~~DOTS-1567,~~DOTS-2567",
    "~~DOTS-12567,~~DOTS-3567,~~DOTS-13567,~~DOTS-23567,~~DOTS-123567,~~DOTS-4567,~~DOTS-14567",
    "~~DOTS-24567,~~DOTS-124567,~~DOTS-34567,~~DOTS-134567,~~DOTS-234567,~~DOTS-1234567,~~DOTS-8",
    "~~DOTS-18,~~DOTS-28,~~DOTS-128,~~DOTS-38,~~DOTS-138,~~DOTS-238,~~DOTS-1238,~~DOTS-48",
    "~~DOTS-148,~~DOTS-248,~~DOTS-1248,~~DOTS-348,~~DOTS-1348,~~DOTS-2348,~~DOTS-12348,~~DOTS-58",
    "~~DOTS-158,~~DOTS-258,~~DOTS-1258,~~DOTS-358,~~DOTS-1358,~~DOTS-2358,~~DOTS-12358",
    "~~DOTS-458,~~DOTS-1458,~~DOTS-2458,~~DOTS-12458,~~DOTS-3458,~~DOTS-13458,~~DOTS-23458",
    "~~DOTS-123458,~~DOTS-68,~~DOTS-168,~~DOTS-268,~~DOTS-1268,~~DOTS-368,~~DOTS-1368",
    "~~DOTS-2368,~~DOTS-12368,~~DOTS-468,~~DOTS-1468,~~DOTS-2468,~~DOTS-12468,~~DOTS-3468",
    "~~DOTS-13468,~~DOTS-23468,~~DOTS-123468,~~DOTS-568,~~DOTS-1568,~~DOTS-2568,~~DOTS-12568",
    "~~DOTS-3568,~~DOTS-13568,~~DOTS-23568,~~DOTS-123568,~~DOTS-4568,~~DOTS-14568,~~DOTS-24568",
    "~~DOTS-124568,~~DOTS-34568,~~DOTS-134568,~~DOTS-234568,~~DOTS-1234568,~~DOTS-78,~~DOTS-178",
    "~~DOTS-278,~~DOTS-1278,~~DOTS-378,~~DOTS-1378,~~DOTS-2378,~~DOTS-12378,~~DOTS-478",
    "~~DOTS-1478,~~DOTS-2478,~~DOTS-12478,~~DOTS-3478,~~DOTS-13478,~~DOTS-23478,~~DOTS-123478",
    "~~DOTS-578,~~DOTS-1578,~~DOTS-2578,~~DOTS-12578,~~DOTS-3578,~~DOTS-13578,~~DOTS-23578",
    "~~DOTS-123578,~~DOTS-4578,~~DOTS-14578,~~DOTS-24578,~~DOTS-124578,~~DOTS-34578",
    "~~DOTS-134578,~~DOTS-234578,~~DOTS-1234578,~~DOTS-678,~~DOTS-1678,~~DOTS-2678,~~DOTS-12678",
    "~~DOTS-3678,~~DOTS-13678,~~DOTS-23678,~~DOTS-123678,~~DOTS-4678,~~DOTS-14678,~~DOTS-24678",
    "~~DOTS-124678,~~DOTS-34678,~~DOTS-134678,~~DOTS-234678,~~DOTS-1234678,~~DOTS-5678",
    "~~DOTS-15678,~~DOTS-25678,~~DOTS-125678,~~DOTS-35678,~~DOTS-135678,~~DOTS-235678",
    "~~DOTS-1235678,~~DOTS-45678,~~DOTS-145678,~~DOTS-245678,~~DOTS-1245678,~~DOTS-345678",
    "~~DOTS-1345678,~~DOTS-2345678,~~DOTS-12345678"]⟩,
  -- Yijing Hexagram Symbols
  ⟨0x4dc0, [
    "HEXAGRAM FOR THE CREATIVE HEAVEN,~~~RECEPTIVE EARTH,~~DIFFICULTY AT THE BEGINNING",
    "~~YOUTHFUL FOLLY,~~WAITING,~~CONFLICT,~~THE ARMY,~~HOLDING TOGETHER,~~SMALL TAMING",
    "~~TREADING,~~PEACE,~~STANDSTILL,~~FELLOWSHIP,~~GREAT POSSESSION,~~MODESTY,~~ENTHUSIASM",
    "~~FOLLOWING,~~WORK ON THE DECAYED,~~APPROACH,~~CONTEMPLATION,~~BITING THROUGH,~~GRACE",
    "~~SPLITTING APART,~~RETURN,~~INNOCENCE,~~GREAT TAMING,~~MOUTH CORNERS,~~GREAT PREPONDERANCE",
    "~~THE ABYSMAL WATER,~~~CLINGING FIRE,~~INFLUENCE,~~DURATION,~~RETREAT,~~GREAT POWER",
    "~~PROGRESS,~~DARKENING OF THE LIGHT,~~THE FAMILY,~~OPPOSITION,~~OBSTRUCTION,~~DELIVERANCE",
    "~~DECREASE,~~INCREASE,~~BREAKTHROUGH,~~COMING TO MEET,~~GATHERING TOGETHER,~~PUSHING UPWARD",
    "~~OPPRESSION,~~THE WELL,~~REVOLUTION,~~THE CAULDRON,~~~AROUSING THUNDER",
    "~~~KEEPING STILL MOUNTAIN,~~DEVELOPMENT,~~THE MARRYING MAIDEN,~~ABUNDANCE,~~THE WANDERER",
    "~~~GENTLE WIND,~~~JOYOUS LAKE,~~DISPERSION,~~LIMITATION,~~INNER TRUTH,~~SMALL PREPONDERANCE",
    "~~AFTER COMPLETION,~~BEFORE~"]⟩,
  -- Duployan
  ⟨0x1bc00, [
    "DUPLOYAN LETTER H,~~X,~~P,~~T,~~F,~~K,~~L,~~B,~~D,~~V,~~G,~~R,~~P N,~~D S,~~F N,~~K M,~~R S",
    "~~TH,~~SLOAN DH,~~DH,~~KK,~~SLOAN J,~~HL,~~LH,~~RH,~~M,~~N,~~J,~~S,~~M N,~~N M,~~J~,~~S J",
    "~~M WITH DOT,~~N~~,~~J~~,~~~~DOTS INSIDE AND ABOVE,~~S~DOT,~~~~~BELOW,~~M S,~~N~,~~J~,~~S~",
    "~~M N S,~~N M~,~~J~~,~~S J~,~~J S WITH DOT,~~~N,~~~~S,~~S T,~~~~R,~~~P,~~~~R,~~T S,~~~R S",
    "~~W,~~WH,~~W R,~~S N,~~~M,~~K R S,~~G~~,~~S K,~~~~R,~~A,~~SLOAN OW,~~OA,~~O,~~AOU,~~I,~~E",
    "~~IE,~~SHORT I,~~UI,~~EE,~~SLOAN EH,~~ROMANIAN I,~~SLOAN EE,~~LONG I,~~YE,~~U,~~EU,~~XW",
    "~~U N,~~LONG U,~~ROMANIAN~,~~UH,~~SLOAN U,~~OOH,~~OW,~~OU,~~WA,~~WO,~~WI,~~WEI,~~WOW",
    "~~NASAL U,~~~O,~~~I,~~~A,~~PERNIN AN,~~~AM,~~SLOAN EN,~~~AN,~~~ON,~~VOCALIC M,,,,,",
    "~AFFIX LEFT HORIZONTAL SECANT,~~MID~~,~~RIGHT~~,~~LOW VERTICAL~,~~MID~~,~~HIGH~~",
    "~~ATTACHED SECANT,~~~LEFT-TO-RIGHT SECANT,~~~TANGENT,~~~TAIL,~~~E HOOK,~~~I~,~~~TANGENT~,,,",
    "~~HIGH ACUTE,~~~TIGHT ACUTE,~~~GRAVE,~~~LONG GRAVE,~~~DOT,~~~CIRCLE,~~~LINE,~~~WAVE",
    "~~~VERTICAL,,,,,,,,~~LOW ACUTE,~~~TIGHT ACUTE,~~~GRAVE,~~~LONG GRAVE,~~~DOT,~~~CIRCLE",
    "~~~LINE,~~~WAVE,~~~VERTICAL,~~~ARROW,,,~SIGN O WITH CROSS,~THICK LETTER SELECTOR",
    "~DOUBLE MARK,~PUNCTUATION CHINOOK FULL STOP"]⟩,
  -- Shorthand Format Controls
  ⟨0x1bca0, [
    "SHORTHAND FORMAT LETTER OVERLAP,~~CONTINUING~,~~DOWN STEP,~~UP~"]⟩,
  -- Znamenny Musical Notation
  ⟨0x1cf00, [
    "ZNAMENNY COMBINING MARK GORAZDO NIZKO S KRYZHEM ON LEFT,~~~NIZKO S KRYZHEM ON LEFT",
    "~~~TSATA ON LEFT,~~~GORAZDO NIZKO ON LEFT,~~~NIZKO ON LEFT,~~~SREDNE~~",
    "~~~MALO POVYSHE ON LEFT,~~~POVYSHE ON LEFT,~~~VYSOKO~~,~~~MALO POVYSHE S KHOKHLOM ON LEFT",
    "~~~POVYSHE S KHOKHLOM ON LEFT,~~~VYSOKO~~~~,~~~GORAZDO NIZKO S KRYZHEM ON RIGHT",
    "~~~NIZKO S KRYZHEM ON RIGHT,~~~TSATA ON RIGHT,~~~GORAZDO NIZKO ON RIGHT,~~~NIZKO ON RIGHT",
    "~~~SREDNE~~,~~~MALO POVYSHE ON RIGHT,~~~POVYSHE ON RIGHT,~~~VYSOKO~~",
    "~~~MALO POVYSHE S KHOKHLOM ON RIGHT,~~~POVYSHE S KHOKHLOM ON RIGHT,~~~VYSOKO~~~~",
    "~~~TSATA~KRYZHEM,~~~MALO POVYSHE S KRYZHEM,~~~STRANNO MALO POVYSHE,~~~POVYSHE S KRYZHEM",
    "~~~~STRANNO,~~~VYSOKO S KRYZHEM,~~~MALO POVYSHE STRANNO,~~~GORAZDO VYSOKO,~~~ZELO,~~~ON",
    "~~~RAVNO,~~~TIKHAYA,~~~BORZAYA,~~~UDARKA,~~~PODVERTKA,~~~LOMKA,~~~KUPNAYA,~~~KACHKA",
    "~~~ZEVOK,~~~SKOBA,~~~RAZSEKA,~~~KRYZH ON LEFT,,,~~TONAL RANGE MARK MRACHNO,~~~~~SVETLO",
    "~~~~~TRESVETLO,~~MARK ZADERZHKA,~~~DEMESTVENNY ZADERZHKA,~~~OTSECHKA,~~~PODCHASHIE",
    "~~~~WITH VERTICAL STROKE,~~~CHASHKA,~~~~POLNAYA,~~~OBLACHKO,~~~SOROCHYA NOZHKA,~~~TOCHKA",
    "~~~DVOETOCHIE,~~ATTACHING VERTICAL OMET,~~MARK CURVED~,~~~KRYZH",
    "~~LOWER TONAL RANGE INDICATOR,~PRIZNAK MODIFIER LEVEL-2,~~~LEVEL-3,~~~DIRECTION FLIP",
    "~~~KRYZH,~~~ROG,,,,,,,,,,~NEUME KRYUK,~~~TIKHY,~~PARAKLIT,~~DVA V CHELNU,~~KLYUCH",
    "~~ZANOZHEK,~~STOPITSA,~~~S OCHKOM,~~PEREVODKA,~~~NEPOSTOYANNAYA",
    "~~STOPITSA WITH SOROCHYA NOZHKA,~~CHELYUSTKA,~~PALKA,~~ZAPYATAYA,~~GOLUBCHIK BORZY,~~~TIKHY",
    "~~~MRACHNY,~~~SVETLY,~~~TRESVETLY,~~VRAKHIYA PROSTAYA,~~~MRACHNAYA,~~~SVETLAYA",
    "~~~TRESVETLAYA,~~~KLYUCHEVAYA PROSTAYA,~~~~MRACHNAYA,~~~~SVETLAYA,~~~~TRESVETLAYA",
    "~~DOUBLE ZAPYATAYA,~~REVERSED CHELYUSTKA,~~DERBITSA,~~KHAMILO,~~CHASHKA,~~PODCHASHIE",
    "~~SKAMEYTSA MRACHNAYA,~~~SVETLAYA,~~~TRESVETLAYA,~~~TIKHAYA,~~DEMESTVENNY KLYUCH",
    "~~SKAMEYTSA KLYUCHEVAYA SVETLAYA,~~~KLYUCHENEPOSTOYANNAYA,~~~KLYUCHEVAYA TIKHAYA",
    "~~~DVOECHELNAYA PROSTAYA,~~~~SVETLAYA,~~~~NEPOSTOYANNAYA,~~~~KLYUCHEVAYA,~~SLOZHITIE",
    "~~~S ZAPYATOY,~~~ZAKRYTOE,~~~S KRYZHEM,~~KRYZH,~~ROG,~~FITA,~~KOBYLA,~~ZMEYTSA,~~STATYA",
    "~~~S ZAPYATOY,~~~~KRYZHEM,~~~~ZAPYATOY I KRYZHEM,~~~~KRYZHEM~ZAPYATOY,~~~ZAKRYTAYA",
    "~~~~S ZAPYATOY,~~~S ROGOM,~~~~DVUMYA ZAPYATYMI,~~~~ZAPYATOY I PODCHASHIEM,~~POLKULIZMY",
    "~~STATYA NEPOSTOYANNAYA,~~STRELA PROSTAYA,~~~MRACHNOTIKHAYA,~~~KRYZHEVAYA,~~~POLUPOVODNAYA",
    "~~~POVODNAYA,~~~NEPOSTOYANNAYA,~~~KLYUCHEPOVODNAYA,~~~KLYUCHENEPOSTOYANNAYA",
    "~~~TIKHAYA PUTNAYA,~~~DVOECHELNAYA,~~~DVOECHELNOKRYZHEVAYA,~~~DVOECHELNOPOVODNAYA",
    "~~~DVOECHELNAYA KLYUCHEVAYA,~~~DVOECHELNOPOVODNAYA~,~~~GROMNAYA WITH SINGLE ZAPYATAYA",
    "~~~GROMOPOVODNAYA~~~,~~~GROMNAYA,~~~GROMOPOVODNAYA,~~~~WITH DOUBLE ZAPYATAYA",
    "~~~GROMOKRYZHEVAYA,~~~~POVODNAYA,~~MECHIK,~~~POVODNY,~~~KLYUCHEVOY,~~~KLYUCHEPOVODNY",
    "~~~KLYUCHENEPOSTOYANNY,~~STRELA TRYASOGLASNAYA,~~~TRYASOPOVODNAYA,~~~TRYASOSTRELNAYA",
    "~~OSOKA,~~~SVETLAYA,~~~TRESVETLAYA,~~~KRYUKOVAYA SVETLAYA,~~~KLYUCHEVAYA~",
    "~~~~NEPOSTOYANNAYA,~~STRELA KRYUKOVAYA,~~~~POVODNAYA,~~~~GROMNAYA WITH SINGLE ZAPYATAYA",
    "~~~~GROMOPOVODNAYA~~~,~~~~GROMNAYA,~~~~GROMOPOVODNAYA,~~~~~WITH DOUBLE ZAPYATAYA",
    "~~~~GROMOKRYZHEVAYA,~~~~~POVODNAYA,~~~~TRYASKA,~~KUFISMA,~~OBLAKO,~~DUDA,~~NEMKA,~~PAUK"]⟩,
  -- Byzantine Musical Symbols
  ⟨0x1d000, [
    "BYZANTINE MUSICAL SYMBOL PSILI,~~~DASEIA,~~~PERISPOMENI,~~~OXEIA EKFONITIKON,~~~~DIPLI",
    "~~~VAREIA EKFONITIKON,~~~~DIPLI,~~~KATHISTI,~~~SYRMATIKI,~~~PARAKLITIKI,~~~YPOKRISIS",
    "~~~~DIPLI,~~~KREMASTI,~~~APESO EKFONITIKON,~~~EXO~,~~~TELEIA,~~~KENTIMATA,~~~APOSTROFOS",
    "~~~~DIPLI,~~~SYNEVMA,~~~THITA,~~~OLIGON ARCHAION,~~~GORGON~,~~~PSILON,~~~CHAMILON,~~~VATHY",
    "~~~ISON ARCHAION,~~~KENTIMA~,~~~KENTIMATA~,~~~SAXIMATA,~~~PARICHON,~~~STAVROS APODEXIA",
    "~~~OXEIAI ARCHAION,~~~VAREIAI~,~~~APODERMA~,~~~APOTHEMA,~~~KLASMA,~~~REVMA",
    "~~~PIASMA ARCHAION,~~~TINAGMA,~~~ANATRICHISMA,~~~SEISMA,~~~SYNAGMA ARCHAION",
    "~~~~META STAVROU,~~~OYRANISMA ARCHAION,~~~THEMA,~~~LEMOI,~~~DYO,~~~TRIA,~~~TESSERA",
    "~~~KRATIMATA,~~~APESO EXO NEO,~~~FTHORA ARCHAION,~~~IMIFTHORA,~~~TROMIKON ARCHAION",
    "~~~KATAVA TROMIKON,~~~PELASTON,~~~PSIFISTON,~~~KONTEVMA,~~~CHOREVMA ARCHAION,~~~RAPISMA",
    "~~~PARAKALESMA ARCHAION,~~~PARAKLITIKI~,~~~ICHADIN,~~~NANA,~~~PETASMA,~~~KONTEVMA ALLO",
    "~~~TROMIKON~,~~~STRAGGISMATA,~~~GRONTHISMATA,~~~ISON NEO,~~~OLIGON~,~~~OXEIA~,~~~PETASTI",
    "~~~KOUFISMA,~~~PETASTOKOUFISMA,~~~KRATIMOKOUFISMA,~~~PELASTON NEO,~~~KENTIMATA~ANO",
    "~~~KENTIMA~~,~~~YPSILI,~~~APOSTROFOS NEO,~~~APOSTROFOI SYNDESMOS NEO,~~~YPORROI",
    "~~~KRATIMOYPORROON,~~~ELAFRON,~~~CHAMILI,~~~MIKRON ISON,~~~VAREIA NEO,~~~PIASMA~",
    "~~~PSIFISTON~,~~~OMALON,~~~ANTIKENOMA,~~~LYGISMA,~~~PARAKLITIKI NEO,~~~PARAKALESMA~",
    "~~~ETERON PARAKALESMA,~~~KYLISMA,~~~ANTIKENOKYLISMA,~~~TROMIKON NEO,~~~EKSTREPTON",
    "~~~SYNAGMA NEO,~~~SYRMA,~~~CHOREVMA NEO,~~~EPEGERMA,~~~SEISMA NEO,~~~XIRON KLASMA",
    "~~~TROMIKOPSIFISTON,~~~PSIFISTOLYGISMA,~~~TROMIKOLYGISMA,~~~TROMIKOPARAKALESMA",
    "~~~PSIFISTOPARAKALESMA,~~~TROMIKOSYNAGMA,~~~PSIFISTOSYNAGMA,~~~GORGOSYNTHETON",
    "~~~ARGOSYNTHETON,~~~ETERON ARGOSYNTHETON,~~~OYRANISMA NEO,~~~THEMATISMOS ESO,~~~~EXO",
    "~~~THEMA APLOUN,~~~THES KAI APOTHES,~~~KATAVASMA,~~~ENDOFONON,~~~YFEN KATO,~~~~ANO",
    "~~~STAVROS,~~~KLASMA ANO,~~~DIPLI ARCHAION,~~~KRATIMA~,~~~~ALLO,~~~~NEO,~~~APODERMA~",
    "~~~APLI,~~~DIPLI,~~~TRIPLI,~~~TETRAPLI,~~~KORONIS,~~~LEIMMA ENOS CHRONOU,~~~~DYO CHRONON",
    "~~~~TRION~,~~~~TESSARON~,~~~~IMISEOS CHRONOU,~~~GORGON NEO ANO,~~~~PARESTIGMENON ARISTERA",
    "~~~~~DEXIA,~~~DIGORGON,~~~~PARESTIGMENON ARISTERA KATO,~~~~~~ANO,~~~~~DEXIA,~~~TRIGORGON",
    "~~~ARGON,~~~IMIDIARGON,~~~DIARGON,~~~AGOGI POLI ARGI,~~~~ARGOTERI,~~~~ARGI,~~~~METRIA",
    "~~~~MESI,~~~~GORGI,~~~~GORGOTERI,~~~~POLI GORGI,~~~MARTYRIA PROTOS ICHOS",
    "~~~~ALLI PROTOS ICHOS,~~~~DEYTEROS ICHOS,~~~~ALLI DEYTEROS ICHOS,~~~~TRITOS ICHOS",
    "~~~~TRIFONIAS,~~~~TETARTOS ICHOS,~~~~~LEGETOS ICHOS,~~~~LEGETOS ICHOS,~~~~PLAGIOS~",
    "~~~ISAKIA TELOUS ICHIMATOS,~~~APOSTROFOI~~,~~~FANEROSIS TETRAFONIAS,~~~~MONOFONIAS",
    "~~~~DIFONIAS,~~~MARTYRIA VARYS ICHOS,~~~~PROTOVARYS~,~~~~PLAGIOS TETARTOS ICHOS",
    "~~~GORTHMIKON N APLOUN,~~~~~DIPLOUN,~~~ENARXIS KAI FTHORA VOU,~~~IMIFONON,~~~IMIFTHORON",
    "~~~FTHORA ARCHAION DEYTEROU ICHOU,~~~~DIATONIKI PA,~~~~~NANA,~~~~NAOS ICHOS",
    "~~~~DIATONIKI DI,~~~~SKLIRON DIATONON DI,~~~~DIATONIKI KE,~~~~~ZO,~~~~~NI KATO,~~~~~~ANO",
    "~~~~MALAKON CHROMA DIFONIAS,~~~~~~MONOFONIAS,~~~FHTORA SKLIRON~VASIS,~~~FTHORA~~SYNAFI",
    "~~~~NENANO,~~~CHROA ZYGOS,~~~~KLITON,~~~~SPATHI,~~~FTHORA I YFESIS TETARTIMORION",
    "~~~~ENARMONIOS ANTIFONIA,~~~YFESIS TRITIMORION,~~~DIESIS~,~~~~TETARTIMORION",
    "~~~~APLI DYO DODEKATA,~~~~MONOGRAMMOS TESSERA~,~~~~DIGRAMMOS EX~,~~~~TRIGRAMMOS OKTO~",
    "~~~YFESIS APLI DYO~,~~~~MONOGRAMMOS TESSERA~,~~~~DIGRAMMOS EX~,~~~~TRIGRAMMOS OKTO~",
    "~~~GENIKI DIESIS,~~~~YFESIS,~~~DIASTOLI APLI MIKRI,~~~~~MEGALI,~~~~DIPLI,~~~~THESEOS",
    "~~~SIMANSIS~,~~~~~DISIMOU,~~~~~TRISIMOU,~~~~~TETRASIMOU,~~~~ARSEOS,~~~~~DISIMOU",
    "~~~~~TRISIMOU,~~~~~TETRASIMOU,~~~DIGRAMMA GG,~~~DIFTOGGOS OU,~~~STIGMA,~~~ARKTIKO PA",
    "~~~~VOU,~~~~GA,~~~~DI,~~~~KE,~~~~ZO,~~~~NI,~~~KENTIMATA NEO MESO,~~~KENTIMA~~",
    "~~~KENTIMATA~KATO,~~~KENTIMA~~,~~~KLASMA KATO,~~~GORGON NEO KATO"]⟩,
  -- Musical Symbols
  ⟨0x1d100, [
    "MUSICAL SYMBOL SINGLE BARLINE,~~DOUBLE~,~~FINAL~,~~REVERSE FINAL BARLINE,~~DASHED BARLINE",
    "~~SHORT~,~~LEFT REPEAT SIGN,~~RIGHT~~,~~REPEAT DOTS,~~DAL SEGNO,~~DA CAPO,~~SEGNO,~~CODA",
    "~~REPEATED FIGURE-1,~~~FIGURE-2,~~~FIGURE-3,~~FERMATA,~~~BELOW,~~BREATH MARK,~~CAESURA",
    "~~BRACE,~~BRACKET,~~ONE-LINE STAFF,~~TWO-LINE~,~~THREE-LINE~,~~FOUR-LINE~,~~FIVE-LINE~",
    "~~SIX-LINE~,~~SIX-STRING FRETBOARD,~~FOUR-STRING~,~~G CLEF,~~~~OTTAVA ALTA,~~~~~BASSA,~~C~",
    "~~F~,~~~~OTTAVA ALTA,~~~~~BASSA,~~DRUM CLEF-1,~~~CLEF-2,,,~~MULTIPLE MEASURE REST",
    "~~DOUBLE SHARP,~~~FLAT,~~FLAT UP,~~~DOWN,~~NATURAL UP,~~~DOWN,~~SHARP UP,~~~DOWN",
    "~~QUARTER TONE SHARP,~~~~FLAT,~~COMMON TIME,~~CUT~,~~OTTAVA ALTA,~~~BASSA",
    "~~QUINDICESIMA ALTA,~~~BASSA,~~MULTI REST,~~WHOLE~,~~HALF~,~~QUARTER~,~~EIGHTH~",
    "~~SIXTEENTH~,~~THIRTY-SECOND~,~~SIXTY-FOURTH~,~~ONE HUNDRED TWENTY-EIGHTH REST,~~X NOTEHEAD",
    "~~PLUS~,~~CIRCLE X NOTEHEAD,~~SQUARE NOTEHEAD WHITE,~~~~BLACK,~~TRIANGLE~UP WHITE",
    "~~~~~BLACK,~~~~LEFT WHITE,~~~~~BLACK,~~~~RIGHT WHITE,~~~~~BLACK,~~~~DOWN WHITE,~~~~~BLACK",
    "~~~~UP RIGHT WHITE,~~~~~~BLACK,~~MOON~WHITE,~~~~BLACK,~~TRIANGLE-ROUND~DOWN WHITE",
    "~~~~~BLACK,~~PARENTHESIS~,~~VOID~,~~NOTEHEAD BLACK,~~NULL NOTEHEAD,~~CLUSTER~WHITE",
    "~~~~BLACK,~~BREVE,~~WHOLE NOTE,~~HALF~,~~QUARTER~,~~EIGHTH~,~~SIXTEENTH~,~~THIRTY-SECOND~",
    "~~SIXTY-FOURTH~,~~ONE HUNDRED TWENTY-EIGHTH NOTE,~~COMBINING STEM,~~~SPRECHGESANG STEM",
    "~~~TREMOLO-1,~~~TREMOLO-2,~~~TREMOLO-3,~~FINGERED TREMOLO-1,~~~TREMOLO-2,~~~TREMOLO-3",
    "~~COMBINING AUGMENTATION DOT,~~~FLAG-1,~~~FLAG-2,~~~FLAG-3,~~~FLAG-4,~~~FLAG-5,~~BEGIN BEAM",
    "~~END~,~~BEGIN TIE,~~END~,~~BEGIN SLUR,~~END~,~~BEGIN PHRASE,~~END~,~~COMBINING ACCENT",
    "~~~STACCATO,~~~TENUTO,~~~STACCATISSIMO,~~~MARCATO,~~~MARCATO-STACCATO,~~~ACCENT-STACCATO",
    "~~~LOURE,~~ARPEGGIATO UP,~~~DOWN,~~COMBINING DOIT,~~~RIP,~~~FLIP,~~~SMEAR,~~~BEND",
    "~~~DOUBLE TONGUE,~~~TRIPLE~,~~RINFORZANDO,~~SUBITO,~~Z,~~PIANO,~~MEZZO,~~FORTE,~~CRESCENDO",
    "~~DECRESCENDO,~~GRACE NOTE SLASH,~~~~NO SLASH,~~TR,~~TURN,~~INVERTED TURN,~~TURN SLASH",
    "~~~UP,~~ORNAMENT STROKE-1,~~~STROKE-2,~~~STROKE-3,~~~STROKE-4,~~~STROKE-5,~~~STROKE-6",
    "~~~STROKE-7,~~~STROKE-8,~~~STROKE-9,~~~STROKE-10,~~~STROKE-11,~~HAUPTSTIMME,~~NEBENSTIMME",
    "~~END OF STIMME,~~DEGREE SLASH,~~COMBINING DOWN BOW,~~~UP~,~~~HARMONIC,~~~SNAP PIZZICATO",
    "~~PEDAL MARK,~~~UP MARK,~~HALF PEDAL~,~~GLISSANDO UP,~~~DOWN,~~WITH FINGERNAILS,~~DAMP",
    "~~~ALL,~~MAXIMA,~~LONGA,~~BREVIS,~~SEMIBREVIS WHITE,~~~BLACK,~~MINIMA,~~~BLACK",
    "~~SEMIMINIMA WHITE,~~~BLACK,~~FUSA WHITE,~~~BLACK,~~LONGA PERFECTA REST,~~~IMPERFECTA~",
    "~~BREVIS REST,~~SEMIBREVIS~,~~MINIMA~,~~SEMIMINIMA~",
    "~~TEMPUS PERFECTUM CUM PROLATIONE PERFECTA,~~~~~~IMPERFECTA,~~~~~~PERFECTA DIMINUTION-1",
    "~~~IMPERFECTUM~~~,~~~~~~IMPERFECTA,~~~~~~~DIMINUTION-1,~~~~~~~DIMINUTION-2",
    "~~~~~~~DIMINUTION-3,~~CROIX,~~GREGORIAN C CLEF,~~~F~,~~SQUARE B,~~VIRGA,~~PODATUS,~~CLIVIS",
    "~~SCANDICUS,~~CLIMACUS,~~TORCULUS,~~PORRECTUS,~~~FLEXUS,~~SCANDICUS~,~~TORCULUS RESUPINUS",
    "~~PES SUBPUNCTIS,~~KIEVAN C CLEF,~~~END OF PIECE,~~~FINAL NOTE,~~~RECITATIVE MARK",
    "~~~WHOLE NOTE,~~~HALF~,~~~QUARTER~STEM DOWN,~~~~~~UP,~~~EIGHTH~~DOWN,~~~~~~UP,~~~FLAT SIGN",
    "~~SORI,~~KORON"]⟩,
  -- Ancient Greek Musical Notation
  ⟨0x1d200, [
    "GREEK VOCAL NOTATION SYMBOL-1,~~~SYMBOL-2,~~~SYMBOL-3,~~~SYMBOL-4,~~~SYMBOL-5,~~~SYMBOL-6",
    "~~~SYMBOL-7,~~~SYMBOL-8,~~~SYMBOL-9,~~~SYMBOL-10,~~~SYMBOL-11,~~~SYMBOL-12,~~~SYMBOL-13",
    "~~~SYMBOL-14,~~~SYMBOL-15,~~~SYMBOL-16,~~~SYMBOL-17,~~~SYMBOL-18,~~~SYMBOL-19,~~~SYMBOL-20",
    "~~~SYMBOL-21,~~~SYMBOL-22,~~~SYMBOL-23,~~~SYMBOL-24,~~~SYMBOL-50,~~~SYMBOL-51,~~~SYMBOL-52",
    "~~~SYMBOL-53,~~~SYMBOL-54,~INSTRUMENTAL~SYMBOL-1,~~~SYMBOL-2,~~~SYMBOL-4,~~~SYMBOL-5",
    "~~~SYMBOL-7,~~~SYMBOL-8,~~~SYMBOL-11,~~~SYMBOL-12,~~~SYMBOL-13,~~~SYMBOL-14,~~~SYMBOL-17",
    "~~~SYMBOL-18,~~~SYMBOL-19,~~~SYMBOL-23,~~~SYMBOL-24,~~~SYMBOL-25,~~~SYMBOL-26,~~~SYMBOL-27",
    "~~~SYMBOL-29,~~~SYMBOL-30,~~~SYMBOL-32,~~~SYMBOL-36,~~~SYMBOL-37,~~~SYMBOL-38,~~~SYMBOL-39",
    "~~~SYMBOL-40,~~~SYMBOL-42,~~~SYMBOL-43,~~~SYMBOL-45,~~~SYMBOL-47,~~~SYMBOL-48,~~~SYMBOL-49",
    "~~~SYMBOL-50,~~~SYMBOL-51,~~~SYMBOL-52,~~~SYMBOL-53,~~~SYMBOL-54",
    "COMBINING GREEK MUSICAL TRISEME,~~~TETRASEME,~~~PENTASEME,GREEK MUSICAL LEIMMA"]⟩,
  -- Tai Xuan Jing Symbols
  ⟨0x1d300, [
    "MONOGRAM FOR EARTH,DIGRAM~HEAVENLY EARTH,~~HUMAN~,~~EARTHLY HEAVEN,~~~HUMAN,~~EARTH",
    "TETRAGRAM~CENTRE,~~FULL CIRCLE,~~MIRED,~~BARRIER,~~KEEPING SMALL,~~CONTRARIETY,~~ASCENT",
    "~~OPPOSITION,~~BRANCHING OUT,~~DEFECTIVENESS OR DISTORTION,~~DIVERGENCE,~~YOUTHFULNESS",
    "~~INCREASE,~~PENETRATION,~~REACH,~~CONTACT,~~HOLDING BACK,~~WAITING,~~FOLLOWING,~~ADVANCE",
    "~~RELEASE,~~RESISTANCE,~~EASE,~~JOY,~~CONTENTION,~~ENDEAVOUR,~~DUTIES,~~CHANGE",
    "~~DECISIVENESS,~~BOLD RESOLUTION,~~PACKING,~~LEGION,~~CLOSENESS,~~KINSHIP,~~GATHERING",
    "~~STRENGTH,~~PURITY,~~FULLNESS,~~RESIDENCE,~~LAW OR MODEL,~~RESPONSE,~~GOING TO MEET",
    "~~ENCOUNTERS,~~STOVE,~~GREATNESS,~~ENLARGEMENT,~~PATTERN,~~RITUAL,~~FLIGHT",
    "~~VASTNESS OR WASTING,~~CONSTANCY,~~MEASURE,~~ETERNITY,~~UNITY,~~DIMINISHMENT",
    "~~CLOSED MOUTH,~~GUARDEDNESS,~~GATHERING IN,~~MASSING,~~ACCUMULATION,~~EMBELLISHMENT",
    "~~DOUBT,~~WATCH,~~SINKING,~~INNER,~~DEPARTURE,~~DARKENING,~~DIMMING,~~EXHAUSTION",
    "~~SEVERANCE,~~STOPPAGE,~~HARDNESS,~~COMPLETION,~~CLOSURE,~~FAILURE,~~AGGRAVATION",
    "~~COMPLIANCE,~~ON THE VERGE,~~DIFFICULTIES,~~LABOURING,~~FOSTERING"]⟩,
  -- Sutton SignWriting
  ⟨0x1d800, [
    "SIGNWRITING HAND-FIST INDEX,~HAND-CIRCLE~,~HAND-CUP~,~HAND-OVAL~,~HAND-HINGE~,~HAND-ANGLE~",
    "~HAND-FIST~BENT,~HAND-CIRCLE~~,~HAND-FIST THUMB UNDER INDEX BENT,~~INDEX RAISED KNUCKLE",
    "~~~CUPPED,~~~HINGED,~~~~LOW,~HAND-CIRCLE~HINGE,~HAND-FIST~MIDDLE,~HAND-CIRCLE~~",
    "~HAND-FIST~~BENT,~~~~RAISED KNUCKLES,~~~~HINGED,~~~UP MIDDLE HINGED,~~~HINGED~UP",
    "~~~MIDDLE CONJOINED,~~~~~INDEX BENT,~~~~~MIDDLE~,~~~~~CUPPED,~~~~~HINGED,~~~~CROSSED",
    "~HAND-CIRCLE~~~,~HAND-FIST MIDDLE BENT OVER INDEX,~~INDEX~~MIDDLE,~~~MIDDLE THUMB",
    "~HAND-CIRCLE~~~,~HAND-FIST~~STRAIGHT THUMB BENT,~~~~BENT~STRAIGHT,~~~~THUMB BENT",
    "~~~~HINGED SPREAD THUMB SIDE,~~~UP MIDDLE HINGED~~,~~~~~~~CONJOINED,~~~HINGED~UP~SIDE",
    "~~~MIDDLE UP SPREAD~FORWARD,~~~~THUMB CUPPED,~~~~~CIRCLED,~~~~~HOOKED,~~~~~HINGED",
    "~~THUMB BETWEEN INDEX MIDDLE STRAIGHT,~~INDEX MIDDLE CONJOINED THUMB SIDE,~~~~~~~CONJOINED",
    "~~~~~~~BENT,~~MIDDLE THUMB HOOKED INDEX UP,~~INDEX~~MIDDLE~",
    "~~~MIDDLE CONJOINED HINGED THUMB SIDE,~~~~CROSSED THUMB SIDE,~~~~CONJOINED~FORWARD",
    "~~~~~CUPPED THUMB FORWARD,~~MIDDLE THUMB CUPPED INDEX UP,~~INDEX~~MIDDLE~",
    "~~MIDDLE~CIRCLED INDEX~,~~~~~~HINGED,~~INDEX~ANGLED OUT MIDDLE UP,~~~~~IN~~",
    "~~~~CIRCLED MIDDLE UP,~~~MIDDLE THUMB CONJOINED HINGED,~~~~~ANGLED OUT,~~~~~~",
    "~~MIDDLE THUMB ANGLED OUT INDEX UP,~~~~~~~CROSSED,~~~~~INDEX UP",
    "~~INDEX~HOOKED MIDDLE HINGED,~HAND-FLAT FOUR FINGERS,~~~~BENT,~~~~HINGED,~~~~CONJOINED",
    "~~~~~SPLIT,~HAND-CLAW~~~,~HAND-FIST~~~BENT,~HAND-HINGE~~~,~HAND-FLAT FIVE~SPREAD",
    "~~HEEL FIVE FINGERS SPREAD,~~FIVE FINGERS SPREAD FOUR BENT",
    "~~HEEL FIVE FINGERS SPREAD FOUR BENT,~~FIVE FINGERS SPREAD BENT",
    "~~HEEL FIVE FINGERS SPREAD BENT,~~FIVE FINGERS SPREAD THUMB FORWARD,~HAND-CUP~~~,~~~~~OPEN",
    "~HAND-HINGE~~~~,~HAND-OVAL~~~,~HAND-FLAT~~~HINGED,~~~~~~THUMB SIDE,~~~~~~NO THUMB,~~",
    "~~BETWEEN PALM FACINGS,~~HEEL,~~THUMB SIDE,~~HEEL THUMB SIDE,~~THUMB BENT,~~~FORWARD",
    "~~SPLIT INDEX THUMB SIDE,~~~CENTRE,~~~~THUMB SIDE,~~~~~~BENT,~~~LITTLE,~HAND-CLAW",
    "~~THUMB SIDE,~~NO THUMB,~~THUMB FORWARD,~HAND-HOOK CURLICUE,~~,~HAND-CUP OPEN,~~",
    "~~OPEN THUMB SIDE,~~THUMB SIDE,~~OPEN NO THUMB,~~NO THUMB,~~OPEN~FORWARD,~~THUMB FORWARD",
    "~HAND-CURLICUE OPEN,~~,~HAND-CIRCLE,~HAND-OVAL,~~THUMB SIDE,~~NO THUMB,~~THUMB FORWARD",
    "~HAND-HINGE OPEN,~~~THUMB FORWARD,~~,~~SMALL,~~OPEN THUMB SIDE,~~THUMB SIDE,~~OPEN NO THUMB",
    "~~NO THUMB,~~THUMB SIDE TOUCHING INDEX,~~~BETWEEN MIDDLE RING,~HAND-ANGLE",
    "~HAND-FIST INDEX MIDDLE RING,~HAND-CIRCLE~~~,~HAND-HINGE~~~,~HAND-ANGLE~~~",
    "~HAND-HINGE LITTLE,~HAND-FIST INDEX MIDDLE RING BENT,~~~~~CONJOINED,~HAND-HINGE~~~~",
    "~HAND-FIST LITTLE DOWN,~~~~RIPPLE STRAIGHT,~~~~~CURVED,~~~~OTHERS CIRCLED,~~~UP",
    "~~THUMB UNDER LITTLE UP,~HAND-CIRCLE LITTLE UP,~HAND-OVAL~~,~HAND-ANGLE~~",
    "~HAND-FIST~RAISED KNUCKLE,~~~BENT,~~~TOUCHES THUMB,~~~THUMB,~HAND-HINGE~~",
    "~HAND-FIST~INDEX THUMB,~HAND-HINGE~~~,~HAND-ANGLE~~~INDEX THUMB OUT,~~~~~~~,~HAND-FIST~~",
    "~HAND-CIRCLE~~,~HAND-HINGE~~,~HAND-ANGLE~~,~HAND-FIST INDEX MIDDLE LITTLE,~HAND-CIRCLE~~~",
    "~HAND-HINGE~~~,~~RING,~HAND-ANGLE INDEX MIDDLE LITTLE,~HAND-FIST~~CROSS LITTLE",
    "~HAND-CIRCLE~~~~,~HAND-FIST RING DOWN,~HAND-HINGE~~INDEX THUMB HOOK MIDDLE",
    "~HAND-ANGLE~~MIDDLE~INDEX CROSS,~HAND-FIST~UP,~~~RAISED KNUCKLE,~~~LITTLE,~HAND-CIRCLE~~",
    "~HAND-OVAL~~,~HAND-ANGLE~~,~HAND-FIST~MIDDLE,~~~~CONJOINED,~~~~RAISED KNUCKLES,~~~INDEX",
    "~~~THUMB,~HAND-HOOK~~,~HAND-FIST INDEX RING LITTLE,~HAND-CIRCLE~~~,~HAND-CURLICUE~~~ON",
    "~HAND-HOOK~~~OUT,~~~~~IN,~~~~~UNDER,~HAND-CUP~~~,~HAND-HINGE~~~,~HAND-ANGLE~~~OUT,~~~~~",
    "~HAND-FIST MIDDLE DOWN,~HAND-HINGE~,~HAND-FIST~UP,~HAND-CIRCLE~~,~HAND-FIST~RAISED KNUCKLE",
    "~~~UP THUMB SIDE,~HAND-HOOK~THUMB,~HAND-FIST~~LITTLE,~~~LITTLE,~~~RING LITTLE",
    "~HAND-CIRCLE~~~,~HAND-CURLICUE~~~ON,~HAND-CUP~~~,~HAND-HINGE~~~,~HAND-ANGLE~~~OUT,~~~~~IN",
    "~~~~~,~HAND-CIRCLE~~~BENT,~HAND-CLAW~~~CONJOINED,~~~~~~SIDE,~HAND-HOOK~~~~OUT,~~~~~~IN",
    "~~~~~~,~HAND-HINGE INDEX HINGED,~HAND-FIST~THUMB SIDE,~HAND-HINGE~~~",
    "~HAND-FIST~~~THUMB DIAGONAL,~~~~~~CONJOINED,~~~~~~BENT,~~~~~INDEX~,~~~~~BOTH~",
    "~~~~~INDEX HINGE,~~~~FORWARD~STRAIGHT,~~~~~~BENT,~~~~HOOK,~~~~CURLICUE",
    "~~~~CURVE THUMB INSIDE,~HAND-CLAW~~~~~,~HAND-FIST~~~~UNDER,~~~~CIRCLE,~HAND-CUP~~,~~~~OPEN",
    "~HAND-HINGE~~~,~~~~LARGE,~~~~,~~~~SMALL,~HAND-ANGLE~~OUT,~~~~IN,~~~~,~HAND-FIST THUMB",
    "~~~HEEL,~~~SIDE DIAGONAL,~~~~CONJOINED,~~~~BENT,~~~FORWARD,~~~BETWEEN INDEX MIDDLE",
    "~~~~MIDDLE RING,~~~~RING LITTLE,~~~UNDER TWO FINGERS,~~~OVER~~,~~~UNDER THREE~,~~~~FOUR~",
    "~~~OVER~RAISED KNUCKLES,~~,~~HEEL,~TOUCH SINGLE,~~MULTIPLE,~~BETWEEN,~GRASP SINGLE",
    "~~MULTIPLE,~~BETWEEN,~STRIKE SINGLE,~~MULTIPLE,~~BETWEEN,~BRUSH SINGLE,~~MULTIPLE,~~BETWEEN",
    "~RUB SINGLE,~~MULTIPLE,~~BETWEEN,~SURFACE SYMBOLS,~~BETWEEN,~SQUEEZE LARGE SINGLE,~~SMALL~",
    "~~LARGE MULTIPLE,~~SMALL~,~~SEQUENTIAL,~FLICK LARGE SINGLE,~~SMALL~,~~LARGE MULTIPLE",
    "~~SMALL~,~~SEQUENTIAL,~SQUEEZE FLICK ALTERNATING,~MOVEMENT-HINGE UP DOWN LARGE,~~~~SMALL",
    "~~~SEQUENTIAL,~~DOWN~,~~UP DOWN ALTERNATING LARGE,~~~~~SMALL,~~SIDE TO SIDE SCISSORS",
    "~MOVEMENT-WALLPLANE FINGER CONTACT,~MOVEMENT-FLOORPLANE~~",
    "~MOVEMENT-WALLPLANE SINGLE STRAIGHT SMALL,~~~~MEDIUM,~~~~LARGE,~~~~LARGEST,~~~WRIST FLEX",
    "~~DOUBLE STRAIGHT,~~~WRIST FLEX,~~~ALTERNATING,~~~~WRIST FLEX,~~CROSS",
    "~~TRIPLE STRAIGHT MOVEMENT,~~~WRIST FLEX,~~~ALTERNATING,~~~~WRIST FLEX,~~BEND SMALL",
    "~~~MEDIUM,~~~LARGE,~~CORNER SMALL,~~~MEDIUM,~~~LARGE,~~~ROTATION,~~CHECK SMALL,~~~MEDIUM",
    "~~~LARGE,~~BOX SMALL,~~~MEDIUM,~~~LARGE,~~ZIGZAG SMALL,~~~MEDIUM,~~~LARGE,~~PEAKS SMALL",
    "~~~MEDIUM,~~~LARGE,~TRAVEL-WALLPLANE ROTATION-WALLPLANE SINGLE,~~~DOUBLE,~~~ALTERNATING",
    "~~ROTATION-FLOORPLANE SINGLE,~~~DOUBLE,~~~ALTERNATING,~~SHAKING,~~ARM SPIRAL SINGLE",
    "~~~~DOUBLE,~~~~TRIPLE,~MOVEMENT-DIAGONAL AWAY SMALL,~~~MEDIUM,~~~LARGE,~~~LARGEST",
    "~~TOWARDS SMALL,~~~MEDIUM,~~~LARGE,~~~LARGEST,~~BETWEEN AWAY SMALL,~~~~MEDIUM,~~~~LARGE",
    "~~~~LARGEST,~~~TOWARDS SMALL,~~~~MEDIUM,~~~~LARGE,~~~~LARGEST",
    "~MOVEMENT-FLOORPLANE SINGLE STRAIGHT SMALL,~~~~MEDIUM,~~~~LARGE,~~~~LARGEST,~~~WRIST FLEX",
    "~~DOUBLE STRAIGHT,~~~WRIST FLEX,~~~ALTERNATING,~~~~WRIST FLEX,~~CROSS",
    "~~TRIPLE STRAIGHT MOVEMENT,~~~WRIST FLEX,~~~ALTERNATING MOVEMENT,~~~~WRIST FLEX,~~BEND",
    "~~CORNER SMALL,~~~MEDIUM,~~~LARGE,~~CHECK,~~BOX SMALL,~~~MEDIUM,~~~LARGE,~~ZIGZAG SMALL",
    "~~~MEDIUM,~~~LARGE,~~PEAKS SMALL,~~~MEDIUM,~~~LARGE",
    "~TRAVEL-FLOORPLANE ROTATION-FLOORPLANE SINGLE,~~~DOUBLE,~~~ALTERNATING",
    "~~ROTATION-WALLPLANE SINGLE,~~~DOUBLE,~~~ALTERNATING,~~SHAKING",
    "~MOVEMENT-WALLPLANE CURVE QUARTER SMALL,~~~~MEDIUM,~~~~LARGE,~~~~LARGEST",
    "~~~HALF-CIRCLE SMALL,~~~~MEDIUM,~~~~LARGE,~~~~LARGEST,~~~THREE-QUARTER CIRCLE SMALL",
    "~~~~~MEDIUM,~~HUMP SMALL,~~~MEDIUM,~~~LARGE,~~LOOP SMALL,~~~MEDIUM,~~~LARGE,~~~SMALL DOUBLE",
    "~~WAVE CURVE~SMALL,~~~~~MEDIUM,~~~~~LARGE,~~~~TRIPLE SMALL,~~~~~MEDIUM,~~~~~LARGE",
    "~~CURVE THEN STRAIGHT,~~CURVED CROSS SMALL,~~~~MEDIUM,~ROTATION-WALLPLANE SINGLE,~~DOUBLE",
    "~~ALTERNATE,~MOVEMENT-WALLPLANE SHAKING,~~CURVE HITTING FRONT WALL,~~HUMP~~~,~~LOOP~~~",
    "~~WAVE~~~,~ROTATION-WALLPLANE SINGLE~~~,~~DOUBLE~~~,~~ALTERNATING~~~",
    "~MOVEMENT-WALLPLANE CURVE~CHEST,~~HUMP~~,~~LOOP~~,~~WAVE~~,~ROTATION-WALLPLANE SINGLE~~",
    "~~DOUBLE~~,~~ALTERNATING~~,~MOVEMENT-WALLPLANE WAVE DIAGONAL PATH SMALL,~~~~~MEDIUM",
    "~~~~~LARGE,~MOVEMENT-FLOORPLANE CURVE HITTING CEILING SMALL,~~~~~LARGE,~~HUMP~~SMALL DOUBLE",
    "~~~~~LARGE~,~~~~~SMALL TRIPLE,~~~~~LARGE~,~~LOOP~~SMALL SINGLE,~~~~~LARGE~",
    "~~~~~SMALL DOUBLE,~~~~~LARGE~,~~WAVE~~SMALL,~~~~~LARGE,~ROTATION-FLOORPLANE SINGLE~~",
    "~~DOUBLE~~,~~ALTERNATING~~,~MOVEMENT-FLOORPLANE CURVE~FLOOR SMALL,~~~~~LARGE",
    "~~HUMP~~SMALL DOUBLE,~~~~~LARGE~,~~~~~TRIPLE SMALL TRIPLE,~~~~~~LARGE~,~~LOOP~~SMALL SINGLE",
    "~~~~~LARGE~,~~~~~SMALL DOUBLE,~~~~~LARGE~,~~WAVE~~SMALL,~~~~~LARGE",
    "~ROTATION-FLOORPLANE SINGLE~~,~~DOUBLE~~,~~ALTERNATING~~,~MOVEMENT-FLOORPLANE CURVE SMALL",
    "~~~MEDIUM,~~~LARGE,~~~LARGEST,~~~COMBINED,~~HUMP SMALL,~~LOOP~,~~WAVE SNAKE,~~~SMALL",
    "~~~LARGE,~ROTATION-FLOORPLANE SINGLE,~~DOUBLE,~~ALTERNATING",
    "~MOVEMENT-FLOORPLANE SHAKING PARALLEL,~MOVEMENT-WALLPLANE ARM CIRCLE SMALL SINGLE",
    "~~~~MEDIUM~,~~~~SMALL DOUBLE,~~~~MEDIUM~,~MOVEMENT-FLOORPLANE~~HITTING WALL SMALL SINGLE",
    "~~~~~~MEDIUM~,~~~~~~LARGE~,~~~~~~SMALL DOUBLE,~~~~~~MEDIUM~,~~~~~~LARGE~",
    "~MOVEMENT-WALLPLANE WRIST~FRONT SINGLE,~~~~~DOUBLE",
    "~MOVEMENT-FLOORPLANE~~HITTING WALL SINGLE,~~~~~~DOUBLE",
    "~MOVEMENT-WALLPLANE FINGER CIRCLES SINGLE,~~~~DOUBLE",
    "~MOVEMENT-FLOORPLANE~~HITTING WALL SINGLE,~~~~~~DOUBLE,~DYNAMIC ARROWHEAD SMALL,~~~LARGE",
    "~~FAST,~~SLOW,~~TENSE,~~RELAXED,~~SIMULTANEOUS,~~~ALTERNATING,~~EVERY OTHER TIME,~~GRADUAL",
    "~HEAD,~~RIM,~~MOVEMENT-WALLPLANE STRAIGHT,~~~TILT,~~MOVEMENT-FLOORPLANE STRAIGHT",
    "~~MOVEMENT-WALLPLANE CURVE,~~MOVEMENT-FLOORPLANE~,~~MOVEMENT CIRCLE",
    "~FACE DIRECTION POSITION NOSE FORWARD TILTING,~~~~~UP OR DOWN,~~~~~~~~TILTING",
    "~EYEBROWS STRAIGHT UP,~~~NEUTRAL,~~~DOWN,~DREAMY EYEBROWS NEUTRAL DOWN,~~~DOWN NEUTRAL",
    "~~~UP~,~~~NEUTRAL UP,~FOREHEAD NEUTRAL,~~CONTACT,~~WRINKLED,~EYES OPEN,~~SQUEEZED,~~CLOSED",
    "~EYE BLINK SINGLE,~~~MULTIPLE,~EYES HALF OPEN,~~WIDE~,~~HALF CLOSED,~~WIDENING MOVEMENT",
    "~EYE WINK,~EYELASHES UP,~~DOWN,~~FLUTTERING,~EYEGAZE-WALLPLANE STRAIGHT,~~~DOUBLE",
    "~~~ALTERNATING,~EYEGAZE-FLOORPLANE~,~~~DOUBLE,~~~ALTERNATING,~EYEGAZE-WALLPLANE CURVED",
    "~EYEGAZE-FLOORPLANE~,~EYEGAZE-WALLPLANE CIRCLING,~CHEEKS PUFFED,~~NEUTRAL,~~SUCKED",
    "~TENSE CHEEKS HIGH,~~~MIDDLE,~~~LOW,~EARS,~NOSE NEUTRAL,~~CONTACT,~~WRINKLES,~~WIGGLES",
    "~AIR BLOWING OUT,~~SUCKING IN,~~BLOW SMALL ROTATIONS,~~SUCK~~,~BREATH INHALE,~~EXHALE",
    "~MOUTH CLOSED NEUTRAL,~~~FORWARD,~~~CONTACT,~~SMILE,~~~WRINKLED,~~~OPEN,~~FROWN,~~~WRINKLED",
    "~~~OPEN,~~OPEN CIRCLE,~~~FORWARD,~~~WRINKLED,~~~OVAL,~~~~WRINKLED,~~~~YAWN,~~~RECTANGLE",
    "~~~~WRINKLED,~~~~YAWN,~~KISS,~~~FORWARD,~~~WRINKLED,~~TENSE,~~~FORWARD,~~~SUCKED",
    "~LIPS PRESSED TOGETHER,~LIP LOWER OVER UPPER,~~UPPER~LOWER,~MOUTH CORNERS,~~WRINKLES SINGLE",
    "~~~DOUBLE,~TONGUE STICKING OUT FAR,~~LICKING LIPS,~~TIP BETWEEN LIPS",
    "~~~TOUCHING INSIDE MOUTH,~~INSIDE MOUTH RELAXED,~~MOVES AGAINST CHEEK,~~CENTRE STICKING OUT",
    "~~~INSIDE MOUTH,~TEETH,~~MOVEMENT,~~ON TONGUE,~~~~MOVEMENT,~~~LIPS,~~~~MOVEMENT,~~BITE~",
    "~MOVEMENT-WALLPLANE JAW,~MOVEMENT-FLOORPLANE~,~NECK,~HAIR,~EXCITEMENT,~SHOULDER HIP SPINE",
    "~~~POSITIONS,~WALLPLANE SHOULDER HIP MOVE,~FLOORPLANE~~~,~SHOULDER TILTING FROM WAIST",
    "~TORSO-WALLPLANE STRAIGHT STRETCH,~~CURVED BEND,~TORSO-FLOORPLANE TWISTING",
    "~UPPER BODY TILTING FROM HIP JOINTS,~LIMB COMBINATION,~~LENGTH-1,~~LENGTH-2,~~LENGTH-3",
    "~~LENGTH-4,~~LENGTH-5,~~LENGTH-6,~~LENGTH-7,~FINGER,~LOCATION-WALLPLANE SPACE",
    "~LOCATION-FLOORPLANE~,~LOCATION HEIGHT,~~WIDTH,~~DEPTH,~~HEAD NECK,~~TORSO,~~LIMBS DIGITS",
    "~COMMA,~FULL STOP,~SEMICOLON,~COLON,~PARENTHESIS"]⟩,
  ⟨0x1da9b, [
    "SIGNWRITING FILL MODIFIER-2,~~MODIFIER-3,~~MODIFIER-4,~~MODIFIER-5,~~MODIFIER-6,",
    "~ROTATION MODIFIER-2,~~MODIFIER-3,~~MODIFIER-4,~~MODIFIER-5,~~MODIFIER-6,~~MODIFIER-7",
    "~~MODIFIER-8,~~MODIFIER-9,~~MODIFIER-10,~~MODIFIER-11,~~MODIFIER-12,~~MODIFIER-13",
    "~~MODIFIER-14,~~MODIFIER-15,~~MODIFIER-16"]⟩,
  -- Alchemical Symbols
  ⟨0x1f700, [
    "ALCHEMICAL SYMBOL FOR QUINTESSENCE,~~~AIR,~~~FIRE,~~~EARTH,~~~WATER,~~~AQUAFORTIS",
    "~~~AQUA REGIA,~~~~REGIA-2,~~~~VITAE,~~~~VITAE-2,~~~VINEGAR,~~~VINEGAR-2,~~~VINEGAR-3",
    "~~~SULFUR,~~~PHILOSOPHERS SULFUR,~~~BLACK~,~~~MERCURY SUBLIMATE,~~~~SUBLIMATE-2",
    "~~~~SUBLIMATE-3,~~~CINNABAR,~~~SALT,~~~NITRE,~~~VITRIOL,~~~VITRIOL-2,~~~ROCK SALT",
    "~~~~SALT-2,~~~GOLD,~~~SILVER,~~~IRON ORE,~~~~ORE-2,~~~CROCUS OF IRON,~~~REGULUS~~",
    "~~~COPPER ORE,~~~IRON-COPPER~,~~~SUBLIMATE OF COPPER,~~~CROCUS~~,~~~~~COPPER-2",
    "~~~COPPER ANTIMONIATE,~~~SALT OF COPPER ANTIMONIATE,~~~SUBLIMATE~SALT OF COPPER",
    "~~~VERDIGRIS,~~~TIN ORE,~~~LEAD~,~~~ANTIMONY~,~~~SUBLIMATE OF ANTIMONY,~~~SALT~~",
    "~~~SUBLIMATE~SALT OF ANTIMONY,~~~VINEGAR~ANTIMONY,~~~REGULUS~~,~~~~~ANTIMONY-2,~~~~",
    "~~~REGULUS-2,~~~REGULUS-3,~~~REGULUS-4,~~~ALKALI,~~~ALKALI-2,~~~MARCASITE,~~~SAL-AMMONIAC",
    "~~~ARSENIC,~~~REALGAR,~~~REALGAR-2,~~~AURIPIGMENT,~~~BISMUTH ORE,~~~TARTAR,~~~TARTAR-2",
    "~~~QUICK LIME,~~~BORAX,~~~BORAX-2,~~~BORAX-3,~~~ALUM,~~~OIL,~~~SPIRIT,~~~TINCTURE,~~~GUM",
    "~~~WAX,~~~POWDER,~~~CALX,~~~TUTTY,~~~CAPUT MORTUUM,~~~SCEPTER OF JOVE,~~~CADUCEUS",
    "~~~TRIDENT,~~~STARRED TRIDENT,~~~LODESTONE,~~~SOAP,~~~URINE,~~~HORSE DUNG,~~~ASHES",
    "~~~POT ASHES,~~~BRICK,~~~POWDERED BRICK,~~~AMALGAM,~~~STRATUM SUPER STRATUM,~~~~~STRATUM-2",
    "~~~SUBLIMATION,~~~PRECIPITATE,~~~DISTILL,~~~DISSOLVE,~~~DISSOLVE-2,~~~PURIFY",
    "~~~PUTREFACTION,~~~CRUCIBLE,~~~CRUCIBLE-2,~~~CRUCIBLE-3,~~~CRUCIBLE-4,~~~CRUCIBLE-5",
    "~~~ALEMBIC,~~~BATH OF MARY,~~~~~VAPOURS,~~~RETORT,~~~HOUR,~~~NIGHT,~~~DAY-NIGHT,~~~MONTH",
    "~~~HALF DRAM,~~~~OUNCE"]⟩]

end AccessScopes.Text
