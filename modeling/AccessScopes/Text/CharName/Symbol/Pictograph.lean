import AccessScopes.Text.CharName.Block

/-!
# `AccessScopes.Text.CharName.Symbol.Pictograph`: names of pictographs

Pictographs, ornaments and the pieces of games.
-/

set_option autoImplicit false

namespace AccessScopes.Text

/-- The blocks of pictographs. -/
def pictographBlocks : List NameBlock := [
  -- Miscellaneous Symbols
  ⟨0x2600, [
    "BLACK SUN WITH RAYS,CLOUD,UMBRELLA,SNOWMAN,COMET,BLACK STAR,WHITE~,LIGHTNING,THUNDERSTORM",
    "SUN,ASCENDING NODE,DESCENDING~,CONJUNCTION,OPPOSITION,BLACK TELEPHONE,WHITE~,BALLOT BOX",
    "~~WITH CHECK,~~~X,SALTIRE,UMBRELLA WITH RAIN DROPS,HOT BEVERAGE,WHITE SHOGI PIECE,BLACK~~",
    "SHAMROCK,REVERSED ROTATED FLORAL HEART BULLET,BLACK LEFT POINTING INDEX,~RIGHT~~",
    "WHITE LEFT~~,~UP~~,~RIGHT~~,~DOWN~~,SKULL AND CROSSBONES,CAUTION SIGN,RADIOACTIVE~",
    "BIOHAZARD~,CADUCEUS,ANKH,ORTHODOX CROSS,CHI RHO,CROSS OF LORRAINE,~~JERUSALEM",
    "STAR AND CRESCENT,FARSI SYMBOL,ADI SHAKTI,HAMMER AND SICKLE,PEACE SYMBOL,YIN YANG",
    "TRIGRAM FOR HEAVEN,~~LAKE,~~FIRE,~~THUNDER,~~WIND,~~WATER,~~MOUNTAIN,~~EARTH",
    "WHEEL OF DHARMA,WHITE FROWNING FACE,~SMILING~,BLACK~~,WHITE SUN WITH RAYS",
    "FIRST QUARTER MOON,LAST~~,MERCURY,FEMALE SIGN,EARTH,MALE SIGN,JUPITER,SATURN,URANUS,NEPTUNE",
    "PLUTO,ARIES,TAURUS,GEMINI,CANCER,LEO,VIRGO,LIBRA,SCORPIUS,SAGITTARIUS,CAPRICORN,AQUARIUS",
    "PISCES,WHITE CHESS KING,~~QUEEN,~~ROOK,~~BISHOP,~~KNIGHT,~~PAWN,BLACK~KING,~~QUEEN,~~ROOK",
    "~~BISHOP,~~KNIGHT,~~PAWN,~SPADE SUIT,WHITE HEART~,~DIAMOND~,BLACK CLUB~,WHITE SPADE~",
    "BLACK HEART~,~DIAMOND~,WHITE CLUB~,HOT SPRINGS,QUARTER NOTE,EIGHTH~,BEAMED EIGHTH NOTES",
    "~SIXTEENTH~,MUSIC FLAT SIGN,~NATURAL~,~SHARP~,WEST SYRIAC CROSS,EAST~~",
    "UNIVERSAL RECYCLING SYMBOL,RECYCLING SYMBOL FOR TYPE-1 PLASTICS,~~~TYPE-2~,~~~TYPE-3~",
    "~~~TYPE-4~,~~~TYPE-5~,~~~TYPE-6~,~~~TYPE-7~,~~~GENERIC MATERIALS",
    "BLACK UNIVERSAL RECYCLING SYMBOL,RECYCLED PAPER SYMBOL,PARTIALLY-RECYCLED~~,PERMANENT~SIGN",
    "WHEELCHAIR SYMBOL,DIE FACE-1,~FACE-2,~FACE-3,~FACE-4,~FACE-5,~FACE-6",
    "WHITE CIRCLE WITH DOT RIGHT,~~~TWO DOTS,BLACK~~WHITE DOT RIGHT,~~~TWO WHITE DOTS",
    "MONOGRAM FOR YANG,~~YIN,DIGRAM~GREATER YANG,~~LESSER YIN,~~~YANG,~~GREATER YIN,WHITE FLAG",
    "BLACK~,HAMMER AND PICK,ANCHOR,CROSSED SWORDS,STAFF OF AESCULAPIUS,SCALES,ALEMBIC,FLOWER",
    "GEAR,STAFF OF HERMES,ATOM SYMBOL,FLEUR-DE-LIS,OUTLINED WHITE STAR",
    "THREE LINES CONVERGING RIGHT,~~~LEFT,WARNING SIGN,HIGH VOLTAGE SIGN,DOUBLED FEMALE~,~MALE~",
    "INTERLOCKED FEMALE AND MALE SIGN,MALE AND FEMALE SIGN,~WITH STROKE~",
    "~~~AND MALE AND FEMALE SIGN,VERTICAL MALE WITH STROKE SIGN,HORIZONTAL~~~~",
    "MEDIUM WHITE CIRCLE,~BLACK~,~SMALL WHITE CIRCLE,MARRIAGE SYMBOL,DIVORCE~",
    "UNMARRIED PARTNERSHIP SYMBOL,COFFIN,FUNERAL URN,NEUTER,CERES,PALLAS,JUNO,VESTA,CHIRON",
    "BLACK MOON LILITH,SEXTILE,SEMISEXTILE,QUINCUNX,SESQUIQUADRATE,SOCCER BALL,BASEBALL",
    "SQUARED KEY,WHITE DRAUGHTS MAN,~~KING,BLACK~MAN,~~KING,SNOWMAN WITHOUT SNOW",
    "SUN BEHIND CLOUD,RAIN,BLACK SNOWMAN,THUNDER CLOUD AND RAIN,TURNED WHITE SHOGI PIECE",
    "~BLACK~~,WHITE DIAMOND IN SQUARE,CROSSING LANES,DISABLED CAR,OPHIUCHUS,PICK,CAR SLIDING",
    "HELMET WITH WHITE CROSS,CIRCLED CROSSING LANES,CHAINS,NO ENTRY",
    "ALTERNATE ONE-WAY LEFT WAY TRAFFIC,BLACK TWO-WAY~~~,WHITE~~~~,BLACK LEFT LANE MERGE",
    "WHITE~~~,DRIVE SLOW SIGN,HEAVY WHITE DOWN-POINTING TRIANGLE,LEFT CLOSED ENTRY",
    "SQUARED SALTIRE,FALLING DIAGONAL IN WHITE CIRCLE IN BLACK SQUARE,BLACK TRUCK",
    "RESTRICTED LEFT ENTRY-1,~~ENTRY-2,ASTRONOMICAL SYMBOL FOR URANUS",
    "HEAVY CIRCLE WITH STROKE AND TWO DOTS ABOVE,PENTAGRAM,RIGHT-HANDED INTERLACED PENTAGRAM",
    "LEFT-HANDED~~,INVERTED PENTAGRAM,BLACK CROSS ON SHIELD,SHINTO SHRINE,CHURCH,CASTLE",
    "HISTORIC SITE,GEAR WITHOUT HUB,~WITH HANDLES,MAP SYMBOL FOR LIGHTHOUSE,MOUNTAIN",
    "UMBRELLA ON GROUND,FOUNTAIN,FLAG IN HOLE,FERRY,SAILBOAT,SQUARE FOUR CORNERS,SKIER,ICE SKATE",
    "PERSON WITH BALL,TENT,JAPANESE BANK SYMBOL,HEADSTONE GRAVEYARD~,FUEL PUMP",
    "CUP ON BLACK SQUARE,WHITE FLAG WITH HORIZONTAL MIDDLE BLACK STRIPE"]⟩,
  -- Dingbats
  ⟨0x2700, [
    "BLACK SAFETY SCISSORS,UPPER BLADE~,BLACK SCISSORS,LOWER BLADE SCISSORS,WHITE SCISSORS",
    "~HEAVY CHECK MARK,TELEPHONE LOCATION SIGN,TAPE DRIVE,AIRPLANE,ENVELOPE,RAISED FIST,~HAND",
    "VICTORY~,WRITING~,LOWER RIGHT PENCIL,PENCIL,UPPER RIGHT PENCIL,WHITE NIB,BLACK~,CHECK MARK",
    "HEAVY CHECK MARK,MULTIPLICATION X,HEAVY MULTIPLICATION X,BALLOT X,HEAVY BALLOT X",
    "OUTLINED GREEK CROSS,HEAVY~~,OPEN CENTRE~,HEAVY OPEN CENTRE CROSS,LATIN CROSS",
    "SHADOWED WHITE LATIN CROSS,OUTLINED LATIN CROSS,MALTESE CROSS,STAR OF DAVID",
    "FOUR TEARDROP-SPOKED ASTERISK,~BALLOON-SPOKED~,HEAVY FOUR BALLOON-SPOKED ASTERISK",
    "FOUR CLUB-SPOKED ASTERISK,BLACK FOUR POINTED STAR,WHITE~~~,SPARKLES",
    "STRESS OUTLINED WHITE STAR,CIRCLED WHITE STAR,OPEN CENTRE BLACK STAR,BLACK~WHITE~",
    "OUTLINED BLACK STAR,HEAVY OUTLINED BLACK STAR,PINWHEEL STAR,SHADOWED WHITE STAR",
    "HEAVY ASTERISK,OPEN CENTRE ASTERISK,EIGHT SPOKED~,~POINTED BLACK STAR,~~PINWHEEL~",
    "SIX~BLACK~,EIGHT~RECTILINEAR BLACK STAR,HEAVY EIGHT POINTED RECTILINEAR BLACK STAR",
    "TWELVE POINTED BLACK STAR,SIXTEEN~ASTERISK,TEARDROP-SPOKED ASTERISK",
    "OPEN CENTRE TEARDROP-SPOKED ASTERISK,HEAVY TEARDROP-SPOKED ASTERISK",
    "SIX PETALLED BLACK AND WHITE FLORETTE,BLACK FLORETTE,WHITE~",
    "EIGHT PETALLED OUTLINED BLACK FLORETTE,CIRCLED OPEN CENTRE EIGHT POINTED STAR",
    "HEAVY TEARDROP-SPOKED PINWHEEL ASTERISK,SNOWFLAKE,TIGHT TRIFOLIATE SNOWFLAKE,HEAVY CHEVRON~",
    "SPARKLE,HEAVY SPARKLE,BALLOON-SPOKED ASTERISK,EIGHT TEARDROP-SPOKED PROPELLER ASTERISK",
    "HEAVY EIGHT TEARDROP-SPOKED PROPELLER ASTERISK,CROSS MARK,SHADOWED WHITE CIRCLE",
    "NEGATIVE SQUARED CROSS MARK,LOWER RIGHT DROP-SHADOWED WHITE SQUARE,UPPER~~~~",
    "LOWER~SHADOWED~~,UPPER~~~~,BLACK QUESTION MARK ORNAMENT,WHITE~~~,~EXCLAMATION~~",
    "BLACK DIAMOND MINUS WHITE X,HEAVY EXCLAMATION MARK SYMBOL,LIGHT VERTICAL BAR,MEDIUM~~",
    "HEAVY~~,~SINGLE TURNED COMMA QUOTATION MARK ORNAMENT,~~COMMA QUOTATION MARK ORNAMENT",
    "~DOUBLE TURNED COMMA QUOTATION MARK ORNAMENT,~~COMMA QUOTATION MARK ORNAMENT",
    "~LOW SINGLE COMMA QUOTATION MARK ORNAMENT,~~DOUBLE~~~~,CURVED STEM PARAGRAPH SIGN ORNAMENT",
    "HEAVY EXCLAMATION MARK ORNAMENT,~HEART EXCLAMATION MARK ORNAMENT,~BLACK HEART",
    "ROTATED HEAVY BLACK HEART BULLET,FLORAL HEART,ROTATED FLORAL HEART BULLET",
    "MEDIUM LEFT PARENTHESIS ORNAMENT,~RIGHT~~,~FLATTENED LEFT PARENTHESIS ORNAMENT,~~RIGHT~~",
    "~LEFT-POINTING ANGLE BRACKET~,~RIGHT-POINTING~~~",
    "HEAVY LEFT-POINTING~QUOTATION MARK ORNAMENT,~RIGHT-POINTING~~~~",
    "~LEFT-POINTING~BRACKET ORNAMENT,~RIGHT-POINTING~~~",
    "LIGHT LEFT TORTOISE SHELL BRACKET ORNAMENT,~RIGHT~~~~,MEDIUM LEFT CURLY BRACKET ORNAMENT",
    "~RIGHT~~~,DINGBAT NEGATIVE CIRCLED DIGIT ONE,~~~~TWO,~~~~THREE,~~~~FOUR,~~~~FIVE,~~~~SIX",
    "~~~~SEVEN,~~~~EIGHT,~~~~NINE,~~~NUMBER TEN,~CIRCLED SANS-SERIF DIGIT ONE,~~~~TWO,~~~~THREE",
    "~~~~FOUR,~~~~FIVE,~~~~SIX,~~~~SEVEN,~~~~EIGHT,~~~~NINE,~~~NUMBER TEN",
    "~NEGATIVE CIRCLED SANS-SERIF DIGIT ONE,~~~~~TWO,~~~~~THREE,~~~~~FOUR,~~~~~FIVE,~~~~~SIX",
    "~~~~~SEVEN,~~~~~EIGHT,~~~~~NINE,~~~~NUMBER TEN,HEAVY WIDE-HEADED RIGHTWARDS ARROW",
    "~PLUS SIGN,~MINUS~,~DIVISION~,~SOUTH EAST ARROW,~RIGHTWARDS ARROW,~NORTH EAST ARROW",
    "DRAFTING POINT RIGHTWARDS~,HEAVY ROUND-TIPPED~~,TRIANGLE-HEADED RIGHTWARDS ARROW",
    "HEAVY TRIANGLE-HEADED RIGHTWARDS ARROW,DASHED~~~",
    "HEAVY DASHED TRIANGLE-HEADED RIGHTWARDS ARROW,BLACK RIGHTWARDS ARROW",
    "THREE-D TOP-LIGHTED RIGHTWARDS ARROWHEAD,~BOTTOM-LIGHTED~~,BLACK RIGHTWARDS ARROWHEAD",
    "HEAVY BLACK CURVED DOWNWARDS AND RIGHTWARDS ARROW,~~~UPWARDS~~~,SQUAT~RIGHTWARDS ARROW",
    "HEAVY CONCAVE-POINTED BLACK RIGHTWARDS ARROW,RIGHT-SHADED WHITE RIGHTWARDS ARROW",
    "LEFT-SHADED~~~,BACK-TILTED SHADOWED WHITE RIGHTWARDS ARROW,FRONT-TILTED~~~~",
    "HEAVY LOWER RIGHT-SHADOWED WHITE RIGHTWARDS ARROW,~UPPER~~~~,NOTCHED LOWER~~~~,CURLY LOOP",
    "NOTCHED UPPER RIGHT-SHADOWED WHITE RIGHTWARDS ARROW,CIRCLED HEAVY WHITE RIGHTWARDS ARROW",
    "WHITE-FEATHERED RIGHTWARDS ARROW,BLACK-FEATHERED SOUTH EAST ARROW,~RIGHTWARDS ARROW",
    "~NORTH EAST ARROW,HEAVY BLACK-FEATHERED SOUTH EAST ARROW,~~RIGHTWARDS ARROW",
    "~~NORTH EAST ARROW,TEARDROP-BARBED RIGHTWARDS ARROW,HEAVY TEARDROP-SHANKED RIGHTWARDS ARROW",
    "WEDGE-TAILED RIGHTWARDS ARROW,HEAVY WEDGE-TAILED RIGHTWARDS ARROW",
    "OPEN-OUTLINED RIGHTWARDS ARROW,DOUBLE CURLY LOOP"]⟩,
  -- Mahjong Tiles
  ⟨0x1f000, [
    "MAHJONG TILE EAST WIND,~~SOUTH~,~~WEST~,~~NORTH~,~~RED DRAGON,~~GREEN~,~~WHITE~",
    "~~ONE OF CHARACTERS,~~TWO~~,~~THREE~~,~~FOUR~~,~~FIVE~~,~~SIX~~,~~SEVEN~~,~~EIGHT~~",
    "~~NINE~~,~~ONE~BAMBOOS,~~TWO~~,~~THREE~~,~~FOUR~~,~~FIVE~~,~~SIX~~,~~SEVEN~~,~~EIGHT~~",
    "~~NINE~~,~~ONE~CIRCLES,~~TWO~~,~~THREE~~,~~FOUR~~,~~FIVE~~,~~SIX~~,~~SEVEN~~,~~EIGHT~~",
    "~~NINE~~,~~PLUM,~~ORCHID,~~BAMBOO,~~CHRYSANTHEMUM,~~SPRING,~~SUMMER,~~AUTUMN,~~WINTER",
    "~~JOKER,~~BACK"]⟩,
  -- Domino Tiles
  ⟨0x1f030, [
    "DOMINO TILE HORIZONTAL BACK,~~HORIZONTAL-00-00,~~HORIZONTAL-00-01,~~HORIZONTAL-00-02",
    "~~HORIZONTAL-00-03,~~HORIZONTAL-00-04,~~HORIZONTAL-00-05,~~HORIZONTAL-00-06",
    "~~HORIZONTAL-01-00,~~HORIZONTAL-01-01,~~HORIZONTAL-01-02,~~HORIZONTAL-01-03",
    "~~HORIZONTAL-01-04,~~HORIZONTAL-01-05,~~HORIZONTAL-01-06,~~HORIZONTAL-02-00",
    "~~HORIZONTAL-02-01,~~HORIZONTAL-02-02,~~HORIZONTAL-02-03,~~HORIZONTAL-02-04",
    "~~HORIZONTAL-02-05,~~HORIZONTAL-02-06,~~HORIZONTAL-03-00,~~HORIZONTAL-03-01",
    "~~HORIZONTAL-03-02,~~HORIZONTAL-03-03,~~HORIZONTAL-03-04,~~HORIZONTAL-03-05",
    "~~HORIZONTAL-03-06,~~HORIZONTAL-04-00,~~HORIZONTAL-04-01,~~HORIZONTAL-04-02",
    "~~HORIZONTAL-04-03,~~HORIZONTAL-04-04,~~HORIZONTAL-04-05,~~HORIZONTAL-04-06",
    "~~HORIZONTAL-05-00,~~HORIZONTAL-05-01,~~HORIZONTAL-05-02,~~HORIZONTAL-05-03",
    "~~HORIZONTAL-05-04,~~HORIZONTAL-05-05,~~HORIZONTAL-05-06,~~HORIZONTAL-06-00",
    "~~HORIZONTAL-06-01,~~HORIZONTAL-06-02,~~HORIZONTAL-06-03,~~HORIZONTAL-06-04",
    "~~HORIZONTAL-06-05,~~HORIZONTAL-06-06,~~VERTICAL BACK,~~VERTICAL-00-00,~~VERTICAL-00-01",
    "~~VERTICAL-00-02,~~VERTICAL-00-03,~~VERTICAL-00-04,~~VERTICAL-00-05,~~VERTICAL-00-06",
    "~~VERTICAL-01-00,~~VERTICAL-01-01,~~VERTICAL-01-02,~~VERTICAL-01-03,~~VERTICAL-01-04",
    "~~VERTICAL-01-05,~~VERTICAL-01-06,~~VERTICAL-02-00,~~VERTICAL-02-01,~~VERTICAL-02-02",
    "~~VERTICAL-02-03,~~VERTICAL-02-04,~~VERTICAL-02-05,~~VERTICAL-02-06,~~VERTICAL-03-00",
    "~~VERTICAL-03-01,~~VERTICAL-03-02,~~VERTICAL-03-03,~~VERTICAL-03-04,~~VERTICAL-03-05",
    "~~VERTICAL-03-06,~~VERTICAL-04-00,~~VERTICAL-04-01,~~VERTICAL-04-02,~~VERTICAL-04-03",
    "~~VERTICAL-04-04,~~VERTICAL-04-05,~~VERTICAL-04-06,~~VERTICAL-05-00,~~VERTICAL-05-01",
    "~~VERTICAL-05-02,~~VERTICAL-05-03,~~VERTICAL-05-04,~~VERTICAL-05-05,~~VERTICAL-05-06",
    "~~VERTICAL-06-00,~~VERTICAL-06-01,~~VERTICAL-06-02,~~VERTICAL-06-03,~~VERTICAL-06-04",
    "~~VERTICAL-06-05,~~VERTICAL-06-06"]⟩,
  -- Playing Cards
  ⟨0x1f0a0, [
    "PLAYING CARD BACK,~~ACE OF SPADES,~~TWO~~,~~THREE~~,~~FOUR~~,~~FIVE~~,~~SIX~~,~~SEVEN~~",
    "~~EIGHT~~,~~NINE~~,~~TEN~~,~~JACK~~,~~KNIGHT~~,~~QUEEN~~,~~KING~~,,,~~ACE~HEARTS,~~TWO~~",
    "~~THREE~~,~~FOUR~~,~~FIVE~~,~~SIX~~,~~SEVEN~~,~~EIGHT~~,~~NINE~~,~~TEN~~,~~JACK~~",
    "~~KNIGHT~~,~~QUEEN~~,~~KING~~,~~RED JOKER,,~~ACE OF DIAMONDS,~~TWO~~,~~THREE~~,~~FOUR~~",
    "~~FIVE~~,~~SIX~~,~~SEVEN~~,~~EIGHT~~,~~NINE~~,~~TEN~~,~~JACK~~,~~KNIGHT~~,~~QUEEN~~",
    "~~KING~~,~~BLACK JOKER,,~~ACE OF CLUBS,~~TWO~~,~~THREE~~,~~FOUR~~,~~FIVE~~,~~SIX~~",
    "~~SEVEN~~,~~EIGHT~~,~~NINE~~,~~TEN~~,~~JACK~~,~~KNIGHT~~,~~QUEEN~~,~~KING~~,~~WHITE JOKER",
    "~~FOOL,~~TRUMP-1,~~TRUMP-2,~~TRUMP-3,~~TRUMP-4,~~TRUMP-5,~~TRUMP-6,~~TRUMP-7,~~TRUMP-8",
    "~~TRUMP-9,~~TRUMP-10,~~TRUMP-11,~~TRUMP-12,~~TRUMP-13,~~TRUMP-14,~~TRUMP-15,~~TRUMP-16",
    "~~TRUMP-17,~~TRUMP-18,~~TRUMP-19,~~TRUMP-20,~~TRUMP-21"]⟩,
  -- Miscellaneous Symbols and Pictographs
  ⟨0x1f300, [
    "CYCLONE,FOGGY,CLOSED UMBRELLA,NIGHT WITH STARS,SUNRISE OVER MOUNTAINS,~,CITYSCAPE AT DUSK",
    "SUNSET OVER BUILDINGS,RAINBOW,BRIDGE AT NIGHT,WATER WAVE,VOLCANO,MILKY WAY",
    "EARTH GLOBE EUROPE-AFRICA,~~AMERICAS,~~ASIA-AUSTRALIA,GLOBE WITH MERIDIANS,NEW MOON SYMBOL",
    "WAXING CRESCENT MOON SYMBOL,FIRST QUARTER~~,WAXING GIBBOUS~~,FULL MOON SYMBOL",
    "WANING GIBBOUS MOON SYMBOL,LAST QUARTER~~,WANING CRESCENT~~,CRESCENT MOON,NEW~WITH FACE",
    "FIRST QUARTER MOON WITH FACE,LAST~~~~,FULL MOON WITH FACE,SUN WITH FACE,GLOWING STAR",
    "SHOOTING~,THERMOMETER,BLACK DROPLET,WHITE SUN,~~WITH SMALL CLOUD,~~BEHIND CLOUD",
    "~~~~WITH RAIN,CLOUD WITH RAIN,~~SNOW,~~LIGHTNING,~~TORNADO,FOG,WIND BLOWING FACE,HOT DOG",
    "TACO,BURRITO,CHESTNUT,SEEDLING,EVERGREEN TREE,DECIDUOUS~,PALM~,CACTUS,HOT PEPPER,TULIP",
    "CHERRY BLOSSOM,ROSE,HIBISCUS,SUNFLOWER,BLOSSOM,EAR OF MAIZE,~~RICE,HERB,FOUR LEAF CLOVER",
    "MAPLE~,FALLEN~,LEAF FLUTTERING IN WIND,MUSHROOM,TOMATO,AUBERGINE,GRAPES,MELON,WATERMELON",
    "TANGERINE,LEMON,BANANA,PINEAPPLE,RED APPLE,GREEN~,PEAR,PEACH,CHERRIES,STRAWBERRY,HAMBURGER",
    "SLICE OF PIZZA,MEAT ON BONE,POULTRY LEG,RICE CRACKER,~BALL,COOKED RICE,CURRY AND RICE",
    "STEAMING BOWL,SPAGHETTI,BREAD,FRENCH FRIES,ROASTED SWEET POTATO,DANGO,ODEN,SUSHI",
    "FRIED SHRIMP,FISH CAKE WITH SWIRL DESIGN,SOFT ICE CREAM,SHAVED~,ICE CREAM,DOUGHNUT,COOKIE",
    "CHOCOLATE BAR,CANDY,LOLLIPOP,CUSTARD,HONEY POT,SHORTCAKE,BENTO BOX,POT OF FOOD,COOKING",
    "FORK AND KNIFE,TEACUP WITHOUT HANDLE,SAKE BOTTLE AND CUP,WINE GLASS,COCKTAIL~",
    "TROPICAL DRINK,BEER MUG,CLINKING BEER MUGS,BABY BOTTLE,FORK AND KNIFE WITH PLATE",
    "BOTTLE WITH POPPING CORK,POPCORN,RIBBON,WRAPPED PRESENT,BIRTHDAY CAKE,JACK-O-LANTERN",
    "CHRISTMAS TREE,FATHER CHRISTMAS,FIREWORKS,FIREWORK SPARKLER,BALLOON,PARTY POPPER",
    "CONFETTI BALL,TANABATA TREE,CROSSED FLAGS,PINE DECORATION,JAPANESE DOLLS,CARP STREAMER",
    "WIND CHIME,MOON VIEWING CEREMONY,SCHOOL SATCHEL,GRADUATION CAP,HEART WITH TIP ON THE LEFT",
    "BOUQUET OF FLOWERS,MILITARY MEDAL,REMINDER RIBBON,MUSICAL KEYBOARD WITH JACKS",
    "STUDIO MICROPHONE,LEVEL SLIDER,CONTROL KNOBS,BEAMED ASCENDING MUSICAL NOTES,~DESCENDING~~",
    "FILM FRAMES,ADMISSION TICKETS,CAROUSEL HORSE,FERRIS WHEEL,ROLLER COASTER",
    "FISHING POLE AND FISH,MICROPHONE,MOVIE CAMERA,CINEMA,HEADPHONE,ARTIST PALETTE,TOP HAT",
    "CIRCUS TENT,TICKET,CLAPPER BOARD,PERFORMING ARTS,VIDEO GAME,DIRECT HIT,SLOT MACHINE",
    "BILLIARDS,GAME DIE,BOWLING,FLOWER PLAYING CARDS,MUSICAL NOTE,MULTIPLE MUSICAL NOTES",
    "SAXOPHONE,GUITAR,MUSICAL KEYBOARD,TRUMPET,VIOLIN,MUSICAL SCORE,RUNNING SHIRT WITH SASH",
    "TENNIS RACQUET AND BALL,SKI AND SKI BOOT,BASKETBALL~HOOP,CHEQUERED FLAG,SNOWBOARDER,RUNNER",
    "SURFER,SPORTS MEDAL,TROPHY,HORSE RACING,AMERICAN FOOTBALL,RUGBY~,SWIMMER,WEIGHT LIFTER",
    "GOLFER,RACING MOTORCYCLE,~CAR,CRICKET BAT AND BALL,VOLLEYBALL,FIELD HOCKEY STICK AND BALL",
    "ICE~~~PUCK,TABLE TENNIS PADDLE~BALL,SNOW CAPPED MOUNTAIN,CAMPING,BEACH WITH UMBRELLA",
    "BUILDING CONSTRUCTION,HOUSE BUILDINGS,CITYSCAPE,DERELICT HOUSE BUILDING,CLASSICAL BUILDING",
    "DESERT,~ISLAND,NATIONAL PARK,STADIUM,HOUSE BUILDING,~WITH GARDEN,OFFICE BUILDING",
    "JAPANESE POST OFFICE,EUROPEAN~~,HOSPITAL,BANK,AUTOMATED TELLER MACHINE,HOTEL,LOVE HOTEL",
    "CONVENIENCE STORE,SCHOOL,DEPARTMENT STORE,FACTORY,IZAKAYA LANTERN,JAPANESE CASTLE,EUROPEAN~",
    "WHITE PENNANT,BLACK~,WAVING WHITE FLAG,~BLACK~,ROSETTE,BLACK ROSETTE,LABEL",
    "BADMINTON RACQUET AND SHUTTLECOCK,BOW AND ARROW,AMPHORA,EMOJI MODIFIER FITZPATRICK TYPE-1-2",
    "~~~TYPE-3,~~~TYPE-4,~~~TYPE-5,~~~TYPE-6,RAT,MOUSE,OX,WATER BUFFALO,COW,TIGER,LEOPARD,RABBIT",
    "CAT,DRAGON,CROCODILE,WHALE,SNAIL,SNAKE,HORSE,RAM,GOAT,SHEEP,MONKEY,ROOSTER,CHICKEN,DOG,PIG",
    "BOAR,ELEPHANT,OCTOPUS,SPIRAL SHELL,BUG,ANT,HONEYBEE,LADY BEETLE,FISH,TROPICAL FISH,BLOWFISH",
    "TURTLE,HATCHING CHICK,BABY~,FRONT-FACING BABY CHICK,BIRD,PENGUIN,KOALA,POODLE",
    "DROMEDARY CAMEL,BACTRIAN~,DOLPHIN,MOUSE FACE,COW~,TIGER~,RABBIT~,CAT~,DRAGON~",
    "SPOUTING WHALE,HORSE FACE,MONKEY~,DOG~,PIG~,FROG~,HAMSTER~,WOLF~,BEAR~,PANDA~,PIG NOSE",
    "PAW PRINTS,CHIPMUNK,EYES,EYE,EAR,NOSE,MOUTH,TONGUE,WHITE UP POINTING BACKHAND INDEX",
    "~DOWN~~~,~LEFT~~~,~RIGHT~~~,FISTED HAND SIGN,WAVING~~,OK~~,THUMBS UP~,~DOWN~",
    "CLAPPING HANDS~,OPEN~~,CROWN,WOMANS HAT,EYEGLASSES,NECKTIE,T-SHIRT,JEANS,DRESS,KIMONO",
    "BIKINI,WOMANS CLOTHES,PURSE,HANDBAG,POUCH,MANS SHOE,ATHLETIC~,HIGH-HEELED~,WOMANS SANDAL",
    "~BOOTS,FOOTPRINTS,BUST IN SILHOUETTE,BUSTS~~,BOY,GIRL,MAN,WOMAN,FAMILY",
    "MAN AND WOMAN HOLDING HANDS,TWO MEN HOLDING HANDS,~WOMEN~~,POLICE OFFICER",
    "WOMAN WITH BUNNY EARS,BRIDE~VEIL,PERSON~BLOND HAIR,MAN~GUA PI MAO,~~TURBAN,OLDER MAN,~WOMAN",
    "BABY,CONSTRUCTION WORKER,PRINCESS,JAPANESE OGRE,~GOBLIN,GHOST,BABY ANGEL",
    "EXTRATERRESTRIAL ALIEN,ALIEN MONSTER,IMP,SKULL,INFORMATION DESK PERSON,GUARDSMAN,DANCER",
    "LIPSTICK,NAIL POLISH,FACE MASSAGE,HAIRCUT,BARBER POLE,SYRINGE,PILL,KISS MARK,LOVE LETTER",
    "RING,GEM STONE,KISS,BOUQUET,COUPLE WITH HEART,WEDDING,BEATING HEART,BROKEN~,TWO HEARTS",
    "SPARKLING HEART,GROWING~,HEART WITH ARROW,BLUE HEART,GREEN~,YELLOW~,PURPLE~",
    "HEART WITH RIBBON,REVOLVING HEARTS,HEART DECORATION,DIAMOND SHAPE WITH A DOT INSIDE",
    "ELECTRIC LIGHT BULB,ANGER SYMBOL,BOMB,SLEEPING SYMBOL,COLLISION~,SPLASHING SWEAT SYMBOL",
    "DROPLET,DASH SYMBOL,PILE OF POO,FLEXED BICEPS,DIZZY SYMBOL,SPEECH BALLOON,THOUGHT~",
    "WHITE FLOWER,HUNDRED POINTS SYMBOL,MONEY BAG,CURRENCY EXCHANGE,HEAVY DOLLAR SIGN",
    "CREDIT CARD,BANKNOTE WITH YEN SIGN,~~DOLLAR~,~~EURO~,~~POUND~,MONEY~WINGS",
    "CHART~UPWARDS TREND AND YEN SIGN,SEAT,PERSONAL COMPUTER,BRIEFCASE,MINIDISC,FLOPPY DISK",
    "OPTICAL DISC,DVD,FILE FOLDER,OPEN FILE FOLDER,PAGE WITH CURL,~FACING UP,CALENDAR",
    "TEAR-OFF CALENDAR,CARD INDEX,CHART WITH UPWARDS TREND,~~DOWNWARDS~,BAR CHART,CLIPBOARD",
    "PUSHPIN,ROUND PUSHPIN,PAPERCLIP,STRAIGHT RULER,TRIANGULAR~,BOOKMARK TABS,LEDGER,NOTEBOOK",
    "~WITH DECORATIVE COVER,CLOSED BOOK,OPEN~,GREEN~,BLUE~,ORANGE~,BOOKS,NAME BADGE,SCROLL,MEMO",
    "TELEPHONE RECEIVER,PAGER,FAX MACHINE,SATELLITE ANTENNA,PUBLIC ADDRESS LOUDSPEAKER",
    "CHEERING MEGAPHONE,OUTBOX TRAY,INBOX~,PACKAGE,E-MAIL SYMBOL,INCOMING ENVELOPE",
    "ENVELOPE WITH DOWNWARDS ARROW ABOVE,CLOSED MAILBOX WITH LOWERED FLAG,~~~RAISED~,OPEN~~~~",
    "~~~LOWERED~,POSTBOX,POSTAL HORN,NEWSPAPER,MOBILE PHONE,~~WITH RIGHTWARDS ARROW AT LEFT",
    "VIBRATION MODE,MOBILE PHONE OFF,NO MOBILE PHONES,ANTENNA WITH BARS,CAMERA,~WITH FLASH",
    "VIDEO CAMERA,TELEVISION,RADIO,VIDEOCASSETTE,FILM PROJECTOR,PORTABLE STEREO,PRAYER BEADS",
    "TWISTED RIGHTWARDS ARROWS,CLOCKWISE~AND LEFTWARDS OPEN CIRCLE ARROWS",
    "~~~~~~~WITH CIRCLED ONE OVERLAY,~DOWNWARDS~UPWARDS~~~,ANTICLOCKWISE~~~~~~",
    "LOW BRIGHTNESS SYMBOL,HIGH~~,SPEAKER WITH CANCELLATION STROKE,~,~WITH ONE SOUND WAVE",
    "~~THREE~WAVES,BATTERY,ELECTRIC PLUG,LEFT-POINTING MAGNIFYING GLASS,RIGHT-POINTING~~",
    "LOCK WITH INK PEN,CLOSED LOCK WITH KEY,KEY,LOCK,OPEN LOCK,BELL,~WITH CANCELLATION STROKE",
    "BOOKMARK,LINK SYMBOL,RADIO BUTTON,BACK WITH LEFTWARDS ARROW ABOVE,END~~~~",
    "ON~EXCLAMATION MARK WITH LEFT RIGHT ARROW ABOVE,SOON~RIGHTWARDS ARROW ABOVE,TOP~UPWARDS~~",
    "NO ONE UNDER EIGHTEEN SYMBOL,KEYCAP TEN,INPUT SYMBOL FOR LATIN CAPITAL LETTERS,~~~~SMALL~",
    "~~~NUMBERS,~~~SYMBOLS,~~~LATIN LETTERS,FIRE,ELECTRIC TORCH,WRENCH,HAMMER,NUT AND BOLT,HOCHO",
    "PISTOL,MICROSCOPE,TELESCOPE,CRYSTAL BALL,SIX POINTED STAR WITH MIDDLE DOT",
    "JAPANESE SYMBOL FOR BEGINNER,TRIDENT EMBLEM,BLACK SQUARE BUTTON,WHITE~~,LARGE RED CIRCLE",
    "~BLUE~,~ORANGE DIAMOND,~BLUE~,SMALL ORANGE~,~BLUE~,UP-POINTING RED TRIANGLE,DOWN-POINTING~~",
    "UP-POINTING SMALL RED TRIANGLE,DOWN-POINTING~~~,LOWER RIGHT SHADOWED WHITE CIRCLE,UPPER~~~~",
    "CIRCLED CROSS POMMEE,CROSS POMMEE WITH HALF-CIRCLE BELOW,~~",
    "NOTCHED LEFT SEMICIRCLE WITH THREE DOTS,~RIGHT~~~~,SYMBOL FOR MARKS CHAPTER",
    "WHITE LATIN CROSS,HEAVY~~,CELTIC CROSS,OM SYMBOL,DOVE OF PEACE,KAABA,MOSQUE,SYNAGOGUE",
    "MENORAH WITH NINE BRANCHES,BOWL OF HYGIEIA,CLOCK FACE ONE OCLOCK,~~TWO~,~~THREE~,~~FOUR~",
    "~~FIVE~,~~SIX~,~~SEVEN~,~~EIGHT~,~~NINE~,~~TEN~,~~ELEVEN~,~~TWELVE~,~~ONE-THIRTY",
    "~~TWO-THIRTY,~~THREE-THIRTY,~~FOUR-THIRTY,~~FIVE-THIRTY,~~SIX-THIRTY,~~SEVEN-THIRTY",
    "~~EIGHT-THIRTY,~~NINE-THIRTY,~~TEN-THIRTY,~~ELEVEN-THIRTY,~~TWELVE-THIRTY,RIGHT SPEAKER",
    "~~WITH ONE SOUND WAVE,~~~THREE~WAVES,BULLHORN,~WITH SOUND WAVES,RINGING BELL,BOOK,CANDLE",
    "MANTELPIECE CLOCK,BLACK SKULL AND CROSSBONES,NO PIRACY,HOLE,MAN IN BUSINESS SUIT LEVITATING",
    "SLEUTH OR SPY,DARK SUNGLASSES,SPIDER,~WEB,JOYSTICK,MAN DANCING,LEFT HAND TELEPHONE RECEIVER",
    "TELEPHONE RECEIVER WITH PAGE,RIGHT HAND TELEPHONE RECEIVER,WHITE TOUCHTONE~,BLACK~~",
    "TELEPHONE ON TOP OF MODEM,CLAMSHELL MOBILE PHONE,BACK OF ENVELOPE,STAMPED ENVELOPE",
    "ENVELOPE WITH LIGHTNING,FLYING ENVELOPE,PEN OVER STAMPED ENVELOPE,LINKED PAPERCLIPS",
    "BLACK PUSHPIN,LOWER LEFT PENCIL,~~BALLPOINT PEN,~~FOUNTAIN~,~~PAINTBRUSH,~~CRAYON",
    "LEFT WRITING HAND,TURNED OK~SIGN,RAISED HAND WITH FINGERS SPLAYED",
    "REVERSED RAISED HAND WITH FINGERS SPLAYED,~THUMBS UP SIGN,~~DOWN~,~VICTORY HAND",
    "~HAND WITH MIDDLE FINGER EXTENDED,RAISED~~PART BETWEEN MIDDLE AND RING FINGERS",
    "WHITE DOWN POINTING LEFT HAND INDEX,SIDEWAYS WHITE LEFT POINTING INDEX,~~RIGHT~~",
    "~BLACK LEFT~~,~~RIGHT~~,BLACK LEFT POINTING BACKHAND~,~RIGHT~~~,SIDEWAYS WHITE UP POINTING~",
    "~~DOWN~~,~BLACK UP~~,~~DOWN~~,BLACK UP POINTING BACKHAND~,~DOWN~~~,~HEART,DESKTOP COMPUTER",
    "KEYBOARD AND MOUSE,THREE NETWORKED COMPUTERS,PRINTER,POCKET CALCULATOR",
    "BLACK HARD SHELL FLOPPY DISK,WHITE~~~~,SOFT SHELL FLOPPY DISK,TAPE CARTRIDGE,WIRED KEYBOARD",
    "ONE BUTTON MOUSE,TWO~~,THREE~~,TRACKBALL,OLD PERSONAL COMPUTER,HARD DISK,SCREEN",
    "PRINTER ICON,FAX~,OPTICAL DISC ICON,DOCUMENT WITH TEXT,~~~AND PICTURE,~~PICTURE,FRAME~~",
    "~~TILES,~~AN X,BLACK FOLDER,FOLDER,OPEN FOLDER,CARD INDEX DIVIDERS,~FILE BOX,FILE CABINET",
    "EMPTY NOTE,~~PAGE,~~PAD,NOTE,~PAGE,~PAD,EMPTY DOCUMENT,~PAGE,~PAGES,DOCUMENT,PAGE,PAGES",
    "WASTEBASKET,SPIRAL NOTE PAD,~CALENDAR~,DESKTOP WINDOW,MINIMIZE,MAXIMIZE,OVERLAP",
    "CLOCKWISE RIGHT AND LEFT SEMICIRCLE ARROWS,CANCELLATION X,INCREASE FONT SIZE SYMBOL",
    "DECREASE~~~,COMPRESSION,OLD KEY,ROLLED-UP NEWSPAPER,PAGE WITH CIRCLED TEXT,STOCK CHART",
    "DAGGER KNIFE,LIPS,SPEAKING HEAD IN SILHOUETTE,THREE RAYS ABOVE,~~BELOW,~~LEFT,~~RIGHT",
    "LEFT SPEECH BUBBLE,RIGHT~~,TWO~BUBBLES,THREE~~,LEFT THOUGHT BUBBLE,RIGHT~~,LEFT ANGER~",
    "RIGHT~~,MOOD BUBBLE,LIGHTNING MOOD BUBBLE,~~,BALLOT BOX WITH BALLOT,~SCRIPT X",
    "~BOX WITH SCRIPT X,~BOLD SCRIPT X,~BOX WITH BOLD SCRIPT X,LIGHT CHECK MARK",
    "BALLOT BOX WITH BOLD CHECK,WORLD MAP,MOUNT FUJI,TOKYO TOWER,STATUE OF LIBERTY",
    "SILHOUETTE~JAPAN,MOYAI"]⟩,
  -- Emoticons
  ⟨0x1f600, [
    "GRINNING FACE,~~WITH SMILING EYES,FACE WITH TEARS OF JOY,SMILING FACE WITH OPEN MOUTH",
    "~~~~~AND SMILING EYES,~~~~~~COLD SWEAT,~~~~~~TIGHTLY-CLOSED EYES,~~~HALO,~~~HORNS,WINKING~",
    "SMILING~WITH SMILING EYES,FACE SAVOURING DELICIOUS FOOD,RELIEVED FACE",
    "SMILING~WITH HEART-SHAPED EYES,~~~SUNGLASSES,SMIRKING~,NEUTRAL~,EXPRESSIONLESS~,UNAMUSED~",
    "FACE WITH COLD SWEAT,PENSIVE FACE,CONFUSED~,CONFOUNDED~,KISSING~,FACE THROWING A KISS",
    "KISSING FACE WITH SMILING EYES,~~~CLOSED~,FACE WITH STUCK-OUT TONGUE,~~~~AND WINKING EYE",
    "~~~~~TIGHTLY-CLOSED EYES,DISAPPOINTED FACE,WORRIED~,ANGRY~,POUTING~,CRYING~,PERSEVERING~",
    "FACE WITH LOOK OF TRIUMPH,DISAPPOINTED BUT RELIEVED FACE,FROWNING FACE WITH OPEN MOUTH",
    "ANGUISHED~,FEARFUL~,WEARY~,SLEEPY~,TIRED~,GRIMACING~,LOUDLY CRYING FACE",
    "FACE WITH OPEN MOUTH,HUSHED FACE,FACE WITH OPEN MOUTH AND COLD SWEAT,~SCREAMING IN FEAR",
    "ASTONISHED FACE,FLUSHED~,SLEEPING~,DIZZY~,FACE WITHOUT MOUTH,~WITH MEDICAL MASK",
    "GRINNING CAT FACE WITH SMILING EYES,CAT FACE WITH TEARS OF JOY",
    "SMILING CAT FACE WITH OPEN MOUTH,~~~~HEART-SHAPED EYES,CAT FACE WITH WRY SMILE",
    "KISSING CAT FACE WITH CLOSED EYES,POUTING~~,CRYING~~,WEARY~~,SLIGHTLY FROWNING~,~SMILING~",
    "UPSIDE-DOWN FACE,FACE WITH ROLLING EYES,~~NO GOOD GESTURE,~~OK GESTURE,PERSON BOWING DEEPLY",
    "SEE-NO-EVIL MONKEY,HEAR-NO-EVIL~,SPEAK-NO-EVIL~,HAPPY PERSON RAISING ONE HAND",
    "PERSON RAISING BOTH HANDS IN CELEBRATION,~FROWNING,~WITH POUTING FACE,~~FOLDED HANDS"]⟩,
  -- Ornamental Dingbats
  ⟨0x1f650, [
    "NORTH WEST POINTING LEAF,SOUTH~~~,NORTH EAST~~,SOUTH~~~,TURNED NORTH WEST POINTING LEAF",
    "~SOUTH~~~,~NORTH EAST~~,~SOUTH~~~,NORTH WEST POINTING VINE~,SOUTH~~~~,NORTH EAST~~~",
    "SOUTH~~~~,HEAVY NORTH WEST POINTING VINE LEAF,~SOUTH~~~~,~NORTH EAST~~~,~SOUTH~~~~",
    "NORTH WEST POINTING BUD,SOUTH~~~,NORTH EAST~~,SOUTH~~~,HEAVY NORTH WEST POINTING BUD",
    "~SOUTH~~~,~NORTH EAST~~,~SOUTH~~~,HOLLOW QUILT SQUARE ORNAMENT,~~~~IN BLACK SQUARE,SOLID~~~",
    "~~~~IN BLACK SQUARE,LEFTWARDS ROCKET,UPWARDS~,RIGHTWARDS~,DOWNWARDS~",
    "SCRIPT LIGATURE ET ORNAMENT,HEAVY SCRIPT LIGATURE ET ORNAMENT,LIGATURE OPEN ET ORNAMENT",
    "HEAVY LIGATURE OPEN ET ORNAMENT,~AMPERSAND ORNAMENT,SWASH~~",
    "SANS-SERIF HEAVY DOUBLE TURNED COMMA QUOTATION MARK ORNAMENT",
    "~~~COMMA QUOTATION MARK ORNAMENT,~~LOW DOUBLE COMMA QUOTATION MARK ORNAMENT",
    "HEAVY INTERROBANG ORNAMENT,SANS-SERIF~~,HEAVY SANS-SERIF INTERROBANG ORNAMENT",
    "VERY HEAVY SOLIDUS,~~REVERSE SOLIDUS,CHECKER BOARD,REVERSE CHECKER BOARD"]⟩,
  -- Transport and Map Symbols
  ⟨0x1f680, [
    "ROCKET,HELICOPTER,STEAM LOCOMOTIVE,RAILWAY CAR,HIGH-SPEED TRAIN,~~WITH BULLET NOSE,TRAIN",
    "METRO,LIGHT RAIL,STATION,TRAM,~CAR,BUS,ONCOMING BUS,TROLLEYBUS,BUS STOP,MINIBUS,AMBULANCE",
    "FIRE ENGINE,POLICE CAR,ONCOMING POLICE CAR,TAXI,ONCOMING TAXI,AUTOMOBILE",
    "ONCOMING AUTOMOBILE,RECREATIONAL VEHICLE,DELIVERY TRUCK,ARTICULATED LORRY,TRACTOR,MONORAIL",
    "MOUNTAIN RAILWAY,SUSPENSION~,MOUNTAIN CABLEWAY,AERIAL TRAMWAY,SHIP,ROWBOAT,SPEEDBOAT",
    "HORIZONTAL TRAFFIC LIGHT,VERTICAL~~,CONSTRUCTION SIGN,POLICE CARS REVOLVING LIGHT",
    "TRIANGULAR FLAG ON POST,DOOR,NO ENTRY SIGN,SMOKING SYMBOL,NO SMOKING SYMBOL",
    "PUT LITTER IN ITS PLACE SYMBOL,DO NOT LITTER SYMBOL,POTABLE WATER SYMBOL,NON-POTABLE~~",
    "BICYCLE,NO BICYCLES,BICYCLIST,MOUNTAIN BICYCLIST,PEDESTRIAN,NO PEDESTRIANS",
    "CHILDREN CROSSING,MENS SYMBOL,WOMENS~,RESTROOM,BABY SYMBOL,TOILET,WATER CLOSET,SHOWER,BATH",
    "BATHTUB,PASSPORT CONTROL,CUSTOMS,BAGGAGE CLAIM,LEFT LUGGAGE,TRIANGLE WITH ROUNDED CORNERS",
    "PROHIBITED SIGN,CIRCLED INFORMATION SOURCE,BOYS SYMBOL,GIRLS~,COUCH AND LAMP",
    "SLEEPING ACCOMMODATION,SHOPPING BAGS,BELLHOP BELL,BED,PLACE OF WORSHIP,OCTAGONAL SIGN",
    "SHOPPING TROLLEY,STUPA,PAGODA,HINDU TEMPLE,HUT,ELEVATOR,,,,,,PLAYGROUND SLIDE,WHEEL",
    "RING BUOY,HAMMER AND WRENCH,SHIELD,OIL DRUM,MOTORWAY,RAILWAY TRACK,MOTOR BOAT",
    "UP-POINTING MILITARY AIRPLANE,~AIRPLANE,~SMALL AIRPLANE,SMALL AIRPLANE,NORTHEAST-POINTING~",
    "AIRPLANE DEPARTURE,~ARRIVING,,,,SATELLITE,ONCOMING FIRE ENGINE,DIESEL LOCOMOTIVE",
    "PASSENGER SHIP,SCOOTER,MOTOR SCOOTER,CANOE,SLED,FLYING SAUCER,SKATEBOARD,AUTO RICKSHAW",
    "PICKUP TRUCK,ROLLER SKATE"]⟩,
  -- Supplemental Symbols and Pictographs
  ⟨0x1f900, [
    "CIRCLED CROSS FORMEE WITH FOUR DOTS,~~~~TWO~,~~~,LEFT HALF CIRCLE WITH FOUR DOTS,~~~~THREE~",
    "~~~~TWO~,~~~~DOT,~~~,DOWNWARD FACING HOOK,~~NOTCHED HOOK,~~HOOK WITH DOT",
    "~~NOTCHED HOOK WITH DOT,PINCHED FINGERS,WHITE HEART,BROWN~,PINCHING HAND,ZIPPER-MOUTH FACE",
    "MONEY-MOUTH~,FACE WITH THERMOMETER,NERD FACE,THINKING~,FACE WITH HEAD-BANDAGE,ROBOT FACE",
    "HUGGING~,SIGN OF THE HORNS,CALL ME HAND,RAISED BACK OF HAND,LEFT-FACING FIST,RIGHT-FACING~",
    "HANDSHAKE,HAND WITH INDEX AND MIDDLE FINGERS CROSSED,I LOVE YOU HAND SIGN",
    "FACE WITH COWBOY HAT,CLOWN FACE,NAUSEATED~,ROLLING ON THE FLOOR LAUGHING,DROOLING FACE",
    "LYING~,FACE PALM,SNEEZING FACE,FACE WITH ONE EYEBROW RAISED,GRINNING FACE WITH STAR EYES",
    "~~~ONE LARGE AND ONE SMALL EYE,FACE WITH FINGER COVERING CLOSED LIPS",
    "SERIOUS FACE WITH SYMBOLS COVERING MOUTH,SMILING~~SMILING EYES AND HAND COVERING MOUTH",
    "FACE WITH OPEN MOUTH VOMITING,SHOCKED FACE WITH EXPLODING HEAD,PREGNANT WOMAN",
    "BREAST-FEEDING,PALMS UP TOGETHER,SELFIE,PRINCE,MAN IN TUXEDO,MOTHER CHRISTMAS,SHRUG",
    "PERSON DOING CARTWHEEL,JUGGLING,FENCER,MODERN PENTATHLON,WRESTLERS,WATER POLO,HANDBALL",
    "DIVING MASK,WILTED FLOWER,DRUM WITH DRUMSTICKS,CLINKING GLASSES,TUMBLER GLASS,SPOON",
    "GOAL NET,RIFLE,FIRST PLACE MEDAL,SECOND~~,THIRD~~,BOXING GLOVE,MARTIAL ARTS UNIFORM",
    "CURLING STONE,LACROSSE STICK AND BALL,SOFTBALL,FLYING DISC,CROISSANT,AVOCADO,CUCUMBER,BACON",
    "POTATO,CARROT,BAGUETTE BREAD,GREEN SALAD,SHALLOW PAN OF FOOD,STUFFED FLATBREAD,EGG",
    "GLASS OF MILK,PEANUTS,KIWIFRUIT,PANCAKES,DUMPLING,FORTUNE COOKIE,TAKEOUT BOX,CHOPSTICKS",
    "BOWL WITH SPOON,CUP~STRAW,COCONUT,BROCCOLI,PIE,PRETZEL,CUT OF MEAT,SANDWICH,CANNED FOOD",
    "LEAFY GREEN,MANGO,MOON CAKE,BAGEL,SMILING FACE WITH SMILING EYES AND THREE HEARTS,YAWNING~",
    "SMILING~WITH TEAR,FACE WITH PARTY HORN AND PARTY HAT,~~UNEVEN EYES~WAVY MOUTH",
    "OVERHEATED FACE,FREEZING~,NINJA,DISGUISED FACE,FACE HOLDING BACK TEARS,~WITH PLEADING EYES",
    "SARI,LAB COAT,GOGGLES,HIKING BOOT,FLAT SHOE,CRAB,LION FACE,SCORPION,TURKEY,UNICORN FACE",
    "EAGLE,DUCK,BAT,SHARK,OWL,FOX FACE,BUTTERFLY,DEER,GORILLA,LIZARD,RHINOCEROS,SHRIMP,SQUID",
    "GIRAFFE FACE,ZEBRA~,HEDGEHOG,SAUROPOD,T-REX,CRICKET,KANGAROO,LLAMA,PEACOCK,HIPPOPOTAMUS",
    "PARROT,RACCOON,LOBSTER,MOSQUITO,MICROBE,BADGER,SWAN,MAMMOTH,DODO,SLOTH,OTTER,ORANGUTAN",
    "SKUNK,FLAMINGO,OYSTER,BEAVER,BISON,SEAL,GUIDE DOG,PROBING CANE,EMOJI COMPONENT RED HAIR",
    "~~CURLY~,~~BALD,~~WHITE HAIR,BONE,LEG,FOOT,TOOTH,SUPERHERO,SUPERVILLAIN,SAFETY VEST",
    "EAR WITH HEARING AID,MOTORIZED WHEELCHAIR,MANUAL~,MECHANICAL ARM,~LEG,CHEESE WEDGE,CUPCAKE",
    "SALT SHAKER,BEVERAGE BOX,GARLIC,ONION,FALAFEL,WAFFLE,BUTTER,MATE DRINK,ICE CUBE,BUBBLE TEA",
    "TROLL,STANDING PERSON,KNEELING~,DEAF~,FACE WITH MONOCLE,ADULT,CHILD,OLDER ADULT",
    "BEARDED PERSON,PERSON WITH HEADSCARF,~IN STEAMY ROOM,~CLIMBING,~IN LOTUS POSITION,MAGE",
    "FAIRY,VAMPIRE,MERPERSON,ELF,GENIE,ZOMBIE,BRAIN,ORANGE HEART,BILLED CAP,SCARF,GLOVES,COAT",
    "SOCKS,RED GIFT ENVELOPE,FIRECRACKER,JIGSAW PUZZLE PIECE,TEST TUBE,PETRI DISH",
    "DNA DOUBLE HELIX,COMPASS,ABACUS,FIRE EXTINGUISHER,TOOLBOX,BRICK,MAGNET,LUGGAGE",
    "LOTION BOTTLE,SPOOL OF THREAD,BALL~YARN,SAFETY PIN,TEDDY BEAR,BROOM,BASKET,ROLL OF PAPER",
    "BAR~SOAP,SPONGE,RECEIPT,NAZAR AMULET"]⟩,
  -- Chess Symbols
  ⟨0x1fa00, [
    "NEUTRAL CHESS KING,~~QUEEN,~~ROOK,~~BISHOP,~~KNIGHT,~~PAWN",
    "WHITE~KNIGHT ROTATED FORTY-FIVE DEGREES,BLACK~~~~~,NEUTRAL~~~~~,WHITE~KING~NINETY~",
    "~~QUEEN~~~,~~ROOK~~~,~~BISHOP~~~,~~KNIGHT~~~,~~PAWN~~~,BLACK~KING~~~,~~QUEEN~~~,~~ROOK~~~",
    "~~BISHOP~~~,~~KNIGHT~~~,~~PAWN~~~,NEUTRAL~KING~~~,~~QUEEN~~~,~~ROOK~~~,~~BISHOP~~~",
    "~~KNIGHT~~~,~~PAWN~~~,WHITE~KNIGHT~ONE HUNDRED THIRTY-FIVE DEGREES,BLACK~~~~~~~",
    "NEUTRAL~~~~~~~,WHITE~TURNED KING,~~~QUEEN,~~~ROOK,~~~BISHOP,~~~KNIGHT,~~~PAWN,BLACK~~KING",
    "~~~QUEEN,~~~ROOK,~~~BISHOP,~~~KNIGHT,~~~PAWN,NEUTRAL~~KING,~~~QUEEN,~~~ROOK,~~~BISHOP",
    "~~~KNIGHT,~~~PAWN,WHITE~KNIGHT ROTATED TWO HUNDRED TWENTY-FIVE DEGREES,BLACK~~~~~~~",
    "NEUTRAL~~~~~~~,WHITE~KING~~~SEVENTY~,~~QUEEN~~~~~,~~ROOK~~~~~,~~BISHOP~~~~~,~~KNIGHT~~~~~",
    "~~PAWN~~~~~,BLACK~KING~~~~~,~~QUEEN~~~~~,~~ROOK~~~~~,~~BISHOP~~~~~,~~KNIGHT~~~~~",
    "~~PAWN~~~~~,NEUTRAL~KING~~~~~,~~QUEEN~~~~~,~~ROOK~~~~~,~~BISHOP~~~~~,~~KNIGHT~~~~~",
    "~~PAWN~~~~~,WHITE~KNIGHT~THREE~FIFTEEN~,BLACK~~~~~~~,NEUTRAL~~~~~~~,WHITE~EQUIHOPPER",
    "BLACK~~,NEUTRAL~~,WHITE~~ROTATED NINETY DEGREES,BLACK~~~~~,NEUTRAL~~~~~,WHITE~KNIGHT-QUEEN",
    "~~KNIGHT-ROOK,~~KNIGHT-BISHOP,BLACK~KNIGHT-QUEEN,~~KNIGHT-ROOK,~~KNIGHT-BISHOP"]⟩,
  ⟨0x1fa60, [
    "XIANGQI RED GENERAL,~~MANDARIN,~~ELEPHANT,~~HORSE,~~CHARIOT,~~CANNON,~~SOLDIER",
    "~BLACK GENERAL,~~MANDARIN,~~ELEPHANT,~~HORSE,~~CHARIOT,~~CANNON,~~SOLDIER"]⟩,
  -- Symbols and Pictographs Extended-A
  ⟨0x1fa70, [
    "BALLET SHOES,ONE-PIECE SWIMSUIT,BRIEFS,SHORTS,THONG SANDAL,,,,DROP OF BLOOD",
    "ADHESIVE BANDAGE,STETHOSCOPE,X-RAY,CRUTCH,,,,YO-YO,KITE,PARACHUTE,BOOMERANG,MAGIC WAND",
    "PINATA,NESTING DOLLS,,,,,,,,,,RINGED PLANET,CHAIR,RAZOR,AXE,DIYA LAMP,BANJO,MILITARY HELMET",
    "ACCORDION,LONG DRUM,COIN,CARPENTRY SAW,SCREWDRIVER,LADDER,HOOK,MIRROR,WINDOW,PLUNGER",
    "SEWING NEEDLE,KNOT,BUCKET,MOUSE TRAP,TOOTHBRUSH,HEADSTONE,PLACARD,ROCK,MIRROR BALL",
    "IDENTIFICATION CARD,LOW BATTERY,HAMSA,,,,FLY,WORM,BEETLE,COCKROACH,POTTED PLANT,WOOD",
    "FEATHER,LOTUS,CORAL,EMPTY NEST,NEST WITH EGGS,,,,,,ANATOMICAL HEART,LUNGS,PEOPLE HUGGING",
    "PREGNANT MAN,~PERSON,PERSON WITH CROWN,,,,,,,,,,,BLUEBERRIES,BELL PEPPER,OLIVE,FLATBREAD",
    "TAMALE,FONDUE,TEAPOT,POURING LIQUID,BEANS,JAR,,,,,,,MELTING FACE,SALUTING~",
    "FACE WITH OPEN EYES AND HAND OVER MOUTH,~~PEEKING EYE,~~DIAGONAL MOUTH,DOTTED LINE FACE",
    "BITING LIP,BUBBLES,,,,,,,,,HAND WITH INDEX FINGER AND THUMB CROSSED,RIGHTWARDS HAND",
    "LEFTWARDS~,PALM DOWN HAND,~UP~,INDEX POINTING AT THE VIEWER,HEART HANDS"]⟩]

end AccessScopes.Text
