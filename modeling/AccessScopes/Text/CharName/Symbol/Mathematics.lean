import AccessScopes.Text.CharName.Block

/-!
# `AccessScopes.Text.CharName.Symbol.Mathematics`: names of mathematical symbols

Mathematical symbols and letters, arrows, technical signs and geometric shapes.
-/

set_option autoImplicit false

namespace AccessScopes.Text

/-- The blocks of mathematical symbols. -/
def mathematicsBlocks : List NameBlock := [
  -- Arrows
  ⟨0x2190, [
    "LEFTWARDS ARROW,UPWARDS~,RIGHTWARDS~,DOWNWARDS~,LEFT RIGHT ARROW,UP DOWN~,NORTH WEST~",
    "~EAST~,SOUTH~~,~WEST~,LEFTWARDS ARROW WITH STROKE,RIGHTWARDS~~~,LEFTWARDS WAVE ARROW",
    "RIGHTWARDS~~,LEFTWARDS TWO HEADED ARROW,UPWARDS~~~,RIGHTWARDS~~~,DOWNWARDS~~~",
    "LEFTWARDS ARROW WITH TAIL,RIGHTWARDS~~~,LEFTWARDS~FROM BAR,UPWARDS~~~,RIGHTWARDS~~~",
    "DOWNWARDS~~~,UP DOWN ARROW WITH BASE,LEFTWARDS ARROW WITH HOOK,RIGHTWARDS~~~",
    "LEFTWARDS~~LOOP,RIGHTWARDS~~~,LEFT RIGHT WAVE ARROW,~~ARROW WITH STROKE,DOWNWARDS ZIGZAG~",
    "UPWARDS ARROW WITH TIP LEFTWARDS,~~~~RIGHTWARDS,DOWNWARDS~~~LEFTWARDS,~~~~RIGHTWARDS",
    "RIGHTWARDS~~CORNER DOWNWARDS,DOWNWARDS~~~LEFTWARDS,ANTICLOCKWISE TOP SEMICIRCLE ARROW",
    "CLOCKWISE~~~,NORTH WEST ARROW TO LONG BAR",
    "LEFTWARDS ARROW TO BAR OVER RIGHTWARDS ARROW TO BAR,ANTICLOCKWISE OPEN CIRCLE ARROW",
    "CLOCKWISE~~~,LEFTWARDS HARPOON WITH BARB UPWARDS,~~~~DOWNWARDS,UPWARDS~~~RIGHTWARDS",
    "~~~~LEFTWARDS,RIGHTWARDS~~~UPWARDS,~~~~DOWNWARDS,DOWNWARDS~~~RIGHTWARDS,~~~~LEFTWARDS",
    "RIGHTWARDS ARROW OVER LEFTWARDS ARROW,UPWARDS~LEFTWARDS OF DOWNWARDS ARROW",
    "LEFTWARDS~OVER RIGHTWARDS ARROW,~PAIRED ARROWS,UPWARDS~~,RIGHTWARDS~~,DOWNWARDS~~",
    "LEFTWARDS HARPOON OVER RIGHTWARDS HARPOON,RIGHTWARDS~~LEFTWARDS~",
    "LEFTWARDS DOUBLE ARROW WITH STROKE,LEFT RIGHT DOUBLE ARROW WITH STROKE",
    "RIGHTWARDS DOUBLE ARROW WITH STROKE,LEFTWARDS~~,UPWARDS~~,RIGHTWARDS~~,DOWNWARDS~~",
    "LEFT RIGHT DOUBLE ARROW,UP DOWN~~,NORTH WEST~~,~EAST~~,SOUTH~~~,~WEST~~",
    "LEFTWARDS TRIPLE ARROW,RIGHTWARDS~~,LEFTWARDS SQUIGGLE~,RIGHTWARDS~~",
    "UPWARDS ARROW WITH DOUBLE STROKE,DOWNWARDS~~~~,LEFTWARDS DASHED ARROW,UPWARDS~~",
    "RIGHTWARDS~~,DOWNWARDS~~,LEFTWARDS ARROW TO BAR,RIGHTWARDS~~~,LEFTWARDS WHITE ARROW",
    "UPWARDS~~,RIGHTWARDS~~,DOWNWARDS~~,UPWARDS~~FROM BAR,~~~ON PEDESTAL",
    "~~~~~WITH HORIZONTAL BAR,~~~~~~VERTICAL~,~~DOUBLE ARROW,~~~~ON PEDESTAL",
    "RIGHTWARDS~ARROW FROM WALL,NORTH WEST~TO CORNER,SOUTH EAST~~~,UP DOWN WHITE ARROW",
    "RIGHT ARROW WITH SMALL CIRCLE,DOWNWARDS~LEFTWARDS OF UPWARDS ARROW,THREE RIGHTWARDS ARROWS",
    "LEFTWARDS ARROW WITH VERTICAL STROKE,RIGHTWARDS~~~~,LEFT RIGHT ARROW WITH VERTICAL STROKE",
    "LEFTWARDS ARROW WITH DOUBLE~~,RIGHTWARDS~~~~~,LEFT RIGHT ARROW WITH DOUBLE VERTICAL STROKE",
    "LEFTWARDS OPEN-HEADED~,RIGHTWARDS~~,LEFT RIGHT OPEN-HEADED ARROW"]⟩,
  -- Mathematical Operators
  ⟨0x2200, [
    "FOR ALL,COMPLEMENT,PARTIAL DIFFERENTIAL,THERE EXISTS,~DOES NOT EXIST,EMPTY SET,INCREMENT",
    "NABLA,ELEMENT OF,NOT AN ELEMENT OF,SMALL ELEMENT OF,CONTAINS AS MEMBER",
    "DOES NOT CONTAIN AS MEMBER,SMALL CONTAINS AS MEMBER,END OF PROOF,N-ARY PRODUCT,~COPRODUCT",
    "~SUMMATION,MINUS SIGN,MINUS-OR-PLUS~,DOT PLUS,DIVISION SLASH,SET MINUS,ASTERISK OPERATOR",
    "RING~,BULLET~,SQUARE ROOT,CUBE~,FOURTH~,PROPORTIONAL TO,INFINITY,RIGHT ANGLE,ANGLE",
    "MEASURED ANGLE,SPHERICAL~,DIVIDES,DOES NOT DIVIDE,PARALLEL TO,NOT PARALLEL TO,LOGICAL AND",
    "~OR,INTERSECTION,UNION,INTEGRAL,DOUBLE INTEGRAL,TRIPLE~,CONTOUR~,SURFACE~,VOLUME~",
    "CLOCKWISE~,~CONTOUR INTEGRAL,ANTICLOCKWISE~~,THEREFORE,BECAUSE,RATIO,PROPORTION,DOT MINUS",
    "EXCESS,GEOMETRIC PROPORTION,HOMOTHETIC,TILDE OPERATOR,REVERSED TILDE,INVERTED LAZY S",
    "SINE WAVE,WREATH PRODUCT,NOT TILDE,MINUS~,ASYMPTOTICALLY EQUAL TO",
    "NOT ASYMPTOTICALLY EQUAL TO,APPROXIMATELY EQUAL TO,~BUT NOT ACTUALLY EQUAL TO",
    "NEITHER APPROXIMATELY NOR~~~,ALMOST EQUAL TO,NOT ALMOST EQUAL TO,ALMOST EQUAL OR EQUAL TO",
    "TRIPLE TILDE,ALL EQUAL TO,EQUIVALENT TO,GEOMETRICALLY EQUIVALENT TO,DIFFERENCE BETWEEN",
    "APPROACHES THE LIMIT,GEOMETRICALLY EQUAL TO,APPROXIMATELY~~OR THE IMAGE OF",
    "IMAGE OF OR APPROXIMATELY EQUAL TO,COLON EQUALS,EQUALS COLON,RING IN EQUAL TO,~EQUAL TO",
    "CORRESPONDS TO,ESTIMATES,EQUIANGULAR TO,STAR EQUALS,DELTA EQUAL TO,EQUAL TO BY DEFINITION",
    "MEASURED BY,QUESTIONED EQUAL TO,NOT~~,IDENTICAL TO,NOT IDENTICAL TO,STRICTLY EQUIVALENT~",
    "LESS-THAN OR EQUAL TO,GREATER-THAN~~~,LESS-THAN OVER~~,GREATER-THAN~~~",
    "LESS-THAN BUT NOT EQUAL TO,GREATER-THAN~~~~,MUCH LESS-THAN,~GREATER-THAN,BETWEEN",
    "NOT EQUIVALENT TO,~LESS-THAN,~GREATER-THAN,NEITHER LESS-THAN NOR EQUAL TO,~GREATER-THAN~~~",
    "LESS-THAN OR EQUIVALENT TO,GREATER-THAN~~~,NEITHER LESS-THAN NOR EQUIVALENT TO",
    "~GREATER-THAN~~~,LESS-THAN OR GREATER-THAN,GREATER-THAN~LESS-THAN",
    "NEITHER LESS-THAN NOR GREATER-THAN,~GREATER-THAN~LESS-THAN,PRECEDES,SUCCEEDS",
    "PRECEDES OR EQUAL TO,SUCCEEDS~~~,PRECEDES~EQUIVALENT~,SUCCEEDS~~~,DOES NOT PRECEDE",
    "~~SUCCEED,SUBSET OF,SUPERSET~,NOT A SUBSET OF,~~SUPERSET~,SUBSET OF OR EQUAL TO",
    "SUPERSET~~~~,NEITHER A SUBSET OF NOR EQUAL TO,~~SUPERSET~~~~,SUBSET OF WITH NOT EQUAL TO",
    "SUPERSET~~~~~,MULTISET,~MULTIPLICATION,~UNION,SQUARE IMAGE OF,~ORIGINAL~,~IMAGE~OR EQUAL TO",
    "~ORIGINAL~~~~,~CAP,~CUP,CIRCLED PLUS,~MINUS,~TIMES,~DIVISION SLASH,~DOT OPERATOR,~RING~",
    "~ASTERISK~,~EQUALS,~DASH,SQUARED PLUS,~MINUS,~TIMES,~DOT OPERATOR,RIGHT TACK,LEFT~,DOWN~",
    "UP~,ASSERTION,MODELS,TRUE,FORCES,TRIPLE VERTICAL BAR RIGHT TURNSTILE",
    "DOUBLE~~DOUBLE RIGHT TURNSTILE,DOES NOT PROVE,NOT TRUE,DOES NOT FORCE",
    "NEGATED DOUBLE VERTICAL BAR DOUBLE RIGHT TURNSTILE,PRECEDES UNDER RELATION,SUCCEEDS~~",
    "NORMAL SUBGROUP OF,CONTAINS AS NORMAL SUBGROUP,NORMAL SUBGROUP OF OR EQUAL TO",
    "CONTAINS AS NORMAL SUBGROUP OR EQUAL TO,ORIGINAL OF,IMAGE~,MULTIMAP",
    "HERMITIAN CONJUGATE MATRIX,INTERCALATE,XOR,NAND,NOR,RIGHT ANGLE WITH ARC,~TRIANGLE",
    "N-ARY LOGICAL AND,~~OR,~INTERSECTION,~UNION,DIAMOND OPERATOR,DOT~,STAR~,DIVISION TIMES",
    "BOWTIE,LEFT NORMAL FACTOR SEMIDIRECT PRODUCT,RIGHT~~~~,LEFT SEMIDIRECT PRODUCT,RIGHT~~",
    "REVERSED TILDE EQUALS,CURLY LOGICAL OR,~~AND,DOUBLE SUBSET,~SUPERSET,~INTERSECTION,~UNION",
    "PITCHFORK,EQUAL AND PARALLEL TO,LESS-THAN WITH DOT,GREATER-THAN~~,VERY MUCH LESS-THAN",
    "~~GREATER-THAN,LESS-THAN EQUAL TO OR GREATER-THAN,GREATER-THAN~~~LESS-THAN",
    "EQUAL TO OR LESS-THAN,~~~GREATER-THAN,~~~PRECEDES,~~~SUCCEEDS,DOES NOT PRECEDE OR EQUAL",
    "~~SUCCEED~~,NOT SQUARE IMAGE OF OR EQUAL TO,~~ORIGINAL~~~~,SQUARE IMAGE OF OR NOT~~",
    "~ORIGINAL~~~~~,LESS-THAN BUT NOT EQUIVALENT TO,GREATER-THAN~~~~,PRECEDES~~~~,SUCCEEDS~~~~",
    "NOT NORMAL SUBGROUP OF,DOES NOT CONTAIN AS NORMAL SUBGROUP",
    "NOT NORMAL SUBGROUP OF OR EQUAL TO,DOES NOT CONTAIN AS NORMAL SUBGROUP OR EQUAL",
    "VERTICAL ELLIPSIS,MIDLINE HORIZONTAL ELLIPSIS,UP RIGHT DIAGONAL ELLIPSIS,DOWN~~~",
    "ELEMENT OF WITH LONG HORIZONTAL STROKE,~~~VERTICAL BAR AT END OF HORIZONTAL STROKE",
    "SMALL ELEMENT OF WITH VERTICAL BAR AT END OF HORIZONTAL STROKE,ELEMENT OF WITH DOT ABOVE",
    "~~~OVERBAR,SMALL ELEMENT OF WITH OVERBAR,ELEMENT OF WITH UNDERBAR,~~~TWO HORIZONTAL STROKES",
    "CONTAINS WITH LONG HORIZONTAL STROKE,~~VERTICAL BAR AT END OF HORIZONTAL STROKE",
    "SMALL CONTAINS WITH VERTICAL BAR AT END OF HORIZONTAL STROKE,CONTAINS WITH OVERBAR",
    "SMALL CONTAINS WITH OVERBAR,Z NOTATION BAG MEMBERSHIP"]⟩,
  -- Miscellaneous Technical
  ⟨0x2300, [
    "DIAMETER SIGN,ELECTRIC ARROW,HOUSE,UP ARROWHEAD,DOWN~,PROJECTIVE,PERSPECTIVE,WAVY LINE",
    "LEFT CEILING,RIGHT~,LEFT FLOOR,RIGHT~,BOTTOM RIGHT CROP,~LEFT~,TOP RIGHT~,~LEFT~",
    "REVERSED NOT SIGN,SQUARE LOZENGE,ARC,SEGMENT,SECTOR,TELEPHONE RECORDER,POSITION INDICATOR",
    "VIEWDATA SQUARE,PLACE OF INTEREST SIGN,TURNED NOT SIGN,WATCH,HOURGLASS,TOP LEFT CORNER",
    "~RIGHT~,BOTTOM LEFT~,~RIGHT~,TOP HALF INTEGRAL,BOTTOM~~,FROWN,SMILE",
    "UP ARROWHEAD BETWEEN TWO HORIZONTAL BARS,OPTION KEY,ERASE TO THE RIGHT,X IN A RECTANGLE BOX",
    "KEYBOARD,LEFT-POINTING ANGLE BRACKET,RIGHT-POINTING~~,ERASE TO THE LEFT,BENZENE RING",
    "CYLINDRICITY,ALL AROUND-PROFILE,SYMMETRY,TOTAL RUNOUT,DIMENSION ORIGIN,CONICAL TAPER,SLOPE",
    "COUNTERBORE,COUNTERSINK,APL FUNCTIONAL SYMBOL I-BEAM,~~~SQUISH QUAD,~~~QUAD EQUAL",
    "~~~~DIVIDE,~~~~DIAMOND,~~~~JOT,~~~~CIRCLE,~~~CIRCLE STILE,~~~~JOT,~~~SLASH BAR",
    "~~~BACKSLASH~,~~~QUAD SLASH,~~~~BACKSLASH,~~~~LESS-THAN,~~~~GREATER-THAN,~~~LEFTWARDS VANE",
    "~~~RIGHTWARDS~,~~~QUAD LEFTWARDS ARROW,~~~~RIGHTWARDS~,~~~CIRCLE BACKSLASH",
    "~~~DOWN TACK UNDERBAR,~~~DELTA STILE,~~~QUAD DOWN CARET,~~~~DELTA,~~~DOWN TACK JOT",
    "~~~UPWARDS VANE,~~~QUAD UPWARDS ARROW,~~~UP TACK OVERBAR,~~~DEL STILE,~~~QUAD UP CARET",
    "~~~~DEL,~~~UP TACK JOT,~~~DOWNWARDS VANE,~~~QUAD DOWNWARDS ARROW,~~~QUOTE UNDERBAR",
    "~~~DELTA~,~~~DIAMOND~,~~~JOT~,~~~CIRCLE~,~~~UP SHOE JOT,~~~QUOTE QUAD,~~~CIRCLE STAR",
    "~~~QUAD COLON,~~~UP TACK DIAERESIS,~~~DEL DIAERESIS,~~~STAR~,~~~JOT~,~~~CIRCLE~",
    "~~~DOWN SHOE STILE,~~~LEFT~~,~~~TILDE DIAERESIS,~~~GREATER-THAN~,~~~COMMA BAR,~~~DEL TILDE",
    "~~~ZILDE,~~~STILE TILDE,~~~SEMICOLON UNDERBAR,~~~QUAD NOT EQUAL,~~~~QUESTION",
    "~~~DOWN CARET TILDE,~~~UP~~,~~~IOTA,~~~RHO,~~~OMEGA,~~~ALPHA UNDERBAR,~~~EPSILON~,~~~IOTA~",
    "~~~OMEGA~,~~~ALPHA,NOT CHECK MARK,RIGHT ANGLE WITH DOWNWARDS ZIGZAG ARROW",
    "SHOULDERED OPEN BOX,BELL SYMBOL,VERTICAL LINE WITH MIDDLE DOT,INSERTION SYMBOL",
    "CONTINUOUS UNDERLINE SYMBOL,DISCONTINUOUS~~,EMPHASIS SYMBOL,COMPOSITION~",
    "WHITE SQUARE WITH CENTRE VERTICAL LINE,ENTER SYMBOL,ALTERNATIVE KEY SYMBOL,HELM SYMBOL",
    "CIRCLED HORIZONTAL BAR WITH NOTCH,~TRIANGLE DOWN,BROKEN CIRCLE WITH NORTHWEST ARROW",
    "UNDO SYMBOL,MONOSTABLE~,HYSTERESIS~,OPEN-CIRCUIT-OUTPUT H-TYPE SYMBOL,~L-TYPE~",
    "PASSIVE-PULL-DOWN-OUTPUT SYMBOL,PASSIVE-PULL-UP-OUTPUT~,DIRECT CURRENT SYMBOL FORM TWO",
    "SOFTWARE-FUNCTION SYMBOL,APL FUNCTIONAL SYMBOL QUAD,DECIMAL SEPARATOR KEY SYMBOL",
    "PREVIOUS PAGE,NEXT~,PRINT SCREEN SYMBOL,CLEAR~~,LEFT PARENTHESIS UPPER HOOK,~~EXTENSION",
    "~~LOWER HOOK,RIGHT~UPPER~,~~EXTENSION,~~LOWER HOOK,LEFT SQUARE BRACKET UPPER CORNER",
    "~~~EXTENSION,~~~LOWER CORNER,RIGHT~~UPPER~,~~~EXTENSION,~~~LOWER CORNER",
    "LEFT CURLY~UPPER HOOK,~~~MIDDLE PIECE,~~~LOWER HOOK,CURLY BRACKET EXTENSION",
    "RIGHT CURLY BRACKET UPPER HOOK,~~~MIDDLE PIECE,~~~LOWER HOOK,INTEGRAL EXTENSION",
    "HORIZONTAL LINE EXTENSION,UPPER LEFT OR LOWER RIGHT CURLY BRACKET SECTION,~RIGHT~~LEFT~~~",
    "SUMMATION TOP,~BOTTOM,TOP SQUARE BRACKET,BOTTOM~~,~~~OVER TOP SQUARE BRACKET",
    "RADICAL SYMBOL BOTTOM,LEFT VERTICAL BOX LINE,RIGHT~~~,HORIZONTAL SCAN LINE-1,~~LINE-3",
    "~~LINE-7,~~LINE-9,DENTISTRY SYMBOL LIGHT VERTICAL AND TOP RIGHT,~~~~~BOTTOM~",
    "~~~~WITH CIRCLE,~~~DOWN AND HORIZONTAL WITH CIRCLE,~~~UP~~~~,~~~VERTICAL WITH TRIANGLE",
    "~~~DOWN AND HORIZONTAL WITH TRIANGLE,~~~UP~~~~,~~~VERTICAL~WAVE",
    "~~~DOWN~HORIZONTAL WITH WAVE,~~~UP~~~~,~~~DOWN~~,~~~UP~~,~~~VERTICAL~TOP LEFT,~~~~~BOTTOM~",
    "SQUARE FOOT,RETURN SYMBOL,EJECT~,VERTICAL LINE EXTENSION,METRICAL BREVE,~LONG OVER SHORT",
    "~SHORT~LONG,~LONG~TWO SHORTS,~TWO SHORTS OVER LONG,~~~JOINED,~TRISEME,~TETRASEME,~PENTASEME",
    "EARTH GROUND,FUSE,TOP PARENTHESIS,BOTTOM~,TOP CURLY BRACKET,BOTTOM~~",
    "TOP TORTOISE SHELL BRACKET,BOTTOM~~~,WHITE TRAPEZIUM,BENZENE RING WITH CIRCLE,STRAIGHTNESS",
    "FLATNESS,AC CURRENT,ELECTRICAL INTERSECTION,DECIMAL EXPONENT SYMBOL",
    "BLACK RIGHT-POINTING DOUBLE TRIANGLE,~LEFT-POINTING~~,~UP-POINTING~~,~DOWN-POINTING~~",
    "~RIGHT-POINTING~~WITH VERTICAL BAR,~LEFT-POINTING~~~~~",
    "~RIGHT-POINTING TRIANGLE WITH DOUBLE~~,ALARM CLOCK,STOPWATCH,TIMER CLOCK",
    "HOURGLASS WITH FLOWING SAND,BLACK MEDIUM LEFT-POINTING TRIANGLE,~~RIGHT-POINTING~",
    "~~UP-POINTING~,~~DOWN-POINTING~,DOUBLE VERTICAL BAR,BLACK SQUARE FOR STOP,~CIRCLE~RECORD",
    "POWER SYMBOL,~ON-OFF SYMBOL,~ON~,~SLEEP~,OBSERVER EYE~"]⟩,
  -- Box Drawing
  ⟨0x2500, [
    "BOX DRAWINGS LIGHT HORIZONTAL,~~HEAVY~,~~LIGHT VERTICAL,~~HEAVY~",
    "~~LIGHT TRIPLE DASH HORIZONTAL,~~HEAVY~~~,~~LIGHT~~VERTICAL,~~HEAVY~~~",
    "~~LIGHT QUADRUPLE~HORIZONTAL,~~HEAVY~~~,~~LIGHT~~VERTICAL,~~HEAVY~~~,~~LIGHT DOWN AND RIGHT",
    "~~DOWN LIGHT~~HEAVY,~~~HEAVY~~LIGHT,~~HEAVY DOWN~~,~~LIGHT~~LEFT,~~DOWN LIGHT~~HEAVY",
    "~~~HEAVY~~LIGHT,~~HEAVY DOWN~~,~~LIGHT UP~RIGHT,~~UP LIGHT~~HEAVY,~~~HEAVY~~LIGHT",
    "~~HEAVY UP~~,~~LIGHT~~LEFT,~~UP LIGHT~~HEAVY,~~~HEAVY~~LIGHT,~~HEAVY UP~~",
    "~~LIGHT VERTICAL~RIGHT,~~VERTICAL LIGHT~~HEAVY,~~UP HEAVY~~DOWN LIGHT,~~DOWN~~~UP~",
    "~~VERTICAL~~~LIGHT,~~DOWN LIGHT~~UP HEAVY,~~UP~~~DOWN~,~~HEAVY VERTICAL~~,~~LIGHT~~LEFT",
    "~~VERTICAL LIGHT~~HEAVY,~~UP HEAVY~~DOWN LIGHT,~~DOWN~~~UP~,~~VERTICAL~~~LIGHT",
    "~~DOWN LIGHT~~UP HEAVY,~~UP~~~DOWN~,~~HEAVY VERTICAL~~,~~LIGHT DOWN~HORIZONTAL",
    "~~LEFT HEAVY~RIGHT DOWN LIGHT,~~RIGHT~~LEFT~~,~~DOWN LIGHT~HORIZONTAL HEAVY,~~~HEAVY~~LIGHT",
    "~~RIGHT LIGHT~LEFT DOWN HEAVY,~~LEFT~~RIGHT~~,~~HEAVY DOWN~HORIZONTAL,~~LIGHT UP~~",
    "~~LEFT HEAVY~RIGHT UP LIGHT,~~RIGHT~~LEFT~~,~~UP LIGHT~HORIZONTAL HEAVY,~~~HEAVY~~LIGHT",
    "~~RIGHT LIGHT~LEFT UP HEAVY,~~LEFT~~RIGHT~~,~~HEAVY UP~HORIZONTAL,~~LIGHT VERTICAL~~",
    "~~LEFT HEAVY~RIGHT VERTICAL LIGHT,~~RIGHT~~LEFT~~,~~VERTICAL LIGHT~HORIZONTAL HEAVY",
    "~~UP HEAVY~DOWN HORIZONTAL LIGHT,~~DOWN~~UP~~,~~VERTICAL~~HORIZONTAL LIGHT",
    "~~LEFT UP HEAVY AND RIGHT DOWN LIGHT,~~RIGHT~~~LEFT~~,~~LEFT DOWN~~RIGHT UP~",
    "~~RIGHT~~~LEFT~~,~~DOWN LIGHT AND UP HORIZONTAL HEAVY,~~UP~~DOWN~~,~~RIGHT~~LEFT VERTICAL~",
    "~~LEFT~~RIGHT~~,~~HEAVY VERTICAL~HORIZONTAL,~~LIGHT DOUBLE DASH~,~~HEAVY~~~",
    "~~LIGHT~~VERTICAL,~~HEAVY~~~,~~DOUBLE HORIZONTAL,~~~VERTICAL,~~DOWN SINGLE AND RIGHT DOUBLE",
    "~~~DOUBLE~~SINGLE,~~DOUBLE DOWN~~,~~DOWN SINGLE~LEFT DOUBLE,~~~DOUBLE~~SINGLE",
    "~~DOUBLE DOWN~~,~~UP SINGLE~RIGHT DOUBLE,~~~DOUBLE~~SINGLE,~~DOUBLE UP~~",
    "~~UP SINGLE~LEFT DOUBLE,~~~DOUBLE~~SINGLE,~~DOUBLE UP~~,~~VERTICAL SINGLE~RIGHT DOUBLE",
    "~~~DOUBLE~~SINGLE,~~DOUBLE VERTICAL~~,~~VERTICAL SINGLE~LEFT DOUBLE,~~~DOUBLE~~SINGLE",
    "~~DOUBLE VERTICAL~~,~~DOWN SINGLE~HORIZONTAL DOUBLE,~~~DOUBLE~~SINGLE,~~DOUBLE DOWN~~",
    "~~UP SINGLE~~DOUBLE,~~~DOUBLE~~SINGLE,~~DOUBLE UP~~,~~VERTICAL SINGLE~~DOUBLE",
    "~~~DOUBLE~~SINGLE,~~DOUBLE VERTICAL~~,~~LIGHT ARC DOWN AND RIGHT,~~~~~~LEFT,~~~~UP~~",
    "~~~~~~RIGHT,~~~DIAGONAL UPPER RIGHT TO LOWER LEFT,~~~~~LEFT~~RIGHT,~~~~CROSS,~~~LEFT,~~~UP",
    "~~~RIGHT,~~~DOWN,~~HEAVY LEFT,~~~UP,~~~RIGHT,~~~DOWN,~~LIGHT LEFT AND HEAVY RIGHT",
    "~~~UP~~DOWN,~~HEAVY LEFT~LIGHT RIGHT,~~~UP~~DOWN"]⟩,
  -- Block Elements
  ⟨0x2580, [
    "UPPER HALF BLOCK,LOWER ONE EIGHTH BLOCK,~~QUARTER~,~THREE EIGHTHS~,~HALF BLOCK",
    "~FIVE EIGHTHS BLOCK,~THREE QUARTERS~,~SEVEN EIGHTHS~,FULL BLOCK,LEFT SEVEN EIGHTHS BLOCK",
    "~THREE QUARTERS~,~FIVE EIGHTHS~,~HALF BLOCK,~THREE EIGHTHS BLOCK,~ONE QUARTER~,~~EIGHTH~",
    "RIGHT HALF BLOCK,LIGHT SHADE,MEDIUM~,DARK~,UPPER ONE EIGHTH BLOCK,RIGHT~~~",
    "QUADRANT LOWER LEFT,~~RIGHT,~UPPER LEFT,~~~AND LOWER LEFT AND LOWER RIGHT,~~~~~RIGHT",
    "~~~~UPPER~AND LOWER LEFT,~~~~~~~~RIGHT,~~RIGHT,~~~AND LOWER LEFT,~~~~~~AND LOWER RIGHT"]⟩,
  -- Geometric Shapes
  ⟨0x25a0, [
    "BLACK SQUARE,WHITE~,~~WITH ROUNDED CORNERS,~~CONTAINING BLACK SMALL SQUARE",
    "SQUARE WITH HORIZONTAL FILL,~~VERTICAL~,~~ORTHOGONAL CROSSHATCH FILL",
    "~~UPPER LEFT TO LOWER RIGHT FILL,~~~RIGHT~~LEFT~,~~DIAGONAL CROSSHATCH FILL",
    "BLACK SMALL SQUARE,WHITE~~,BLACK RECTANGLE,WHITE~,BLACK VERTICAL RECTANGLE,WHITE~~",
    "BLACK PARALLELOGRAM,WHITE~,BLACK UP-POINTING TRIANGLE,WHITE~~,BLACK~SMALL TRIANGLE,WHITE~~~",
    "BLACK RIGHT-POINTING TRIANGLE,WHITE~~,BLACK~SMALL TRIANGLE,WHITE~~~,BLACK~POINTER,WHITE~~",
    "BLACK DOWN-POINTING TRIANGLE,WHITE~~,BLACK~SMALL TRIANGLE,WHITE~~~",
    "BLACK LEFT-POINTING TRIANGLE,WHITE~~,BLACK~SMALL TRIANGLE,WHITE~~~,BLACK~POINTER,WHITE~~",
    "BLACK DIAMOND,WHITE~,~~CONTAINING BLACK SMALL DIAMOND,FISHEYE,LOZENGE,WHITE CIRCLE,DOTTED~",
    "CIRCLE WITH VERTICAL FILL,BULLSEYE,BLACK CIRCLE,CIRCLE WITH LEFT HALF BLACK,~~RIGHT~~",
    "~~LOWER~~,~~UPPER~~,~~~RIGHT QUADRANT BLACK,~~ALL BUT UPPER LEFT QUADRANT BLACK",
    "LEFT HALF BLACK CIRCLE,RIGHT~~~,INVERSE BULLET,~WHITE CIRCLE",
    "UPPER HALF INVERSE WHITE CIRCLE,LOWER~~~~,UPPER LEFT QUADRANT CIRCULAR ARC,~RIGHT~~~",
    "LOWER~~~~,~LEFT~~~,UPPER HALF CIRCLE,LOWER~~,BLACK LOWER RIGHT TRIANGLE,~~LEFT~,~UPPER~~",
    "~~RIGHT~,WHITE BULLET,SQUARE WITH LEFT HALF BLACK,~~RIGHT~~",
    "~~UPPER LEFT DIAGONAL HALF BLACK,~~LOWER RIGHT~~~,WHITE SQUARE WITH VERTICAL BISECTING LINE",
    "~UP-POINTING TRIANGLE WITH DOT,UP-POINTING TRIANGLE WITH LEFT HALF BLACK,~~~RIGHT~~",
    "LARGE CIRCLE,WHITE SQUARE WITH UPPER LEFT QUADRANT,~~~LOWER~~,~~~~RIGHT~,~~~UPPER~~",
    "~CIRCLE~~LEFT~,~~~LOWER~~,~~~~RIGHT~,~~~UPPER~~,UPPER LEFT TRIANGLE,~RIGHT~,LOWER LEFT~",
    "WHITE MEDIUM SQUARE,BLACK~~,WHITE~SMALL SQUARE,BLACK~~~,LOWER RIGHT TRIANGLE"]⟩,
  -- Miscellaneous Mathematical Symbols-A
  ⟨0x27c0, [
    "THREE DIMENSIONAL ANGLE,WHITE TRIANGLE CONTAINING SMALL WHITE TRIANGLE,PERPENDICULAR",
    "OPEN SUBSET,~SUPERSET,LEFT S-SHAPED BAG DELIMITER,RIGHT~~~,OR WITH DOT INSIDE",
    "REVERSE SOLIDUS PRECEDING SUBSET,SUPERSET PRECEDING SOLIDUS",
    "VERTICAL BAR WITH HORIZONTAL STROKE,MATHEMATICAL RISING DIAGONAL,LONG DIVISION",
    "MATHEMATICAL FALLING DIAGONAL,SQUARED LOGICAL AND,~~OR,WHITE DIAMOND WITH CENTRED DOT",
    "AND WITH DOT,ELEMENT OF OPENING UPWARDS,LOWER RIGHT CORNER WITH DOT,UPPER LEFT~~~",
    "LEFT OUTER JOIN,RIGHT~~,FULL~~,LARGE UP TACK,~DOWN~,LEFT AND RIGHT DOUBLE TURNSTILE,~~~TACK",
    "~MULTIMAP,LONG RIGHT TACK,~LEFT~,UP TACK WITH CIRCLE ABOVE",
    "LOZENGE DIVIDED BY HORIZONTAL RULE,WHITE CONCAVE-SIDED DIAMOND,~~~WITH LEFTWARDS TICK",
    "~~~~RIGHTWARDS~,~SQUARE WITH LEFTWARDS TICK,~~~RIGHTWARDS~",
    "MATHEMATICAL LEFT WHITE SQUARE BRACKET,~RIGHT~~~,~LEFT ANGLE BRACKET,~RIGHT~~",
    "~LEFT DOUBLE ANGLE BRACKET,~RIGHT~~~,~LEFT WHITE TORTOISE SHELL BRACKET,~RIGHT~~~~",
    "~LEFT FLATTENED PARENTHESIS,~RIGHT~~"]⟩,
  -- Supplemental Arrows-A
  ⟨0x27f0, [
    "UPWARDS QUADRUPLE ARROW,DOWNWARDS~~,ANTICLOCKWISE GAPPED CIRCLE ARROW,CLOCKWISE~~~",
    "RIGHT ARROW WITH CIRCLED PLUS,LONG LEFTWARDS ARROW,~RIGHTWARDS~,~LEFT RIGHT ARROW",
    "~LEFTWARDS DOUBLE~,~RIGHTWARDS~~,~LEFT RIGHT DOUBLE ARROW,~LEFTWARDS ARROW FROM BAR",
    "~RIGHTWARDS~~~,~LEFTWARDS DOUBLE ARROW FROM BAR,~RIGHTWARDS~~~~,~~SQUIGGLE~"]⟩,
  -- Supplemental Arrows-B
  ⟨0x2900, [
    "RIGHTWARDS TWO-HEADED ARROW WITH VERTICAL STROKE,~~~~DOUBLE VERTICAL STROKE",
    "LEFTWARDS DOUBLE~~VERTICAL STROKE,RIGHTWARDS~~~~~",
    "LEFT RIGHT DOUBLE ARROW WITH VERTICAL STROKE,RIGHTWARDS TWO-HEADED ARROW FROM BAR",
    "LEFTWARDS DOUBLE~~~,RIGHTWARDS~~~~,DOWNWARDS ARROW WITH HORIZONTAL STROKE,UPWARDS~~~~",
    "~TRIPLE ARROW,DOWNWARDS~~,LEFTWARDS DOUBLE DASH ARROW,RIGHTWARDS~~~,LEFTWARDS TRIPLE~~",
    "RIGHTWARDS~~~,~TWO-HEADED TRIPLE DASH ARROW,~ARROW WITH DOTTED STEM,UPWARDS~TO BAR",
    "DOWNWARDS~~~,RIGHTWARDS~WITH TAIL WITH VERTICAL STROKE,~~~~~DOUBLE VERTICAL STROKE",
    "~TWO-HEADED ARROW WITH TAIL,~~~~~WITH VERTICAL STROKE,~~~~~~DOUBLE VERTICAL STROKE",
    "LEFTWARDS ARROW-TAIL,RIGHTWARDS~,LEFTWARDS DOUBLE ARROW-TAIL,RIGHTWARDS~~",
    "LEFTWARDS ARROW TO BLACK DIAMOND,RIGHTWARDS~~~~,LEFTWARDS~FROM BAR TO BLACK DIAMOND",
    "RIGHTWARDS~~~~~~,NORTH WEST AND SOUTH EAST ARROW,~EAST~~WEST~,~WEST ARROW WITH HOOK",
    "~EAST~~~,SOUTH~~~~,~WEST~~~,NORTH~~AND NORTH EAST ARROW,~EAST~~SOUTH~~,SOUTH~~~~WEST~",
    "~WEST~~NORTH~~,RISING DIAGONAL CROSSING FALLING DIAGONAL,FALLING~~RISING~",
    "SOUTH EAST ARROW CROSSING NORTH EAST ARROW,NORTH~~~SOUTH~~",
    "FALLING DIAGONAL CROSSING NORTH EAST ARROW,RISING~~SOUTH~~",
    "NORTH EAST ARROW CROSSING NORTH WEST ARROW,~WEST~~~EAST~,WAVE ARROW POINTING DIRECTLY RIGHT",
    "ARROW POINTING RIGHTWARDS THEN CURVING UPWARDS,~~~~~DOWNWARDS,~~DOWNWARDS~~LEFTWARDS",
    "~~~~~RIGHTWARDS,RIGHT-SIDE ARC CLOCKWISE ARROW,LEFT-SIDE~ANTICLOCKWISE~,TOP~~~,BOTTOM~~~",
    "TOP~CLOCKWISE~WITH MINUS,~~ANTICLOCKWISE~~PLUS,LOWER RIGHT SEMICIRCULAR CLOCKWISE ARROW",
    "~LEFT~ANTICLOCKWISE~,ANTICLOCKWISE CLOSED CIRCLE ARROW,CLOCKWISE~~~",
    "RIGHTWARDS ARROW ABOVE SHORT LEFTWARDS ARROW,LEFTWARDS~~~RIGHTWARDS~",
    "SHORT RIGHTWARDS ARROW ABOVE LEFTWARDS~,RIGHTWARDS ARROW WITH PLUS BELOW,LEFTWARDS~~~~",
    "RIGHTWARDS~THROUGH X,LEFT RIGHT ARROW THROUGH SMALL CIRCLE,UPWARDS TWO-HEADED~FROM~~",
    "LEFT BARB UP RIGHT BARB DOWN HARPOON,~~DOWN~~UP~,UP~RIGHT DOWN~LEFT~,~~LEFT~~RIGHT~",
    "LEFT~UP RIGHT~UP~,UP~RIGHT DOWN~RIGHT~,LEFT~DOWN RIGHT~DOWN~,UP~LEFT DOWN~LEFT~",
    "LEFTWARDS HARPOON WITH BARB UP TO BAR,RIGHTWARDS~~~~~~,UPWARDS~~~RIGHT~~,DOWNWARDS~~~~~~",
    "LEFTWARDS~~~DOWN~~,RIGHTWARDS~~~~~~,UPWARDS~~~LEFT~~,DOWNWARDS~~~~~~,LEFTWARDS~~~UP FROM~",
    "RIGHTWARDS~~~~~~,UPWARDS~~~RIGHT~~,DOWNWARDS~~~~~~,LEFTWARDS~~~DOWN~~,RIGHTWARDS~~~~~~",
    "UPWARDS~~~LEFT~~,DOWNWARDS~~~~~~,LEFTWARDS~~~UP ABOVE LEFTWARDS HARPOON WITH BARB DOWN",
    "UPWARDS~~~LEFT BESIDE UPWARDS~~~RIGHT,RIGHTWARDS~~~UP ABOVE RIGHTWARDS~~~DOWN",
    "DOWNWARDS~~~LEFT BESIDE DOWNWARDS~~~RIGHT,LEFTWARDS~~~UP ABOVE RIGHTWARDS~~~UP",
    "~~~~DOWN~~~~~DOWN,RIGHTWARDS~~~UP~LEFTWARDS~~~UP,~~~~DOWN~~~~~DOWN,LEFTWARDS~~~UP~LONG DASH",
    "~~~~DOWN BELOW~~,RIGHTWARDS~~~UP ABOVE~~,~~~~DOWN BELOW~~",
    "UPWARDS~~~LEFT BESIDE DOWNWARDS HARPOON WITH BARB RIGHT,DOWNWARDS~~~~~UPWARDS~~~~",
    "RIGHT DOUBLE ARROW WITH ROUNDED HEAD,EQUALS SIGN ABOVE RIGHTWARDS ARROW,TILDE OPERATOR~~~",
    "LEFTWARDS ARROW~TILDE OPERATOR,RIGHTWARDS~~~~,~~~ALMOST EQUAL TO",
    "LESS-THAN ABOVE LEFTWARDS ARROW,LEFTWARDS ARROW THROUGH LESS-THAN",
    "GREATER-THAN ABOVE RIGHTWARDS ARROW,SUBSET~~~,LEFTWARDS ARROW THROUGH SUBSET",
    "SUPERSET ABOVE LEFTWARDS ARROW,LEFT FISH TAIL,RIGHT~~,UP~~,DOWN~~"]⟩,
  -- Miscellaneous Mathematical Symbols-B
  ⟨0x2980, [
    "TRIPLE VERTICAL BAR DELIMITER,Z NOTATION SPOT,~~TYPE COLON,LEFT WHITE CURLY BRACKET",
    "RIGHT~~~,LEFT~PARENTHESIS,RIGHT~~,Z NOTATION LEFT IMAGE BRACKET,~~RIGHT~~,~~LEFT BINDING~",
    "~~RIGHT~~,LEFT SQUARE BRACKET WITH UNDERBAR,RIGHT~~~~,LEFT~~~TICK IN TOP CORNER",
    "RIGHT~~~~~BOTTOM~,LEFT~~~~~~~,RIGHT~~~~~TOP~,LEFT ANGLE~~DOT,RIGHT~~~~",
    "LEFT ARC LESS-THAN BRACKET,RIGHT~GREATER-THAN~,DOUBLE LEFT ARC GREATER-THAN BRACKET",
    "~RIGHT~LESS-THAN~,LEFT BLACK TORTOISE SHELL~,RIGHT~~~~,DOTTED FENCE,VERTICAL ZIGZAG LINE",
    "MEASURED ANGLE OPENING LEFT,RIGHT~VARIANT WITH SQUARE,MEASURED RIGHT ANGLE~DOT",
    "ANGLE WITH S INSIDE,ACUTE ANGLE,SPHERICAL~OPENING LEFT,~~~UP,TURNED~,REVERSED~",
    "ANGLE WITH UNDERBAR,REVERSED ANGLE WITH UNDERBAR,OBLIQUE~OPENING UP,~~~DOWN",
    "MEASURED~WITH OPEN ARM ENDING IN ARROW POINTING UP AND RIGHT,~~~~~~~~~~~LEFT",
    "~~~~~~~~~DOWN~RIGHT,~~~~~~~~~~~LEFT,~~~~~~~~~RIGHT~UP,~~~~~~~~~LEFT~~,~~~~~~~~~RIGHT~DOWN",
    "~~~~~~~~~LEFT~~,REVERSED EMPTY SET,EMPTY SET WITH OVERBAR,~~~SMALL CIRCLE ABOVE",
    "~~~RIGHT ARROW~,~~~LEFT~~,CIRCLE WITH HORIZONTAL BAR,CIRCLED VERTICAL BAR,~PARALLEL",
    "~REVERSE SOLIDUS,~PERPENDICULAR",
    "CIRCLE DIVIDED BY HORIZONTAL BAR AND TOP HALF DIVIDED BY VERTICAL BAR,~WITH SUPERIMPOSED X",
    "CIRCLED ANTICLOCKWISE-ROTATED DIVISION SIGN,UP ARROW THROUGH CIRCLE,CIRCLED WHITE BULLET",
    "~BULLET,~LESS-THAN,~GREATER-THAN,CIRCLE WITH SMALL CIRCLE TO THE RIGHT",
    "~~TWO HORIZONTAL STROKES TO THE RIGHT,SQUARED RISING DIAGONAL SLASH,~FALLING~~,~ASTERISK",
    "~SMALL CIRCLE,~SQUARE,TWO JOINED SQUARES,TRIANGLE WITH DOT ABOVE,~~UNDERBAR,S IN TRIANGLE",
    "TRIANGLE WITH SERIFS AT BOTTOM,RIGHT TRIANGLE ABOVE LEFT TRIANGLE,LEFT~BESIDE VERTICAL BAR",
    "VERTICAL BAR~RIGHT TRIANGLE,BOWTIE WITH LEFT HALF BLACK,~~RIGHT~~,BLACK BOWTIE",
    "TIMES WITH LEFT HALF BLACK,~~RIGHT~~,WHITE HOURGLASS,BLACK~,LEFT WIGGLY FENCE,RIGHT~~",
    "LEFT DOUBLE WIGGLY FENCE,RIGHT~~~,INCOMPLETE INFINITY,TIE OVER INFINITY",
    "INFINITY NEGATED WITH VERTICAL BAR,DOUBLE-ENDED MULTIMAP,SQUARE WITH CONTOURED OUTLINE",
    "INCREASES AS,SHUFFLE PRODUCT,EQUALS SIGN AND SLANTED PARALLEL,~~~~~WITH TILDE ABOVE",
    "IDENTICAL TO~~~,GLEICH STARK,THERMODYNAMIC,DOWN-POINTING TRIANGLE WITH LEFT HALF BLACK",
    "~~~RIGHT~~,BLACK DIAMOND~DOWN ARROW,~LOZENGE,WHITE CIRCLE WITH DOWN ARROW,BLACK~~~~",
    "ERROR-BARRED WHITE SQUARE,~BLACK~,~WHITE DIAMOND,~BLACK~,~WHITE CIRCLE,~BLACK~,RULE-DELAYED",
    "REVERSE SOLIDUS OPERATOR,SOLIDUS WITH OVERBAR,REVERSE SOLIDUS WITH HORIZONTAL STROKE,BIG~",
    "~REVERSE SOLIDUS,DOUBLE PLUS,TRIPLE~,LEFT-POINTING CURVED ANGLE BRACKET,RIGHT-POINTING~~~",
    "TINY,MINY"]⟩,
  -- Supplemental Mathematical Operators
  ⟨0x2a00, [
    "N-ARY CIRCLED DOT OPERATOR,~~PLUS~,~~TIMES~,~UNION OPERATOR WITH DOT,~~~~PLUS",
    "~SQUARE INTERSECTION OPERATOR,~~UNION~,TWO LOGICAL AND~,~~OR~,N-ARY TIMES OPERATOR",
    "MODULO TWO SUM,SUMMATION WITH INTEGRAL,QUADRUPLE INTEGRAL OPERATOR,FINITE PART INTEGRAL",
    "INTEGRAL WITH DOUBLE STROKE,~AVERAGE WITH SLASH,CIRCULATION FUNCTION",
    "ANTICLOCKWISE INTEGRATION,LINE~WITH RECTANGULAR PATH AROUND POLE,~~~SEMICIRCULAR~~~",
    "~~NOT INCLUDING THE POLE,INTEGRAL AROUND A POINT OPERATOR,QUATERNION INTEGRAL OPERATOR",
    "INTEGRAL WITH LEFTWARDS ARROW WITH HOOK,~~TIMES SIGN,~~INTERSECTION,~~UNION,~~OVERBAR",
    "~~UNDERBAR,JOIN,LARGE LEFT TRIANGLE OPERATOR,Z NOTATION SCHEMA COMPOSITION,~~~PIPING",
    "~~~PROJECTION,PLUS SIGN WITH SMALL CIRCLE ABOVE,~~~CIRCUMFLEX ACCENT~,~~~TILDE ABOVE",
    "~~~DOT BELOW,~~~TILDE~,~~~SUBSCRIPT TWO,~~~BLACK TRIANGLE,MINUS~~COMMA ABOVE,~~~DOT BELOW",
    "~~~FALLING DOTS,~~~RISING~,PLUS~IN LEFT HALF CIRCLE,~~~RIGHT~~,VECTOR OR CROSS PRODUCT",
    "MULTIPLICATION SIGN WITH DOT ABOVE,~~~UNDERBAR,SEMIDIRECT PRODUCT~BOTTOM CLOSED,SMASH~",
    "MULTIPLICATION SIGN IN LEFT HALF CIRCLE,~~~RIGHT~~",
    "CIRCLED MULTIPLICATION SIGN WITH CIRCUMFLEX ACCENT,MULTIPLICATION SIGN IN DOUBLE CIRCLE",
    "CIRCLED DIVISION SIGN,PLUS SIGN IN TRIANGLE,MINUS~~~,MULTIPLICATION~~~,INTERIOR PRODUCT",
    "RIGHTHAND INTERIOR PRODUCT,Z NOTATION RELATIONAL COMPOSITION,AMALGAMATION OR COPRODUCT",
    "INTERSECTION WITH DOT,UNION~MINUS SIGN,~~OVERBAR,INTERSECTION~~,~~LOGICAL AND,UNION~~OR",
    "~ABOVE INTERSECTION,INTERSECTION~UNION,UNION~BAR ABOVE INTERSECTION,INTERSECTION~~~UNION",
    "UNION BESIDE AND JOINED WITH UNION,INTERSECTION~~~~INTERSECTION,CLOSED UNION WITH SERIFS",
    "~INTERSECTION~~,DOUBLE SQUARE INTERSECTION,~~UNION",
    "CLOSED UNION WITH SERIFS AND SMASH PRODUCT,LOGICAL AND~DOT ABOVE,~OR~~~,DOUBLE LOGICAL AND",
    "~~OR,TWO INTERSECTING LOGICAL AND,~~~OR,SLOPING LARGE OR,~~AND",
    "LOGICAL OR OVERLAPPING LOGICAL AND,~AND WITH MIDDLE STEM,~OR~~~,~AND~HORIZONTAL DASH,~OR~~~",
    "~AND~DOUBLE OVERBAR,~~~UNDERBAR,~~~DOUBLE UNDERBAR,SMALL VEE~UNDERBAR",
    "LOGICAL OR~DOUBLE OVERBAR,~~~~UNDERBAR,Z NOTATION DOMAIN ANTIRESTRICTION,~~RANGE~",
    "EQUALS SIGN WITH DOT BELOW,IDENTICAL WITH DOT ABOVE",
    "TRIPLE HORIZONTAL BAR WITH DOUBLE VERTICAL STROKE,~~~~TRIPLE~~",
    "TILDE OPERATOR WITH DOT ABOVE,~~~RISING DOTS,SIMILAR MINUS SIMILAR,CONGRUENT WITH DOT ABOVE",
    "EQUALS~ASTERISK,ALMOST EQUAL TO WITH CIRCUMFLEX ACCENT,APPROXIMATELY~OR EQUAL TO",
    "EQUALS SIGN ABOVE PLUS SIGN,PLUS~~EQUALS~,EQUALS~~TILDE OPERATOR,DOUBLE COLON EQUAL",
    "TWO CONSECUTIVE EQUALS SIGNS,THREE~~~,EQUALS SIGN WITH TWO DOTS ABOVE AND TWO DOTS BELOW",
    "EQUIVALENT WITH FOUR DOTS ABOVE,LESS-THAN~CIRCLE INSIDE,GREATER-THAN~~~",
    "LESS-THAN~QUESTION MARK ABOVE,GREATER-THAN~~~~,LESS-THAN OR SLANTED EQUAL TO",
    "GREATER-THAN~~~~,LESS-THAN~~~~WITH DOT INSIDE,GREATER-THAN~~~~~~~,LESS-THAN~~~~~~ABOVE",
    "GREATER-THAN~~~~~~~,LESS-THAN~~~~~~~RIGHT,GREATER-THAN~~~~~~~LEFT,LESS-THAN~APPROXIMATE",
    "GREATER-THAN~~,LESS-THAN AND SINGLE-LINE NOT EQUAL TO,GREATER-THAN~~~~~",
    "LESS-THAN~NOT APPROXIMATE,GREATER-THAN~~~",
    "LESS-THAN ABOVE DOUBLE-LINE EQUAL ABOVE GREATER-THAN,GREATER-THAN~~~~LESS-THAN",
    "LESS-THAN~SIMILAR OR EQUAL,GREATER-THAN~~~~,LESS-THAN~~ABOVE GREATER-THAN",
    "GREATER-THAN~~~LESS-THAN,LESS-THAN~GREATER-THAN~DOUBLE-LINE EQUAL,GREATER-THAN~LESS-THAN~~~",
    "LESS-THAN~SLANTED EQUAL ABOVE GREATER-THAN ABOVE SLANTED EQUAL,GREATER-THAN~~~~LESS-THAN~~~",
    "SLANTED EQUAL TO OR LESS-THAN,~~~~GREATER-THAN,~~~~LESS-THAN WITH DOT INSIDE",
    "~~~~GREATER-THAN~~~,DOUBLE-LINE~~~LESS-THAN,~~~~GREATER-THAN,~SLANTED EQUAL TO OR LESS-THAN",
    "~~~~~GREATER-THAN,SIMILAR OR LESS-THAN,~~GREATER-THAN,~ABOVE LESS-THAN ABOVE EQUALS SIGN",
    "~~GREATER-THAN~~~,DOUBLE NESTED LESS-THAN,~~GREATER-THAN,~~LESS-THAN WITH UNDERBAR",
    "GREATER-THAN OVERLAPPING~,~BESIDE~,LESS-THAN CLOSED BY CURVE,GREATER-THAN~~~",
    "LESS-THAN~~~ABOVE SLANTED EQUAL,GREATER-THAN~~~~~~,SMALLER THAN,LARGER~,SMALLER~OR EQUAL TO",
    "LARGER~~~~,EQUALS SIGN WITH BUMPY ABOVE,PRECEDES ABOVE SINGLE-LINE EQUALS SIGN,SUCCEEDS~~~~",
    "PRECEDES~~NOT EQUAL TO,SUCCEEDS~~~~~,PRECEDES~EQUALS SIGN,SUCCEEDS~~~,PRECEDES~NOT EQUAL TO",
    "SUCCEEDS~~~~,PRECEDES~ALMOST~~,SUCCEEDS~~~~,PRECEDES~NOT ALMOST EQUAL TO,SUCCEEDS~~~~~",
    "DOUBLE PRECEDES,~SUCCEEDS,SUBSET WITH DOT,SUPERSET~~,SUBSET~PLUS SIGN BELOW,SUPERSET~~~~",
    "SUBSET~MULTIPLICATION~~,SUPERSET~~~~,SUBSET OF OR EQUAL TO WITH DOT ABOVE,SUPERSET~~~~~~~",
    "SUBSET~ABOVE EQUALS SIGN,SUPERSET~~~~,SUBSET~~TILDE OPERATOR,SUPERSET~~~~",
    "SUBSET~~ALMOST EQUAL TO,SUPERSET~~~~~,SUBSET~~NOT~~,SUPERSET~~~~~",
    "SQUARE LEFT OPEN BOX OPERATOR,~RIGHT~~~,CLOSED SUBSET,~SUPERSET,~SUBSET OR EQUAL TO",
    "~SUPERSET~~~,SUBSET ABOVE SUPERSET,SUPERSET~SUBSET,SUBSET~~,SUPERSET~SUPERSET",
    "~BESIDE SUBSET,~~AND JOINED BY DASH WITH SUBSET,ELEMENT OF OPENING DOWNWARDS",
    "PITCHFORK WITH TEE TOP,TRANSVERSAL INTERSECTION,FORKING,NONFORKING,SHORT LEFT TACK,~DOWN~",
    "~UP~,PERPENDICULAR WITH S,VERTICAL BAR TRIPLE RIGHT TURNSTILE,DOUBLE VERTICAL BAR LEFT~",
    "VERTICAL BAR DOUBLE~~,DOUBLE VERTICAL BAR DOUBLE LEFT TURNSTILE",
    "LONG DASH FROM LEFT MEMBER OF DOUBLE VERTICAL,SHORT DOWN TACK WITH OVERBAR,~UP~~UNDERBAR",
    "~~~ABOVE SHORT DOWN TACK,DOUBLE DOWN~,~UP~,~STROKE NOT SIGN,REVERSED DOUBLE STROKE NOT SIGN",
    "DOES NOT DIVIDE WITH REVERSED NEGATION SLASH,VERTICAL LINE WITH CIRCLE ABOVE,~~~~BELOW",
    "DOWN TACK~~~,PARALLEL WITH HORIZONTAL STROKE,~~TILDE OPERATOR",
    "TRIPLE VERTICAL BAR BINARY RELATION,~~~WITH HORIZONTAL STROKE,~COLON OPERATOR",
    "~NESTED LESS-THAN,~~GREATER-THAN,DOUBLE-LINE SLANTED LESS-THAN OR EQUAL TO",
    "~~GREATER-THAN~~~,TRIPLE SOLIDUS BINARY RELATION,LARGE TRIPLE VERTICAL BAR OPERATOR",
    "DOUBLE SOLIDUS OPERATOR,WHITE VERTICAL BAR,N-ARY WHITE VERTICAL BAR"]⟩,
  -- Miscellaneous Symbols and Arrows
  ⟨0x2b00, [
    "NORTH EAST WHITE ARROW,~WEST~~,SOUTH EAST~~,~WEST~~,LEFT RIGHT~~,LEFTWARDS BLACK ARROW",
    "UPWARDS~~,DOWNWARDS~~,NORTH EAST BLACK ARROW,~WEST~~,SOUTH EAST~~,~WEST~~,LEFT RIGHT~~",
    "UP DOWN~~,RIGHTWARDS ARROW WITH TIP DOWNWARDS,~~~~UPWARDS,LEFTWARDS~~~DOWNWARDS,~~~~UPWARDS",
    "SQUARE WITH TOP HALF BLACK,~~BOTTOM~~,~~UPPER RIGHT DIAGONAL HALF BLACK,~~LOWER LEFT~~~",
    "DIAMOND~LEFT HALF BLACK,~~RIGHT~~,~~TOP~~,~~BOTTOM~~,DOTTED SQUARE,BLACK LARGE SQUARE",
    "WHITE~~,BLACK VERY SMALL SQUARE,WHITE~~~,BLACK PENTAGON,WHITE~,~HEXAGON,BLACK~",
    "HORIZONTAL BLACK HEXAGON,BLACK LARGE CIRCLE,~MEDIUM DIAMOND,WHITE~~,BLACK~LOZENGE,WHITE~~",
    "BLACK SMALL DIAMOND,~~LOZENGE,WHITE~~,BLACK HORIZONTAL ELLIPSE,WHITE~~,BLACK VERTICAL~",
    "WHITE~~,LEFT ARROW WITH SMALL CIRCLE,THREE LEFTWARDS ARROWS,LEFT ARROW WITH CIRCLED PLUS",
    "LONG LEFTWARDS SQUIGGLE ARROW,LEFTWARDS TWO-HEADED ARROW WITH VERTICAL STROKE",
    "~~~~DOUBLE VERTICAL STROKE,~~~FROM BAR,~~TRIPLE DASH ARROW,~ARROW WITH DOTTED STEM",
    "~~~TAIL WITH VERTICAL STROKE,~~~~~DOUBLE VERTICAL STROKE,~TWO-HEADED ARROW WITH TAIL",
    "~~~~~WITH VERTICAL STROKE,~~~~~~DOUBLE VERTICAL STROKE,~ARROW THROUGH X",
    "WAVE~POINTING DIRECTLY LEFT,EQUALS SIGN ABOVE LEFTWARDS ARROW",
    "REVERSE TILDE OPERATOR ABOVE LEFTWARDS ARROW,LEFTWARDS ARROW ABOVE REVERSE ALMOST EQUAL TO",
    "RIGHTWARDS~THROUGH GREATER-THAN,~~~SUPERSET,LEFTWARDS QUADRUPLE ARROW,RIGHTWARDS~~",
    "REVERSE TILDE OPERATOR ABOVE RIGHTWARDS ARROW",
    "RIGHTWARDS ARROW ABOVE REVERSE ALMOST EQUAL TO,TILDE OPERATOR~LEFTWARDS ARROW",
    "LEFTWARDS ARROW~ALMOST EQUAL TO,~~~REVERSE TILDE OPERATOR,RIGHTWARDS~~~~~",
    "DOWNWARDS TRIANGLE-HEADED ZIGZAG ARROW,SHORT SLANTED NORTH~,~BACKSLANTED SOUTH~",
    "WHITE MEDIUM STAR,BLACK SMALL~,WHITE~~,BLACK RIGHT-POINTING PENTAGON,WHITE~~",
    "HEAVY LARGE CIRCLE,~OVAL WITH OVAL INSIDE,~CIRCLE~CIRCLE~,~~,~CIRCLED SALTIRE",
    "SLANTED NORTH ARROW WITH HOOKED HEAD,BACKSLANTED SOUTH~~~TAIL,SLANTED NORTH~~HORIZONTAL~",
    "BACKSLANTED SOUTH~~~~,BENT ARROW POINTING DOWNWARDS THEN NORTH EAST",
    "SHORT BENT ARROW POINTING DOWNWARDS THEN NORTH EAST,LEFTWARDS TRIANGLE-HEADED~,UPWARDS~~",
    "RIGHTWARDS~~,DOWNWARDS~~,LEFT RIGHT TRIANGLE-HEADED ARROW,UP DOWN~~,NORTH WEST~~,~EAST~~",
    "SOUTH~~~,~WEST~~,LEFTWARDS TRIANGLE-HEADED DASHED~,UPWARDS~~~,RIGHTWARDS~~~,DOWNWARDS~~~",
    "CLOCKWISE~OPEN CIRCLE ARROW,ANTICLOCKWISE~~~~,LEFTWARDS~ARROW TO BAR,UPWARDS~~~~",
    "RIGHTWARDS~~~~,DOWNWARDS~~~~,,,NORTH WEST TRIANGLE-HEADED ARROW TO BAR,~EAST~~~~,SOUTH~~~~~",
    "~WEST~~~~,LEFTWARDS TRIANGLE-HEADED ARROW WITH DOUBLE HORIZONTAL STROKE,UPWARDS~~~~~~",
    "RIGHTWARDS~~~~~~,DOWNWARDS~~~~~~,HORIZONTAL TAB KEY,VERTICAL~~",
    "LEFTWARDS TRIANGLE-HEADED ARROW OVER RIGHTWARDS TRIANGLE-HEADED ARROW",
    "UPWARDS~~LEFTWARDS OF DOWNWARDS TRIANGLE-HEADED ARROW",
    "RIGHTWARDS~~OVER LEFTWARDS TRIANGLE-HEADED ARROW",
    "DOWNWARDS~~LEFTWARDS OF UPWARDS TRIANGLE-HEADED ARROW,LEFTWARDS~PAIRED ARROWS,UPWARDS~~~",
    "RIGHTWARDS~~~,DOWNWARDS~~~,LEFTWARDS BLACK CIRCLED WHITE ARROW,UPWARDS~~~~,RIGHTWARDS~~~~",
    "DOWNWARDS~~~~,ANTICLOCKWISE TRIANGLE-HEADED RIGHT U-SHAPED~,~~BOTTOM~~,~~LEFT~~,~~TOP~~",
    "RETURN LEFT,~RIGHT,NEWLINE LEFT,~RIGHT,FOUR CORNER ARROWS CIRCLING ANTICLOCKWISE",
    "RIGHTWARDS BLACK ARROW,,SYMBOL FOR TYPE A ELECTRONICS",
    "THREE-D TOP-LIGHTED LEFTWARDS EQUILATERAL ARROWHEAD,~RIGHT-LIGHTED UPWARDS~~",
    "~TOP-LIGHTED RIGHTWARDS~~,~LEFT-LIGHTED DOWNWARDS~~,BLACK LEFTWARDS EQUILATERAL ARROWHEAD",
    "~UPWARDS~~,~RIGHTWARDS~~,~DOWNWARDS~~",
    "DOWNWARDS TRIANGLE-HEADED ARROW WITH LONG TIP LEFTWARDS,~~~~~~RIGHTWARDS",
    "UPWARDS~~~~~LEFTWARDS,~~~~~~RIGHTWARDS,LEFTWARDS~~~~~UPWARDS,RIGHTWARDS~~~~~~",
    "LEFTWARDS~~~~~DOWNWARDS,RIGHTWARDS~~~~~~,BLACK CURVED DOWNWARDS AND LEFTWARDS ARROW",
    "~~~~RIGHTWARDS~,~~UPWARDS~LEFTWARDS~,~~~~RIGHTWARDS~,~~LEFTWARDS~UPWARDS~,~~RIGHTWARDS~~~",
    "~~LEFTWARDS~DOWNWARDS~,~~RIGHTWARDS~~~,RIBBON ARROW DOWN LEFT,~~~RIGHT,~~UP LEFT,~~~RIGHT",
    "~~LEFT UP,~~RIGHT~,~~LEFT DOWN,~~RIGHT~,UPWARDS WHITE ARROW FROM BAR WITH HORIZONTAL BAR",
    "UP ARROWHEAD IN A RECTANGLE BOX,OVERLAPPING WHITE SQUARES,~~AND BLACK SQUARES",
    "~BLACK SQUARES,BALLOT BOX WITH LIGHT X,CIRCLED X,~BOLD X,BLACK SQUARE CENTRED,~DIAMOND~",
    "TURNED BLACK PENTAGON,HORIZONTAL~OCTAGON,BLACK OCTAGON,~MEDIUM UP-POINTING TRIANGLE CENTRED",
    "~~DOWN-POINTING~~,~~LEFT-POINTING~~,~~RIGHT-POINTING~~,NEPTUNE FORM TWO",
    "TOP HALF BLACK CIRCLE,BOTTOM~~~,LIGHT FOUR POINTED BLACK CUSP",
    "ROTATED LIGHT FOUR POINTED BLACK CUSP,WHITE FOUR POINTED CUSP",
    "ROTATED WHITE FOUR POINTED CUSP,SQUARE POSITION INDICATOR,UNCERTAINTY SIGN,GROUP MARK",
    "PLUTO FORM TWO,~~THREE,~~FOUR,~~FIVE,TRANSPLUTO,PROSERPINA,ASTRAEA,HYGIEA,PHOLUS,NESSUS",
    "WHITE MOON SELENA,BLACK DIAMOND ON CROSS,TRUE LIGHT MOON ARTA,CUPIDO,HADES,ZEUS,KRONOS",
    "APOLLON,ADMETOS,VULCANUS,POSEIDON,LEFT HALF BLACK STAR,RIGHT~~~,STAR WITH LEFT HALF BLACK",
    "~~RIGHT~~,LEFTWARDS TWO-HEADED ARROW WITH TRIANGLE ARROWHEADS,UPWARDS~~~~~,RIGHTWARDS~~~~~",
    "DOWNWARDS~~~~~,ERIS FORM ONE,~~TWO,SEDNA,RUSSIAN ASTROLOGICAL SYMBOL VIGINTILE,~~~NOVILE",
    "~~~QUINTILE,~~~BINOVILE,~~~SENTAGON,~~~TREDECILE,EQUALS SIGN WITH INFINITY BELOW",
    "UNITED SYMBOL,SEPARATED~,DOUBLED~,PASSED~,REVERSED RIGHT ANGLE,HELLSCHREIBER PAUSE SYMBOL"]⟩,
  -- Counting Rod Numerals
  ⟨0x1d360, [
    "COUNTING ROD UNIT DIGIT ONE,~~~~TWO,~~~~THREE,~~~~FOUR,~~~~FIVE,~~~~SIX,~~~~SEVEN,~~~~EIGHT",
    "~~~~NINE,~~TENS~ONE,~~~~TWO,~~~~THREE,~~~~FOUR,~~~~FIVE,~~~~SIX,~~~~SEVEN,~~~~EIGHT",
    "~~~~NINE,IDEOGRAPHIC TALLY MARK ONE,~~~TWO,~~~THREE,~~~FOUR,~~~FIVE,TALLY MARK ONE,~~FIVE"]⟩,
  -- Mathematical Alphanumeric Symbols
  ⟨0x1d400, [
    "MATHEMATICAL BOLD CAPITAL A,~~~B,~~~C,~~~D,~~~E,~~~F,~~~G,~~~H,~~~I,~~~J,~~~K,~~~L,~~~M",
    "~~~N,~~~O,~~~P,~~~Q,~~~R,~~~S,~~~T,~~~U,~~~V,~~~W,~~~X,~~~Y,~~~Z,~~SMALL A,~~~B,~~~C,~~~D",
    "~~~E,~~~F,~~~G,~~~H,~~~I,~~~J,~~~K,~~~L,~~~M,~~~N,~~~O,~~~P,~~~Q,~~~R,~~~S,~~~T,~~~U,~~~V",
    "~~~W,~~~X,~~~Y,~~~Z,~ITALIC CAPITAL A,~~~B,~~~C,~~~D,~~~E,~~~F,~~~G,~~~H,~~~I,~~~J,~~~K",
    "~~~L,~~~M,~~~N,~~~O,~~~P,~~~Q,~~~R,~~~S,~~~T,~~~U,~~~V,~~~W,~~~X,~~~Y,~~~Z,~~SMALL A,~~~B",
    "~~~C,~~~D,~~~E,~~~F,~~~G,,~~~I,~~~J,~~~K,~~~L,~~~M,~~~N,~~~O,~~~P,~~~Q,~~~R,~~~S,~~~T,~~~U",
    "~~~V,~~~W,~~~X,~~~Y,~~~Z,~BOLD ITALIC CAPITAL A,~~~~B,~~~~C,~~~~D,~~~~E,~~~~F,~~~~G,~~~~H",
    "~~~~I,~~~~J,~~~~K,~~~~L,~~~~M,~~~~N,~~~~O,~~~~P,~~~~Q,~~~~R,~~~~S,~~~~T,~~~~U,~~~~V,~~~~W",
    "~~~~X,~~~~Y,~~~~Z,~~~SMALL A,~~~~B,~~~~C,~~~~D,~~~~E,~~~~F,~~~~G,~~~~H,~~~~I,~~~~J,~~~~K",
    "~~~~L,~~~~M,~~~~N,~~~~O,~~~~P,~~~~Q,~~~~R,~~~~S,~~~~T,~~~~U,~~~~V,~~~~W,~~~~X,~~~~Y,~~~~Z",
    "~SCRIPT CAPITAL A,,~~~C,~~~D,,,~~~G,,,~~~J,~~~K,,,~~~N,~~~O,~~~P,~~~Q,,~~~S,~~~T,~~~U,~~~V",
    "~~~W,~~~X,~~~Y,~~~Z,~~SMALL A,~~~B,~~~C,~~~D,,~~~F,,~~~H,~~~I,~~~J,~~~K,~~~L,~~~M,~~~N,",
    "~~~P,~~~Q,~~~R,~~~S,~~~T,~~~U,~~~V,~~~W,~~~X,~~~Y,~~~Z,~BOLD SCRIPT CAPITAL A,~~~~B,~~~~C",
    "~~~~D,~~~~E,~~~~F,~~~~G,~~~~H,~~~~I,~~~~J,~~~~K,~~~~L,~~~~M,~~~~N,~~~~O,~~~~P,~~~~Q,~~~~R",
    "~~~~S,~~~~T,~~~~U,~~~~V,~~~~W,~~~~X,~~~~Y,~~~~Z,~~~SMALL A,~~~~B,~~~~C,~~~~D,~~~~E,~~~~F",
    "~~~~G,~~~~H,~~~~I,~~~~J,~~~~K,~~~~L,~~~~M,~~~~N,~~~~O,~~~~P,~~~~Q,~~~~R,~~~~S,~~~~T,~~~~U",
    "~~~~V,~~~~W,~~~~X,~~~~Y,~~~~Z,~FRAKTUR CAPITAL A,~~~B,,~~~D,~~~E,~~~F,~~~G,,,~~~J,~~~K,~~~L",
    "~~~M,~~~N,~~~O,~~~P,~~~Q,,~~~S,~~~T,~~~U,~~~V,~~~W,~~~X,~~~Y,,~~SMALL A,~~~B,~~~C,~~~D,~~~E",
    "~~~F,~~~G,~~~H,~~~I,~~~J,~~~K,~~~L,~~~M,~~~N,~~~O,~~~P,~~~Q,~~~R,~~~S,~~~T,~~~U,~~~V,~~~W",
    "~~~X,~~~Y,~~~Z,~DOUBLE-STRUCK CAPITAL A,~~~B,,~~~D,~~~E,~~~F,~~~G,,~~~I,~~~J,~~~K,~~~L,~~~M",
    ",~~~O,,,,~~~S,~~~T,~~~U,~~~V,~~~W,~~~X,~~~Y,,~~SMALL A,~~~B,~~~C,~~~D,~~~E,~~~F,~~~G,~~~H",
    "~~~I,~~~J,~~~K,~~~L,~~~M,~~~N,~~~O,~~~P,~~~Q,~~~R,~~~S,~~~T,~~~U,~~~V,~~~W,~~~X,~~~Y,~~~Z",
    "~BOLD FRAKTUR CAPITAL A,~~~~B,~~~~C,~~~~D,~~~~E,~~~~F,~~~~G,~~~~H,~~~~I,~~~~J,~~~~K,~~~~L",
    "~~~~M,~~~~N,~~~~O,~~~~P,~~~~Q,~~~~R,~~~~S,~~~~T,~~~~U,~~~~V,~~~~W,~~~~X,~~~~Y,~~~~Z",
    "~~~SMALL A,~~~~B,~~~~C,~~~~D,~~~~E,~~~~F,~~~~G,~~~~H,~~~~I,~~~~J,~~~~K,~~~~L,~~~~M,~~~~N",
    "~~~~O,~~~~P,~~~~Q,~~~~R,~~~~S,~~~~T,~~~~U,~~~~V,~~~~W,~~~~X,~~~~Y,~~~~Z",
    "~SANS-SERIF CAPITAL A,~~~B,~~~C,~~~D,~~~E,~~~F,~~~G,~~~H,~~~I,~~~J,~~~K,~~~L,~~~M,~~~N,~~~O",
    "~~~P,~~~Q,~~~R,~~~S,~~~T,~~~U,~~~V,~~~W,~~~X,~~~Y,~~~Z,~~SMALL A,~~~B,~~~C,~~~D,~~~E,~~~F",
    "~~~G,~~~H,~~~I,~~~J,~~~K,~~~L,~~~M,~~~N,~~~O,~~~P,~~~Q,~~~R,~~~S,~~~T,~~~U,~~~V,~~~W,~~~X",
    "~~~Y,~~~Z,~~BOLD CAPITAL A,~~~~B,~~~~C,~~~~D,~~~~E,~~~~F,~~~~G,~~~~H,~~~~I,~~~~J,~~~~K",
    "~~~~L,~~~~M,~~~~N,~~~~O,~~~~P,~~~~Q,~~~~R,~~~~S,~~~~T,~~~~U,~~~~V,~~~~W,~~~~X,~~~~Y,~~~~Z",
    "~~~SMALL A,~~~~B,~~~~C,~~~~D,~~~~E,~~~~F,~~~~G,~~~~H,~~~~I,~~~~J,~~~~K,~~~~L,~~~~M,~~~~N",
    "~~~~O,~~~~P,~~~~Q,~~~~R,~~~~S,~~~~T,~~~~U,~~~~V,~~~~W,~~~~X,~~~~Y,~~~~Z,~~ITALIC CAPITAL A",
    "~~~~B,~~~~C,~~~~D,~~~~E,~~~~F,~~~~G,~~~~H,~~~~I,~~~~J,~~~~K,~~~~L,~~~~M,~~~~N,~~~~O,~~~~P",
    "~~~~Q,~~~~R,~~~~S,~~~~T,~~~~U,~~~~V,~~~~W,~~~~X,~~~~Y,~~~~Z,~~~SMALL A,~~~~B,~~~~C,~~~~D",
    "~~~~E,~~~~F,~~~~G,~~~~H,~~~~I,~~~~J,~~~~K,~~~~L,~~~~M,~~~~N,~~~~O,~~~~P,~~~~Q,~~~~R,~~~~S",
    "~~~~T,~~~~U,~~~~V,~~~~W,~~~~X,~~~~Y,~~~~Z,~~BOLD ITALIC CAPITAL A,~~~~~B,~~~~~C,~~~~~D",
    "~~~~~E,~~~~~F,~~~~~G,~~~~~H,~~~~~I,~~~~~J,~~~~~K,~~~~~L,~~~~~M,~~~~~N,~~~~~O,~~~~~P,~~~~~Q",
    "~~~~~R,~~~~~S,~~~~~T,~~~~~U,~~~~~V,~~~~~W,~~~~~X,~~~~~Y,~~~~~Z,~~~~SMALL A,~~~~~B,~~~~~C",
    "~~~~~D,~~~~~E,~~~~~F,~~~~~G,~~~~~H,~~~~~I,~~~~~J,~~~~~K,~~~~~L,~~~~~M,~~~~~N,~~~~~O,~~~~~P",
    "~~~~~Q,~~~~~R,~~~~~S,~~~~~T,~~~~~U,~~~~~V,~~~~~W,~~~~~X,~~~~~Y,~~~~~Z,~MONOSPACE CAPITAL A",
    "~~~B,~~~C,~~~D,~~~E,~~~F,~~~G,~~~H,~~~I,~~~J,~~~K,~~~L,~~~M,~~~N,~~~O,~~~P,~~~Q,~~~R,~~~S",
    "~~~T,~~~U,~~~V,~~~W,~~~X,~~~Y,~~~Z,~~SMALL A,~~~B,~~~C,~~~D,~~~E,~~~F,~~~G,~~~H,~~~I,~~~J",
    "~~~K,~~~L,~~~M,~~~N,~~~O,~~~P,~~~Q,~~~R,~~~S,~~~T,~~~U,~~~V,~~~W,~~~X,~~~Y,~~~Z",
    "~ITALIC~DOTLESS I,~~~~J,,,~BOLD CAPITAL ALPHA,~~~BETA,~~~GAMMA,~~~DELTA,~~~EPSILON,~~~ZETA",
    "~~~ETA,~~~THETA,~~~IOTA,~~~KAPPA,~~~LAMDA,~~~MU,~~~NU,~~~XI,~~~OMICRON,~~~PI,~~~RHO",
    "~~~THETA SYMBOL,~~~SIGMA,~~~TAU,~~~UPSILON,~~~PHI,~~~CHI,~~~PSI,~~~OMEGA,~~NABLA",
    "~~SMALL ALPHA,~~~BETA,~~~GAMMA,~~~DELTA,~~~EPSILON,~~~ZETA,~~~ETA,~~~THETA,~~~IOTA,~~~KAPPA",
    "~~~LAMDA,~~~MU,~~~NU,~~~XI,~~~OMICRON,~~~PI,~~~RHO,~~~FINAL SIGMA,~~~SIGMA,~~~TAU",
    "~~~UPSILON,~~~PHI,~~~CHI,~~~PSI,~~~OMEGA,~~PARTIAL DIFFERENTIAL,~~EPSILON SYMBOL,~~THETA~",
    "~~KAPPA~,~~PHI~,~~RHO~,~~PI~,~ITALIC CAPITAL ALPHA,~~~BETA,~~~GAMMA,~~~DELTA,~~~EPSILON",
    "~~~ZETA,~~~ETA,~~~THETA,~~~IOTA,~~~KAPPA,~~~LAMDA,~~~MU,~~~NU,~~~XI,~~~OMICRON,~~~PI,~~~RHO",
    "~~~THETA SYMBOL,~~~SIGMA,~~~TAU,~~~UPSILON,~~~PHI,~~~CHI,~~~PSI,~~~OMEGA,~~NABLA",
    "~~SMALL ALPHA,~~~BETA,~~~GAMMA,~~~DELTA,~~~EPSILON,~~~ZETA,~~~ETA,~~~THETA,~~~IOTA,~~~KAPPA",
    "~~~LAMDA,~~~MU,~~~NU,~~~XI,~~~OMICRON,~~~PI,~~~RHO,~~~FINAL SIGMA,~~~SIGMA,~~~TAU",
    "~~~UPSILON,~~~PHI,~~~CHI,~~~PSI,~~~OMEGA,~~PARTIAL DIFFERENTIAL,~~EPSILON SYMBOL,~~THETA~",
    "~~KAPPA~,~~PHI~,~~RHO~,~~PI~,~BOLD ITALIC CAPITAL ALPHA,~~~~BETA,~~~~GAMMA,~~~~DELTA",
    "~~~~EPSILON,~~~~ZETA,~~~~ETA,~~~~THETA,~~~~IOTA,~~~~KAPPA,~~~~LAMDA,~~~~MU,~~~~NU,~~~~XI",
    "~~~~OMICRON,~~~~PI,~~~~RHO,~~~~THETA SYMBOL,~~~~SIGMA,~~~~TAU,~~~~UPSILON,~~~~PHI,~~~~CHI",
    "~~~~PSI,~~~~OMEGA,~~~NABLA,~~~SMALL ALPHA,~~~~BETA,~~~~GAMMA,~~~~DELTA,~~~~EPSILON,~~~~ZETA",
    "~~~~ETA,~~~~THETA,~~~~IOTA,~~~~KAPPA,~~~~LAMDA,~~~~MU,~~~~NU,~~~~XI,~~~~OMICRON,~~~~PI",
    "~~~~RHO,~~~~FINAL SIGMA,~~~~SIGMA,~~~~TAU,~~~~UPSILON,~~~~PHI,~~~~CHI,~~~~PSI,~~~~OMEGA",
    "~~~PARTIAL DIFFERENTIAL,~~~EPSILON SYMBOL,~~~THETA~,~~~KAPPA~,~~~PHI~,~~~RHO~,~~~PI~",
    "~SANS-SERIF BOLD CAPITAL ALPHA,~~~~BETA,~~~~GAMMA,~~~~DELTA,~~~~EPSILON,~~~~ZETA,~~~~ETA",
    "~~~~THETA,~~~~IOTA,~~~~KAPPA,~~~~LAMDA,~~~~MU,~~~~NU,~~~~XI,~~~~OMICRON,~~~~PI,~~~~RHO",
    "~~~~THETA SYMBOL,~~~~SIGMA,~~~~TAU,~~~~UPSILON,~~~~PHI,~~~~CHI,~~~~PSI,~~~~OMEGA,~~~NABLA",
    "~~~SMALL ALPHA,~~~~BETA,~~~~GAMMA,~~~~DELTA,~~~~EPSILON,~~~~ZETA,~~~~ETA,~~~~THETA,~~~~IOTA",
    "~~~~KAPPA,~~~~LAMDA,~~~~MU,~~~~NU,~~~~XI,~~~~OMICRON,~~~~PI,~~~~RHO,~~~~FINAL SIGMA",
    "~~~~SIGMA,~~~~TAU,~~~~UPSILON,~~~~PHI,~~~~CHI,~~~~PSI,~~~~OMEGA,~~~PARTIAL DIFFERENTIAL",
    "~~~EPSILON SYMBOL,~~~THETA~,~~~KAPPA~,~~~PHI~,~~~RHO~,~~~PI~,~~~ITALIC CAPITAL ALPHA",
    "~~~~~BETA,~~~~~GAMMA,~~~~~DELTA,~~~~~EPSILON,~~~~~ZETA,~~~~~ETA,~~~~~THETA,~~~~~IOTA",
    "~~~~~KAPPA,~~~~~LAMDA,~~~~~MU,~~~~~NU,~~~~~XI,~~~~~OMICRON,~~~~~PI,~~~~~RHO",
    "~~~~~THETA SYMBOL,~~~~~SIGMA,~~~~~TAU,~~~~~UPSILON,~~~~~PHI,~~~~~CHI,~~~~~PSI,~~~~~OMEGA",
    "~~~~NABLA,~~~~SMALL ALPHA,~~~~~BETA,~~~~~GAMMA,~~~~~DELTA,~~~~~EPSILON,~~~~~ZETA,~~~~~ETA",
    "~~~~~THETA,~~~~~IOTA,~~~~~KAPPA,~~~~~LAMDA,~~~~~MU,~~~~~NU,~~~~~XI,~~~~~OMICRON,~~~~~PI",
    "~~~~~RHO,~~~~~FINAL SIGMA,~~~~~SIGMA,~~~~~TAU,~~~~~UPSILON,~~~~~PHI,~~~~~CHI,~~~~~PSI",
    "~~~~~OMEGA,~~~~PARTIAL DIFFERENTIAL,~~~~EPSILON SYMBOL,~~~~THETA~,~~~~KAPPA~,~~~~PHI~",
    "~~~~RHO~,~~~~PI~,~BOLD CAPITAL DIGAMMA,~~SMALL~,,,~~DIGIT ZERO,~~~ONE,~~~TWO,~~~THREE",
    "~~~FOUR,~~~FIVE,~~~SIX,~~~SEVEN,~~~EIGHT,~~~NINE,~DOUBLE-STRUCK~ZERO,~~~ONE,~~~TWO,~~~THREE",
    "~~~FOUR,~~~FIVE,~~~SIX,~~~SEVEN,~~~EIGHT,~~~NINE,~SANS-SERIF~ZERO,~~~ONE,~~~TWO,~~~THREE",
    "~~~FOUR,~~~FIVE,~~~SIX,~~~SEVEN,~~~EIGHT,~~~NINE,~~BOLD DIGIT ZERO,~~~~ONE,~~~~TWO",
    "~~~~THREE,~~~~FOUR,~~~~FIVE,~~~~SIX,~~~~SEVEN,~~~~EIGHT,~~~~NINE,~MONOSPACE DIGIT ZERO",
    "~~~ONE,~~~TWO,~~~THREE,~~~FOUR,~~~FIVE,~~~SIX,~~~SEVEN,~~~EIGHT,~~~NINE"]⟩,
  -- Geometric Shapes Extended
  ⟨0x1f780, [
    "BLACK LEFT-POINTING ISOSCELES RIGHT TRIANGLE,~UP-POINTING~~~,~RIGHT-POINTING~~~",
    "~DOWN-POINTING~~~,~SLIGHTLY SMALL CIRCLE,MEDIUM BOLD WHITE~,BOLD WHITE CIRCLE,HEAVY~~",
    "VERY HEAVY WHITE CIRCLE,EXTREMELY~~~,WHITE CIRCLE CONTAINING BLACK SMALL CIRCLE",
    "ROUND TARGET,BLACK TINY SQUARE,~SLIGHTLY SMALL SQUARE,LIGHT WHITE SQUARE,MEDIUM~~,BOLD~~",
    "HEAVY~~,VERY HEAVY WHITE SQUARE,EXTREMELY~~~",
    "WHITE SQUARE CONTAINING BLACK VERY SMALL SQUARE,~~~~MEDIUM SQUARE,SQUARE TARGET",
    "BLACK TINY DIAMOND,~VERY SMALL DIAMOND,~MEDIUM~~",
    "WHITE DIAMOND CONTAINING BLACK VERY SMALL DIAMOND,~~~~MEDIUM DIAMOND,DIAMOND TARGET",
    "BLACK TINY LOZENGE,~VERY SMALL LOZENGE,~MEDIUM~~",
    "WHITE LOZENGE CONTAINING BLACK SMALL LOZENGE,THIN GREEK CROSS,LIGHT~~,MEDIUM~~,BOLD~~",
    "VERY BOLD GREEK CROSS,~HEAVY~~,EXTREMELY~~~,THIN SALTIRE,LIGHT~,MEDIUM~,BOLD~,HEAVY~",
    "VERY HEAVY SALTIRE,EXTREMELY~~,LIGHT FIVE SPOKED ASTERISK,MEDIUM~~~,BOLD~~~,HEAVY~~~",
    "VERY HEAVY FIVE SPOKED ASTERISK,EXTREMELY~~~~,LIGHT SIX SPOKED ASTERISK,MEDIUM~~~,BOLD~~~",
    "HEAVY~~~,VERY HEAVY SIX SPOKED ASTERISK,EXTREMELY~~~~,LIGHT EIGHT SPOKED ASTERISK,MEDIUM~~~",
    "BOLD~~~,HEAVY~~~,VERY HEAVY EIGHT SPOKED ASTERISK,LIGHT THREE POINTED BLACK STAR,MEDIUM~~~~",
    "THREE POINTED BLACK STAR,MEDIUM THREE POINTED PINWHEEL STAR,LIGHT FOUR~BLACK~,MEDIUM~~~~",
    "FOUR POINTED BLACK STAR,MEDIUM FOUR POINTED PINWHEEL STAR",
    "REVERSE LIGHT FOUR POINTED PINWHEEL STAR,LIGHT FIVE POINTED BLACK STAR,HEAVY~~~~",
    "MEDIUM SIX~~~,HEAVY~~~~,SIX POINTED PINWHEEL STAR,MEDIUM EIGHT POINTED BLACK STAR,HEAVY~~~~",
    "VERY HEAVY EIGHT POINTED BLACK STAR,HEAVY EIGHT POINTED PINWHEEL STAR,LIGHT TWELVE~BLACK~",
    "HEAVY~~~~,~~~PINWHEEL~,CIRCLED TRIANGLE,NEGATIVE CIRCLED TRIANGLE,CIRCLED SQUARE",
    "NEGATIVE CIRCLED SQUARE,,,,,,,,LARGE ORANGE CIRCLE,~YELLOW~,~GREEN~,~PURPLE~,~BROWN~",
    "~RED SQUARE,~BLUE~,~ORANGE~,~YELLOW~,~GREEN~,~PURPLE~,~BROWN~,,,,,HEAVY EQUALS SIGN"]⟩,
  -- Supplemental Arrows-C
  ⟨0x1f800, [
    "LEFTWARDS ARROW WITH SMALL TRIANGLE ARROWHEAD,UPWARDS~~~~~,RIGHTWARDS~~~~~,DOWNWARDS~~~~~",
    "LEFTWARDS~~MEDIUM~~,UPWARDS~~~~~,RIGHTWARDS~~~~~,DOWNWARDS~~~~~,LEFTWARDS~~LARGE~~",
    "UPWARDS~~~~~,RIGHTWARDS~~~~~,DOWNWARDS~~~~~,,,,,LEFTWARDS~~SMALL EQUILATERAL~,UPWARDS~~~~~",
    "RIGHTWARDS~~~~~,DOWNWARDS~~~~~,LEFTWARDS~~EQUILATERAL ARROWHEAD,UPWARDS~~~~,RIGHTWARDS~~~~",
    "DOWNWARDS~~~~,HEAVY LEFTWARDS ARROW WITH EQUILATERAL ARROWHEAD,~UPWARDS~~~~,~RIGHTWARDS~~~~",
    "~DOWNWARDS~~~~,~LEFTWARDS~~LARGE EQUILATERAL ARROWHEAD,~UPWARDS~~~~~,~RIGHTWARDS~~~~~",
    "~DOWNWARDS~~~~~,LEFTWARDS TRIANGLE-HEADED~~NARROW SHAFT,UPWARDS~~~~~,RIGHTWARDS~~~~~",
    "DOWNWARDS~~~~~,LEFTWARDS~~~MEDIUM~,UPWARDS~~~~~,RIGHTWARDS~~~~~,DOWNWARDS~~~~~",
    "LEFTWARDS~~~BOLD~,UPWARDS~~~~~,RIGHTWARDS~~~~~,DOWNWARDS~~~~~,LEFTWARDS~~~HEAVY~",
    "UPWARDS~~~~~,RIGHTWARDS~~~~~,DOWNWARDS~~~~~,LEFTWARDS~~~VERY HEAVY SHAFT,UPWARDS~~~~~~",
    "RIGHTWARDS~~~~~~,DOWNWARDS~~~~~~,LEFTWARDS FINGER-POST~,UPWARDS~~,RIGHTWARDS~~,DOWNWARDS~~",
    "LEFTWARDS SQUARED~,UPWARDS~~,RIGHTWARDS~~,DOWNWARDS~~,LEFTWARDS COMPRESSED~,UPWARDS~~",
    "RIGHTWARDS~~,DOWNWARDS~~,LEFTWARDS HEAVY COMPRESSED ARROW,UPWARDS~~~,RIGHTWARDS~~~",
    "DOWNWARDS~~~,LEFTWARDS~ARROW,UPWARDS~~,RIGHTWARDS~~,DOWNWARDS~~,,,,,,,,",
    "LEFTWARDS SANS-SERIF~,UPWARDS~~,RIGHTWARDS~~,DOWNWARDS~~,NORTH WEST SANS-SERIF ARROW",
    "~EAST~~,SOUTH~~~,~WEST~~,LEFT RIGHT~~,UP DOWN~~,,,,,,",
    "WIDE-HEADED LEFTWARDS LIGHT BARB ARROW,~UPWARDS~~~,~RIGHTWARDS~~~,~DOWNWARDS~~~",
    "~NORTH WEST LIGHT BARB ARROW,~~EAST~~~,~SOUTH~~~~,~~WEST~~~,~LEFTWARDS BARB ARROW",
    "~UPWARDS~~,~RIGHTWARDS~~,~DOWNWARDS~~,~NORTH WEST BARB ARROW,~~EAST~~,~SOUTH~~~,~~WEST~~",
    "~LEFTWARDS MEDIUM~~,~UPWARDS~~~,~RIGHTWARDS~~~,~DOWNWARDS~~~,~NORTH WEST MEDIUM BARB ARROW",
    "~~EAST~~~,~SOUTH~~~~,~~WEST~~~,~LEFTWARDS HEAVY BARB ARROW,~UPWARDS~~~,~RIGHTWARDS~~~",
    "~DOWNWARDS~~~,~NORTH WEST HEAVY BARB ARROW,~~EAST~~~,~SOUTH~~~~,~~WEST~~~",
    "~LEFTWARDS VERY~~~,~UPWARDS~~~~,~RIGHTWARDS~~~~,~DOWNWARDS~~~~",
    "~NORTH WEST VERY HEAVY BARB ARROW,~~EAST~~~~,~SOUTH~~~~~,~~WEST~~~~,,,,,,,,",
    "LEFTWARDS TRIANGLE ARROWHEAD,UPWARDS~~,RIGHTWARDS~~,DOWNWARDS~~",
    "LEFTWARDS WHITE ARROW WITHIN TRIANGLE ARROWHEAD,UPWARDS~~~~~,RIGHTWARDS~~~~~,DOWNWARDS~~~~~",
    "LEFTWARDS ARROW WITH NOTCHED TAIL,UPWARDS~~~~,RIGHTWARDS~~~~,DOWNWARDS~~~~",
    "HEAVY~SHAFT WIDTH ONE,~~~~TWO THIRDS,~~~~ONE HALF,~~~~~THIRD",
    "LEFTWARDS BOTTOM-SHADED WHITE ARROW,RIGHTWARDS BOTTOM SHADED WHITE ARROW,LEFTWARDS TOP~~~",
    "RIGHTWARDS~~~~,LEFTWARDS LEFT-SHADED WHITE ARROW,RIGHTWARDS RIGHT-SHADED~~,LEFTWARDS~~~",
    "RIGHTWARDS LEFT-SHADED~~,LEFTWARDS BACK-TILTED SHADOWED WHITE ARROW,RIGHTWARDS~~~~",
    "LEFTWARDS FRONT-TILTED~~~,RIGHTWARDS~~~~,WHITE ARROW SHAFT WIDTH ONE,~~~~TWO THIRDS,,",
    "ARROW POINTING UPWARDS THEN NORTH WEST,~~RIGHTWARDS~CURVING SOUTH WEST"]⟩,
  -- Symbols for Legacy Computing
  ⟨0x1fb00, [
    "BLOCK SEXTANT-1,~SEXTANT-2,~SEXTANT-12,~SEXTANT-3,~SEXTANT-13,~SEXTANT-23,~SEXTANT-123",
    "~SEXTANT-4,~SEXTANT-14,~SEXTANT-24,~SEXTANT-124,~SEXTANT-34,~SEXTANT-134,~SEXTANT-234",
    "~SEXTANT-1234,~SEXTANT-5,~SEXTANT-15,~SEXTANT-25,~SEXTANT-125,~SEXTANT-35,~SEXTANT-235",
    "~SEXTANT-1235,~SEXTANT-45,~SEXTANT-145,~SEXTANT-245,~SEXTANT-1245,~SEXTANT-345",
    "~SEXTANT-1345,~SEXTANT-2345,~SEXTANT-12345,~SEXTANT-6,~SEXTANT-16,~SEXTANT-26,~SEXTANT-126",
    "~SEXTANT-36,~SEXTANT-136,~SEXTANT-236,~SEXTANT-1236,~SEXTANT-46,~SEXTANT-146,~SEXTANT-1246",
    "~SEXTANT-346,~SEXTANT-1346,~SEXTANT-2346,~SEXTANT-12346,~SEXTANT-56,~SEXTANT-156",
    "~SEXTANT-256,~SEXTANT-1256,~SEXTANT-356,~SEXTANT-1356,~SEXTANT-2356,~SEXTANT-12356",
    "~SEXTANT-456,~SEXTANT-1456,~SEXTANT-2456,~SEXTANT-12456,~SEXTANT-3456,~SEXTANT-13456",
    "~SEXTANT-23456,LOWER LEFT BLOCK DIAGONAL LOWER MIDDLE LEFT TO LOWER CENTRE,~~~~~~~~~RIGHT",
    "~~~~UPPER~~~~CENTRE,~~~~~~~~~RIGHT,~~~~~LEFT TO LOWER CENTRE",
    "~RIGHT~~~MIDDLE LEFT TO UPPER CENTRE,~~~~~~~~~RIGHT,~~~~LOWER~~~~CENTRE,~~~~~~~~~RIGHT",
    "~~~~~LEFT TO UPPER CENTRE,~~~~~MIDDLE LEFT TO UPPER MIDDLE RIGHT",
    "~~~~~CENTRE TO LOWER MIDDLE RIGHT,~~~~~LEFT~~~~,~~~~~CENTRE~UPPER~~,~~~~~LEFT~~~~",
    "~~~~~CENTRE~~RIGHT,~LEFT~~UPPER~~~MIDDLE RIGHT,~~~~~LEFT~~~~,~~~~~CENTRE~LOWER~~",
    "~~~~~LEFT~~~~,~~~~~CENTRE~~RIGHT,~~~~~MIDDLE LEFT TO LOWER MIDDLE RIGHT",
    "UPPER RIGHT~~LOWER~~~~CENTRE,~~~~~~~~~RIGHT,~~~~UPPER~~~~CENTRE,~~~~~~~~~RIGHT",
    "~~~~~LEFT TO LOWER CENTRE,~LEFT~~~MIDDLE LEFT TO UPPER CENTRE,~~~~~~~~~RIGHT",
    "~~~~LOWER~~~~CENTRE,~~~~~~~~~RIGHT,~~~~~LEFT TO UPPER CENTRE",
    "~~~~~MIDDLE LEFT TO UPPER MIDDLE RIGHT,~~~~~CENTRE TO LOWER MIDDLE RIGHT,~~~~~LEFT~~~~",
    "~~~~~CENTRE~UPPER~~,~~~~~LEFT~~~~,~~~~~CENTRE~~RIGHT,~RIGHT~~UPPER~~~MIDDLE RIGHT",
    "~~~~~LEFT~~~~,~~~~~CENTRE~LOWER~~,~~~~~LEFT~~~~,~~~~~CENTRE~~RIGHT",
    "~~~~~MIDDLE LEFT TO LOWER MIDDLE RIGHT,~AND RIGHT AND LOWER TRIANGULAR THREE QUARTERS BLOCK",
    "LEFT~LOWER~RIGHT~~~~,UPPER~LEFT~LOWER~~~~,LEFT~UPPER~RIGHT~~~~",
    "~TRIANGULAR ONE QUARTER BLOCK,UPPER~~~~,RIGHT~~~~,LOWER~~~~,VERTICAL ONE EIGHTH BLOCK-2",
    "~~~BLOCK-3,~~~BLOCK-4,~~~BLOCK-5,~~~BLOCK-6,~~~BLOCK-7,HORIZONTAL~~BLOCK-2,~~~BLOCK-3",
    "~~~BLOCK-4,~~~BLOCK-5,~~~BLOCK-6,~~~BLOCK-7,LEFT AND LOWER ONE EIGHTH BLOCK,~~UPPER~~~",
    "RIGHT~~~~~,~~LOWER~~~,UPPER~~~~~,HORIZONTAL ONE EIGHTH BLOCK-1358,UPPER~QUARTER BLOCK",
    "~THREE EIGHTHS~,~FIVE~~,~THREE QUARTERS~,~SEVEN EIGHTHS~,RIGHT ONE QUARTER~,~THREE EIGHTHS~",
    "~FIVE~~,~THREE QUARTERS~,~SEVEN EIGHTHS~,LEFT HALF MEDIUM SHADE,RIGHT~~~,UPPER~~~,LOWER~~~",
    "INVERSE MEDIUM SHADE,UPPER HALF BLOCK AND LOWER HALF INVERSE MEDIUM SHADE",
    "~~INVERSE MEDIUM SHADE AND LOWER HALF BLOCK,,LEFT~~~~~RIGHT~~,CHECKER BOARD FILL",
    "INVERSE CHECKER BOARD FILL,HEAVY HORIZONTAL FILL,UPPER LEFT TO LOWER RIGHT FILL",
    "~RIGHT~~LEFT~,~AND LOWER TRIANGULAR HALF BLOCK,LEFT~RIGHT~~~",
    "UPPER LEFT TRIANGULAR MEDIUM SHADE,~RIGHT~~~,LOWER~~~~,~LEFT~~~",
    "BOX DRAWINGS LIGHT DIAGONAL UPPER CENTRE TO MIDDLE LEFT,~~~~~~~~RIGHT",
    "~~~~MIDDLE LEFT~LOWER CENTRE,~~~~~RIGHT~~~,~~~~UPPER CENTRE~MIDDLE LEFT TO LOWER CENTRE",
    "~~~~~~~~RIGHT~~~,~~~~MIDDLE LEFT~LOWER CENTRE~MIDDLE RIGHT,~~~~~~~UPPER~~~~",
    "~~~~UPPER CENTRE~MIDDLE LEFT AND~~TO LOWER CENTRE,~~~~~~~~RIGHT~~LEFT~~~",
    "~~~~~~~~~TO LOWER CENTRE~MIDDLE LEFT,~~~~~~~~LEFT~~~~~RIGHT",
    "~~~~MIDDLE LEFT~UPPER CENTRE~MIDDLE RIGHT~LOWER CENTRE,~~~~~RIGHT~~~~~LEFT~~~,~~~~DIAMOND",
    "~~~HORIZONTAL WITH VERTICAL STROKE,ARROWHEAD-SHAPED POINTER,INVERSE CHECK MARK",
    "LEFT HALF RUNNING MAN,RIGHT~~~,INVERSE DOWNWARDS ARROW WITH TIP LEFTWARDS",
    "LEFTWARDS ARROW AND UPPER AND LOWER ONE EIGHTH BLOCK,RIGHTWARDS~~~~~~~~",
    "DOWNWARDS~~RIGHT ONE EIGHTH BLOCK,UPWARDS~~~~~~,LEFT HALF FOLDER,RIGHT~~,VOIDED GREEK CROSS",
    "RIGHT OPEN SQUARED DOT,NEGATIVE DIAGONAL CROSS,~~MIDDLE RIGHT TO LOWER CENTRE,~~DIAMOND",
    "WHITE HEAVY SALTIRE WITH ROUNDED CORNERS,LEFT THIRD WHITE RIGHT POINTING INDEX,MIDDLE~~~~~",
    "RIGHT~~~~~,NEGATIVE SQUARED QUESTION MARK,STICK FIGURE,~~WITH ARMS RAISED,~~LEANING LEFT",
    "~~~RIGHT,~~WITH DRESS,WHITE UP-POINTING CHEVRON"]⟩,
  ⟨0x1fbf0, [
    "SEGMENTED DIGIT ZERO,~~ONE,~~TWO,~~THREE,~~FOUR,~~FIVE,~~SIX,~~SEVEN,~~EIGHT,~~NINE"]⟩]

end AccessScopes.Text
