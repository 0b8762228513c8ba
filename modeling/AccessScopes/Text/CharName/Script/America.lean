import AccessScopes.Text.CharName.Block

/-!
# `AccessScopes.Text.CharName.Script.America`: names of American letters

The scripts of America: Cherokee, Canadian syllabics, Deseret, Osage, and the digits of the Maya.
-/

set_option autoImplicit false

namespace AccessScopes.Text

/-- The blocks of American scripts. -/
def americaBlocks : List NameBlock := [
  -- Cherokee
  ⟨0x13a0, [
    "CHEROKEE LETTER A,~~E,~~I,~~O,~~U,~~V,~~GA,~~KA,~~GE,~~GI,~~GO,~~GU,~~GV,~~HA,~~HE,~~HI",
    "~~HO,~~HU,~~HV,~~LA,~~LE,~~LI,~~LO,~~LU,~~LV,~~MA,~~ME,~~MI,~~MO,~~MU,~~NA,~~HNA,~~NAH,~~NE",
    "~~NI,~~NO,~~NU,~~NV,~~QUA,~~QUE,~~QUI,~~QUO,~~QUU,~~QUV,~~SA,~~S,~~SE,~~SI,~~SO,~~SU,~~SV",
    "~~DA,~~TA,~~DE,~~TE,~~DI,~~TI,~~DO,~~DU,~~DV,~~DLA,~~TLA,~~TLE,~~TLI,~~TLO,~~TLU,~~TLV",
    "~~TSA,~~TSE,~~TSI,~~TSO,~~TSU,~~TSV,~~WA,~~WE,~~WI,~~WO,~~WU,~~WV,~~YA,~~YE,~~YI,~~YO,~~YU",
    "~~YV,~~MV,,,~SMALL LETTER YE,~~~YI,~~~YO,~~~YU,~~~YV,~~~MV"]⟩,
  -- Unified Canadian Aboriginal Syllabics
  ⟨0x1400, [
    "CANADIAN SYLLABICS HYPHEN,~~E,~~AAI,~~I,~~II,~~O,~~OO,~~Y-CREE OO,~~CARRIER EE,~~~I,~~A",
    "~~AA,~~WE,~~WEST-CREE WE,~~WI,~~WEST-CREE WI,~~WII,~~WEST-CREE WII,~~WO,~~WEST-CREE WO",
    "~~WOO,~~WEST-CREE WOO,~~NASKAPI~,~~WA,~~WEST-CREE WA,~~WAA,~~WEST-CREE WAA,~~NASKAPI~,~~AI",
    "~~Y-CREE W,~~GLOTTAL STOP,~~FINAL ACUTE,~~~GRAVE,~~~BOTTOM HALF RING,~~~TOP~~,~~~RIGHT~~",
    "~~~RING,~~~DOUBLE ACUTE,~~~~SHORT VERTICAL STROKES,~~~MIDDLE DOT,~~~SHORT HORIZONTAL STROKE",
    "~~~PLUS,~~~DOWN TACK,~~EN,~~IN,~~ON,~~AN,~~PE,~~PAAI,~~PI,~~PII,~~PO,~~POO,~~Y-CREE POO",
    "~~CARRIER HEE,~~~HI,~~PA,~~PAA,~~PWE,~~WEST-CREE PWE,~~PWI,~~WEST-CREE PWI,~~PWII",
    "~~WEST-CREE PWII,~~PWO,~~WEST-CREE PWO,~~PWOO,~~WEST-CREE PWOO,~~PWA,~~WEST-CREE PWA,~~PWAA",
    "~~WEST-CREE PWAA,~~Y-CREE~,~~P,~~WEST-CREE P,~~CARRIER H,~~TE,~~TAAI,~~TI,~~TII,~~TO,~~TOO",
    "~~Y-CREE TOO,~~CARRIER DEE,~~~DI,~~TA,~~TAA,~~TWE,~~WEST-CREE TWE,~~TWI,~~WEST-CREE TWI",
    "~~TWII,~~WEST-CREE TWII,~~TWO,~~WEST-CREE TWO,~~TWOO,~~WEST-CREE TWOO,~~TWA,~~WEST-CREE TWA",
    "~~TWAA,~~WEST-CREE TWAA,~~NASKAPI~,~~T,~~TTE,~~TTI,~~TTO,~~TTA,~~KE,~~KAAI,~~KI,~~KII,~~KO",
    "~~KOO,~~Y-CREE KOO,~~KA,~~KAA,~~KWE,~~WEST-CREE KWE,~~KWI,~~WEST-CREE KWI,~~KWII",
    "~~WEST-CREE KWII,~~KWO,~~WEST-CREE KWO,~~KWOO,~~WEST-CREE KWOO,~~KWA,~~WEST-CREE KWA,~~KWAA",
    "~~WEST-CREE KWAA,~~NASKAPI~,~~K,~~KW,~~SOUTH-SLAVEY KEH,~~~KIH,~~~KOH,~~~KAH,~~CE,~~CAAI",
    "~~CI,~~CII,~~CO,~~COO,~~Y-CREE COO,~~CA,~~CAA,~~CWE,~~WEST-CREE CWE,~~CWI,~~WEST-CREE CWI",
    "~~CWII,~~WEST-CREE CWII,~~CWO,~~WEST-CREE CWO,~~CWOO,~~WEST-CREE CWOO,~~CWA,~~WEST-CREE CWA",
    "~~CWAA,~~WEST-CREE CWAA,~~NASKAPI~,~~C,~~SAYISI TH,~~ME,~~MAAI,~~MI,~~MII,~~MO,~~MOO",
    "~~Y-CREE MOO,~~MA,~~MAA,~~MWE,~~WEST-CREE MWE,~~MWI,~~WEST-CREE MWI,~~MWII,~~WEST-CREE MWII",
    "~~MWO,~~WEST-CREE MWO,~~MWOO,~~WEST-CREE MWOO,~~MWA,~~WEST-CREE MWA,~~MWAA,~~WEST-CREE MWAA",
    "~~NASKAPI~,~~M,~~WEST-CREE M,~~MH,~~ATHAPASCAN M,~~SAYISI~,~~NE,~~NAAI,~~NI,~~NII,~~NO",
    "~~NOO,~~Y-CREE NOO,~~NA,~~NAA,~~NWE,~~WEST-CREE NWE,~~NWA,~~WEST-CREE NWA,~~NWAA",
    "~~WEST-CREE NWAA,~~NASKAPI~,~~N,~~CARRIER NG,~~NH,~~LE,~~LAAI,~~LI,~~LII,~~LO,~~LOO",
    "~~Y-CREE LOO,~~LA,~~LAA,~~LWE,~~WEST-CREE LWE,~~LWI,~~WEST-CREE LWI,~~LWII,~~WEST-CREE LWII",
    "~~LWO,~~WEST-CREE LWO,~~LWOO,~~WEST-CREE LWOO,~~LWA,~~WEST-CREE LWA,~~LWAA,~~WEST-CREE LWAA",
    "~~L,~~WEST-CREE L,~~MEDIAL~,~~SE,~~SAAI,~~SI,~~SII,~~SO,~~SOO,~~Y-CREE SOO,~~SA,~~SAA,~~SWE",
    "~~WEST-CREE SWE,~~SWI,~~WEST-CREE SWI,~~SWII,~~WEST-CREE SWII,~~SWO,~~WEST-CREE SWO,~~SWOO",
    "~~WEST-CREE SWOO,~~SWA,~~WEST-CREE SWA,~~SWAA,~~WEST-CREE SWAA,~~NASKAPI~,~~S",
    "~~ATHAPASCAN S,~~SW,~~BLACKFOOT S,~~MOOSE-CREE SK,~~NASKAPI SKW,~~~S-W,~~~SPWA,~~~STWA",
    "~~~SKWA,~~~SCWA,~~SHE,~~SHI,~~SHII,~~SHO,~~SHOO,~~SHA,~~SHAA,~~SHWE,~~WEST-CREE SHWE,~~SHWI",
    "~~WEST-CREE SHWI,~~SHWII,~~WEST-CREE SHWII,~~SHWO,~~WEST-CREE SHWO,~~SHWOO",
    "~~WEST-CREE SHWOO,~~SHWA,~~WEST-CREE SHWA,~~SHWAA,~~WEST-CREE SHWAA,~~SH,~~YE,~~YAAI,~~YI",
    "~~YII,~~YO,~~YOO,~~Y-CREE YOO,~~YA,~~YAA,~~YWE,~~WEST-CREE YWE,~~YWI,~~WEST-CREE YWI,~~YWII",
    "~~WEST-CREE YWII,~~YWO,~~WEST-CREE YWO,~~YWOO,~~WEST-CREE YWOO,~~YWA,~~WEST-CREE YWA,~~YWAA",
    "~~WEST-CREE YWAA,~~NASKAPI~,~~Y,~~BIBLE-CREE Y,~~WEST-CREE~,~~SAYISI YI,~~RE,~~R-CREE RE",
    "~~WEST-CREE LE,~~RAAI,~~RI,~~RII,~~RO,~~ROO,~~WEST-CREE LO,~~RA,~~RAA,~~WEST-CREE LA,~~RWAA",
    "~~WEST-CREE RWAA,~~R,~~WEST-CREE R,~~MEDIAL~,~~FE,~~FAAI,~~FI,~~FII,~~FO,~~FOO,~~FA,~~FAA",
    "~~FWAA,~~WEST-CREE FWAA,~~F,~~THE,~~N-CREE THE,~~THI,~~N-CREE THI,~~THII,~~N-CREE THII",
    "~~THO,~~THOO,~~THA,~~THAA,~~THWAA,~~WEST-CREE THWAA,~~TH,~~TTHE,~~TTHI,~~TTHO,~~TTHA,~~TTH",
    "~~TYE,~~TYI,~~TYO,~~TYA,~~NUNAVIK HE,~~~HI,~~~HII,~~~HO,~~~HOO,~~~HA,~~~HAA,~~~H,~~NUNAVUT~",
    "~~HK,~~QAAI,~~QI,~~QII,~~QO,~~QOO,~~QA,~~QAA,~~Q,~~TLHE,~~TLHI,~~TLHO,~~TLHA,~~WEST-CREE RE",
    "~~~RI,~~~RO,~~~RA,~~NGAAI,~~NGI,~~NGII,~~NGO,~~NGOO,~~NGA,~~NGAA,~~NG,~~NNG,~~SAYISI SHE",
    "~~~SHI,~~~SHO,~~~SHA,~~WOODS-CREE THE,~~~THI,~~~THO,~~~THA,~~~TH,~~LHI,~~LHII,~~LHO,~~LHOO",
    "~~LHA,~~LHAA,~~LH,~~TH-CREE THE,~~~THI,~~~THII,~~~THO,~~~THOO,~~~THA,~~~THAA,~~~TH",
    "~~AIVILIK B,~~BLACKFOOT E,~~~I,~~~O,~~~A,~~~WE,~~~WI,~~~WO,~~~WA,~~~NE,~~~NI,~~~NO,~~~NA",
    "~~~KE,~~~KI,~~~KO,~~~KA,~~SAYISI HE,~~~HI,~~~HO,~~~HA,~~CARRIER GHU,~~~GHO,~~~GHE,~~~GHEE",
    "~~~GHI,~~~GHA,~~~RU,~~~RO,~~~RE,~~~REE,~~~RI,~~~RA,~~~WU,~~~WO,~~~WE,~~~WEE,~~~WI,~~~WA",
    "~~~HWU,~~~HWO,~~~HWE,~~~HWEE,~~~HWI,~~~HWA,~~~THU,~~~THO,~~~THE,~~~THEE,~~~THI,~~~THA",
    "~~~TTU,~~~TTO,~~~TTE,~~~TTEE,~~~TTI,~~~TTA,~~~PU,~~~PO,~~~PE,~~~PEE,~~~PI,~~~PA,~~~P,~~~GU",
    "~~~GO,~~~GE,~~~GEE,~~~GI,~~~GA,~~~KHU,~~~KHO,~~~KHE,~~~KHEE,~~~KHI,~~~KHA,~~~KKU,~~~KKO",
    "~~~KKE,~~~KKEE,~~~KKI,~~~KKA,~~~KK,~~~NU,~~~NO,~~~NE,~~~NEE,~~~NI,~~~NA,~~~MU,~~~MO,~~~ME",
    "~~~MEE,~~~MI,~~~MA,~~~YU,~~~YO,~~~YE,~~~YEE,~~~YI,~~~YA,~~~JU,~~SAYISI~,~~CARRIER JO,~~~JE",
    "~~~JEE,~~~JI,~~SAYISI~,~~CARRIER JA,~~~JJU,~~~JJO,~~~JJE,~~~JJEE,~~~JJI,~~~JJA,~~~LU,~~~LO",
    "~~~LE,~~~LEE,~~~LI,~~~LA,~~~DLU,~~~DLO,~~~DLE,~~~DLEE,~~~DLI,~~~DLA,~~~LHU,~~~LHO,~~~LHE",
    "~~~LHEE,~~~LHI,~~~LHA,~~~TLHU,~~~TLHO,~~~TLHE,~~~TLHEE,~~~TLHI,~~~TLHA,~~~TLU,~~~TLO,~~~TLE",
    "~~~TLEE,~~~TLI,~~~TLA,~~~ZU,~~~ZO,~~~ZE,~~~ZEE,~~~ZI,~~~ZA,~~~Z,~~~INITIAL Z,~~~DZU,~~~DZO",
    "~~~DZE,~~~DZEE,~~~DZI,~~~DZA,~~~SU,~~~SO,~~~SE,~~~SEE,~~~SI,~~~SA,~~~SHU,~~~SHO,~~~SHE",
    "~~~SHEE,~~~SHI,~~~SHA,~~~SH,~~~TSU,~~~TSO,~~~TSE,~~~TSEE,~~~TSI,~~~TSA,~~~CHU,~~~CHO,~~~CHE",
    "~~~CHEE,~~~CHI,~~~CHA,~~~TTSU,~~~TTSO,~~~TTSE,~~~TTSEE,~~~TTSI,~~~TTSA,~~CHI SIGN",
    "~~FULL STOP,~~QAI,~~NGAI,~~NNGI,~~NNGII,~~NNGO,~~NNGOO,~~NNGA,~~NNGAA,~~WOODS-CREE THWEE",
    "~~~THWI,~~~THWII,~~~THWO,~~~THWOO,~~~THWA,~~~THWAA,~~~FINAL TH,~~BLACKFOOT W"]⟩,
  -- Unified Canadian Aboriginal Syllabics Extended
  ⟨0x18b0, [
    "CANADIAN SYLLABICS OY,~~AY,~~AAY,~~WAY,~~POY,~~PAY,~~PWOY,~~TAY,~~KAY,~~KWAY,~~MAY,~~NOY",
    "~~NAY,~~LAY,~~SOY,~~SAY,~~SHOY,~~SHAY,~~SHWOY,~~YOY,~~YAY,~~RAY,~~NWI,~~OJIBWAY NWI,~~NWII",
    "~~OJIBWAY NWII,~~NWO,~~OJIBWAY NWO,~~NWOO,~~OJIBWAY NWOO,~~RWEE,~~RWI,~~RWII,~~RWO,~~RWOO",
    "~~RWA,~~OJIBWAY P,~~~T,~~~K,~~~C,~~~M,~~~N,~~~S,~~~SH,~~EASTERN W,~~WESTERN~",
    "~~FINAL SMALL RING,~~~RAISED DOT,~~R-CREE RWE,~~WEST-CREE LOO,~~~LAA,~~THWE,~~THWA,~~TTHWE",
    "~~TTHOO,~~TTHAA,~~TLHWE,~~TLHOO,~~SAYISI SHWE,~~~SHOO,~~~HOO,~~CARRIER GWU,~~~DENE GEE",
    "~~~GAA,~~~GWA,~~SAYISI JUU,~~CARRIER JWA,~~BEAVER DENE L,~~~~R,~~CARRIER DENTAL S"]⟩,
  -- Cherokee Supplement
  ⟨0xab70, [
    "CHEROKEE SMALL LETTER A,~~~E,~~~I,~~~O,~~~U,~~~V,~~~GA,~~~KA,~~~GE,~~~GI,~~~GO,~~~GU,~~~GV",
    "~~~HA,~~~HE,~~~HI,~~~HO,~~~HU,~~~HV,~~~LA,~~~LE,~~~LI,~~~LO,~~~LU,~~~LV,~~~MA,~~~ME,~~~MI",
    "~~~MO,~~~MU,~~~NA,~~~HNA,~~~NAH,~~~NE,~~~NI,~~~NO,~~~NU,~~~NV,~~~QUA,~~~QUE,~~~QUI,~~~QUO",
    "~~~QUU,~~~QUV,~~~SA,~~~S,~~~SE,~~~SI,~~~SO,~~~SU,~~~SV,~~~DA,~~~TA,~~~DE,~~~TE,~~~DI,~~~TI",
    "~~~DO,~~~DU,~~~DV,~~~DLA,~~~TLA,~~~TLE,~~~TLI,~~~TLO,~~~TLU,~~~TLV,~~~TSA,~~~TSE,~~~TSI",
    "~~~TSO,~~~TSU,~~~TSV,~~~WA,~~~WE,~~~WI,~~~WO,~~~WU,~~~WV,~~~YA"]⟩,
  -- Deseret
  ⟨0x10400, [
    "DESERET CAPITAL LETTER LONG I,~~~~E,~~~~A,~~~~AH,~~~~O,~~~~OO,~~~SHORT I,~~~~E,~~~~A,~~~~AH",
    "~~~~O,~~~~OO,~~~AY,~~~OW,~~~WU,~~~YEE,~~~H,~~~PEE,~~~BEE,~~~TEE,~~~DEE,~~~CHEE,~~~JEE",
    "~~~KAY,~~~GAY,~~~EF,~~~VEE,~~~ETH,~~~THEE,~~~ES,~~~ZEE,~~~ESH,~~~ZHEE,~~~ER,~~~EL,~~~EM",
    "~~~EN,~~~ENG,~~~OI,~~~EW,~SMALL~LONG I,~~~~E,~~~~A,~~~~AH,~~~~O,~~~~OO,~~~SHORT I,~~~~E",
    "~~~~A,~~~~AH,~~~~O,~~~~OO,~~~AY,~~~OW,~~~WU,~~~YEE,~~~H,~~~PEE,~~~BEE,~~~TEE,~~~DEE,~~~CHEE",
    "~~~JEE,~~~KAY,~~~GAY,~~~EF,~~~VEE,~~~ETH,~~~THEE,~~~ES,~~~ZEE,~~~ESH,~~~ZHEE,~~~ER,~~~EL",
    "~~~EM,~~~EN,~~~ENG,~~~OI,~~~EW"]⟩,
  -- Osage
  ⟨0x104b0, [
    "OSAGE CAPITAL LETTER A,~~~AI,~~~AIN,~~~AH,~~~BRA,~~~CHA,~~~EHCHA,~~~E,~~~EIN,~~~HA,~~~HYA",
    "~~~I,~~~KA,~~~EHKA,~~~KYA,~~~LA,~~~MA,~~~NA,~~~O,~~~OIN,~~~PA,~~~EHPA,~~~SA,~~~SHA,~~~TA",
    "~~~EHTA,~~~TSA,~~~EHTSA,~~~TSHA,~~~DHA,~~~U,~~~WA,~~~KHA,~~~GHA,~~~ZA,~~~ZHA,,,,,~SMALL~A",
    "~~~AI,~~~AIN,~~~AH,~~~BRA,~~~CHA,~~~EHCHA,~~~E,~~~EIN,~~~HA,~~~HYA,~~~I,~~~KA,~~~EHKA",
    "~~~KYA,~~~LA,~~~MA,~~~NA,~~~O,~~~OIN,~~~PA,~~~EHPA,~~~SA,~~~SHA,~~~TA,~~~EHTA,~~~TSA",
    "~~~EHTSA,~~~TSHA,~~~DHA,~~~U,~~~WA,~~~KHA,~~~GHA,~~~ZA,~~~ZHA"]⟩,
  -- Unified Canadian Aboriginal Syllabics Extended-A
  ⟨0x11ab0, [
    "CANADIAN SYLLABICS NATTILIK HI,~~~HII,~~~HO,~~~HOO,~~~HA,~~~HAA,~~~SHRI,~~~SHRII,~~~SHRO",
    "~~~SHROO,~~~SHRA,~~~SHRAA,~~SPE,~~SPI,~~SPO,~~SPA"]⟩,
  -- Mayan Numerals
  ⟨0x1d2e0, [
    "MAYAN NUMERAL ZERO,~~ONE,~~TWO,~~THREE,~~FOUR,~~FIVE,~~SIX,~~SEVEN,~~EIGHT,~~NINE,~~TEN",
    "~~ELEVEN,~~TWELVE,~~THIRTEEN,~~FOURTEEN,~~FIFTEEN,~~SIXTEEN,~~SEVENTEEN,~~EIGHTEEN",
    "~~NINETEEN"]⟩]

end AccessScopes.Text
