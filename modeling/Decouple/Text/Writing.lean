import Decouple.Text.CodePoint

/-!
# How code points are written

Letters are told by their script, by the way they are written and by which of their neighbours they
join (version 14 of the standard).
-/

namespace Decouple

/-!
## Marks

A mark is written onto, around or behind the code point before it (version 14 of the standard).
A nonspacing mark takes no room of its own, a spacing one does, and an enclosing one surrounds
what it is written onto.
-/

namespace CodePoint

/-- The nonspacing marks, as closed ranges in increasing order. -/
def nonspacingRanges : List (Nat × Nat) := [
  (768, 879), (1155, 1159), (1425, 1469), (1471, 1471), (1473, 1474), (1476, 1477), (1479, 1479),
  (1552, 1562), (1611, 1631), (1648, 1648), (1750, 1756), (1759, 1764), (1767, 1768),
  (1770, 1773), (1809, 1809), (1840, 1866), (1958, 1968), (2027, 2035), (2045, 2045),
  (2070, 2073), (2075, 2083), (2085, 2087), (2089, 2093), (2137, 2139), (2200, 2207),
  (2250, 2273), (2275, 2306), (2362, 2362), (2364, 2364), (2369, 2376), (2381, 2381),
  (2385, 2391), (2402, 2403), (2433, 2433), (2492, 2492), (2497, 2500), (2509, 2509),
  (2530, 2531), (2558, 2558), (2561, 2562), (2620, 2620), (2625, 2626), (2631, 2632),
  (2635, 2637), (2641, 2641), (2672, 2673), (2677, 2677), (2689, 2690), (2748, 2748),
  (2753, 2757), (2759, 2760), (2765, 2765), (2786, 2787), (2810, 2815), (2817, 2817),
  (2876, 2876), (2879, 2879), (2881, 2884), (2893, 2893), (2901, 2902), (2914, 2915),
  (2946, 2946), (3008, 3008), (3021, 3021), (3072, 3072), (3076, 3076), (3132, 3132),
  (3134, 3136), (3142, 3144), (3146, 3149), (3157, 3158), (3170, 3171), (3201, 3201),
  (3260, 3260), (3263, 3263), (3270, 3270), (3276, 3277), (3298, 3299), (3328, 3329),
  (3387, 3388), (3393, 3396), (3405, 3405), (3426, 3427), (3457, 3457), (3530, 3530),
  (3538, 3540), (3542, 3542), (3633, 3633), (3636, 3642), (3655, 3662), (3761, 3761),
  (3764, 3772), (3784, 3789), (3864, 3865), (3893, 3893), (3895, 3895), (3897, 3897),
  (3953, 3966), (3968, 3972), (3974, 3975), (3981, 3991), (3993, 4028), (4038, 4038),
  (4141, 4144), (4146, 4151), (4153, 4154), (4157, 4158), (4184, 4185), (4190, 4192),
  (4209, 4212), (4226, 4226), (4229, 4230), (4237, 4237), (4253, 4253), (4957, 4959),
  (5906, 5908), (5938, 5939), (5970, 5971), (6002, 6003), (6068, 6069), (6071, 6077),
  (6086, 6086), (6089, 6099), (6109, 6109), (6155, 6157), (6159, 6159), (6277, 6278),
  (6313, 6313), (6432, 6434), (6439, 6440), (6450, 6450), (6457, 6459), (6679, 6680),
  (6683, 6683), (6742, 6742), (6744, 6750), (6752, 6752), (6754, 6754), (6757, 6764),
  (6771, 6780), (6783, 6783), (6832, 6845), (6847, 6862), (6912, 6915), (6964, 6964),
  (6966, 6970), (6972, 6972), (6978, 6978), (7019, 7027), (7040, 7041), (7074, 7077),
  (7080, 7081), (7083, 7085), (7142, 7142), (7144, 7145), (7149, 7149), (7151, 7153),
  (7212, 7219), (7222, 7223), (7376, 7378), (7380, 7392), (7394, 7400), (7405, 7405),
  (7412, 7412), (7416, 7417), (7616, 7679), (8400, 8412), (8417, 8417), (8421, 8432),
  (11503, 11505), (11647, 11647), (11744, 11775), (12330, 12333), (12441, 12442), (42607, 42607),
  (42612, 42621), (42654, 42655), (42736, 42737), (43010, 43010), (43014, 43014), (43019, 43019),
  (43045, 43046), (43052, 43052), (43204, 43205), (43232, 43249), (43263, 43263), (43302, 43309),
  (43335, 43345), (43392, 43394), (43443, 43443), (43446, 43449), (43452, 43453), (43493, 43493),
  (43561, 43566), (43569, 43570), (43573, 43574), (43587, 43587), (43596, 43596), (43644, 43644),
  (43696, 43696), (43698, 43700), (43703, 43704), (43710, 43711), (43713, 43713), (43756, 43757),
  (43766, 43766), (44005, 44005), (44008, 44008), (44013, 44013), (64286, 64286), (65024, 65039),
  (65056, 65071), (66045, 66045), (66272, 66272), (66422, 66426), (68097, 68099), (68101, 68102),
  (68108, 68111), (68152, 68154), (68159, 68159), (68325, 68326), (68900, 68903), (69291, 69292),
  (69446, 69456), (69506, 69509), (69633, 69633), (69688, 69702), (69744, 69744), (69747, 69748),
  (69759, 69761), (69811, 69814), (69817, 69818), (69826, 69826), (69888, 69890), (69927, 69931),
  (69933, 69940), (70003, 70003), (70016, 70017), (70070, 70078), (70089, 70092), (70095, 70095),
  (70191, 70193), (70196, 70196), (70198, 70199), (70206, 70206), (70367, 70367), (70371, 70378),
  (70400, 70401), (70459, 70460), (70464, 70464), (70502, 70508), (70512, 70516), (70712, 70719),
  (70722, 70724), (70726, 70726), (70750, 70750), (70835, 70840), (70842, 70842), (70847, 70848),
  (70850, 70851), (71090, 71093), (71100, 71101), (71103, 71104), (71132, 71133), (71219, 71226),
  (71229, 71229), (71231, 71232), (71339, 71339), (71341, 71341), (71344, 71349), (71351, 71351),
  (71453, 71455), (71458, 71461), (71463, 71467), (71727, 71735), (71737, 71738), (71995, 71996),
  (71998, 71998), (72003, 72003), (72148, 72151), (72154, 72155), (72160, 72160), (72193, 72202),
  (72243, 72248), (72251, 72254), (72263, 72263), (72273, 72278), (72281, 72283), (72330, 72342),
  (72344, 72345), (72752, 72758), (72760, 72765), (72767, 72767), (72850, 72871), (72874, 72880),
  (72882, 72883), (72885, 72886), (73009, 73014), (73018, 73018), (73020, 73021), (73023, 73029),
  (73031, 73031), (73104, 73105), (73109, 73109), (73111, 73111), (73459, 73460), (92912, 92916),
  (92976, 92982), (94031, 94031), (94095, 94098), (94180, 94180), (113821, 113822),
  (118528, 118573), (118576, 118598), (119143, 119145), (119163, 119170), (119173, 119179),
  (119210, 119213), (119362, 119364), (121344, 121398), (121403, 121452), (121461, 121461),
  (121476, 121476), (121499, 121503), (121505, 121519), (122880, 122886), (122888, 122904),
  (122907, 122913), (122915, 122916), (122918, 122922), (123184, 123190), (123566, 123566),
  (123628, 123631), (125136, 125142), (125252, 125258), (917760, 917999)]

/-- The spacing marks. -/
def spacingRanges : List (Nat × Nat) := [
  (2307, 2307), (2363, 2363), (2366, 2368), (2377, 2380), (2382, 2383), (2434, 2435),
  (2494, 2496), (2503, 2504), (2507, 2508), (2519, 2519), (2563, 2563), (2622, 2624),
  (2691, 2691), (2750, 2752), (2761, 2761), (2763, 2764), (2818, 2819), (2878, 2878),
  (2880, 2880), (2887, 2888), (2891, 2892), (2903, 2903), (3006, 3007), (3009, 3010),
  (3014, 3016), (3018, 3020), (3031, 3031), (3073, 3075), (3137, 3140), (3202, 3203),
  (3262, 3262), (3264, 3268), (3271, 3272), (3274, 3275), (3285, 3286), (3330, 3331),
  (3390, 3392), (3398, 3400), (3402, 3404), (3415, 3415), (3458, 3459), (3535, 3537),
  (3544, 3551), (3570, 3571), (3902, 3903), (3967, 3967), (4139, 4140), (4145, 4145),
  (4152, 4152), (4155, 4156), (4182, 4183), (4194, 4196), (4199, 4205), (4227, 4228),
  (4231, 4236), (4239, 4239), (4250, 4252), (5909, 5909), (5940, 5940), (6070, 6070),
  (6078, 6085), (6087, 6088), (6435, 6438), (6441, 6443), (6448, 6449), (6451, 6456),
  (6681, 6682), (6741, 6741), (6743, 6743), (6753, 6753), (6755, 6756), (6765, 6770),
  (6916, 6916), (6965, 6965), (6971, 6971), (6973, 6977), (6979, 6980), (7042, 7042),
  (7073, 7073), (7078, 7079), (7082, 7082), (7143, 7143), (7146, 7148), (7150, 7150),
  (7154, 7155), (7204, 7211), (7220, 7221), (7393, 7393), (7415, 7415), (12334, 12335),
  (43043, 43044), (43047, 43047), (43136, 43137), (43188, 43203), (43346, 43347), (43395, 43395),
  (43444, 43445), (43450, 43451), (43454, 43456), (43567, 43568), (43571, 43572), (43597, 43597),
  (43643, 43643), (43645, 43645), (43755, 43755), (43758, 43759), (43765, 43765), (44003, 44004),
  (44006, 44007), (44009, 44010), (44012, 44012), (69632, 69632), (69634, 69634), (69762, 69762),
  (69808, 69810), (69815, 69816), (69932, 69932), (69957, 69958), (70018, 70018), (70067, 70069),
  (70079, 70080), (70094, 70094), (70188, 70190), (70194, 70195), (70197, 70197), (70368, 70370),
  (70402, 70403), (70462, 70463), (70465, 70468), (70471, 70472), (70475, 70477), (70487, 70487),
  (70498, 70499), (70709, 70711), (70720, 70721), (70725, 70725), (70832, 70834), (70841, 70841),
  (70843, 70846), (70849, 70849), (71087, 71089), (71096, 71099), (71102, 71102), (71216, 71218),
  (71227, 71228), (71230, 71230), (71340, 71340), (71342, 71343), (71350, 71350), (71456, 71457),
  (71462, 71462), (71724, 71726), (71736, 71736), (71984, 71989), (71991, 71992), (71997, 71997),
  (72000, 72000), (72002, 72002), (72145, 72147), (72156, 72159), (72164, 72164), (72249, 72249),
  (72279, 72280), (72343, 72343), (72751, 72751), (72766, 72766), (72873, 72873), (72881, 72881),
  (72884, 72884), (73098, 73102), (73107, 73108), (73110, 73110), (73461, 73462), (94033, 94087),
  (94192, 94193), (119141, 119142), (119149, 119154)]

/-- The enclosing marks. -/
def enclosingRanges : List (Nat × Nat) := [
  (1160, 1161), (6846, 6846), (8413, 8416), (8418, 8420), (42608, 42610)]

/-- Nonspacing marks. -/
def isNonspacingMark (c : CodePoint) : Bool := inRanges nonspacingRanges c.val

/-- Marks. -/
def isMark (c : CodePoint) : Bool :=
  c.isNonspacingMark || inRanges spacingRanges c.val || inRanges enclosingRanges c.val

end CodePoint

/-! ## Scripts -/

namespace CodePoint

/-- The Greek code points, as closed ranges in increasing order. -/
def greekRanges : List (Nat × Nat) := [
  (880, 883), (885, 887), (890, 893), (895, 895), (900, 900), (902, 902), (904, 906), (908, 908),
  (910, 929), (931, 993), (1008, 1023), (7462, 7466), (7517, 7521), (7526, 7530), (7615, 7615),
  (7936, 7957), (7960, 7965), (7968, 8005), (8008, 8013), (8016, 8023), (8025, 8025),
  (8027, 8027), (8029, 8029), (8031, 8061), (8064, 8116), (8118, 8132), (8134, 8147),
  (8150, 8155), (8157, 8175), (8178, 8180), (8182, 8190), (8486, 8486), (43877, 43877),
  (65856, 65934), (65952, 65952), (119296, 119365)]

/-- The Hebrew code points. -/
def hebrewRanges : List (Nat × Nat) := [
  (1425, 1479), (1488, 1514), (1519, 1524), (64285, 64310), (64312, 64316), (64318, 64318),
  (64320, 64321), (64323, 64324), (64326, 64335)]

/-- The code points of the Japanese syllabaries. -/
def kanaRanges : List (Nat × Nat) := [
  (12353, 12438), (12445, 12447), (12449, 12538), (12541, 12543), (12784, 12799), (13008, 13054),
  (13056, 13143), (65382, 65391), (65393, 65437), (110576, 110579), (110581, 110587),
  (110589, 110590), (110592, 110882), (110928, 110930), (110948, 110951), (127488, 127488)]

/-- The ideographs. -/
def ideographRanges : List (Nat × Nat) := [
  (11904, 11929), (11931, 12019), (12032, 12245), (12293, 12293), (12295, 12295), (12321, 12329),
  (12344, 12347), (13312, 19903), (19968, 40959), (63744, 64109), (64112, 64217), (94178, 94179),
  (94192, 94193), (131072, 173791), (173824, 177976), (177984, 178205), (178208, 183969),
  (183984, 191456), (194560, 195101), (196608, 201546)]

/-- Greek code points. -/
def isGreek (c : CodePoint) : Bool := inRanges greekRanges c.val

/-- Hebrew code points. -/
def isHebrew (c : CodePoint) : Bool := inRanges hebrewRanges c.val

/-- Code points of the scripts that Japanese is written in. -/
def isJapanese (c : CodePoint) : Bool :=
  inRanges kanaRanges c.val || inRanges ideographRanges c.val

end CodePoint

/-!
## Directions

Which way a code point is written.  Of the code points without a direction of their own only those are
told from ones that run to the right that a name may hold.
-/

/-- Which way a code point is written. -/
inductive Direction where
  | rightward
  | leftward
  /-- A digit that is written rightward in any text. -/
  | digit
  /-- A digit that belongs to text that is written leftward. -/
  | leftwardDigit
  /-- A mark, which goes with what it is written onto. -/
  | mark
  | neutral
  deriving DecidableEq

namespace CodePoint

/-- The letters of scripts that are written leftward, as closed ranges in increasing order. -/
def leftwardRanges : List (Nat × Nat) := [
  (1470, 1470), (1472, 1472), (1475, 1475), (1478, 1478), (1488, 1514), (1519, 1524),
  (1544, 1544), (1547, 1547), (1549, 1549), (1563, 1610), (1645, 1647), (1649, 1749),
  (1765, 1766), (1774, 1775), (1786, 1805), (1807, 1808), (1810, 1839), (1869, 1957),
  (1969, 1969), (1984, 2026), (2036, 2037), (2042, 2042), (2046, 2069), (2074, 2074),
  (2084, 2084), (2088, 2088), (2096, 2110), (2112, 2136), (2142, 2142), (2144, 2154),
  (2160, 2190), (2208, 2249), (8207, 8207), (64285, 64285), (64287, 64296), (64298, 64310),
  (64312, 64316), (64318, 64318), (64320, 64321), (64323, 64324), (64326, 64450), (64467, 64829),
  (64848, 64911), (64914, 64967), (65008, 65020), (65136, 65140), (65142, 65276), (67584, 67589),
  (67592, 67592), (67594, 67637), (67639, 67640), (67644, 67644), (67647, 67669), (67671, 67742),
  (67751, 67759), (67808, 67826), (67828, 67829), (67835, 67867), (67872, 67897), (67903, 67903),
  (67968, 68023), (68028, 68047), (68050, 68096), (68112, 68115), (68117, 68119), (68121, 68149),
  (68160, 68168), (68176, 68184), (68192, 68255), (68288, 68324), (68331, 68342), (68352, 68405),
  (68416, 68437), (68440, 68466), (68472, 68497), (68505, 68508), (68521, 68527), (68608, 68680),
  (68736, 68786), (68800, 68850), (68858, 68899), (69248, 69289), (69293, 69293), (69296, 69297),
  (69376, 69415), (69424, 69445), (69457, 69465), (69488, 69505), (69510, 69513), (69552, 69579),
  (69600, 69622), (124928, 125124), (125127, 125135), (125184, 125251), (125259, 125259),
  (125264, 125273), (125278, 125279), (126065, 126132), (126209, 126269), (126464, 126467),
  (126469, 126495), (126497, 126498), (126500, 126500), (126503, 126503), (126505, 126514),
  (126516, 126519), (126521, 126521), (126523, 126523), (126530, 126530), (126535, 126535),
  (126537, 126537), (126539, 126539), (126541, 126543), (126545, 126546), (126548, 126548),
  (126551, 126551), (126553, 126553), (126555, 126555), (126557, 126557), (126559, 126559),
  (126561, 126562), (126564, 126564), (126567, 126570), (126572, 126578), (126580, 126583),
  (126585, 126588), (126590, 126590), (126592, 126601), (126603, 126619), (126625, 126627),
  (126629, 126633), (126635, 126651)]

/-- The digits that belong to text that is written leftward. -/
def leftwardDigitRanges : List (Nat × Nat) := [
  (1536, 1541), (1632, 1641), (1643, 1644), (1757, 1757), (2192, 2193), (2274, 2274),
  (68912, 68921), (69216, 69246)]

/-- The digits that are written rightward in any text. -/
def digitRanges : List (Nat × Nat) := [
  (48, 57), (178, 179), (185, 185), (1776, 1785), (8304, 8304), (8308, 8313), (8320, 8329),
  (9352, 9371), (65296, 65305), (66273, 66299), (120782, 120831), (127232, 127242),
  (130032, 130041)]

/-- The nonspacing marks that are written rightward by themselves. -/
def rightwardMarkRanges : List (Nat × Nat) := [
  (3263, 3263), (3270, 3270), (72199, 72200), (72767, 72767)]

/-- The code points of names that have no direction. -/
def neutralRanges : List (Nat × Nat) := [
  (45, 45), (183, 183), (697, 698), (710, 719), (748, 748), (885, 885), (8204, 8205),
  (11823, 11823), (12539, 12539), (42623, 42623), (42775, 42783), (42888, 42888)]

/-- Which way a code point is written. -/
def direction (c : CodePoint) : Direction :=
  if inRanges leftwardRanges c.val then .leftward
  else if inRanges leftwardDigitRanges c.val then .leftwardDigit
  else if inRanges digitRanges c.val then .digit
  else if inRanges neutralRanges c.val then .neutral
  else if c.isNonspacingMark && !inRanges rightwardMarkRanges c.val then .mark
  else .rightward

end CodePoint

/-!
## Joining

In a cursive script a letter joins the letter before it, the letter after it, or both.  Marks do not
come between.
-/

namespace CodePoint

/-- The letters that join on both sides, as closed ranges in increasing order. -/
def dualJoiningRanges : List (Nat × Nat) := [
  (1568, 1568), (1574, 1574), (1576, 1576), (1578, 1582), (1587, 1599), (1601, 1607),
  (1609, 1610), (1646, 1647), (1656, 1671), (1690, 1727), (1729, 1730), (1740, 1740),
  (1742, 1742), (1744, 1745), (1786, 1788), (1791, 1791), (1810, 1812), (1818, 1821),
  (1823, 1831), (1833, 1833), (1835, 1835), (1837, 1838), (1870, 1880), (1884, 1898),
  (1901, 1904), (1906, 1906), (1909, 1911), (1914, 1919), (1994, 2026), (2113, 2117),
  (2120, 2120), (2122, 2131), (2133, 2133), (2144, 2144), (2146, 2149), (2152, 2152),
  (2182, 2182), (2185, 2189), (2208, 2217), (2223, 2224), (2227, 2232), (2234, 2248),
  (6151, 6151), (6176, 6264), (6279, 6312), (6314, 6314), (43072, 43121), (68288, 68292),
  (68307, 68310), (68312, 68316), (68318, 68320), (68331, 68334), (68480, 68480), (68482, 68482),
  (68486, 68488), (68490, 68491), (68493, 68493), (68496, 68496), (68525, 68526), (68865, 68897),
  (68899, 68899), (69424, 69426), (69428, 69444), (69457, 69459), (69488, 69491), (69494, 69505),
  (69552, 69552), (69554, 69555), (69560, 69560), (69563, 69564), (69566, 69567), (69569, 69569),
  (69572, 69572), (69578, 69578), (125184, 125251)]

/-- The letters that join only the letter after them. -/
def forwardJoiningRanges : List (Nat × Nat) := [
  (43122, 43122), (68301, 68301), (68311, 68311), (68864, 68864), (69579, 69579)]

/-- The letters that join only the letter before them. -/
def backwardJoiningRanges : List (Nat × Nat) := [
  (1570, 1573), (1575, 1575), (1577, 1577), (1583, 1586), (1608, 1608), (1649, 1651),
  (1653, 1655), (1672, 1689), (1728, 1728), (1731, 1739), (1741, 1741), (1743, 1743),
  (1746, 1747), (1749, 1749), (1774, 1775), (1808, 1808), (1813, 1817), (1822, 1822),
  (1832, 1832), (1834, 1834), (1836, 1836), (1839, 1839), (1869, 1869), (1881, 1883),
  (1899, 1900), (1905, 1905), (1907, 1908), (1912, 1913), (2112, 2112), (2118, 2119),
  (2121, 2121), (2132, 2132), (2134, 2136), (2151, 2151), (2153, 2154), (2160, 2178),
  (2190, 2190), (2218, 2220), (2222, 2222), (2225, 2226), (2233, 2233), (68293, 68293),
  (68295, 68295), (68297, 68298), (68302, 68306), (68317, 68317), (68321, 68321), (68324, 68324),
  (68335, 68335), (68481, 68481), (68483, 68485), (68489, 68489), (68492, 68492), (68494, 68495),
  (68497, 68497), (68521, 68524), (68898, 68898), (69427, 69427), (69460, 69460), (69492, 69493),
  (69556, 69558), (69561, 69562), (69565, 69565), (69570, 69571), (69577, 69577)]

/-- Letters that join the letter after them. -/
def joinsNext (c : CodePoint) : Bool :=
  inRanges dualJoiningRanges c.val || inRanges forwardJoiningRanges c.val

/-- Letters that join the letter before them. -/
def joinsPrevious (c : CodePoint) : Bool :=
  inRanges dualJoiningRanges c.val || inRanges backwardJoiningRanges c.val

/-- Code points that joining looks through. -/
def isTransparent (c : CodePoint) : Bool :=
  c.isNonspacingMark && c.val ≠ 0x1171E || c.val = 0x1E94B

end CodePoint

end Decouple
