import Widgetry.Text.Hidden

/-!
Marks that combine with the character before them, and the order in which several of them stand.

## Sections

1. Marks.
2. Their order.
-/

namespace Widgetry.Text

/-! ## 1. Marks -/

/-- Runs of the characters in the category M. -/
def markRuns : List Run :=
  [⟨768, 879, 1⟩, ⟨1155, 1161, 1⟩, ⟨1425, 1469, 1⟩, ⟨1471, 1471, 1⟩, ⟨1473, 1474, 1⟩,
    ⟨1476, 1477, 1⟩, ⟨1479, 1479, 1⟩, ⟨1552, 1562, 1⟩, ⟨1611, 1631, 1⟩, ⟨1648, 1648, 1⟩,
    ⟨1750, 1756, 1⟩, ⟨1759, 1764, 1⟩, ⟨1767, 1768, 1⟩, ⟨1770, 1773, 1⟩, ⟨1809, 1809, 1⟩,
    ⟨1840, 1866, 1⟩, ⟨1958, 1968, 1⟩, ⟨2027, 2035, 1⟩, ⟨2045, 2045, 1⟩, ⟨2070, 2073, 1⟩,
    ⟨2075, 2083, 1⟩, ⟨2085, 2087, 1⟩, ⟨2089, 2093, 1⟩, ⟨2137, 2139, 1⟩, ⟨2199, 2207, 1⟩,
    ⟨2250, 2273, 1⟩, ⟨2275, 2307, 1⟩, ⟨2362, 2364, 1⟩, ⟨2366, 2383, 1⟩, ⟨2385, 2391, 1⟩,
    ⟨2402, 2403, 1⟩, ⟨2433, 2435, 1⟩, ⟨2492, 2492, 1⟩, ⟨2494, 2500, 1⟩, ⟨2503, 2504, 1⟩,
    ⟨2507, 2509, 1⟩, ⟨2519, 2519, 1⟩, ⟨2530, 2531, 1⟩, ⟨2558, 2558, 1⟩, ⟨2561, 2563, 1⟩,
    ⟨2620, 2620, 1⟩, ⟨2622, 2626, 1⟩, ⟨2631, 2632, 1⟩, ⟨2635, 2637, 1⟩, ⟨2641, 2641, 1⟩,
    ⟨2672, 2673, 1⟩, ⟨2677, 2677, 1⟩, ⟨2689, 2691, 1⟩, ⟨2748, 2748, 1⟩, ⟨2750, 2757, 1⟩,
    ⟨2759, 2761, 1⟩, ⟨2763, 2765, 1⟩, ⟨2786, 2787, 1⟩, ⟨2810, 2815, 1⟩, ⟨2817, 2819, 1⟩,
    ⟨2876, 2876, 1⟩, ⟨2878, 2884, 1⟩, ⟨2887, 2888, 1⟩, ⟨2891, 2893, 1⟩, ⟨2901, 2903, 1⟩,
    ⟨2914, 2915, 1⟩, ⟨2946, 2946, 1⟩, ⟨3006, 3010, 1⟩, ⟨3014, 3016, 1⟩, ⟨3018, 3021, 1⟩,
    ⟨3031, 3031, 1⟩, ⟨3072, 3076, 1⟩, ⟨3132, 3132, 1⟩, ⟨3134, 3140, 1⟩, ⟨3142, 3144, 1⟩,
    ⟨3146, 3149, 1⟩, ⟨3157, 3158, 1⟩, ⟨3170, 3171, 1⟩, ⟨3201, 3203, 1⟩, ⟨3260, 3260, 1⟩,
    ⟨3262, 3268, 1⟩, ⟨3270, 3272, 1⟩, ⟨3274, 3277, 1⟩, ⟨3285, 3286, 1⟩, ⟨3298, 3299, 1⟩,
    ⟨3315, 3315, 1⟩, ⟨3328, 3331, 1⟩, ⟨3387, 3388, 1⟩, ⟨3390, 3396, 1⟩, ⟨3398, 3400, 1⟩,
    ⟨3402, 3405, 1⟩, ⟨3415, 3415, 1⟩, ⟨3426, 3427, 1⟩, ⟨3457, 3459, 1⟩, ⟨3530, 3530, 1⟩,
    ⟨3535, 3540, 1⟩, ⟨3542, 3542, 1⟩, ⟨3544, 3551, 1⟩, ⟨3570, 3571, 1⟩, ⟨3633, 3633, 1⟩,
    ⟨3636, 3642, 1⟩, ⟨3655, 3662, 1⟩, ⟨3761, 3761, 1⟩, ⟨3764, 3772, 1⟩, ⟨3784, 3790, 1⟩,
    ⟨3864, 3865, 1⟩, ⟨3893, 3897, 2⟩, ⟨3902, 3903, 1⟩, ⟨3953, 3972, 1⟩, ⟨3974, 3975, 1⟩,
    ⟨3981, 3991, 1⟩, ⟨3993, 4028, 1⟩, ⟨4038, 4038, 1⟩, ⟨4139, 4158, 1⟩, ⟨4182, 4185, 1⟩,
    ⟨4190, 4192, 1⟩, ⟨4194, 4196, 1⟩, ⟨4199, 4205, 1⟩, ⟨4209, 4212, 1⟩, ⟨4226, 4237, 1⟩,
    ⟨4239, 4239, 1⟩, ⟨4250, 4253, 1⟩, ⟨4957, 4959, 1⟩, ⟨5906, 5909, 1⟩, ⟨5938, 5940, 1⟩,
    ⟨5970, 5971, 1⟩, ⟨6002, 6003, 1⟩, ⟨6068, 6099, 1⟩, ⟨6109, 6109, 1⟩, ⟨6155, 6157, 1⟩,
    ⟨6159, 6159, 1⟩, ⟨6277, 6278, 1⟩, ⟨6313, 6313, 1⟩, ⟨6432, 6443, 1⟩, ⟨6448, 6459, 1⟩,
    ⟨6679, 6683, 1⟩, ⟨6741, 6750, 1⟩, ⟨6752, 6780, 1⟩, ⟨6783, 6783, 1⟩, ⟨6832, 6877, 1⟩,
    ⟨6880, 6891, 1⟩, ⟨6912, 6916, 1⟩, ⟨6964, 6980, 1⟩, ⟨7019, 7027, 1⟩, ⟨7040, 7042, 1⟩,
    ⟨7073, 7085, 1⟩, ⟨7142, 7155, 1⟩, ⟨7204, 7223, 1⟩, ⟨7376, 7378, 1⟩, ⟨7380, 7400, 1⟩,
    ⟨7405, 7405, 1⟩, ⟨7412, 7412, 1⟩, ⟨7415, 7417, 1⟩, ⟨7616, 7679, 1⟩, ⟨8400, 8432, 1⟩,
    ⟨11503, 11505, 1⟩, ⟨11647, 11647, 1⟩, ⟨11744, 11775, 1⟩, ⟨12330, 12335, 1⟩, ⟨12441, 12442, 1⟩,
    ⟨42607, 42610, 1⟩, ⟨42612, 42621, 1⟩, ⟨42654, 42655, 1⟩, ⟨42736, 42737, 1⟩, ⟨43010, 43010, 1⟩,
    ⟨43014, 43014, 1⟩, ⟨43019, 43019, 1⟩, ⟨43043, 43047, 1⟩, ⟨43052, 43052, 1⟩, ⟨43136, 43137, 1⟩,
    ⟨43188, 43205, 1⟩, ⟨43232, 43249, 1⟩, ⟨43263, 43263, 1⟩, ⟨43302, 43309, 1⟩, ⟨43335, 43347, 1⟩,
    ⟨43392, 43395, 1⟩, ⟨43443, 43456, 1⟩, ⟨43493, 43493, 1⟩, ⟨43561, 43574, 1⟩, ⟨43587, 43587, 1⟩,
    ⟨43596, 43597, 1⟩, ⟨43643, 43645, 1⟩, ⟨43696, 43696, 1⟩, ⟨43698, 43700, 1⟩, ⟨43703, 43704, 1⟩,
    ⟨43710, 43711, 1⟩, ⟨43713, 43713, 1⟩, ⟨43755, 43759, 1⟩, ⟨43765, 43766, 1⟩, ⟨44003, 44010, 1⟩,
    ⟨44012, 44013, 1⟩, ⟨64286, 64286, 1⟩, ⟨65024, 65039, 1⟩, ⟨65056, 65071, 1⟩, ⟨66045, 66045, 1⟩,
    ⟨66272, 66272, 1⟩, ⟨66422, 66426, 1⟩, ⟨68097, 68099, 1⟩, ⟨68101, 68102, 1⟩, ⟨68108, 68111, 1⟩,
    ⟨68152, 68154, 1⟩, ⟨68159, 68159, 1⟩, ⟨68325, 68326, 1⟩, ⟨68900, 68903, 1⟩, ⟨68969, 68973, 1⟩,
    ⟨69291, 69292, 1⟩, ⟨69370, 69375, 1⟩, ⟨69446, 69456, 1⟩, ⟨69506, 69509, 1⟩, ⟨69632, 69634, 1⟩,
    ⟨69688, 69702, 1⟩, ⟨69744, 69744, 1⟩, ⟨69747, 69748, 1⟩, ⟨69759, 69762, 1⟩, ⟨69808, 69818, 1⟩,
    ⟨69826, 69826, 1⟩, ⟨69888, 69890, 1⟩, ⟨69927, 69940, 1⟩, ⟨69957, 69958, 1⟩, ⟨70003, 70003, 1⟩,
    ⟨70016, 70018, 1⟩, ⟨70067, 70080, 1⟩, ⟨70089, 70092, 1⟩, ⟨70094, 70095, 1⟩, ⟨70188, 70199, 1⟩,
    ⟨70206, 70206, 1⟩, ⟨70209, 70209, 1⟩, ⟨70367, 70378, 1⟩, ⟨70400, 70403, 1⟩, ⟨70459, 70460, 1⟩,
    ⟨70462, 70468, 1⟩, ⟨70471, 70472, 1⟩, ⟨70475, 70477, 1⟩, ⟨70487, 70487, 1⟩, ⟨70498, 70499, 1⟩,
    ⟨70502, 70508, 1⟩, ⟨70512, 70516, 1⟩, ⟨70584, 70592, 1⟩, ⟨70594, 70594, 1⟩, ⟨70597, 70597, 1⟩,
    ⟨70599, 70602, 1⟩, ⟨70604, 70608, 1⟩, ⟨70610, 70610, 1⟩, ⟨70625, 70626, 1⟩, ⟨70709, 70726, 1⟩,
    ⟨70750, 70750, 1⟩, ⟨70832, 70851, 1⟩, ⟨71087, 71093, 1⟩, ⟨71096, 71104, 1⟩, ⟨71132, 71133, 1⟩,
    ⟨71216, 71232, 1⟩, ⟨71339, 71351, 1⟩, ⟨71453, 71467, 1⟩, ⟨71724, 71738, 1⟩, ⟨71984, 71989, 1⟩,
    ⟨71991, 71992, 1⟩, ⟨71995, 71998, 1⟩, ⟨72000, 72000, 1⟩, ⟨72002, 72003, 1⟩, ⟨72145, 72151, 1⟩,
    ⟨72154, 72160, 1⟩, ⟨72164, 72164, 1⟩, ⟨72193, 72202, 1⟩, ⟨72243, 72249, 1⟩, ⟨72251, 72254, 1⟩,
    ⟨72263, 72263, 1⟩, ⟨72273, 72283, 1⟩, ⟨72330, 72345, 1⟩, ⟨72544, 72551, 1⟩, ⟨72751, 72758, 1⟩,
    ⟨72760, 72767, 1⟩, ⟨72850, 72871, 1⟩, ⟨72873, 72886, 1⟩, ⟨73009, 73014, 1⟩, ⟨73018, 73018, 1⟩,
    ⟨73020, 73021, 1⟩, ⟨73023, 73029, 1⟩, ⟨73031, 73031, 1⟩, ⟨73098, 73102, 1⟩, ⟨73104, 73105, 1⟩,
    ⟨73107, 73111, 1⟩, ⟨73459, 73462, 1⟩, ⟨73472, 73473, 1⟩, ⟨73475, 73475, 1⟩, ⟨73524, 73530, 1⟩,
    ⟨73534, 73538, 1⟩, ⟨73562, 73562, 1⟩, ⟨78912, 78912, 1⟩, ⟨78919, 78933, 1⟩, ⟨90398, 90415, 1⟩,
    ⟨92912, 92916, 1⟩, ⟨92976, 92982, 1⟩, ⟨94031, 94031, 1⟩, ⟨94033, 94087, 1⟩, ⟨94095, 94098, 1⟩,
    ⟨94180, 94180, 1⟩, ⟨94192, 94193, 1⟩, ⟨113821, 113822, 1⟩, ⟨118528, 118573, 1⟩,
    ⟨118576, 118598, 1⟩, ⟨119141, 119145, 1⟩, ⟨119149, 119154, 1⟩, ⟨119163, 119170, 1⟩,
    ⟨119173, 119179, 1⟩, ⟨119210, 119213, 1⟩, ⟨119362, 119364, 1⟩, ⟨121344, 121398, 1⟩,
    ⟨121403, 121452, 1⟩, ⟨121461, 121461, 1⟩, ⟨121476, 121476, 1⟩, ⟨121499, 121503, 1⟩,
    ⟨121505, 121519, 1⟩, ⟨122880, 122886, 1⟩, ⟨122888, 122904, 1⟩, ⟨122907, 122913, 1⟩,
    ⟨122915, 122916, 1⟩, ⟨122918, 122922, 1⟩, ⟨123023, 123023, 1⟩, ⟨123184, 123190, 1⟩,
    ⟨123566, 123566, 1⟩, ⟨123628, 123631, 1⟩, ⟨124140, 124143, 1⟩, ⟨124398, 124399, 1⟩,
    ⟨124643, 124643, 1⟩, ⟨124646, 124646, 1⟩, ⟨124654, 124655, 1⟩, ⟨124661, 124661, 1⟩,
    ⟨125136, 125142, 1⟩, ⟨125252, 125258, 1⟩, ⟨917760, 917999, 1⟩]

/-- Runs of the spacing marks among the marks without a form of their own. -/
def spacingRuns : List Run :=
  [⟨2494, 2494, 1⟩, ⟨2519, 2519, 1⟩, ⟨2878, 2878, 1⟩, ⟨2903, 2903, 1⟩, ⟨3006, 3006, 1⟩,
    ⟨3031, 3031, 1⟩, ⟨3264, 3266, 2⟩, ⟨3271, 3272, 1⟩, ⟨3274, 3275, 1⟩, ⟨3285, 3286, 1⟩,
    ⟨3390, 3390, 1⟩, ⟨3415, 3415, 1⟩, ⟨3535, 3535, 1⟩, ⟨3551, 3551, 1⟩, ⟨5909, 5909, 1⟩,
    ⟨5940, 5940, 1⟩, ⟨6965, 6965, 1⟩, ⟨6971, 6973, 2⟩, ⟨6979, 6980, 1⟩, ⟨7082, 7082, 1⟩,
    ⟨7154, 7155, 1⟩, ⟨12334, 12335, 1⟩, ⟨43347, 43347, 1⟩, ⟨43456, 43456, 1⟩, ⟨70080, 70080, 1⟩,
    ⟨70197, 70197, 1⟩, ⟨70462, 70462, 1⟩, ⟨70477, 70477, 1⟩, ⟨70487, 70487, 1⟩, ⟨70584, 70584, 1⟩,
    ⟨70594, 70594, 1⟩, ⟨70597, 70597, 1⟩, ⟨70599, 70601, 1⟩, ⟨70607, 70607, 1⟩, ⟨70832, 70832, 1⟩,
    ⟨70845, 70845, 1⟩, ⟨71087, 71087, 1⟩, ⟨71350, 71350, 1⟩, ⟨71984, 71984, 1⟩, ⟨71997, 71997, 1⟩,
    ⟨73537, 73537, 1⟩, ⟨94192, 94193, 1⟩, ⟨119141, 119142, 1⟩, ⟨119149, 119154, 1⟩]

/-- The category M. -/
def isMark (c : Char) : Bool := inRuns markRuns c

/-- The marks that take no room: those in the categories Mn and Me. -/
def isNonspacing (c : Char) : Bool := isMark c && isHidden c && !inRuns spacingRuns c

/-! ## 2. Their order -/

/-- A run of characters that have one Canonical_Combining_Class. -/
structure Rank where
  run : Run
  order : Nat
  deriving Repr, DecidableEq

/-- Runs of the characters whose Canonical_Combining_Class is not zero. -/
def ranks : List Rank :=
  [⟨⟨768, 788, 1⟩, 230⟩, ⟨⟨789, 789, 1⟩, 232⟩, ⟨⟨790, 793, 1⟩, 220⟩, ⟨⟨794, 794, 1⟩, 232⟩,
    ⟨⟨795, 795, 1⟩, 216⟩, ⟨⟨796, 800, 1⟩, 220⟩, ⟨⟨801, 802, 1⟩, 202⟩, ⟨⟨803, 806, 1⟩, 220⟩,
    ⟨⟨807, 808, 1⟩, 202⟩, ⟨⟨809, 819, 1⟩, 220⟩, ⟨⟨820, 824, 1⟩, 1⟩, ⟨⟨825, 828, 1⟩, 220⟩,
    ⟨⟨829, 835, 1⟩, 230⟩, ⟨⟨837, 837, 1⟩, 240⟩, ⟨⟨838, 838, 1⟩, 230⟩, ⟨⟨839, 841, 1⟩, 220⟩,
    ⟨⟨842, 844, 1⟩, 230⟩, ⟨⟨845, 846, 1⟩, 220⟩, ⟨⟨848, 850, 1⟩, 230⟩, ⟨⟨851, 854, 1⟩, 220⟩,
    ⟨⟨855, 855, 1⟩, 230⟩, ⟨⟨856, 856, 1⟩, 232⟩, ⟨⟨857, 858, 1⟩, 220⟩, ⟨⟨859, 859, 1⟩, 230⟩,
    ⟨⟨860, 860, 1⟩, 233⟩, ⟨⟨861, 862, 1⟩, 234⟩, ⟨⟨863, 863, 1⟩, 233⟩, ⟨⟨864, 865, 1⟩, 234⟩,
    ⟨⟨866, 866, 1⟩, 233⟩, ⟨⟨867, 879, 1⟩, 230⟩, ⟨⟨1155, 1159, 1⟩, 230⟩, ⟨⟨1425, 1425, 1⟩, 220⟩,
    ⟨⟨1426, 1429, 1⟩, 230⟩, ⟨⟨1430, 1430, 1⟩, 220⟩, ⟨⟨1431, 1433, 1⟩, 230⟩, ⟨⟨1434, 1434, 1⟩, 222⟩,
    ⟨⟨1435, 1435, 1⟩, 220⟩, ⟨⟨1436, 1441, 1⟩, 230⟩, ⟨⟨1442, 1447, 1⟩, 220⟩, ⟨⟨1448, 1449, 1⟩, 230⟩,
    ⟨⟨1450, 1450, 1⟩, 220⟩, ⟨⟨1451, 1452, 1⟩, 230⟩, ⟨⟨1453, 1453, 1⟩, 222⟩, ⟨⟨1454, 1454, 1⟩, 228⟩,
    ⟨⟨1455, 1455, 1⟩, 230⟩, ⟨⟨1456, 1456, 1⟩, 10⟩, ⟨⟨1457, 1457, 1⟩, 11⟩, ⟨⟨1458, 1458, 1⟩, 12⟩,
    ⟨⟨1459, 1459, 1⟩, 13⟩, ⟨⟨1460, 1460, 1⟩, 14⟩, ⟨⟨1461, 1461, 1⟩, 15⟩, ⟨⟨1462, 1462, 1⟩, 16⟩,
    ⟨⟨1463, 1463, 1⟩, 17⟩, ⟨⟨1464, 1464, 1⟩, 18⟩, ⟨⟨1465, 1466, 1⟩, 19⟩, ⟨⟨1467, 1467, 1⟩, 20⟩,
    ⟨⟨1468, 1468, 1⟩, 21⟩, ⟨⟨1469, 1469, 1⟩, 22⟩, ⟨⟨1471, 1471, 1⟩, 23⟩, ⟨⟨1473, 1473, 1⟩, 24⟩,
    ⟨⟨1474, 1474, 1⟩, 25⟩, ⟨⟨1476, 1476, 1⟩, 230⟩, ⟨⟨1477, 1477, 1⟩, 220⟩, ⟨⟨1479, 1479, 1⟩, 18⟩,
    ⟨⟨1552, 1559, 1⟩, 230⟩, ⟨⟨1560, 1560, 1⟩, 30⟩, ⟨⟨1561, 1561, 1⟩, 31⟩, ⟨⟨1562, 1562, 1⟩, 32⟩,
    ⟨⟨1611, 1611, 1⟩, 27⟩, ⟨⟨1612, 1612, 1⟩, 28⟩, ⟨⟨1613, 1613, 1⟩, 29⟩, ⟨⟨1614, 1614, 1⟩, 30⟩,
    ⟨⟨1615, 1615, 1⟩, 31⟩, ⟨⟨1616, 1616, 1⟩, 32⟩, ⟨⟨1617, 1617, 1⟩, 33⟩, ⟨⟨1618, 1618, 1⟩, 34⟩,
    ⟨⟨1619, 1620, 1⟩, 230⟩, ⟨⟨1621, 1622, 1⟩, 220⟩, ⟨⟨1623, 1627, 1⟩, 230⟩, ⟨⟨1628, 1628, 1⟩, 220⟩,
    ⟨⟨1629, 1630, 1⟩, 230⟩, ⟨⟨1631, 1631, 1⟩, 220⟩, ⟨⟨1648, 1648, 1⟩, 35⟩, ⟨⟨1750, 1756, 1⟩, 230⟩,
    ⟨⟨1759, 1762, 1⟩, 230⟩, ⟨⟨1763, 1763, 1⟩, 220⟩, ⟨⟨1764, 1764, 1⟩, 230⟩, ⟨⟨1767, 1768, 1⟩, 230⟩,
    ⟨⟨1770, 1770, 1⟩, 220⟩, ⟨⟨1771, 1772, 1⟩, 230⟩, ⟨⟨1773, 1773, 1⟩, 220⟩, ⟨⟨1809, 1809, 1⟩, 36⟩,
    ⟨⟨1840, 1840, 1⟩, 230⟩, ⟨⟨1841, 1841, 1⟩, 220⟩, ⟨⟨1842, 1843, 1⟩, 230⟩, ⟨⟨1844, 1844, 1⟩, 220⟩,
    ⟨⟨1845, 1846, 1⟩, 230⟩, ⟨⟨1847, 1849, 1⟩, 220⟩, ⟨⟨1850, 1850, 1⟩, 230⟩, ⟨⟨1851, 1852, 1⟩, 220⟩,
    ⟨⟨1853, 1853, 1⟩, 230⟩, ⟨⟨1854, 1854, 1⟩, 220⟩, ⟨⟨1855, 1857, 1⟩, 230⟩, ⟨⟨1858, 1864, 2⟩, 220⟩,
    ⟨⟨1859, 1863, 2⟩, 230⟩, ⟨⟨1865, 1866, 1⟩, 230⟩, ⟨⟨2027, 2033, 1⟩, 230⟩, ⟨⟨2034, 2034, 1⟩, 220⟩,
    ⟨⟨2035, 2035, 1⟩, 230⟩, ⟨⟨2045, 2045, 1⟩, 220⟩, ⟨⟨2070, 2073, 1⟩, 230⟩, ⟨⟨2075, 2083, 1⟩, 230⟩,
    ⟨⟨2085, 2087, 1⟩, 230⟩, ⟨⟨2089, 2093, 1⟩, 230⟩, ⟨⟨2137, 2139, 1⟩, 220⟩, ⟨⟨2199, 2200, 1⟩, 230⟩,
    ⟨⟨2201, 2203, 1⟩, 220⟩, ⟨⟨2204, 2207, 1⟩, 230⟩, ⟨⟨2250, 2254, 1⟩, 230⟩, ⟨⟨2255, 2259, 1⟩, 220⟩,
    ⟨⟨2260, 2273, 1⟩, 230⟩, ⟨⟨2275, 2275, 1⟩, 220⟩, ⟨⟨2276, 2277, 1⟩, 230⟩, ⟨⟨2278, 2278, 1⟩, 220⟩,
    ⟨⟨2279, 2280, 1⟩, 230⟩, ⟨⟨2281, 2281, 1⟩, 220⟩, ⟨⟨2282, 2284, 1⟩, 230⟩, ⟨⟨2285, 2287, 1⟩, 220⟩,
    ⟨⟨2288, 2288, 1⟩, 27⟩, ⟨⟨2289, 2289, 1⟩, 28⟩, ⟨⟨2290, 2290, 1⟩, 29⟩, ⟨⟨2291, 2293, 1⟩, 230⟩,
    ⟨⟨2294, 2294, 1⟩, 220⟩, ⟨⟨2295, 2296, 1⟩, 230⟩, ⟨⟨2297, 2298, 1⟩, 220⟩, ⟨⟨2299, 2303, 1⟩, 230⟩,
    ⟨⟨2364, 2364, 1⟩, 7⟩, ⟨⟨2381, 2381, 1⟩, 9⟩, ⟨⟨2385, 2385, 1⟩, 230⟩, ⟨⟨2386, 2386, 1⟩, 220⟩,
    ⟨⟨2387, 2388, 1⟩, 230⟩, ⟨⟨2492, 2492, 1⟩, 7⟩, ⟨⟨2509, 2509, 1⟩, 9⟩, ⟨⟨2558, 2558, 1⟩, 230⟩,
    ⟨⟨2620, 2620, 1⟩, 7⟩, ⟨⟨2637, 2637, 1⟩, 9⟩, ⟨⟨2748, 2748, 1⟩, 7⟩, ⟨⟨2765, 2765, 1⟩, 9⟩,
    ⟨⟨2876, 2876, 1⟩, 7⟩, ⟨⟨2893, 2893, 1⟩, 9⟩, ⟨⟨3021, 3021, 1⟩, 9⟩, ⟨⟨3132, 3132, 1⟩, 7⟩,
    ⟨⟨3149, 3149, 1⟩, 9⟩, ⟨⟨3157, 3157, 1⟩, 84⟩, ⟨⟨3158, 3158, 1⟩, 91⟩, ⟨⟨3260, 3260, 1⟩, 7⟩,
    ⟨⟨3277, 3277, 1⟩, 9⟩, ⟨⟨3387, 3388, 1⟩, 9⟩, ⟨⟨3405, 3405, 1⟩, 9⟩, ⟨⟨3530, 3530, 1⟩, 9⟩,
    ⟨⟨3640, 3641, 1⟩, 103⟩, ⟨⟨3642, 3642, 1⟩, 9⟩, ⟨⟨3656, 3659, 1⟩, 107⟩, ⟨⟨3768, 3769, 1⟩, 118⟩,
    ⟨⟨3770, 3770, 1⟩, 9⟩, ⟨⟨3784, 3787, 1⟩, 122⟩, ⟨⟨3864, 3865, 1⟩, 220⟩, ⟨⟨3893, 3895, 2⟩, 220⟩,
    ⟨⟨3897, 3897, 1⟩, 216⟩, ⟨⟨3953, 3953, 1⟩, 129⟩, ⟨⟨3954, 3954, 1⟩, 130⟩, ⟨⟨3956, 3956, 1⟩, 132⟩,
    ⟨⟨3962, 3965, 1⟩, 130⟩, ⟨⟨3968, 3968, 1⟩, 130⟩, ⟨⟨3970, 3971, 1⟩, 230⟩, ⟨⟨3972, 3972, 1⟩, 9⟩,
    ⟨⟨3974, 3975, 1⟩, 230⟩, ⟨⟨4038, 4038, 1⟩, 220⟩, ⟨⟨4151, 4151, 1⟩, 7⟩, ⟨⟨4153, 4154, 1⟩, 9⟩,
    ⟨⟨4237, 4237, 1⟩, 220⟩, ⟨⟨4957, 4959, 1⟩, 230⟩, ⟨⟨5908, 5909, 1⟩, 9⟩, ⟨⟨5940, 5940, 1⟩, 9⟩,
    ⟨⟨6098, 6098, 1⟩, 9⟩, ⟨⟨6109, 6109, 1⟩, 230⟩, ⟨⟨6313, 6313, 1⟩, 228⟩, ⟨⟨6457, 6457, 1⟩, 222⟩,
    ⟨⟨6458, 6458, 1⟩, 230⟩, ⟨⟨6459, 6459, 1⟩, 220⟩, ⟨⟨6679, 6679, 1⟩, 230⟩, ⟨⟨6680, 6680, 1⟩, 220⟩,
    ⟨⟨6752, 6752, 1⟩, 9⟩, ⟨⟨6773, 6780, 1⟩, 230⟩, ⟨⟨6783, 6783, 1⟩, 220⟩, ⟨⟨6832, 6836, 1⟩, 230⟩,
    ⟨⟨6837, 6842, 1⟩, 220⟩, ⟨⟨6843, 6844, 1⟩, 230⟩, ⟨⟨6845, 6845, 1⟩, 220⟩, ⟨⟨6847, 6848, 1⟩, 220⟩,
    ⟨⟨6849, 6850, 1⟩, 230⟩, ⟨⟨6851, 6852, 1⟩, 220⟩, ⟨⟨6853, 6857, 1⟩, 230⟩, ⟨⟨6858, 6858, 1⟩, 220⟩,
    ⟨⟨6859, 6876, 1⟩, 230⟩, ⟨⟨6877, 6877, 1⟩, 220⟩, ⟨⟨6880, 6885, 1⟩, 230⟩, ⟨⟨6886, 6886, 1⟩, 220⟩,
    ⟨⟨6887, 6890, 1⟩, 230⟩, ⟨⟨6891, 6891, 1⟩, 234⟩, ⟨⟨6964, 6964, 1⟩, 7⟩, ⟨⟨6980, 6980, 1⟩, 9⟩,
    ⟨⟨7019, 7019, 1⟩, 230⟩, ⟨⟨7020, 7020, 1⟩, 220⟩, ⟨⟨7021, 7027, 1⟩, 230⟩, ⟨⟨7082, 7083, 1⟩, 9⟩,
    ⟨⟨7142, 7142, 1⟩, 7⟩, ⟨⟨7154, 7155, 1⟩, 9⟩, ⟨⟨7223, 7223, 1⟩, 7⟩, ⟨⟨7376, 7378, 1⟩, 230⟩,
    ⟨⟨7380, 7380, 1⟩, 1⟩, ⟨⟨7381, 7385, 1⟩, 220⟩, ⟨⟨7386, 7387, 1⟩, 230⟩, ⟨⟨7388, 7391, 1⟩, 220⟩,
    ⟨⟨7392, 7392, 1⟩, 230⟩, ⟨⟨7394, 7400, 1⟩, 1⟩, ⟨⟨7405, 7405, 1⟩, 220⟩, ⟨⟨7412, 7412, 1⟩, 230⟩,
    ⟨⟨7416, 7417, 1⟩, 230⟩, ⟨⟨7616, 7617, 1⟩, 230⟩, ⟨⟨7618, 7618, 1⟩, 220⟩, ⟨⟨7619, 7625, 1⟩, 230⟩,
    ⟨⟨7626, 7626, 1⟩, 220⟩, ⟨⟨7627, 7628, 1⟩, 230⟩, ⟨⟨7629, 7629, 1⟩, 234⟩, ⟨⟨7630, 7630, 1⟩, 214⟩,
    ⟨⟨7631, 7631, 1⟩, 220⟩, ⟨⟨7632, 7632, 1⟩, 202⟩, ⟨⟨7633, 7669, 1⟩, 230⟩, ⟨⟨7670, 7670, 1⟩, 232⟩,
    ⟨⟨7671, 7672, 1⟩, 228⟩, ⟨⟨7673, 7673, 1⟩, 220⟩, ⟨⟨7674, 7674, 1⟩, 218⟩, ⟨⟨7675, 7675, 1⟩, 230⟩,
    ⟨⟨7676, 7676, 1⟩, 233⟩, ⟨⟨7677, 7679, 2⟩, 220⟩, ⟨⟨7678, 7678, 1⟩, 230⟩, ⟨⟨8400, 8401, 1⟩, 230⟩,
    ⟨⟨8402, 8403, 1⟩, 1⟩, ⟨⟨8404, 8407, 1⟩, 230⟩, ⟨⟨8408, 8410, 1⟩, 1⟩, ⟨⟨8411, 8412, 1⟩, 230⟩,
    ⟨⟨8417, 8417, 1⟩, 230⟩, ⟨⟨8421, 8422, 1⟩, 1⟩, ⟨⟨8423, 8425, 2⟩, 230⟩, ⟨⟨8424, 8424, 1⟩, 220⟩,
    ⟨⟨8426, 8427, 1⟩, 1⟩, ⟨⟨8428, 8431, 1⟩, 220⟩, ⟨⟨8432, 8432, 1⟩, 230⟩, ⟨⟨11503, 11505, 1⟩, 230⟩,
    ⟨⟨11647, 11647, 1⟩, 9⟩, ⟨⟨11744, 11775, 1⟩, 230⟩, ⟨⟨12330, 12330, 1⟩, 218⟩,
    ⟨⟨12331, 12331, 1⟩, 228⟩, ⟨⟨12332, 12332, 1⟩, 232⟩, ⟨⟨12333, 12333, 1⟩, 222⟩,
    ⟨⟨12334, 12335, 1⟩, 224⟩, ⟨⟨12441, 12442, 1⟩, 8⟩, ⟨⟨42607, 42607, 1⟩, 230⟩,
    ⟨⟨42612, 42621, 1⟩, 230⟩, ⟨⟨42654, 42655, 1⟩, 230⟩, ⟨⟨42736, 42737, 1⟩, 230⟩,
    ⟨⟨43014, 43014, 1⟩, 9⟩, ⟨⟨43052, 43052, 1⟩, 9⟩, ⟨⟨43204, 43204, 1⟩, 9⟩,
    ⟨⟨43232, 43249, 1⟩, 230⟩, ⟨⟨43307, 43309, 1⟩, 220⟩, ⟨⟨43347, 43347, 1⟩, 9⟩,
    ⟨⟨43443, 43443, 1⟩, 7⟩, ⟨⟨43456, 43456, 1⟩, 9⟩, ⟨⟨43696, 43696, 1⟩, 230⟩,
    ⟨⟨43698, 43699, 1⟩, 230⟩, ⟨⟨43700, 43700, 1⟩, 220⟩, ⟨⟨43703, 43704, 1⟩, 230⟩,
    ⟨⟨43710, 43711, 1⟩, 230⟩, ⟨⟨43713, 43713, 1⟩, 230⟩, ⟨⟨43766, 43766, 1⟩, 9⟩,
    ⟨⟨44013, 44013, 1⟩, 9⟩, ⟨⟨64286, 64286, 1⟩, 26⟩, ⟨⟨65056, 65062, 1⟩, 230⟩,
    ⟨⟨65063, 65069, 1⟩, 220⟩, ⟨⟨65070, 65071, 1⟩, 230⟩, ⟨⟨66045, 66045, 1⟩, 220⟩,
    ⟨⟨66272, 66272, 1⟩, 220⟩, ⟨⟨66422, 66426, 1⟩, 230⟩, ⟨⟨68109, 68109, 1⟩, 220⟩,
    ⟨⟨68111, 68111, 1⟩, 230⟩, ⟨⟨68152, 68152, 1⟩, 230⟩, ⟨⟨68153, 68153, 1⟩, 1⟩,
    ⟨⟨68154, 68154, 1⟩, 220⟩, ⟨⟨68159, 68159, 1⟩, 9⟩, ⟨⟨68325, 68325, 1⟩, 230⟩,
    ⟨⟨68326, 68326, 1⟩, 220⟩, ⟨⟨68900, 68903, 1⟩, 230⟩, ⟨⟨68969, 68973, 1⟩, 230⟩,
    ⟨⟨69291, 69292, 1⟩, 230⟩, ⟨⟨69370, 69371, 1⟩, 220⟩, ⟨⟨69373, 69375, 1⟩, 220⟩,
    ⟨⟨69446, 69447, 1⟩, 220⟩, ⟨⟨69448, 69450, 1⟩, 230⟩, ⟨⟨69451, 69451, 1⟩, 220⟩,
    ⟨⟨69452, 69452, 1⟩, 230⟩, ⟨⟨69453, 69456, 1⟩, 220⟩, ⟨⟨69506, 69508, 2⟩, 230⟩,
    ⟨⟨69507, 69509, 2⟩, 220⟩, ⟨⟨69702, 69702, 1⟩, 9⟩, ⟨⟨69744, 69744, 1⟩, 9⟩,
    ⟨⟨69759, 69759, 1⟩, 9⟩, ⟨⟨69817, 69817, 1⟩, 9⟩, ⟨⟨69818, 69818, 1⟩, 7⟩,
    ⟨⟨69888, 69890, 1⟩, 230⟩, ⟨⟨69939, 69940, 1⟩, 9⟩, ⟨⟨70003, 70003, 1⟩, 7⟩,
    ⟨⟨70080, 70080, 1⟩, 9⟩, ⟨⟨70090, 70090, 1⟩, 7⟩, ⟨⟨70197, 70197, 1⟩, 9⟩, ⟨⟨70198, 70198, 1⟩, 7⟩,
    ⟨⟨70377, 70377, 1⟩, 7⟩, ⟨⟨70378, 70378, 1⟩, 9⟩, ⟨⟨70459, 70460, 1⟩, 7⟩, ⟨⟨70477, 70477, 1⟩, 9⟩,
    ⟨⟨70502, 70508, 1⟩, 230⟩, ⟨⟨70512, 70516, 1⟩, 230⟩, ⟨⟨70606, 70608, 1⟩, 9⟩,
    ⟨⟨70722, 70722, 1⟩, 9⟩, ⟨⟨70726, 70726, 1⟩, 7⟩, ⟨⟨70750, 70750, 1⟩, 230⟩,
    ⟨⟨70850, 70850, 1⟩, 9⟩, ⟨⟨70851, 70851, 1⟩, 7⟩, ⟨⟨71103, 71103, 1⟩, 9⟩, ⟨⟨71104, 71104, 1⟩, 7⟩,
    ⟨⟨71231, 71231, 1⟩, 9⟩, ⟨⟨71350, 71350, 1⟩, 9⟩, ⟨⟨71351, 71351, 1⟩, 7⟩, ⟨⟨71467, 71467, 1⟩, 9⟩,
    ⟨⟨71737, 71737, 1⟩, 9⟩, ⟨⟨71738, 71738, 1⟩, 7⟩, ⟨⟨71997, 71998, 1⟩, 9⟩, ⟨⟨72003, 72003, 1⟩, 7⟩,
    ⟨⟨72160, 72160, 1⟩, 9⟩, ⟨⟨72244, 72244, 1⟩, 9⟩, ⟨⟨72263, 72263, 1⟩, 9⟩, ⟨⟨72345, 72345, 1⟩, 9⟩,
    ⟨⟨72767, 72767, 1⟩, 9⟩, ⟨⟨73026, 73026, 1⟩, 7⟩, ⟨⟨73028, 73029, 1⟩, 9⟩, ⟨⟨73111, 73111, 1⟩, 9⟩,
    ⟨⟨73537, 73538, 1⟩, 9⟩, ⟨⟨90415, 90415, 1⟩, 9⟩, ⟨⟨92912, 92916, 1⟩, 1⟩,
    ⟨⟨92976, 92982, 1⟩, 230⟩, ⟨⟨94192, 94193, 1⟩, 6⟩, ⟨⟨113822, 113822, 1⟩, 1⟩,
    ⟨⟨119141, 119142, 1⟩, 216⟩, ⟨⟨119143, 119145, 1⟩, 1⟩, ⟨⟨119149, 119149, 1⟩, 226⟩,
    ⟨⟨119150, 119154, 1⟩, 216⟩, ⟨⟨119163, 119170, 1⟩, 220⟩, ⟨⟨119173, 119177, 1⟩, 230⟩,
    ⟨⟨119178, 119179, 1⟩, 220⟩, ⟨⟨119210, 119213, 1⟩, 230⟩, ⟨⟨119362, 119364, 1⟩, 230⟩,
    ⟨⟨122880, 122886, 1⟩, 230⟩, ⟨⟨122888, 122904, 1⟩, 230⟩, ⟨⟨122907, 122913, 1⟩, 230⟩,
    ⟨⟨122915, 122916, 1⟩, 230⟩, ⟨⟨122918, 122922, 1⟩, 230⟩, ⟨⟨123023, 123023, 1⟩, 230⟩,
    ⟨⟨123184, 123190, 1⟩, 230⟩, ⟨⟨123566, 123566, 1⟩, 230⟩, ⟨⟨123628, 123631, 1⟩, 230⟩,
    ⟨⟨124140, 124141, 1⟩, 232⟩, ⟨⟨124142, 124142, 1⟩, 220⟩, ⟨⟨124143, 124143, 1⟩, 230⟩,
    ⟨⟨124398, 124398, 1⟩, 230⟩, ⟨⟨124399, 124399, 1⟩, 220⟩, ⟨⟨124643, 124643, 1⟩, 230⟩,
    ⟨⟨124646, 124646, 1⟩, 230⟩, ⟨⟨124654, 124655, 1⟩, 230⟩, ⟨⟨124661, 124661, 1⟩, 230⟩,
    ⟨⟨125136, 125142, 1⟩, 220⟩, ⟨⟨125252, 125257, 1⟩, 230⟩, ⟨⟨125258, 125258, 1⟩, 7⟩]

/-- The Canonical_Combining_Class. -/
def combiningOrder (c : Char) : Nat :=
  match ranks.find? (·.run.contains c.toNat) with
  | some r => r.order
  | none => 0

/-- Whether a mark is a virama, which suppresses a vowel. -/
def isVirama (c : Char) : Bool := combiningOrder c == 9

end Widgetry.Text
