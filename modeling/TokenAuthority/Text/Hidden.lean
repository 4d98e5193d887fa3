/-!
# Characters that do not show

A character shows if it is assigned, takes room of its own and is no control, format, private-use or
separator character; the space shows. The table holds the runs of the characters that do not show,
in the order of their points: the general categories `Cc Cf Cs Co Cn Zl Zp Zs` without the space,
and `Grapheme_Extend`, the characters that only change the one before them, without the two
halfwidth sound marks, which take room of their own (version 17 of the standard).
-/

namespace TokenAuthority.Text

/-- First point and length of each run of characters that do not show. -/
def hiddenRuns : List (Nat × Nat) := [
  (0, 32), (127, 34), (173, 1), (768, 112), (888, 2), (896, 4), (907, 1), (909, 1), (930, 1),
  (1155, 7), (1328, 1), (1367, 2), (1419, 2), (1424, 46), (1471, 1), (1473, 2), (1476, 2),
  (1479, 9), (1515, 4), (1525, 17), (1552, 11), (1564, 1), (1611, 21), (1648, 1), (1750, 8),
  (1759, 6), (1767, 2), (1770, 4), (1806, 2), (1809, 1), (1840, 29), (1958, 11), (1970, 14),
  (2027, 9), (2043, 3), (2070, 4), (2075, 9), (2085, 3), (2089, 7), (2111, 1), (2137, 5), (2143,
  1), (2155, 5), (2192, 16), (2250, 57), (2362, 1), (2364, 1), (2369, 8), (2381, 1), (2385, 7),
  (2402, 2), (2433, 1), (2436, 1), (2445, 2), (2449, 2), (2473, 1), (2481, 1), (2483, 3), (2490,
  3), (2494, 1), (2497, 6), (2505, 2), (2509, 1), (2511, 13), (2526, 1), (2530, 4), (2558, 5),
  (2564, 1), (2571, 4), (2577, 2), (2601, 1), (2609, 1), (2612, 1), (2615, 1), (2618, 4), (2625,
  24), (2653, 1), (2655, 7), (2672, 2), (2677, 1), (2679, 12), (2692, 1), (2702, 1), (2706, 1),
  (2729, 1), (2737, 1), (2740, 1), (2746, 3), (2753, 8), (2762, 1), (2765, 3), (2769, 15),
  (2786, 4), (2802, 7), (2810, 8), (2820, 1), (2829, 2), (2833, 2), (2857, 1), (2865, 1), (2868,
  1), (2874, 3), (2878, 2), (2881, 6), (2889, 2), (2893, 15), (2910, 1), (2914, 4), (2936, 11),
  (2948, 1), (2955, 3), (2961, 1), (2966, 3), (2971, 1), (2973, 1), (2976, 3), (2981, 3), (2987,
  3), (3002, 5), (3008, 1), (3011, 3), (3017, 1), (3021, 3), (3025, 21), (3067, 6), (3076, 1),
  (3085, 1), (3089, 1), (3113, 1), (3130, 3), (3134, 3), (3141, 19), (3163, 1), (3166, 2),
  (3170, 4), (3184, 7), (3201, 1), (3213, 1), (3217, 1), (3241, 1), (3252, 1), (3258, 3), (3263,
  2), (3266, 1), (3269, 23), (3295, 1), (3298, 4), (3312, 1), (3316, 14), (3341, 1), (3345, 1),
  (3387, 2), (3390, 1), (3393, 5), (3401, 1), (3405, 1), (3408, 4), (3415, 1), (3426, 4), (3456,
  2), (3460, 1), (3479, 3), (3506, 1), (3516, 1), (3518, 2), (3527, 9), (3538, 6), (3551, 7),
  (3568, 2), (3573, 12), (3633, 1), (3636, 11), (3655, 8), (3676, 37), (3715, 1), (3717, 1),
  (3723, 1), (3748, 1), (3750, 1), (3761, 1), (3764, 9), (3774, 2), (3781, 1), (3783, 9), (3802,
  2), (3808, 32), (3864, 2), (3893, 1), (3895, 1), (3897, 1), (3912, 1), (3949, 18), (3968, 5),
  (3974, 2), (3981, 49), (4038, 1), (4045, 1), (4059, 37), (4141, 4), (4146, 6), (4153, 2),
  (4157, 2), (4184, 2), (4190, 3), (4209, 4), (4226, 1), (4229, 2), (4237, 1), (4253, 1), (4294,
  1), (4296, 5), (4302, 2), (4681, 1), (4686, 2), (4695, 1), (4697, 1), (4702, 2), (4745, 1),
  (4750, 2), (4785, 1), (4790, 2), (4799, 1), (4801, 1), (4806, 2), (4823, 1), (4881, 1), (4886,
  2), (4955, 5), (4989, 3), (5018, 6), (5110, 2), (5118, 2), (5760, 1), (5789, 3), (5881, 7),
  (5906, 13), (5938, 3), (5943, 9), (5970, 14), (5997, 1), (6001, 15), (6068, 2), (6071, 7),
  (6086, 1), (6089, 11), (6109, 3), (6122, 6), (6138, 6), (6155, 5), (6170, 6), (6265, 7),
  (6277, 2), (6313, 1), (6315, 5), (6390, 10), (6431, 4), (6439, 2), (6444, 4), (6450, 1),
  (6457, 7), (6465, 3), (6510, 2), (6517, 11), (6572, 4), (6602, 6), (6619, 3), (6679, 2),
  (6683, 3), (6742, 1), (6744, 9), (6754, 1), (6757, 8), (6771, 13), (6794, 6), (6810, 6),
  (6830, 86), (6964, 10), (6978, 3), (6989, 1), (7019, 9), (7040, 2), (7074, 4), (7080, 6),
  (7142, 1), (7144, 2), (7149, 1), (7151, 13), (7212, 8), (7222, 5), (7242, 3), (7307, 5),
  (7355, 2), (7368, 11), (7380, 13), (7394, 7), (7405, 1), (7412, 1), (7416, 2), (7419, 5),
  (7616, 64), (7958, 2), (7966, 2), (8006, 2), (8014, 2), (8024, 1), (8026, 1), (8028, 1),
  (8030, 1), (8062, 2), (8117, 1), (8133, 1), (8148, 2), (8156, 1), (8176, 2), (8181, 1), (8191,
  17), (8232, 8), (8287, 17), (8306, 2), (8335, 1), (8349, 3), (8386, 62), (8588, 4), (9258,
  22), (9291, 21), (11124, 2), (11503, 3), (11508, 5), (11558, 1), (11560, 5), (11566, 2),
  (11624, 7), (11633, 15), (11671, 9), (11687, 1), (11695, 1), (11703, 1), (11711, 1), (11719,
  1), (11727, 1), (11735, 1), (11743, 33), (11870, 34), (11930, 1), (12020, 12), (12246, 26),
  (12288, 1), (12330, 6), (12352, 1), (12439, 4), (12544, 5), (12592, 1), (12687, 1), (12774,
  9), (12831, 1), (42125, 3), (42183, 9), (42540, 20), (42607, 4), (42612, 10), (42654, 2),
  (42736, 2), (42744, 8), (42973, 20), (43010, 1), (43014, 1), (43019, 1), (43045, 2), (43052,
  4), (43066, 6), (43128, 8), (43204, 10), (43226, 24), (43263, 1), (43302, 8), (43335, 11),
  (43347, 12), (43389, 6), (43443, 1), (43446, 4), (43452, 2), (43456, 1), (43470, 1), (43482,
  4), (43493, 1), (43519, 1), (43561, 6), (43569, 2), (43573, 11), (43587, 1), (43596, 1),
  (43598, 2), (43610, 2), (43644, 1), (43696, 1), (43698, 3), (43703, 2), (43710, 2), (43713,
  1), (43715, 24), (43756, 2), (43766, 11), (43783, 2), (43791, 2), (43799, 9), (43815, 1),
  (43823, 1), (43884, 4), (44005, 1), (44008, 1), (44013, 3), (44026, 6), (55204, 12), (55239,
  4), (55292, 8452), (64110, 2), (64218, 38), (64263, 12), (64280, 5), (64286, 1), (64311, 1),
  (64317, 1), (64319, 1), (64322, 1), (64325, 1), (64976, 32), (65024, 16), (65050, 22), (65107,
  1), (65127, 1), (65132, 4), (65141, 1), (65277, 4), (65471, 3), (65480, 2),
  (65488, 2), (65496, 2), (65501, 3), (65511, 1), (65519, 13), (65534, 2), (65548, 1), (65575,
  1), (65595, 1), (65598, 1), (65614, 2), (65630, 34), (65787, 5), (65795, 4), (65844, 3),
  (65935, 1), (65949, 3), (65953, 47), (66045, 131), (66205, 3), (66257, 16), (66300, 4),
  (66340, 9), (66379, 5), (66422, 10), (66462, 1), (66500, 4), (66518, 42), (66718, 2), (66730,
  6), (66772, 4), (66812, 4), (66856, 8), (66916, 11), (66939, 1), (66955, 1), (66963, 1),
  (66966, 1), (66978, 1), (66994, 1), (67002, 1), (67005, 3), (67060, 12), (67383, 9), (67414,
  10), (67432, 24), (67462, 1), (67505, 1), (67515, 69), (67590, 2), (67593, 1), (67638, 1),
  (67641, 3), (67645, 2), (67670, 1), (67743, 8), (67760, 48), (67827, 1), (67830, 5), (67868,
  3), (67898, 5), (67930, 38), (68024, 4), (68048, 2), (68097, 15), (68116, 1), (68120, 1),
  (68150, 10), (68169, 7), (68185, 7), (68256, 32), (68325, 6), (68343, 9), (68406, 3), (68438,
  2), (68467, 5), (68498, 7), (68509, 12), (68528, 80), (68681, 55), (68787, 13), (68851, 7),
  (68900, 12), (68922, 6), (68966, 8), (68998, 8), (69008, 208), (69247, 1), (69290, 3), (69294,
  2), (69298, 16), (69320, 8), (69337, 39), (69416, 8), (69446, 11), (69466, 22), (69506, 4),
  (69514, 38), (69580, 20), (69623, 9), (69633, 1), (69688, 15), (69710, 4), (69744, 1), (69747,
  2), (69750, 12), (69811, 4), (69817, 2), (69821, 1), (69826, 14), (69865, 7), (69882, 9),
  (69927, 5), (69933, 9), (69960, 8), (70003, 1), (70007, 11), (70070, 9), (70080, 1), (70089,
  4), (70095, 1), (70112, 1), (70133, 11), (70162, 1), (70191, 3), (70196, 4), (70206, 1),
  (70209, 63), (70279, 1), (70281, 1), (70286, 1), (70302, 1), (70314, 6), (70367, 1), (70371,
  13), (70394, 8), (70404, 1), (70413, 2), (70417, 2), (70441, 1), (70449, 1), (70452, 1),
  (70458, 3), (70462, 1), (70464, 1), (70469, 2), (70473, 2), (70477, 3), (70481, 12), (70500,
  28), (70538, 1), (70540, 2), (70543, 1), (70582, 1), (70584, 1), (70587, 15), (70603, 1),
  (70606, 3), (70610, 1), (70614, 1), (70617, 39), (70712, 8), (70722, 3), (70726, 1), (70748,
  1), (70750, 1), (70754, 30), (70832, 1), (70835, 6), (70842, 1), (70845, 1), (70847, 2),
  (70850, 2), (70856, 8), (70874, 166), (71087, 1), (71090, 6), (71100, 2), (71103, 2), (71132,
  36), (71219, 8), (71229, 1), (71231, 2), (71237, 11), (71258, 6), (71277, 19), (71339, 1),
  (71341, 1), (71344, 8), (71354, 6), (71370, 6), (71396, 28), (71451, 3), (71455, 1), (71458,
  4), (71463, 9), (71495, 185), (71727, 9), (71737, 2), (71740, 100), (71923, 12), (71943, 2),
  (71946, 2), (71956, 1), (71959, 1), (71984, 1), (71990, 1), (71993, 6), (72003, 1), (72007,
  9), (72026, 70), (72104, 2), (72148, 8), (72160, 1), (72165, 27), (72193, 10), (72243, 6),
  (72251, 4), (72263, 9), (72273, 6), (72281, 3), (72330, 13), (72344, 2), (72355, 13), (72441,
  7), (72458, 87), (72546, 3), (72550, 1), (72552, 88), (72674, 14), (72698, 6), (72713, 1),
  (72752, 14), (72767, 1), (72774, 10), (72813, 3), (72848, 25), (72874, 7), (72882, 2), (72885,
  75), (72967, 1), (72970, 1), (73009, 21), (73031, 9), (73050, 6), (73062, 1), (73065, 1),
  (73103, 4), (73109, 1), (73111, 1), (73113, 7), (73130, 6), (73180, 4), (73194, 246), (73459,
  2), (73465, 9), (73489, 1), (73526, 8), (73536, 3), (73562, 86), (73649, 15), (73714, 13),
  (74650, 102), (74863, 1), (74869, 11), (75076, 2636), (77811, 13), (78896, 17), (78919, 25),
  (82939, 5), (83527, 6841), (90398, 12), (90413, 3), (90426, 1734), (92729, 7), (92767, 1),
  (92778, 4), (92863, 1), (92874, 6), (92910, 7), (92918, 10), (92976, 7), (92998, 10), (93018,
  1), (93026, 1), (93048, 5), (93072, 432), (93562, 198), (93851, 5), (93881, 2), (93908, 44),
  (94027, 5), (94088, 11), (94112, 64), (94180, 14), (94199, 9), (101590, 41), (101663, 97),
  (101875, 8701), (110580, 1), (110588, 1), (110591, 1), (110883, 15), (110899, 29), (110931,
  2), (110934, 14), (110952, 8), (111356, 2308), (113771, 5), (113789, 3), (113801, 7), (113818,
  2), (113821, 2), (113824, 3936), (118013, 3), (118452, 6), (118481, 15), (118513, 95),
  (118724, 60), (119030, 10), (119079, 2), (119141, 5), (119149, 22), (119173, 7), (119210, 4),
  (119275, 21), (119362, 3), (119366, 122), (119508, 12), (119540, 12), (119639, 9), (119673,
  135), (119893, 1), (119965, 1), (119968, 2), (119971, 2), (119975, 2), (119981, 1), (119994,
  1), (119996, 1), (120004, 1), (120070, 1), (120075, 2), (120085, 1), (120093, 1), (120122, 1),
  (120127, 1), (120133, 1), (120135, 3), (120145, 1), (120486, 2), (120780, 2), (121344, 55),
  (121403, 50), (121461, 1), (121476, 1), (121484, 1140), (122655, 6), (122667, 261), (122990,
  146), (123181, 10), (123198, 2), (123210, 4), (123216, 320), (123566, 18), (123628, 4),
  (123642, 5), (123648, 464), (124140, 4), (124154, 214), (124398, 2), (124411, 4), (124416,
  192), (124639, 1), (124643, 1), (124646, 1), (124654, 2), (124661, 9), (124672, 224), (124903,
  1), (124908, 1), (124911, 1), (124927, 1), (125125, 2), (125136, 48), (125252, 7), (125260,
  4), (125274, 4), (125280, 785), (126133, 76), (126270, 194), (126468, 1), (126496, 1),
  (126499, 1), (126501, 2), (126504, 1), (126515, 1), (126520, 1), (126522, 1), (126524, 6),
  (126531, 4), (126536, 1), (126538, 1), (126540, 1), (126544, 1), (126547, 1), (126549, 2),
  (126552, 1), (126554, 1), (126556, 1), (126558, 1), (126560, 1), (126563, 1), (126565, 2),
  (126571, 1), (126579, 1), (126584, 1), (126589, 1), (126591, 1), (126602, 1), (126620, 5),
  (126628, 1), (126634, 1), (126652, 52), (126706, 270), (127020, 4), (127124, 12), (127151, 2),
  (127168, 1), (127184, 1), (127222, 10), (127406, 56), (127491, 13), (127548, 4), (127561, 7),
  (127570, 14), (127590, 154), (128729, 3), (128749, 3), (128765, 3), (128986, 6), (129004, 4),
  (129009, 15), (129036, 4), (129096, 8), (129114, 6), (129160, 8), (129198, 2), (129212, 4),
  (129218, 14), (129241, 39), (129624, 8), (129646, 2), (129661, 3), (129675, 3), (129735, 1),
  (129737, 4), (129757, 2), (129771, 4), (129785, 7), (129939, 1), (130043, 1029), (173792, 32),
  (178206, 2), (183982, 2), (191457, 15), (192094, 2466), (195102, 1506), (201547, 5), (210042,
  904070)]

def isHidden (value : Char) : Bool :=
  hiddenRuns.any fun run => run.1 ≤ value.toNat && value.toNat < run.1 + run.2

end TokenAuthority.Text
