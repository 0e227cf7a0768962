import CommitStyle.Unicode.Spans

/-!
# Ages

The age of a code point is the version of the Unicode standard that assigned it, in tenths. The
table lists where a run of equal ages begins; code points without an age are given zero.
-/

namespace CommitStyle.Unicode.Age

def runs0000 : Runs Nat := [
  (0, 11), (502, 30), (506, 11), (536, 30), (544, 32), (545, 40), (546, 30), (564, 40), (567, 41),
  (578, 50), (592, 11), (681, 30), (686, 40), (688, 11), (735, 30), (736, 11), (746, 30), (751, 40),
  (768, 11), (838, 30), (847, 32), (848, 40), (856, 41), (861, 40), (864, 11), (866, 30), (867, 32),
  (880, 51), (884, 11), (886, 51), (888, 0), (890, 11), (891, 50), (894, 11), (895, 70), (896, 0),
  (900, 11), (907, 0), (908, 11), (909, 0), (910, 11), (930, 0), (931, 11), (975, 51), (976, 11),
  (983, 30), (984, 32), (986, 11), (987, 30), (988, 11), (989, 30), (990, 11), (991, 30), (992, 11),
  (993, 30), (994, 11), (1012, 31), (1014, 32), (1015, 40), (1020, 41), (1024, 30), (1025, 11),
  (1037, 30), (1038, 11), (1104, 30), (1105, 11), (1117, 30), (1118, 11), (1159, 51), (1160, 30),
  (1162, 32), (1164, 30), (1168, 11), (1221, 32), (1223, 11), (1225, 32), (1227, 11), (1229, 32),
  (1231, 50), (1232, 11), (1260, 30), (1262, 11), (1270, 41), (1272, 11), (1274, 50), (1280, 32),
  (1296, 50), (1300, 51), (1316, 52), (1318, 60), (1320, 70), (1328, 0), (1329, 11), (1367, 0),
  (1369, 11), (1376, 110), (1377, 11), (1416, 110), (1417, 11), (1418, 30), (1419, 0), (1421, 70),
  (1423, 61), (1424, 0), (1425, 20), (1442, 41), (1443, 20), (1456, 11), (1466, 50), (1467, 11),
  (1476, 20), (1477, 41), (1480, 0), (1488, 11), (1515, 0), (1519, 110), (1520, 11), (1525, 0),
  (1536, 40), (1540, 61), (1541, 70), (1542, 51), (1547, 41), (1548, 11), (1549, 40), (1558, 51),
  (1563, 11), (1564, 63), (1565, 140), (1566, 41), (1567, 11), (1568, 60), (1569, 11), (1595, 51),
  (1600, 11), (1619, 30), (1622, 40), (1625, 41), (1631, 60), (1632, 11), (1646, 32), (1648, 11),
  (1720, 30), (1722, 11), (1727, 30), (1728, 11), (1743, 30), (1744, 11), (1774, 40), (1776, 11),
  (1786, 30), (1791, 40), (1792, 30), (1806, 0), (1807, 30), (1837, 40), (1840, 30), (1867, 0),
  (1869, 40), (1872, 41), (1902, 51), (1920, 30), (1969, 32), (1970, 0), (1984, 50), (2043, 0),
  (2045, 110), (2048, 52), (2094, 0), (2096, 52), (2111, 0), (2112, 60), (2140, 0), (2142, 60),
  (2143, 0), (2144, 100), (2155, 0), (2160, 140), (2191, 0), (2192, 140), (2194, 0), (2199, 160),
  (2200, 140), (2208, 61), (2209, 70), (2210, 61), (2221, 70), (2227, 80), (2229, 140), (2230, 90),
  (2238, 130), (2248, 140), (2259, 110), (2260, 90), (2275, 80), (2276, 61), (2303, 70), (2304, 52),
  (2305, 11), (2308, 40), (2309, 11), (2362, 60), (2364, 11), (2382, 52), (2383, 60), (2384, 11),
  (2389, 52), (2390, 60), (2392, 11), (2417, 51), (2419, 60), (2424, 70), (2425, 52), (2427, 50),
  (2429, 41), (2430, 50), (2432, 70), (2433, 11), (2436, 0), (2437, 11), (2445, 0), (2447, 11),
  (2449, 0), (2451, 11), (2473, 0), (2474, 11), (2481, 0), (2482, 11), (2483, 0), (2486, 11),
  (2490, 0), (2492, 11), (2493, 40), (2494, 11), (2501, 0), (2503, 11), (2505, 0), (2507, 11),
  (2510, 41), (2511, 0), (2519, 11), (2520, 0), (2524, 11), (2526, 0), (2527, 11), (2532, 0),
  (2534, 11), (2555, 52), (2556, 100), (2558, 110), (2559, 0), (2561, 40), (2562, 11), (2563, 40),
  (2564, 0), (2565, 11), (2571, 0), (2575, 11), (2577, 0), (2579, 11), (2601, 0), (2602, 11),
  (2609, 0), (2610, 11), (2612, 0), (2613, 11), (2615, 0), (2616, 11), (2618, 0), (2620, 11),
  (2621, 0), (2622, 11), (2627, 0), (2631, 11), (2633, 0), (2635, 11), (2638, 0), (2641, 51),
  (2642, 0), (2649, 11), (2653, 0), (2654, 11), (2655, 0), (2662, 11), (2677, 51), (2678, 110),
  (2679, 0), (2689, 11), (2692, 0), (2693, 11), (2700, 40), (2701, 11), (2702, 0), (2703, 11),
  (2706, 0), (2707, 11), (2729, 0), (2730, 11), (2737, 0), (2738, 11), (2740, 0), (2741, 11),
  (2746, 0), (2748, 11), (2758, 0), (2759, 11), (2762, 0), (2763, 11), (2766, 0), (2768, 11),
  (2769, 0), (2784, 11), (2785, 40), (2788, 0), (2790, 11), (2800, 61), (2801, 40), (2802, 0),
  (2809, 80), (2810, 100)]

def runs0B00 : Runs Nat := [
  (2816, 0), (2817, 11), (2820, 0), (2821, 11), (2829, 0), (2831, 11), (2833, 0), (2835, 11),
  (2857, 0), (2858, 11), (2865, 0), (2866, 11), (2868, 0), (2869, 40), (2870, 11), (2874, 0),
  (2876, 11), (2884, 51), (2885, 0), (2887, 11), (2889, 0), (2891, 11), (2894, 0), (2901, 130),
  (2902, 11), (2904, 0), (2908, 11), (2910, 0), (2911, 11), (2914, 51), (2916, 0), (2918, 11),
  (2929, 40), (2930, 60), (2936, 0), (2946, 11), (2948, 0), (2949, 11), (2955, 0), (2958, 11),
  (2961, 0), (2962, 11), (2966, 0), (2969, 11), (2971, 0), (2972, 11), (2973, 0), (2974, 11),
  (2976, 0), (2979, 11), (2981, 0), (2984, 11), (2987, 0), (2990, 11), (2998, 41), (2999, 11),
  (3002, 0), (3006, 11), (3011, 0), (3014, 11), (3017, 0), (3018, 11), (3022, 0), (3024, 51),
  (3025, 0), (3031, 11), (3032, 0), (3046, 41), (3047, 11), (3059, 40), (3067, 0), (3072, 70),
  (3073, 11), (3076, 110), (3077, 11), (3085, 0), (3086, 11), (3089, 0), (3090, 11), (3113, 0),
  (3114, 11), (3124, 70), (3125, 11), (3130, 0), (3132, 140), (3133, 51), (3134, 11), (3141, 0),
  (3142, 11), (3145, 0), (3146, 11), (3150, 0), (3157, 11), (3159, 0), (3160, 51), (3162, 80),
  (3163, 0), (3165, 140), (3166, 0), (3168, 11), (3170, 51), (3172, 0), (3174, 11), (3184, 0),
  (3191, 120), (3192, 51), (3200, 90), (3201, 70), (3202, 11), (3204, 110), (3205, 11), (3213, 0),
  (3214, 11), (3217, 0), (3218, 11), (3241, 0), (3242, 11), (3252, 0), (3253, 11), (3258, 0),
  (3260, 40), (3262, 11), (3269, 0), (3270, 11), (3273, 0), (3274, 11), (3278, 0), (3285, 11),
  (3287, 0), (3293, 140), (3294, 11), (3295, 0), (3296, 11), (3298, 50), (3300, 0), (3302, 11),
  (3312, 0), (3313, 50), (3315, 150), (3316, 0), (3328, 100), (3329, 70), (3330, 11), (3332, 130),
  (3333, 11), (3341, 0), (3342, 11), (3345, 0), (3346, 11), (3369, 60), (3370, 11), (3386, 60),
  (3387, 100), (3389, 51), (3390, 11), (3396, 51), (3397, 0), (3398, 11), (3401, 0), (3402, 11),
  (3406, 60), (3407, 90), (3408, 0), (3412, 90), (3415, 11), (3416, 90), (3423, 80), (3424, 11),
  (3426, 51), (3428, 0), (3430, 11), (3440, 51), (3446, 90), (3449, 51), (3456, 0), (3457, 130),
  (3458, 30), (3460, 0), (3461, 30), (3479, 0), (3482, 30), (3506, 0), (3507, 30), (3516, 0),
  (3517, 30), (3518, 0), (3520, 30), (3527, 0), (3530, 30), (3531, 0), (3535, 30), (3541, 0),
  (3542, 30), (3543, 0), (3544, 30), (3552, 0), (3558, 70), (3568, 0), (3570, 30), (3573, 0),
  (3585, 11), (3643, 0), (3647, 11), (3676, 0), (3713, 11), (3715, 0), (3716, 11), (3717, 0),
  (3718, 120), (3719, 11), (3721, 120), (3722, 11), (3723, 0), (3724, 120), (3725, 11), (3726, 120),
  (3732, 11), (3736, 120), (3737, 11), (3744, 120), (3745, 11), (3748, 0), (3749, 11), (3750, 0),
  (3751, 11), (3752, 120), (3754, 11), (3756, 120), (3757, 11), (3770, 120), (3771, 11), (3774, 0),
  (3776, 11), (3781, 0), (3782, 11), (3783, 0), (3784, 11), (3790, 150), (3791, 0), (3792, 11),
  (3802, 0), (3804, 11), (3806, 61), (3808, 0), (3840, 20), (3912, 0), (3913, 20), (3946, 30),
  (3947, 51), (3949, 0), (3953, 20), (3980, 60), (3984, 20), (3990, 30), (3991, 20), (3992, 0),
  (3993, 20), (4014, 30), (4017, 20), (4024, 30), (4025, 20), (4026, 30), (4029, 0), (4030, 30),
  (4045, 0), (4046, 51), (4047, 30), (4048, 41), (4050, 51), (4053, 52), (4057, 60), (4059, 0)]

def runs1000 : Runs Nat := [
  (4096, 30), (4130, 51), (4131, 30), (4136, 51), (4137, 30), (4139, 51), (4140, 30), (4147, 51),
  (4150, 30), (4154, 51), (4160, 30), (4186, 51), (4250, 52), (4254, 51), (4256, 11), (4294, 0),
  (4295, 61), (4296, 0), (4301, 61), (4302, 0), (4304, 11), (4343, 32), (4345, 41), (4347, 11),
  (4348, 41), (4349, 61), (4352, 11), (4442, 52), (4447, 11), (4515, 52), (4520, 11), (4602, 52),
  (4608, 30), (4615, 41), (4616, 30), (4679, 41), (4680, 30), (4681, 0), (4682, 30), (4686, 0),
  (4688, 30), (4695, 0), (4696, 30), (4697, 0), (4698, 30), (4702, 0), (4704, 30), (4743, 41),
  (4744, 30), (4745, 0), (4746, 30), (4750, 0), (4752, 30), (4783, 41), (4784, 30), (4785, 0),
  (4786, 30), (4790, 0), (4792, 30), (4799, 0), (4800, 30), (4801, 0), (4802, 30), (4806, 0),
  (4808, 30), (4815, 41), (4816, 30), (4823, 0), (4824, 30), (4847, 41), (4848, 30), (4879, 41),
  (4880, 30), (4881, 0), (4882, 30), (4886, 0), (4888, 30), (4895, 41), (4896, 30), (4935, 41),
  (4936, 30), (4955, 0), (4957, 60), (4959, 41), (4961, 30), (4989, 0), (4992, 41), (5018, 0),
  (5024, 30), (5109, 80), (5110, 0), (5112, 80), (5118, 0), (5120, 52), (5121, 30), (5751, 52),
  (5760, 30), (5789, 0), (5792, 30), (5873, 70), (5881, 0), (5888, 32), (5901, 140), (5902, 32),
  (5909, 140), (5910, 0), (5919, 140), (5920, 32), (5943, 0), (5952, 32), (5972, 0), (5984, 32),
  (5997, 0), (5998, 32), (6001, 0), (6002, 32), (6004, 0), (6016, 30), (6109, 40), (6110, 0),
  (6112, 30), (6122, 0), (6128, 40), (6138, 0), (6144, 30), (6159, 140), (6160, 30), (6170, 0),
  (6176, 30), (6264, 110), (6265, 0), (6272, 30), (6314, 51), (6315, 0), (6320, 52), (6390, 0),
  (6400, 40), (6429, 70), (6431, 0), (6432, 40), (6444, 0), (6448, 40), (6460, 0), (6464, 40),
  (6465, 0), (6468, 40), (6510, 0), (6512, 40), (6517, 0), (6528, 41), (6570, 52), (6572, 0),
  (6576, 41), (6602, 0), (6608, 41), (6618, 52), (6619, 0), (6622, 41), (6624, 40), (6656, 41),
  (6684, 0), (6686, 41), (6688, 52), (6751, 0), (6752, 52), (6781, 0), (6783, 52), (6794, 0),
  (6800, 52), (6810, 0), (6816, 52), (6830, 0), (6832, 70), (6847, 130), (6849, 140), (6863, 0),
  (6912, 50), (6988, 140), (6989, 0), (6990, 160), (6992, 50), (7037, 140), (7039, 160), (7040, 51),
  (7083, 61), (7086, 51), (7098, 61), (7104, 60), (7156, 0), (7164, 60), (7168, 51), (7224, 0),
  (7227, 51), (7242, 0), (7245, 51), (7296, 90), (7305, 160), (7307, 0), (7312, 110), (7355, 0),
  (7357, 110), (7360, 61), (7368, 0), (7376, 52), (7411, 61), (7415, 100), (7416, 70), (7418, 120),
  (7419, 0), (7424, 40), (7532, 41), (7620, 50), (7627, 51), (7655, 70), (7670, 100), (7674, 140),
  (7675, 90), (7676, 60), (7677, 52), (7678, 50), (7680, 11), (7835, 20), (7836, 51), (7840, 11),
  (7930, 51), (7936, 11), (7958, 0), (7960, 11), (7966, 0), (7968, 11), (8006, 0), (8008, 11),
  (8014, 0), (8016, 11), (8024, 0), (8025, 11), (8026, 0), (8027, 11), (8028, 0), (8029, 11),
  (8030, 0), (8031, 11), (8062, 0), (8064, 11), (8117, 0), (8118, 11), (8133, 0), (8134, 11),
  (8148, 0), (8150, 11), (8156, 0), (8157, 11), (8176, 0), (8178, 11), (8181, 0), (8182, 11),
  (8191, 0)]

def runs2000 : Runs Nat := [
  (8192, 11), (8239, 30), (8240, 11), (8263, 32), (8264, 30), (8270, 32), (8275, 40), (8277, 41),
  (8279, 32), (8280, 41), (8287, 32), (8292, 51), (8293, 0), (8294, 63), (8298, 11), (8305, 32),
  (8306, 0), (8308, 11), (8335, 0), (8336, 41), (8341, 60), (8349, 0), (8352, 11), (8363, 20),
  (8364, 21), (8365, 30), (8368, 32), (8370, 41), (8374, 52), (8377, 60), (8378, 62), (8379, 70),
  (8382, 80), (8383, 100), (8384, 140), (8385, 0), (8400, 11), (8418, 30), (8420, 32), (8427, 41),
  (8428, 50), (8432, 51), (8433, 0), (8448, 11), (8505, 30), (8507, 40), (8508, 41), (8509, 32),
  (8524, 41), (8525, 50), (8527, 51), (8528, 52), (8531, 11), (8579, 30), (8580, 50), (8581, 51),
  (8585, 52), (8586, 80), (8588, 0), (8592, 11), (8683, 30), (8692, 32), (8704, 11), (8946, 32),
  (8960, 11), (8961, 30), (8962, 11), (9083, 30), (9084, 32), (9085, 30), (9115, 32), (9167, 40),
  (9169, 41), (9180, 50), (9192, 52), (9193, 60), (9204, 70), (9211, 90), (9215, 100), (9216, 11),
  (9253, 30), (9255, 160), (9258, 0), (9280, 11), (9291, 0), (9312, 11), (9451, 32), (9471, 40),
  (9472, 11), (9622, 32), (9632, 11), (9712, 30), (9720, 32), (9728, 11), (9748, 40), (9750, 32),
  (9752, 41), (9753, 30), (9754, 11), (9840, 30), (9842, 32), (9854, 41), (9856, 32), (9866, 40),
  (9874, 41), (9885, 51), (9886, 52), (9888, 40), (9890, 41), (9906, 50), (9907, 51), (9917, 52),
  (9920, 51), (9924, 52), (9934, 60), (9935, 52), (9954, 60), (9955, 52), (9956, 60), (9960, 52),
  (9984, 70), (9985, 11), (9989, 60), (9990, 11), (9994, 60), (9996, 11), (10024, 60), (10025, 11),
  (10060, 60), (10061, 11), (10062, 60), (10063, 11), (10067, 60), (10070, 11), (10071, 52),
  (10072, 11), (10079, 60), (10081, 11), (10088, 32), (10102, 11), (10133, 60), (10136, 11),
  (10160, 60), (10161, 11), (10175, 60), (10176, 41), (10183, 50), (10187, 61), (10188, 51),
  (10189, 61), (10190, 60), (10192, 32), (10220, 51), (10224, 32), (10240, 30), (10496, 32),
  (11008, 40), (11022, 41), (11028, 50), (11035, 51), (11040, 50), (11044, 51), (11085, 70),
  (11088, 51), (11093, 52), (11098, 70), (11124, 0), (11126, 70), (11158, 0), (11159, 130),
  (11160, 70), (11194, 110), (11197, 70), (11209, 120), (11210, 70), (11218, 100), (11219, 110),
  (11244, 80), (11248, 110), (11263, 120), (11264, 41), (11311, 140), (11312, 41), (11359, 140),
  (11360, 50), (11373, 51), (11376, 52), (11377, 51), (11380, 50), (11384, 51), (11390, 52),
  (11392, 41), (11499, 52), (11506, 61), (11508, 0), (11513, 41), (11558, 0), (11559, 61),
  (11560, 0), (11565, 61), (11566, 0), (11568, 41), (11622, 61), (11624, 0), (11631, 41),
  (11632, 60), (11633, 0), (11647, 60), (11648, 41), (11671, 0), (11680, 41), (11687, 0),
  (11688, 41), (11695, 0), (11696, 41), (11703, 0), (11704, 41), (11711, 0), (11712, 41),
  (11719, 0), (11720, 41), (11727, 0), (11728, 41), (11735, 0), (11736, 41), (11743, 0),
  (11744, 51), (11776, 41), (11800, 51), (11804, 41), (11806, 51), (11825, 52), (11826, 61),
  (11836, 70), (11843, 90), (11845, 100), (11850, 110), (11855, 120), (11856, 130), (11859, 140),
  (11870, 0), (11904, 30), (11930, 0), (11931, 30), (12020, 0), (12032, 30), (12246, 0),
  (12272, 30), (12284, 151)]

def runs3000 : Runs Nat := [
  (12288, 11), (12344, 30), (12347, 32), (12350, 30), (12351, 11), (12352, 0), (12353, 11),
  (12437, 32), (12439, 0), (12441, 11), (12447, 32), (12449, 11), (12543, 32), (12544, 0),
  (12549, 11), (12589, 51), (12590, 100), (12591, 110), (12592, 0), (12593, 11), (12687, 0),
  (12688, 11), (12704, 30), (12728, 60), (12731, 130), (12736, 41), (12752, 51), (12772, 160),
  (12774, 0), (12783, 151), (12784, 32), (12800, 11), (12829, 40), (12831, 0), (12832, 11),
  (12868, 52), (12880, 40), (12881, 32), (12896, 11), (12924, 40), (12926, 41), (12927, 11),
  (12977, 32), (12992, 11), (13004, 40), (13008, 11), (13055, 121), (13056, 11), (13175, 40),
  (13179, 11), (13278, 40), (13280, 11), (13311, 40), (13312, 30), (19894, 130), (19904, 40),
  (19968, 11), (40870, 41), (40892, 51), (40900, 52), (40908, 61), (40909, 80), (40918, 100),
  (40939, 110), (40944, 130), (40957, 140), (40960, 30), (42125, 0), (42128, 30), (42146, 32),
  (42148, 30), (42164, 32), (42165, 30), (42177, 32), (42178, 30), (42181, 32), (42182, 30),
  (42183, 0), (42192, 52), (42240, 51), (42540, 0), (42560, 51), (42592, 60), (42594, 51),
  (42612, 61), (42620, 51), (42648, 70), (42654, 80), (42655, 61), (42656, 52), (42744, 0),
  (42752, 41), (42775, 50), (42779, 51), (42784, 50), (42786, 51), (42893, 60), (42895, 80),
  (42896, 60), (42898, 61), (42900, 70), (42912, 60), (42922, 61), (42923, 70), (42926, 90),
  (42927, 110), (42928, 70), (42930, 80), (42936, 110), (42938, 120), (42944, 140), (42946, 120),
  (42951, 130), (42955, 160), (42958, 0), (42960, 140), (42962, 0), (42963, 140), (42964, 0),
  (42965, 140), (42970, 160), (42973, 0), (42994, 140), (42997, 130), (42999, 70), (43000, 61),
  (43002, 60), (43003, 51), (43008, 41), (43052, 130), (43053, 0), (43056, 52), (43066, 0),
  (43072, 50), (43128, 0), (43136, 51), (43205, 90), (43206, 0), (43214, 51), (43226, 0),
  (43232, 52), (43260, 80), (43262, 110), (43264, 51), (43348, 0), (43359, 51), (43360, 52),
  (43389, 0), (43392, 52), (43470, 0), (43471, 52), (43482, 0), (43486, 52), (43488, 70),
  (43519, 0), (43520, 51), (43575, 0), (43584, 51), (43598, 0), (43600, 51), (43610, 0),
  (43612, 51), (43616, 52), (43644, 70), (43648, 52), (43715, 0), (43739, 52), (43744, 61),
  (43767, 0), (43777, 60), (43783, 0), (43785, 60), (43791, 0), (43793, 60), (43799, 0),
  (43808, 60), (43815, 0), (43816, 60), (43823, 0), (43824, 70), (43872, 80), (43876, 70),
  (43878, 120), (43880, 130), (43884, 0), (43888, 80), (43968, 52), (44014, 0), (44016, 52),
  (44026, 0), (44032, 20), (55204, 0), (55216, 52), (55239, 0), (55243, 52), (55292, 0),
  (55296, 20), (57344, 11), (64046, 61), (64048, 32), (64107, 52), (64110, 0), (64112, 41),
  (64218, 0), (64256, 11), (64263, 0), (64275, 11), (64280, 0), (64285, 30), (64286, 11),
  (64311, 0), (64312, 11), (64317, 0), (64318, 11), (64319, 0), (64320, 11), (64322, 0),
  (64323, 11), (64325, 0), (64326, 11), (64434, 60), (64450, 140), (64451, 0), (64467, 11),
  (64832, 140), (64848, 11), (64912, 0), (64914, 11), (64968, 0), (64975, 140), (64976, 31),
  (65008, 11), (65020, 32), (65021, 40), (65022, 140), (65024, 32), (65040, 41), (65050, 0),
  (65056, 11), (65060, 51), (65063, 70), (65070, 80), (65072, 11), (65093, 32), (65095, 40),
  (65097, 11), (65107, 0), (65108, 11), (65127, 0), (65128, 11), (65132, 0), (65136, 11),
  (65139, 32), (65140, 11), (65141, 0), (65142, 11), (65277, 0), (65279, 11), (65280, 0),
  (65281, 11), (65375, 32), (65377, 11), (65471, 0), (65474, 11), (65480, 0), (65482, 11),
  (65488, 0), (65490, 11), (65496, 0), (65498, 11), (65501, 0), (65504, 11), (65511, 0),
  (65512, 11), (65519, 0), (65529, 30), (65532, 21), (65533, 11)]

def runs10000 : Runs Nat := [
  (65536, 40), (65548, 0), (65549, 40), (65575, 0), (65576, 40), (65595, 0), (65596, 40),
  (65598, 0), (65599, 40), (65614, 0), (65616, 40), (65630, 0), (65664, 40), (65787, 0),
  (65792, 40), (65795, 0), (65799, 40), (65844, 0), (65847, 40), (65856, 41), (65931, 70),
  (65933, 90), (65935, 0), (65936, 51), (65948, 130), (65949, 0), (65952, 70), (65953, 0),
  (66000, 51), (66046, 0), (66176, 51), (66205, 0), (66208, 51), (66257, 0), (66272, 70),
  (66300, 0), (66304, 31), (66335, 70), (66336, 31), (66340, 0), (66349, 100), (66352, 31),
  (66379, 0), (66384, 70), (66427, 0), (66432, 40), (66462, 0), (66463, 40), (66464, 41),
  (66500, 0), (66504, 41), (66518, 0), (66560, 31), (66598, 40), (66600, 31), (66638, 40),
  (66718, 0), (66720, 40), (66730, 0), (66736, 90), (66772, 0), (66776, 90), (66812, 0),
  (66816, 70), (66856, 0), (66864, 70), (66916, 0), (66927, 70), (66928, 140), (66939, 0),
  (66940, 140), (66955, 0), (66956, 140), (66963, 0), (66964, 140), (66966, 0), (66967, 140),
  (66978, 0), (66979, 140), (66994, 0), (66995, 140), (67002, 0), (67003, 140), (67005, 0),
  (67008, 160), (67060, 0), (67072, 70), (67383, 0), (67392, 70), (67414, 0), (67424, 70),
  (67432, 0), (67456, 140), (67462, 0), (67463, 140), (67505, 0), (67506, 140), (67515, 0),
  (67584, 40), (67590, 0), (67592, 40), (67593, 0), (67594, 40), (67638, 0), (67639, 40),
  (67641, 0), (67644, 40), (67645, 0), (67647, 40), (67648, 52), (67670, 0), (67671, 52),
  (67680, 70), (67743, 0), (67751, 70), (67760, 0), (67808, 80), (67827, 0), (67828, 80),
  (67830, 0), (67835, 80), (67840, 50), (67866, 52), (67868, 0), (67871, 50), (67872, 51),
  (67898, 0), (67903, 51), (67904, 0), (67968, 61), (68024, 0), (68028, 80), (68030, 61),
  (68032, 80), (68048, 0), (68050, 80), (68096, 41), (68100, 0), (68101, 41), (68103, 0),
  (68108, 41), (68116, 0), (68117, 41), (68120, 0), (68121, 41), (68148, 110), (68150, 0),
  (68152, 41), (68155, 0), (68159, 41), (68168, 110), (68169, 0), (68176, 41), (68185, 0),
  (68192, 52), (68224, 70), (68256, 0), (68288, 70), (68327, 0), (68331, 70), (68343, 0),
  (68352, 52), (68406, 0), (68409, 52), (68438, 0), (68440, 52), (68467, 0), (68472, 52),
  (68480, 70), (68498, 0), (68505, 70), (68509, 0), (68521, 70), (68528, 0), (68608, 52),
  (68681, 0), (68736, 80), (68787, 0), (68800, 80), (68851, 0), (68858, 80), (68864, 110),
  (68904, 0), (68912, 110), (68922, 0), (68928, 160), (68966, 0), (68969, 160), (68998, 0),
  (69006, 160), (69008, 0), (69216, 52), (69247, 0), (69248, 130), (69290, 0), (69291, 130),
  (69294, 0), (69296, 130), (69298, 0), (69314, 160), (69317, 0), (69372, 160), (69373, 150),
  (69376, 110), (69416, 0), (69424, 110), (69466, 0), (69488, 140), (69514, 0), (69552, 130),
  (69580, 0), (69600, 120), (69623, 0), (69632, 60), (69710, 0), (69714, 60), (69744, 140),
  (69750, 0), (69759, 70), (69760, 52), (69826, 140), (69827, 0), (69837, 110), (69838, 0),
  (69840, 61), (69865, 0), (69872, 61), (69882, 0), (69888, 61), (69941, 0), (69942, 61),
  (69956, 110), (69959, 130), (69960, 0), (69968, 70), (70007, 0), (70016, 61), (70089, 80),
  (70093, 70), (70094, 130), (70096, 61), (70106, 70), (70107, 80), (70112, 0), (70113, 70),
  (70133, 0), (70144, 70), (70162, 0), (70163, 70), (70206, 90), (70207, 150), (70210, 0),
  (70272, 80), (70279, 0), (70280, 80), (70281, 0), (70282, 80), (70286, 0), (70287, 80),
  (70302, 0), (70303, 80), (70314, 0), (70320, 70), (70379, 0), (70384, 70), (70394, 0)]

def runs11300 : Runs Nat := [
  (70400, 80), (70401, 70), (70404, 0), (70405, 70), (70413, 0), (70415, 70), (70417, 0),
  (70419, 70), (70441, 0), (70442, 70), (70449, 0), (70450, 70), (70452, 0), (70453, 70),
  (70458, 0), (70459, 110), (70460, 70), (70469, 0), (70471, 70), (70473, 0), (70475, 70),
  (70478, 0), (70480, 80), (70481, 0), (70487, 70), (70488, 0), (70493, 70), (70500, 0),
  (70502, 70), (70509, 0), (70512, 70), (70517, 0), (70528, 160), (70538, 0), (70539, 160),
  (70540, 0), (70542, 160), (70543, 0), (70544, 160), (70582, 0), (70583, 160), (70593, 0),
  (70594, 160), (70595, 0), (70597, 160), (70598, 0), (70599, 160), (70603, 0), (70604, 160),
  (70614, 0), (70615, 160), (70617, 0), (70625, 160), (70627, 0), (70656, 90), (70746, 130),
  (70747, 90), (70748, 0), (70749, 90), (70750, 110), (70751, 120), (70752, 130), (70754, 0),
  (70784, 70), (70856, 0), (70864, 70), (70874, 0), (71040, 70), (71094, 0), (71096, 70),
  (71114, 80), (71134, 0), (71168, 70), (71237, 0), (71248, 70), (71258, 0), (71264, 90),
  (71277, 0), (71296, 61), (71352, 120), (71353, 140), (71354, 0), (71360, 61), (71370, 0),
  (71376, 160), (71396, 0), (71424, 80), (71450, 110), (71451, 0), (71453, 80), (71468, 0),
  (71472, 80), (71488, 140), (71495, 0), (71680, 110), (71740, 0), (71840, 70), (71923, 0),
  (71935, 70), (71936, 130), (71943, 0), (71945, 130), (71946, 0), (71948, 130), (71956, 0),
  (71957, 130), (71959, 0), (71960, 130), (71990, 0), (71991, 130), (71993, 0), (71995, 130),
  (72007, 0), (72016, 130), (72026, 0), (72096, 120), (72104, 0), (72106, 120), (72152, 0),
  (72154, 120), (72165, 0), (72192, 100), (72264, 0), (72272, 100), (72324, 120), (72326, 100),
  (72349, 110), (72350, 100), (72355, 0), (72368, 140), (72384, 70), (72441, 0), (72448, 150),
  (72458, 0), (72640, 160), (72674, 0), (72688, 160), (72698, 0), (72704, 90), (72713, 0),
  (72714, 90), (72759, 0), (72760, 90), (72774, 0), (72784, 90), (72813, 0), (72816, 90),
  (72848, 0), (72850, 90), (72872, 0), (72873, 90), (72887, 0), (72960, 100), (72967, 0),
  (72968, 100), (72970, 0), (72971, 100), (73015, 0), (73018, 100), (73019, 0), (73020, 100),
  (73022, 0), (73023, 100), (73032, 0), (73040, 100), (73050, 0), (73056, 110), (73062, 0),
  (73063, 110), (73065, 0), (73066, 110), (73103, 0), (73104, 110), (73106, 0), (73107, 110),
  (73113, 0), (73120, 110), (73130, 0), (73440, 110), (73465, 0), (73472, 150), (73489, 0),
  (73490, 150), (73531, 0), (73534, 150), (73562, 160), (73563, 0), (73648, 130), (73649, 0),
  (73664, 120), (73714, 0), (73727, 120), (73728, 50), (74607, 70), (74649, 80), (74650, 0),
  (74752, 50), (74851, 70), (74863, 0), (74864, 50), (74868, 70), (74869, 0), (74880, 80),
  (75076, 0), (77712, 140), (77811, 0), (77824, 52), (78895, 150), (78896, 120), (78905, 150),
  (78934, 0), (78944, 160), (82939, 0), (82944, 80), (83527, 0), (90368, 160), (90426, 0),
  (92160, 60), (92729, 0), (92736, 70), (92767, 0), (92768, 70), (92778, 0), (92782, 70),
  (92784, 140), (92863, 0), (92864, 140), (92874, 0), (92880, 70), (92910, 0), (92912, 70),
  (92918, 0), (92928, 70), (92998, 0), (93008, 70), (93018, 0), (93019, 70), (93026, 0),
  (93027, 70), (93048, 0), (93053, 70), (93072, 0), (93504, 160), (93562, 0), (93760, 110),
  (93851, 0), (93952, 61), (94021, 120), (94027, 0), (94031, 120), (94032, 61), (94079, 120),
  (94088, 0), (94095, 61), (94112, 0), (94176, 90), (94177, 100), (94178, 120), (94180, 130),
  (94181, 0), (94192, 130), (94194, 0), (94208, 90), (100333, 110), (100338, 120), (100344, 0),
  (100352, 90), (101107, 130), (101590, 0), (101631, 160), (101632, 130), (101641, 0),
  (110576, 140), (110580, 0), (110581, 140), (110588, 0), (110589, 140), (110591, 0), (110592, 60),
  (110594, 100), (110879, 140), (110883, 0), (110898, 150), (110899, 0), (110928, 120), (110931, 0),
  (110933, 150), (110934, 0), (110948, 120), (110952, 0), (110960, 100), (111356, 0), (113664, 70),
  (113771, 0), (113776, 70), (113789, 0), (113792, 70), (113801, 0), (113808, 70), (113818, 0),
  (113820, 70), (113828, 0), (117760, 160), (118010, 0), (118016, 160), (118452, 0), (118528, 140),
  (118574, 0), (118576, 140), (118599, 0), (118608, 140), (118724, 0), (118784, 31), (119030, 0),
  (119040, 31), (119079, 0), (119081, 51), (119082, 31), (119262, 80), (119273, 140), (119275, 0),
  (119296, 41), (119366, 0), (119488, 150), (119508, 0), (119520, 110), (119540, 0), (119552, 40),
  (119639, 0), (119648, 50), (119666, 110), (119673, 0)]

def runs1D400 : Runs Nat := [
  (119808, 31), (119893, 0), (119894, 31), (119965, 0), (119966, 31), (119968, 0), (119970, 31),
  (119971, 0), (119973, 31), (119975, 0), (119977, 31), (119981, 0), (119982, 31), (119994, 0),
  (119995, 31), (119996, 0), (119997, 31), (120001, 40), (120002, 31), (120004, 0), (120005, 31),
  (120070, 0), (120071, 31), (120075, 0), (120077, 31), (120085, 0), (120086, 31), (120093, 0),
  (120094, 31), (120122, 0), (120123, 31), (120127, 0), (120128, 31), (120133, 0), (120134, 31),
  (120135, 0), (120138, 31), (120145, 0), (120146, 31), (120484, 41), (120486, 0), (120488, 31),
  (120778, 50), (120780, 0), (120782, 31), (120832, 80), (121484, 0), (121499, 80), (121504, 0),
  (121505, 80), (121520, 0), (122624, 140), (122655, 0), (122661, 150), (122667, 0), (122880, 90),
  (122887, 0), (122888, 90), (122905, 0), (122907, 90), (122914, 0), (122915, 90), (122917, 0),
  (122918, 90), (122923, 0), (122928, 150), (122990, 0), (123023, 150), (123024, 0), (123136, 120),
  (123181, 0), (123184, 120), (123198, 0), (123200, 120), (123210, 0), (123214, 120), (123216, 0),
  (123536, 140), (123567, 0), (123584, 120), (123642, 0), (123647, 120), (123648, 0), (124112, 150),
  (124154, 0), (124368, 160), (124411, 0), (124415, 160), (124416, 0), (124896, 140), (124903, 0),
  (124904, 140), (124908, 0), (124909, 140), (124911, 0), (124912, 140), (124927, 0), (124928, 70),
  (125125, 0), (125127, 70), (125143, 0), (125184, 90), (125259, 120), (125260, 0), (125264, 90),
  (125274, 0), (125278, 90), (125280, 0), (126065, 110), (126133, 0), (126209, 120), (126270, 0),
  (126464, 61), (126468, 0), (126469, 61), (126496, 0), (126497, 61), (126499, 0), (126500, 61),
  (126501, 0), (126503, 61), (126504, 0), (126505, 61), (126515, 0), (126516, 61), (126520, 0),
  (126521, 61), (126522, 0), (126523, 61), (126524, 0), (126530, 61), (126531, 0), (126535, 61),
  (126536, 0), (126537, 61), (126538, 0), (126539, 61), (126540, 0), (126541, 61), (126544, 0),
  (126545, 61), (126547, 0), (126548, 61), (126549, 0), (126551, 61), (126552, 0), (126553, 61),
  (126554, 0), (126555, 61), (126556, 0), (126557, 61), (126558, 0), (126559, 61), (126560, 0),
  (126561, 61), (126563, 0), (126564, 61), (126565, 0), (126567, 61), (126571, 0), (126572, 61),
  (126579, 0), (126580, 61), (126584, 0), (126585, 61), (126589, 0), (126590, 61), (126591, 0),
  (126592, 61), (126602, 0), (126603, 61), (126620, 0), (126625, 61), (126628, 0), (126629, 61),
  (126634, 0), (126635, 61), (126652, 0), (126704, 61), (126706, 0), (126976, 51), (127020, 0),
  (127024, 51), (127124, 0), (127136, 60), (127151, 0), (127153, 60), (127167, 70), (127168, 0),
  (127169, 60), (127184, 0), (127185, 60), (127200, 70), (127222, 0), (127232, 52), (127243, 70),
  (127245, 130), (127248, 52), (127279, 110), (127280, 60), (127281, 52), (127282, 60),
  (127293, 52), (127294, 60), (127295, 52), (127296, 60), (127298, 52), (127299, 60), (127302, 52),
  (127303, 60), (127306, 52), (127311, 60), (127319, 52), (127320, 60), (127327, 52), (127328, 60),
  (127338, 61), (127340, 120), (127341, 130), (127344, 60), (127353, 52), (127354, 60),
  (127355, 52), (127357, 60), (127359, 52), (127360, 60), (127370, 52), (127374, 60), (127376, 52),
  (127377, 60), (127387, 90), (127405, 130), (127406, 0), (127462, 60), (127488, 52), (127489, 60),
  (127491, 0), (127504, 52), (127538, 60), (127547, 90), (127548, 0), (127552, 52), (127561, 0),
  (127568, 60), (127570, 0), (127584, 100), (127590, 0), (127744, 60), (127777, 70), (127789, 80),
  (127792, 60), (127798, 70), (127799, 60), (127869, 70), (127870, 80), (127872, 60), (127892, 70),
  (127904, 60), (127941, 70), (127942, 60), (127947, 70), (127951, 80), (127956, 70), (127968, 60),
  (127985, 70), (127992, 80), (128000, 60), (128063, 70), (128064, 60), (128065, 70), (128066, 60),
  (128248, 70), (128249, 60), (128253, 70), (128255, 80), (128256, 60), (128318, 70), (128320, 61),
  (128324, 70), (128331, 80), (128336, 60), (128360, 70), (128378, 90), (128379, 70), (128420, 90),
  (128421, 70), (128507, 60), (128512, 61), (128513, 60), (128529, 61), (128530, 60), (128533, 61),
  (128534, 60), (128535, 61), (128536, 60), (128537, 61), (128538, 60), (128539, 61), (128540, 60),
  (128543, 61), (128544, 60), (128550, 61), (128552, 60), (128556, 61), (128557, 60), (128558, 61),
  (128560, 60), (128564, 61), (128565, 60), (128577, 70), (128579, 80), (128581, 60), (128592, 70),
  (128640, 60), (128710, 70), (128720, 80), (128721, 90), (128723, 100), (128725, 120),
  (128726, 130), (128728, 0), (128732, 150), (128733, 140), (128736, 70), (128749, 0), (128752, 70),
  (128756, 90), (128759, 100), (128761, 110), (128762, 120), (128763, 130), (128765, 0),
  (128768, 60), (128884, 150), (128887, 0), (128891, 150), (128896, 70), (128981, 110),
  (128985, 150), (128986, 0), (128992, 120), (129004, 0), (129008, 140), (129009, 0), (129024, 70),
  (129036, 0), (129040, 70), (129096, 0), (129104, 70), (129114, 0), (129120, 70), (129160, 0),
  (129168, 70), (129198, 0), (129200, 130), (129202, 160), (129212, 0), (129216, 160), (129218, 0),
  (129280, 100), (129292, 130), (129293, 120), (129296, 80), (129305, 90), (129311, 100),
  (129312, 90), (129320, 100), (129328, 90), (129329, 100), (129331, 90), (129343, 120),
  (129344, 90), (129356, 100), (129357, 110), (129360, 90), (129375, 100), (129388, 110),
  (129393, 120), (129394, 130), (129395, 110), (129399, 130), (129401, 140), (129402, 110),
  (129403, 120), (129404, 110), (129408, 80), (129413, 90), (129426, 100), (129432, 110),
  (129443, 130), (129445, 120), (129451, 130), (129454, 120), (129456, 110), (129466, 120),
  (129472, 80), (129473, 110), (129475, 120), (129483, 130), (129484, 140), (129485, 120),
  (129488, 100), (129511, 110), (129536, 120), (129620, 0), (129632, 110), (129646, 0),
  (129648, 120), (129652, 130), (129653, 150), (129656, 120), (129659, 140), (129661, 0),
  (129664, 120), (129667, 130), (129671, 150), (129673, 160), (129674, 0), (129679, 160),
  (129680, 120), (129686, 130), (129705, 140), (129709, 150), (129712, 130), (129719, 140),
  (129723, 150), (129726, 160), (129727, 150), (129728, 130), (129731, 140), (129734, 160),
  (129735, 0), (129742, 150), (129744, 130), (129751, 140), (129754, 150), (129756, 160),
  (129757, 0), (129759, 160), (129760, 140), (129768, 150), (129769, 160), (129770, 0),
  (129776, 140), (129783, 150), (129785, 0), (129792, 130), (129939, 0), (129940, 130),
  (129995, 160), (130032, 130), (130042, 0), (131070, 20), (131072, 31), (173783, 130),
  (173790, 140), (173792, 0), (173824, 52), (177973, 140), (177977, 150), (177978, 0), (177984, 60),
  (178206, 0), (178208, 80), (183970, 0), (183984, 100), (191457, 0), (191472, 151), (192094, 0),
  (194560, 31), (195102, 0), (196606, 20), (196608, 130), (201547, 0), (201552, 150), (205744, 0),
  (262142, 20), (262144, 0), (327678, 20), (327680, 0), (393214, 20), (393216, 0), (458750, 20),
  (458752, 0), (524286, 20), (524288, 0), (589822, 20), (589824, 0), (655358, 20), (655360, 0),
  (720894, 20), (720896, 0), (786430, 20), (786432, 0), (851966, 20), (851968, 0), (917502, 20),
  (917504, 0), (917505, 31), (917506, 0), (917536, 31), (917632, 0), (917760, 40), (918000, 0),
  (983038, 20)]

def runs : Runs Nat :=
  runs0000 ++ runs0B00 ++ runs1000 ++ runs2000 ++ runs3000 ++
    runs10000 ++ runs11300 ++ runs1D400

def of (c : Char) : Nat := runs.find c.toNat 0

def versions : List Nat := [
  11, 20, 21, 30, 31, 32, 40, 41, 50, 51, 52, 60, 61, 62, 63, 70, 80, 90, 100, 110, 120, 121, 130,
  140, 150, 151, 160]

/-- The version that a folded name writes: its two numbers, with a dot between them or a `v` before
them. -/
def ofName? (name : String) : Option Nat :=
  versions.find? fun version =>
    let major := toString (version / 10)
    let minor := toString (version % 10)
    name == major ++ "." ++ minor || name == "v" ++ major ++ minor

end CommitStyle.Unicode.Age
