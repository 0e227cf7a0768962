import CommitStyle.Unicode.Spans

/-!
# Scripts

Every code point belongs to one script of the Unicode standard, given by its four-letter code;
`Zzzz` is the code of unassigned code points.
-/

namespace CommitStyle.Unicode.Script

def runs0000 : Runs String := [
  (0, "Zyyy"), (65, "Latn"), (91, "Zyyy"), (97, "Latn"), (123, "Zyyy"), (170, "Latn"),
  (171, "Zyyy"), (186, "Latn"), (187, "Zyyy"), (192, "Latn"), (215, "Zyyy"), (216, "Latn"),
  (247, "Zyyy"), (248, "Latn"), (697, "Zyyy"), (736, "Latn"), (741, "Zyyy"), (746, "Bopo"),
  (748, "Zyyy"), (768, "Zinh"), (880, "Grek"), (884, "Zyyy"), (885, "Grek"), (888, "Zzzz"),
  (890, "Grek"), (894, "Zyyy"), (895, "Grek"), (896, "Zzzz"), (900, "Grek"), (901, "Zyyy"),
  (902, "Grek"), (903, "Zyyy"), (904, "Grek"), (907, "Zzzz"), (908, "Grek"), (909, "Zzzz"),
  (910, "Grek"), (930, "Zzzz"), (931, "Grek"), (994, "Copt"), (1008, "Grek"), (1024, "Cyrl"),
  (1157, "Zinh"), (1159, "Cyrl"), (1328, "Zzzz"), (1329, "Armn"), (1367, "Zzzz"), (1369, "Armn"),
  (1419, "Zzzz"), (1421, "Armn"), (1424, "Zzzz"), (1425, "Hebr"), (1480, "Zzzz"), (1488, "Hebr"),
  (1515, "Zzzz"), (1519, "Hebr"), (1525, "Zzzz"), (1536, "Arab"), (1541, "Zyyy"), (1542, "Arab"),
  (1548, "Zyyy"), (1549, "Arab"), (1563, "Zyyy"), (1564, "Arab"), (1567, "Zyyy"), (1568, "Arab"),
  (1600, "Zyyy"), (1601, "Arab"), (1611, "Zinh"), (1622, "Arab"), (1648, "Zinh"), (1649, "Arab"),
  (1757, "Zyyy"), (1758, "Arab"), (1792, "Syrc"), (1806, "Zzzz"), (1807, "Syrc"), (1867, "Zzzz"),
  (1869, "Syrc"), (1872, "Arab"), (1920, "Thaa"), (1970, "Zzzz"), (1984, "Nkoo"), (2043, "Zzzz"),
  (2045, "Nkoo"), (2048, "Samr"), (2094, "Zzzz"), (2096, "Samr"), (2111, "Zzzz"), (2112, "Mand"),
  (2140, "Zzzz"), (2142, "Mand"), (2143, "Zzzz"), (2144, "Syrc"), (2155, "Zzzz"), (2160, "Arab"),
  (2191, "Zzzz"), (2192, "Arab"), (2194, "Zzzz"), (2199, "Arab"), (2274, "Zyyy"), (2275, "Arab"),
  (2304, "Deva"), (2385, "Zinh"), (2389, "Deva"), (2404, "Zyyy"), (2406, "Deva"), (2432, "Beng"),
  (2436, "Zzzz"), (2437, "Beng"), (2445, "Zzzz"), (2447, "Beng"), (2449, "Zzzz"), (2451, "Beng"),
  (2473, "Zzzz"), (2474, "Beng"), (2481, "Zzzz"), (2482, "Beng"), (2483, "Zzzz"), (2486, "Beng"),
  (2490, "Zzzz"), (2492, "Beng"), (2501, "Zzzz"), (2503, "Beng"), (2505, "Zzzz"), (2507, "Beng"),
  (2511, "Zzzz"), (2519, "Beng"), (2520, "Zzzz"), (2524, "Beng"), (2526, "Zzzz"), (2527, "Beng"),
  (2532, "Zzzz"), (2534, "Beng"), (2559, "Zzzz"), (2561, "Guru"), (2564, "Zzzz"), (2565, "Guru"),
  (2571, "Zzzz"), (2575, "Guru"), (2577, "Zzzz"), (2579, "Guru"), (2601, "Zzzz"), (2602, "Guru"),
  (2609, "Zzzz"), (2610, "Guru"), (2612, "Zzzz"), (2613, "Guru"), (2615, "Zzzz"), (2616, "Guru"),
  (2618, "Zzzz"), (2620, "Guru"), (2621, "Zzzz"), (2622, "Guru"), (2627, "Zzzz"), (2631, "Guru"),
  (2633, "Zzzz"), (2635, "Guru"), (2638, "Zzzz"), (2641, "Guru"), (2642, "Zzzz"), (2649, "Guru"),
  (2653, "Zzzz"), (2654, "Guru"), (2655, "Zzzz"), (2662, "Guru"), (2679, "Zzzz"), (2689, "Gujr"),
  (2692, "Zzzz"), (2693, "Gujr"), (2702, "Zzzz"), (2703, "Gujr"), (2706, "Zzzz"), (2707, "Gujr"),
  (2729, "Zzzz"), (2730, "Gujr"), (2737, "Zzzz"), (2738, "Gujr"), (2740, "Zzzz"), (2741, "Gujr"),
  (2746, "Zzzz"), (2748, "Gujr"), (2758, "Zzzz"), (2759, "Gujr"), (2762, "Zzzz"), (2763, "Gujr"),
  (2766, "Zzzz"), (2768, "Gujr"), (2769, "Zzzz"), (2784, "Gujr"), (2788, "Zzzz"), (2790, "Gujr"),
  (2802, "Zzzz"), (2809, "Gujr"), (2816, "Zzzz"), (2817, "Orya"), (2820, "Zzzz"), (2821, "Orya"),
  (2829, "Zzzz"), (2831, "Orya"), (2833, "Zzzz"), (2835, "Orya"), (2857, "Zzzz"), (2858, "Orya"),
  (2865, "Zzzz"), (2866, "Orya"), (2868, "Zzzz"), (2869, "Orya"), (2874, "Zzzz"), (2876, "Orya"),
  (2885, "Zzzz"), (2887, "Orya"), (2889, "Zzzz"), (2891, "Orya"), (2894, "Zzzz"), (2901, "Orya"),
  (2904, "Zzzz"), (2908, "Orya"), (2910, "Zzzz"), (2911, "Orya"), (2916, "Zzzz"), (2918, "Orya"),
  (2936, "Zzzz"), (2946, "Taml"), (2948, "Zzzz"), (2949, "Taml"), (2955, "Zzzz"), (2958, "Taml"),
  (2961, "Zzzz"), (2962, "Taml"), (2966, "Zzzz"), (2969, "Taml"), (2971, "Zzzz"), (2972, "Taml"),
  (2973, "Zzzz"), (2974, "Taml"), (2976, "Zzzz"), (2979, "Taml"), (2981, "Zzzz"), (2984, "Taml"),
  (2987, "Zzzz"), (2990, "Taml"), (3002, "Zzzz"), (3006, "Taml"), (3011, "Zzzz"), (3014, "Taml"),
  (3017, "Zzzz"), (3018, "Taml"), (3022, "Zzzz"), (3024, "Taml"), (3025, "Zzzz"), (3031, "Taml"),
  (3032, "Zzzz"), (3046, "Taml"), (3067, "Zzzz")]

def runs0C00 : Runs String := [
  (3072, "Telu"), (3085, "Zzzz"), (3086, "Telu"), (3089, "Zzzz"), (3090, "Telu"), (3113, "Zzzz"),
  (3114, "Telu"), (3130, "Zzzz"), (3132, "Telu"), (3141, "Zzzz"), (3142, "Telu"), (3145, "Zzzz"),
  (3146, "Telu"), (3150, "Zzzz"), (3157, "Telu"), (3159, "Zzzz"), (3160, "Telu"), (3163, "Zzzz"),
  (3165, "Telu"), (3166, "Zzzz"), (3168, "Telu"), (3172, "Zzzz"), (3174, "Telu"), (3184, "Zzzz"),
  (3191, "Telu"), (3200, "Knda"), (3213, "Zzzz"), (3214, "Knda"), (3217, "Zzzz"), (3218, "Knda"),
  (3241, "Zzzz"), (3242, "Knda"), (3252, "Zzzz"), (3253, "Knda"), (3258, "Zzzz"), (3260, "Knda"),
  (3269, "Zzzz"), (3270, "Knda"), (3273, "Zzzz"), (3274, "Knda"), (3278, "Zzzz"), (3285, "Knda"),
  (3287, "Zzzz"), (3293, "Knda"), (3295, "Zzzz"), (3296, "Knda"), (3300, "Zzzz"), (3302, "Knda"),
  (3312, "Zzzz"), (3313, "Knda"), (3316, "Zzzz"), (3328, "Mlym"), (3341, "Zzzz"), (3342, "Mlym"),
  (3345, "Zzzz"), (3346, "Mlym"), (3397, "Zzzz"), (3398, "Mlym"), (3401, "Zzzz"), (3402, "Mlym"),
  (3408, "Zzzz"), (3412, "Mlym"), (3428, "Zzzz"), (3430, "Mlym"), (3456, "Zzzz"), (3457, "Sinh"),
  (3460, "Zzzz"), (3461, "Sinh"), (3479, "Zzzz"), (3482, "Sinh"), (3506, "Zzzz"), (3507, "Sinh"),
  (3516, "Zzzz"), (3517, "Sinh"), (3518, "Zzzz"), (3520, "Sinh"), (3527, "Zzzz"), (3530, "Sinh"),
  (3531, "Zzzz"), (3535, "Sinh"), (3541, "Zzzz"), (3542, "Sinh"), (3543, "Zzzz"), (3544, "Sinh"),
  (3552, "Zzzz"), (3558, "Sinh"), (3568, "Zzzz"), (3570, "Sinh"), (3573, "Zzzz"), (3585, "Thai"),
  (3643, "Zzzz"), (3647, "Zyyy"), (3648, "Thai"), (3676, "Zzzz"), (3713, "Laoo"), (3715, "Zzzz"),
  (3716, "Laoo"), (3717, "Zzzz"), (3718, "Laoo"), (3723, "Zzzz"), (3724, "Laoo"), (3748, "Zzzz"),
  (3749, "Laoo"), (3750, "Zzzz"), (3751, "Laoo"), (3774, "Zzzz"), (3776, "Laoo"), (3781, "Zzzz"),
  (3782, "Laoo"), (3783, "Zzzz"), (3784, "Laoo"), (3791, "Zzzz"), (3792, "Laoo"), (3802, "Zzzz"),
  (3804, "Laoo"), (3808, "Zzzz"), (3840, "Tibt"), (3912, "Zzzz"), (3913, "Tibt"), (3949, "Zzzz"),
  (3953, "Tibt"), (3992, "Zzzz"), (3993, "Tibt"), (4029, "Zzzz"), (4030, "Tibt"), (4045, "Zzzz"),
  (4046, "Tibt"), (4053, "Zyyy"), (4057, "Tibt"), (4059, "Zzzz"), (4096, "Mymr"), (4256, "Geor"),
  (4294, "Zzzz"), (4295, "Geor"), (4296, "Zzzz"), (4301, "Geor"), (4302, "Zzzz"), (4304, "Geor"),
  (4347, "Zyyy"), (4348, "Geor"), (4352, "Hang"), (4608, "Ethi"), (4681, "Zzzz"), (4682, "Ethi"),
  (4686, "Zzzz"), (4688, "Ethi"), (4695, "Zzzz"), (4696, "Ethi"), (4697, "Zzzz"), (4698, "Ethi"),
  (4702, "Zzzz"), (4704, "Ethi"), (4745, "Zzzz"), (4746, "Ethi"), (4750, "Zzzz"), (4752, "Ethi"),
  (4785, "Zzzz"), (4786, "Ethi"), (4790, "Zzzz"), (4792, "Ethi"), (4799, "Zzzz"), (4800, "Ethi"),
  (4801, "Zzzz"), (4802, "Ethi"), (4806, "Zzzz"), (4808, "Ethi"), (4823, "Zzzz"), (4824, "Ethi"),
  (4881, "Zzzz"), (4882, "Ethi"), (4886, "Zzzz"), (4888, "Ethi"), (4955, "Zzzz"), (4957, "Ethi"),
  (4989, "Zzzz"), (4992, "Ethi"), (5018, "Zzzz"), (5024, "Cher"), (5110, "Zzzz"), (5112, "Cher"),
  (5118, "Zzzz"), (5120, "Cans"), (5760, "Ogam"), (5789, "Zzzz"), (5792, "Runr"), (5867, "Zyyy"),
  (5870, "Runr"), (5881, "Zzzz"), (5888, "Tglg"), (5910, "Zzzz"), (5919, "Tglg"), (5920, "Hano"),
  (5941, "Zyyy"), (5943, "Zzzz"), (5952, "Buhd"), (5972, "Zzzz"), (5984, "Tagb"), (5997, "Zzzz"),
  (5998, "Tagb"), (6001, "Zzzz"), (6002, "Tagb"), (6004, "Zzzz"), (6016, "Khmr"), (6110, "Zzzz"),
  (6112, "Khmr"), (6122, "Zzzz"), (6128, "Khmr"), (6138, "Zzzz"), (6144, "Mong"), (6146, "Zyyy"),
  (6148, "Mong"), (6149, "Zyyy"), (6150, "Mong"), (6170, "Zzzz"), (6176, "Mong"), (6265, "Zzzz"),
  (6272, "Mong"), (6315, "Zzzz"), (6320, "Cans"), (6390, "Zzzz"), (6400, "Limb"), (6431, "Zzzz"),
  (6432, "Limb"), (6444, "Zzzz"), (6448, "Limb"), (6460, "Zzzz"), (6464, "Limb"), (6465, "Zzzz"),
  (6468, "Limb"), (6480, "Tale"), (6510, "Zzzz"), (6512, "Tale"), (6517, "Zzzz"), (6528, "Talu"),
  (6572, "Zzzz"), (6576, "Talu"), (6602, "Zzzz"), (6608, "Talu"), (6619, "Zzzz"), (6622, "Talu"),
  (6624, "Khmr"), (6656, "Bugi"), (6684, "Zzzz"), (6686, "Bugi"), (6688, "Lana"), (6751, "Zzzz"),
  (6752, "Lana"), (6781, "Zzzz"), (6783, "Lana"), (6794, "Zzzz"), (6800, "Lana"), (6810, "Zzzz"),
  (6816, "Lana"), (6830, "Zzzz"), (6832, "Zinh"), (6863, "Zzzz"), (6912, "Bali"), (6989, "Zzzz"),
  (6990, "Bali"), (7040, "Sund"), (7104, "Batk"), (7156, "Zzzz"), (7164, "Batk"), (7168, "Lepc"),
  (7224, "Zzzz"), (7227, "Lepc"), (7242, "Zzzz"), (7245, "Lepc"), (7248, "Olck"), (7296, "Cyrl"),
  (7307, "Zzzz"), (7312, "Geor"), (7355, "Zzzz"), (7357, "Geor"), (7360, "Sund"), (7368, "Zzzz"),
  (7376, "Zinh"), (7379, "Zyyy"), (7380, "Zinh"), (7393, "Zyyy"), (7394, "Zinh"), (7401, "Zyyy"),
  (7405, "Zinh"), (7406, "Zyyy"), (7412, "Zinh"), (7413, "Zyyy"), (7416, "Zinh"), (7418, "Zyyy"),
  (7419, "Zzzz"), (7424, "Latn"), (7462, "Grek"), (7467, "Cyrl"), (7468, "Latn"), (7517, "Grek"),
  (7522, "Latn"), (7526, "Grek"), (7531, "Latn"), (7544, "Cyrl"), (7545, "Latn"), (7615, "Grek"),
  (7616, "Zinh"), (7680, "Latn"), (7936, "Grek"), (7958, "Zzzz"), (7960, "Grek"), (7966, "Zzzz"),
  (7968, "Grek"), (8006, "Zzzz"), (8008, "Grek"), (8014, "Zzzz"), (8016, "Grek"), (8024, "Zzzz"),
  (8025, "Grek"), (8026, "Zzzz"), (8027, "Grek"), (8028, "Zzzz"), (8029, "Grek"), (8030, "Zzzz"),
  (8031, "Grek"), (8062, "Zzzz"), (8064, "Grek"), (8117, "Zzzz"), (8118, "Grek"), (8133, "Zzzz"),
  (8134, "Grek"), (8148, "Zzzz"), (8150, "Grek"), (8156, "Zzzz"), (8157, "Grek"), (8176, "Zzzz"),
  (8178, "Grek"), (8181, "Zzzz"), (8182, "Grek"), (8191, "Zzzz")]

def runs2000 : Runs String := [
  (8192, "Zyyy"), (8204, "Zinh"), (8206, "Zyyy"), (8293, "Zzzz"), (8294, "Zyyy"), (8305, "Latn"),
  (8306, "Zzzz"), (8308, "Zyyy"), (8319, "Latn"), (8320, "Zyyy"), (8335, "Zzzz"), (8336, "Latn"),
  (8349, "Zzzz"), (8352, "Zyyy"), (8385, "Zzzz"), (8400, "Zinh"), (8433, "Zzzz"), (8448, "Zyyy"),
  (8486, "Grek"), (8487, "Zyyy"), (8490, "Latn"), (8492, "Zyyy"), (8498, "Latn"), (8499, "Zyyy"),
  (8526, "Latn"), (8527, "Zyyy"), (8544, "Latn"), (8585, "Zyyy"), (8588, "Zzzz"), (8592, "Zyyy"),
  (9258, "Zzzz"), (9280, "Zyyy"), (9291, "Zzzz"), (9312, "Zyyy"), (10240, "Brai"), (10496, "Zyyy"),
  (11124, "Zzzz"), (11126, "Zyyy"), (11158, "Zzzz"), (11159, "Zyyy"), (11264, "Glag"),
  (11360, "Latn"), (11392, "Copt"), (11508, "Zzzz"), (11513, "Copt"), (11520, "Geor"),
  (11558, "Zzzz"), (11559, "Geor"), (11560, "Zzzz"), (11565, "Geor"), (11566, "Zzzz"),
  (11568, "Tfng"), (11624, "Zzzz"), (11631, "Tfng"), (11633, "Zzzz"), (11647, "Tfng"),
  (11648, "Ethi"), (11671, "Zzzz"), (11680, "Ethi"), (11687, "Zzzz"), (11688, "Ethi"),
  (11695, "Zzzz"), (11696, "Ethi"), (11703, "Zzzz"), (11704, "Ethi"), (11711, "Zzzz"),
  (11712, "Ethi"), (11719, "Zzzz"), (11720, "Ethi"), (11727, "Zzzz"), (11728, "Ethi"),
  (11735, "Zzzz"), (11736, "Ethi"), (11743, "Zzzz"), (11744, "Cyrl"), (11776, "Zyyy"),
  (11870, "Zzzz"), (11904, "Hani"), (11930, "Zzzz"), (11931, "Hani"), (12020, "Zzzz"),
  (12032, "Hani"), (12246, "Zzzz"), (12272, "Zyyy"), (12293, "Hani"), (12294, "Zyyy"),
  (12295, "Hani"), (12296, "Zyyy"), (12321, "Hani"), (12330, "Zinh"), (12334, "Hang"),
  (12336, "Zyyy"), (12344, "Hani"), (12348, "Zyyy"), (12352, "Zzzz"), (12353, "Hira"),
  (12439, "Zzzz"), (12441, "Zinh"), (12443, "Zyyy"), (12445, "Hira"), (12448, "Zyyy"),
  (12449, "Kana"), (12539, "Zyyy"), (12541, "Kana"), (12544, "Zzzz"), (12549, "Bopo"),
  (12592, "Zzzz"), (12593, "Hang"), (12687, "Zzzz"), (12688, "Zyyy"), (12704, "Bopo"),
  (12736, "Zyyy"), (12774, "Zzzz"), (12783, "Zyyy"), (12784, "Kana"), (12800, "Hang"),
  (12831, "Zzzz"), (12832, "Zyyy"), (12896, "Hang"), (12927, "Zyyy"), (13008, "Kana"),
  (13055, "Zyyy"), (13056, "Kana"), (13144, "Zyyy"), (13312, "Hani"), (19904, "Zyyy"),
  (19968, "Hani"), (40960, "Yiii"), (42125, "Zzzz"), (42128, "Yiii"), (42183, "Zzzz"),
  (42192, "Lisu"), (42240, "Vaii"), (42540, "Zzzz"), (42560, "Cyrl"), (42656, "Bamu"),
  (42744, "Zzzz"), (42752, "Zyyy"), (42786, "Latn"), (42888, "Zyyy"), (42891, "Latn"),
  (42958, "Zzzz"), (42960, "Latn"), (42962, "Zzzz"), (42963, "Latn"), (42964, "Zzzz"),
  (42965, "Latn"), (42973, "Zzzz"), (42994, "Latn")]

def runsA800 : Runs String := [
  (43008, "Sylo"), (43053, "Zzzz"), (43056, "Zyyy"), (43066, "Zzzz"), (43072, "Phag"),
  (43128, "Zzzz"), (43136, "Saur"), (43206, "Zzzz"), (43214, "Saur"), (43226, "Zzzz"),
  (43232, "Deva"), (43264, "Kali"), (43310, "Zyyy"), (43311, "Kali"), (43312, "Rjng"),
  (43348, "Zzzz"), (43359, "Rjng"), (43360, "Hang"), (43389, "Zzzz"), (43392, "Java"),
  (43470, "Zzzz"), (43471, "Zyyy"), (43472, "Java"), (43482, "Zzzz"), (43486, "Java"),
  (43488, "Mymr"), (43519, "Zzzz"), (43520, "Cham"), (43575, "Zzzz"), (43584, "Cham"),
  (43598, "Zzzz"), (43600, "Cham"), (43610, "Zzzz"), (43612, "Cham"), (43616, "Mymr"),
  (43648, "Tavt"), (43715, "Zzzz"), (43739, "Tavt"), (43744, "Mtei"), (43767, "Zzzz"),
  (43777, "Ethi"), (43783, "Zzzz"), (43785, "Ethi"), (43791, "Zzzz"), (43793, "Ethi"),
  (43799, "Zzzz"), (43808, "Ethi"), (43815, "Zzzz"), (43816, "Ethi"), (43823, "Zzzz"),
  (43824, "Latn"), (43867, "Zyyy"), (43868, "Latn"), (43877, "Grek"), (43878, "Latn"),
  (43882, "Zyyy"), (43884, "Zzzz"), (43888, "Cher"), (43968, "Mtei"), (44014, "Zzzz"),
  (44016, "Mtei"), (44026, "Zzzz"), (44032, "Hang"), (55204, "Zzzz"), (55216, "Hang"),
  (55239, "Zzzz"), (55243, "Hang"), (55292, "Zzzz"), (63744, "Hani"), (64110, "Zzzz"),
  (64112, "Hani"), (64218, "Zzzz"), (64256, "Latn"), (64263, "Zzzz"), (64275, "Armn"),
  (64280, "Zzzz"), (64285, "Hebr"), (64311, "Zzzz"), (64312, "Hebr"), (64317, "Zzzz"),
  (64318, "Hebr"), (64319, "Zzzz"), (64320, "Hebr"), (64322, "Zzzz"), (64323, "Hebr"),
  (64325, "Zzzz"), (64326, "Hebr"), (64336, "Arab"), (64451, "Zzzz"), (64467, "Arab"),
  (64830, "Zyyy"), (64832, "Arab"), (64912, "Zzzz"), (64914, "Arab"), (64968, "Zzzz"),
  (64975, "Arab"), (64976, "Zzzz"), (65008, "Arab"), (65024, "Zinh"), (65040, "Zyyy"),
  (65050, "Zzzz"), (65056, "Zinh"), (65070, "Cyrl"), (65072, "Zyyy"), (65107, "Zzzz"),
  (65108, "Zyyy"), (65127, "Zzzz"), (65128, "Zyyy"), (65132, "Zzzz"), (65136, "Arab"),
  (65141, "Zzzz"), (65142, "Arab"), (65277, "Zzzz"), (65279, "Zyyy"), (65280, "Zzzz"),
  (65281, "Zyyy"), (65313, "Latn"), (65339, "Zyyy"), (65345, "Latn"), (65371, "Zyyy"),
  (65382, "Kana"), (65392, "Zyyy"), (65393, "Kana"), (65438, "Zyyy"), (65440, "Hang"),
  (65471, "Zzzz"), (65474, "Hang"), (65480, "Zzzz"), (65482, "Hang"), (65488, "Zzzz"),
  (65490, "Hang"), (65496, "Zzzz"), (65498, "Hang"), (65501, "Zzzz"), (65504, "Zyyy"),
  (65511, "Zzzz"), (65512, "Zyyy"), (65519, "Zzzz"), (65529, "Zyyy"), (65534, "Zzzz"),
  (65536, "Linb"), (65548, "Zzzz"), (65549, "Linb"), (65575, "Zzzz"), (65576, "Linb"),
  (65595, "Zzzz"), (65596, "Linb"), (65598, "Zzzz"), (65599, "Linb"), (65614, "Zzzz"),
  (65616, "Linb"), (65630, "Zzzz"), (65664, "Linb"), (65787, "Zzzz"), (65792, "Zyyy"),
  (65795, "Zzzz"), (65799, "Zyyy"), (65844, "Zzzz"), (65847, "Zyyy"), (65856, "Grek"),
  (65935, "Zzzz"), (65936, "Zyyy"), (65949, "Zzzz"), (65952, "Grek"), (65953, "Zzzz"),
  (66000, "Zyyy"), (66045, "Zinh"), (66046, "Zzzz"), (66176, "Lyci"), (66205, "Zzzz"),
  (66208, "Cari"), (66257, "Zzzz"), (66272, "Zinh"), (66273, "Zyyy"), (66300, "Zzzz"),
  (66304, "Ital"), (66340, "Zzzz"), (66349, "Ital"), (66352, "Goth"), (66379, "Zzzz"),
  (66384, "Perm"), (66427, "Zzzz"), (66432, "Ugar"), (66462, "Zzzz"), (66463, "Ugar"),
  (66464, "Xpeo"), (66500, "Zzzz"), (66504, "Xpeo"), (66518, "Zzzz"), (66560, "Dsrt"),
  (66640, "Shaw"), (66688, "Osma"), (66718, "Zzzz"), (66720, "Osma"), (66730, "Zzzz"),
  (66736, "Osge"), (66772, "Zzzz"), (66776, "Osge"), (66812, "Zzzz"), (66816, "Elba"),
  (66856, "Zzzz"), (66864, "Aghb"), (66916, "Zzzz"), (66927, "Aghb"), (66928, "Vith"),
  (66939, "Zzzz"), (66940, "Vith"), (66955, "Zzzz"), (66956, "Vith"), (66963, "Zzzz"),
  (66964, "Vith"), (66966, "Zzzz"), (66967, "Vith"), (66978, "Zzzz"), (66979, "Vith"),
  (66994, "Zzzz"), (66995, "Vith"), (67002, "Zzzz"), (67003, "Vith"), (67005, "Zzzz"),
  (67008, "Todr"), (67060, "Zzzz"), (67072, "Lina"), (67383, "Zzzz"), (67392, "Lina"),
  (67414, "Zzzz"), (67424, "Lina"), (67432, "Zzzz"), (67456, "Latn"), (67462, "Zzzz"),
  (67463, "Latn"), (67505, "Zzzz"), (67506, "Latn"), (67515, "Zzzz"), (67584, "Cprt"),
  (67590, "Zzzz"), (67592, "Cprt"), (67593, "Zzzz"), (67594, "Cprt"), (67638, "Zzzz"),
  (67639, "Cprt"), (67641, "Zzzz"), (67644, "Cprt"), (67645, "Zzzz"), (67647, "Cprt"),
  (67648, "Armi"), (67670, "Zzzz"), (67671, "Armi"), (67680, "Palm"), (67712, "Nbat"),
  (67743, "Zzzz"), (67751, "Nbat"), (67760, "Zzzz"), (67808, "Hatr"), (67827, "Zzzz"),
  (67828, "Hatr"), (67830, "Zzzz"), (67835, "Hatr"), (67840, "Phnx"), (67868, "Zzzz"),
  (67871, "Phnx"), (67872, "Lydi"), (67898, "Zzzz"), (67903, "Lydi"), (67904, "Zzzz"),
  (67968, "Mero"), (68000, "Merc"), (68024, "Zzzz"), (68028, "Merc"), (68048, "Zzzz"),
  (68050, "Merc")]

def runs10A00 : Runs String := [
  (68096, "Khar"), (68100, "Zzzz"), (68101, "Khar"), (68103, "Zzzz"), (68108, "Khar"),
  (68116, "Zzzz"), (68117, "Khar"), (68120, "Zzzz"), (68121, "Khar"), (68150, "Zzzz"),
  (68152, "Khar"), (68155, "Zzzz"), (68159, "Khar"), (68169, "Zzzz"), (68176, "Khar"),
  (68185, "Zzzz"), (68192, "Sarb"), (68224, "Narb"), (68256, "Zzzz"), (68288, "Mani"),
  (68327, "Zzzz"), (68331, "Mani"), (68343, "Zzzz"), (68352, "Avst"), (68406, "Zzzz"),
  (68409, "Avst"), (68416, "Prti"), (68438, "Zzzz"), (68440, "Prti"), (68448, "Phli"),
  (68467, "Zzzz"), (68472, "Phli"), (68480, "Phlp"), (68498, "Zzzz"), (68505, "Phlp"),
  (68509, "Zzzz"), (68521, "Phlp"), (68528, "Zzzz"), (68608, "Orkh"), (68681, "Zzzz"),
  (68736, "Hung"), (68787, "Zzzz"), (68800, "Hung"), (68851, "Zzzz"), (68858, "Hung"),
  (68864, "Rohg"), (68904, "Zzzz"), (68912, "Rohg"), (68922, "Zzzz"), (68928, "Gara"),
  (68966, "Zzzz"), (68969, "Gara"), (68998, "Zzzz"), (69006, "Gara"), (69008, "Zzzz"),
  (69216, "Arab"), (69247, "Zzzz"), (69248, "Yezi"), (69290, "Zzzz"), (69291, "Yezi"),
  (69294, "Zzzz"), (69296, "Yezi"), (69298, "Zzzz"), (69314, "Arab"), (69317, "Zzzz"),
  (69372, "Arab"), (69376, "Sogo"), (69416, "Zzzz"), (69424, "Sogd"), (69466, "Zzzz"),
  (69488, "Ougr"), (69514, "Zzzz"), (69552, "Chrs"), (69580, "Zzzz"), (69600, "Elym"),
  (69623, "Zzzz"), (69632, "Brah"), (69710, "Zzzz"), (69714, "Brah"), (69750, "Zzzz"),
  (69759, "Brah"), (69760, "Kthi"), (69827, "Zzzz"), (69837, "Kthi"), (69838, "Zzzz"),
  (69840, "Sora"), (69865, "Zzzz"), (69872, "Sora"), (69882, "Zzzz"), (69888, "Cakm"),
  (69941, "Zzzz"), (69942, "Cakm"), (69960, "Zzzz"), (69968, "Mahj"), (70007, "Zzzz"),
  (70016, "Shrd"), (70112, "Zzzz"), (70113, "Sinh"), (70133, "Zzzz"), (70144, "Khoj"),
  (70162, "Zzzz"), (70163, "Khoj"), (70210, "Zzzz"), (70272, "Mult"), (70279, "Zzzz"),
  (70280, "Mult"), (70281, "Zzzz"), (70282, "Mult"), (70286, "Zzzz"), (70287, "Mult"),
  (70302, "Zzzz"), (70303, "Mult"), (70314, "Zzzz"), (70320, "Sind"), (70379, "Zzzz"),
  (70384, "Sind"), (70394, "Zzzz"), (70400, "Gran"), (70404, "Zzzz"), (70405, "Gran"),
  (70413, "Zzzz"), (70415, "Gran"), (70417, "Zzzz"), (70419, "Gran"), (70441, "Zzzz"),
  (70442, "Gran"), (70449, "Zzzz"), (70450, "Gran"), (70452, "Zzzz"), (70453, "Gran"),
  (70458, "Zzzz"), (70459, "Zinh"), (70460, "Gran"), (70469, "Zzzz"), (70471, "Gran"),
  (70473, "Zzzz"), (70475, "Gran"), (70478, "Zzzz"), (70480, "Gran"), (70481, "Zzzz"),
  (70487, "Gran"), (70488, "Zzzz"), (70493, "Gran"), (70500, "Zzzz"), (70502, "Gran"),
  (70509, "Zzzz"), (70512, "Gran"), (70517, "Zzzz"), (70528, "Tutg"), (70538, "Zzzz"),
  (70539, "Tutg"), (70540, "Zzzz"), (70542, "Tutg"), (70543, "Zzzz"), (70544, "Tutg"),
  (70582, "Zzzz"), (70583, "Tutg"), (70593, "Zzzz"), (70594, "Tutg"), (70595, "Zzzz"),
  (70597, "Tutg"), (70598, "Zzzz"), (70599, "Tutg"), (70603, "Zzzz"), (70604, "Tutg"),
  (70614, "Zzzz"), (70615, "Tutg"), (70617, "Zzzz"), (70625, "Tutg"), (70627, "Zzzz"),
  (70656, "Newa"), (70748, "Zzzz"), (70749, "Newa"), (70754, "Zzzz"), (70784, "Tirh"),
  (70856, "Zzzz"), (70864, "Tirh"), (70874, "Zzzz"), (71040, "Sidd"), (71094, "Zzzz"),
  (71096, "Sidd"), (71134, "Zzzz"), (71168, "Modi"), (71237, "Zzzz"), (71248, "Modi"),
  (71258, "Zzzz"), (71264, "Mong"), (71277, "Zzzz"), (71296, "Takr"), (71354, "Zzzz"),
  (71360, "Takr"), (71370, "Zzzz"), (71376, "Mymr"), (71396, "Zzzz"), (71424, "Ahom"),
  (71451, "Zzzz"), (71453, "Ahom"), (71468, "Zzzz"), (71472, "Ahom"), (71495, "Zzzz"),
  (71680, "Dogr"), (71740, "Zzzz"), (71840, "Wara"), (71923, "Zzzz"), (71935, "Wara"),
  (71936, "Diak"), (71943, "Zzzz"), (71945, "Diak"), (71946, "Zzzz"), (71948, "Diak"),
  (71956, "Zzzz"), (71957, "Diak"), (71959, "Zzzz"), (71960, "Diak"), (71990, "Zzzz"),
  (71991, "Diak"), (71993, "Zzzz"), (71995, "Diak"), (72007, "Zzzz"), (72016, "Diak"),
  (72026, "Zzzz"), (72096, "Nand"), (72104, "Zzzz"), (72106, "Nand"), (72152, "Zzzz"),
  (72154, "Nand"), (72165, "Zzzz"), (72192, "Zanb"), (72264, "Zzzz"), (72272, "Soyo"),
  (72355, "Zzzz"), (72368, "Cans"), (72384, "Pauc"), (72441, "Zzzz"), (72448, "Deva"),
  (72458, "Zzzz"), (72640, "Sunu"), (72674, "Zzzz"), (72688, "Sunu"), (72698, "Zzzz"),
  (72704, "Bhks"), (72713, "Zzzz"), (72714, "Bhks"), (72759, "Zzzz"), (72760, "Bhks"),
  (72774, "Zzzz"), (72784, "Bhks"), (72813, "Zzzz"), (72816, "Marc"), (72848, "Zzzz"),
  (72850, "Marc"), (72872, "Zzzz"), (72873, "Marc"), (72887, "Zzzz"), (72960, "Gonm"),
  (72967, "Zzzz"), (72968, "Gonm"), (72970, "Zzzz"), (72971, "Gonm"), (73015, "Zzzz"),
  (73018, "Gonm"), (73019, "Zzzz"), (73020, "Gonm"), (73022, "Zzzz"), (73023, "Gonm"),
  (73032, "Zzzz"), (73040, "Gonm"), (73050, "Zzzz"), (73056, "Gong"), (73062, "Zzzz"),
  (73063, "Gong"), (73065, "Zzzz"), (73066, "Gong"), (73103, "Zzzz"), (73104, "Gong"),
  (73106, "Zzzz"), (73107, "Gong"), (73113, "Zzzz"), (73120, "Gong"), (73130, "Zzzz"),
  (73440, "Maka"), (73465, "Zzzz"), (73472, "Kawi"), (73489, "Zzzz"), (73490, "Kawi"),
  (73531, "Zzzz"), (73534, "Kawi"), (73563, "Zzzz"), (73648, "Lisu"), (73649, "Zzzz"),
  (73664, "Taml"), (73714, "Zzzz"), (73727, "Taml"), (73728, "Xsux"), (74650, "Zzzz"),
  (74752, "Xsux"), (74863, "Zzzz"), (74864, "Xsux"), (74869, "Zzzz"), (74880, "Xsux"),
  (75076, "Zzzz"), (77712, "Cpmn"), (77811, "Zzzz"), (77824, "Egyp"), (78934, "Zzzz"),
  (78944, "Egyp"), (82939, "Zzzz"), (82944, "Hluw"), (83527, "Zzzz"), (90368, "Gukh"),
  (90426, "Zzzz"), (92160, "Bamu"), (92729, "Zzzz"), (92736, "Mroo"), (92767, "Zzzz"),
  (92768, "Mroo"), (92778, "Zzzz"), (92782, "Mroo"), (92784, "Tnsa"), (92863, "Zzzz"),
  (92864, "Tnsa"), (92874, "Zzzz"), (92880, "Bass"), (92910, "Zzzz"), (92912, "Bass"),
  (92918, "Zzzz"), (92928, "Hmng"), (92998, "Zzzz"), (93008, "Hmng"), (93018, "Zzzz"),
  (93019, "Hmng"), (93026, "Zzzz"), (93027, "Hmng"), (93048, "Zzzz"), (93053, "Hmng"),
  (93072, "Zzzz"), (93504, "Krai"), (93562, "Zzzz"), (93760, "Medf"), (93851, "Zzzz"),
  (93952, "Plrd"), (94027, "Zzzz"), (94031, "Plrd"), (94088, "Zzzz"), (94095, "Plrd"),
  (94112, "Zzzz"), (94176, "Tang"), (94177, "Nshu"), (94178, "Hani"), (94180, "Kits"),
  (94181, "Zzzz"), (94192, "Hani"), (94194, "Zzzz"), (94208, "Tang"), (100344, "Zzzz"),
  (100352, "Tang"), (101120, "Kits"), (101590, "Zzzz"), (101631, "Kits"), (101632, "Tang"),
  (101641, "Zzzz"), (110576, "Kana"), (110580, "Zzzz"), (110581, "Kana"), (110588, "Zzzz"),
  (110589, "Kana"), (110591, "Zzzz"), (110592, "Kana"), (110593, "Hira"), (110880, "Kana"),
  (110883, "Zzzz"), (110898, "Hira"), (110899, "Zzzz"), (110928, "Hira"), (110931, "Zzzz"),
  (110933, "Kana"), (110934, "Zzzz"), (110948, "Kana"), (110952, "Zzzz"), (110960, "Nshu"),
  (111356, "Zzzz"), (113664, "Dupl"), (113771, "Zzzz"), (113776, "Dupl"), (113789, "Zzzz"),
  (113792, "Dupl"), (113801, "Zzzz"), (113808, "Dupl"), (113818, "Zzzz"), (113820, "Dupl"),
  (113824, "Zyyy"), (113828, "Zzzz"), (117760, "Zyyy"), (118010, "Zzzz"), (118016, "Zyyy"),
  (118452, "Zzzz"), (118528, "Zinh"), (118574, "Zzzz"), (118576, "Zinh"), (118599, "Zzzz"),
  (118608, "Zyyy"), (118724, "Zzzz")]

def runs1D000 : Runs String := [
  (118784, "Zyyy"), (119030, "Zzzz"), (119040, "Zyyy"), (119079, "Zzzz"), (119081, "Zyyy"),
  (119143, "Zinh"), (119146, "Zyyy"), (119163, "Zinh"), (119171, "Zyyy"), (119173, "Zinh"),
  (119180, "Zyyy"), (119210, "Zinh"), (119214, "Zyyy"), (119275, "Zzzz"), (119296, "Grek"),
  (119366, "Zzzz"), (119488, "Zyyy"), (119508, "Zzzz"), (119520, "Zyyy"), (119540, "Zzzz"),
  (119552, "Zyyy"), (119639, "Zzzz"), (119648, "Zyyy"), (119673, "Zzzz"), (119808, "Zyyy"),
  (119893, "Zzzz"), (119894, "Zyyy"), (119965, "Zzzz"), (119966, "Zyyy"), (119968, "Zzzz"),
  (119970, "Zyyy"), (119971, "Zzzz"), (119973, "Zyyy"), (119975, "Zzzz"), (119977, "Zyyy"),
  (119981, "Zzzz"), (119982, "Zyyy"), (119994, "Zzzz"), (119995, "Zyyy"), (119996, "Zzzz"),
  (119997, "Zyyy"), (120004, "Zzzz"), (120005, "Zyyy"), (120070, "Zzzz"), (120071, "Zyyy"),
  (120075, "Zzzz"), (120077, "Zyyy"), (120085, "Zzzz"), (120086, "Zyyy"), (120093, "Zzzz"),
  (120094, "Zyyy"), (120122, "Zzzz"), (120123, "Zyyy"), (120127, "Zzzz"), (120128, "Zyyy"),
  (120133, "Zzzz"), (120134, "Zyyy"), (120135, "Zzzz"), (120138, "Zyyy"), (120145, "Zzzz"),
  (120146, "Zyyy"), (120486, "Zzzz"), (120488, "Zyyy"), (120780, "Zzzz"), (120782, "Zyyy"),
  (120832, "Sgnw"), (121484, "Zzzz"), (121499, "Sgnw"), (121504, "Zzzz"), (121505, "Sgnw"),
  (121520, "Zzzz"), (122624, "Latn"), (122655, "Zzzz"), (122661, "Latn"), (122667, "Zzzz"),
  (122880, "Glag"), (122887, "Zzzz"), (122888, "Glag"), (122905, "Zzzz"), (122907, "Glag"),
  (122914, "Zzzz"), (122915, "Glag"), (122917, "Zzzz"), (122918, "Glag"), (122923, "Zzzz"),
  (122928, "Cyrl"), (122990, "Zzzz"), (123023, "Cyrl"), (123024, "Zzzz"), (123136, "Hmnp"),
  (123181, "Zzzz"), (123184, "Hmnp"), (123198, "Zzzz"), (123200, "Hmnp"), (123210, "Zzzz"),
  (123214, "Hmnp"), (123216, "Zzzz"), (123536, "Toto"), (123567, "Zzzz"), (123584, "Wcho"),
  (123642, "Zzzz"), (123647, "Wcho"), (123648, "Zzzz"), (124112, "Nagm"), (124154, "Zzzz"),
  (124368, "Onao"), (124411, "Zzzz"), (124415, "Onao"), (124416, "Zzzz"), (124896, "Ethi"),
  (124903, "Zzzz"), (124904, "Ethi"), (124908, "Zzzz"), (124909, "Ethi"), (124911, "Zzzz"),
  (124912, "Ethi"), (124927, "Zzzz"), (124928, "Mend"), (125125, "Zzzz"), (125127, "Mend"),
  (125143, "Zzzz"), (125184, "Adlm"), (125260, "Zzzz"), (125264, "Adlm"), (125274, "Zzzz"),
  (125278, "Adlm"), (125280, "Zzzz"), (126065, "Zyyy"), (126133, "Zzzz"), (126209, "Zyyy"),
  (126270, "Zzzz"), (126464, "Arab"), (126468, "Zzzz"), (126469, "Arab"), (126496, "Zzzz"),
  (126497, "Arab"), (126499, "Zzzz"), (126500, "Arab"), (126501, "Zzzz"), (126503, "Arab"),
  (126504, "Zzzz"), (126505, "Arab"), (126515, "Zzzz"), (126516, "Arab"), (126520, "Zzzz"),
  (126521, "Arab"), (126522, "Zzzz"), (126523, "Arab"), (126524, "Zzzz"), (126530, "Arab"),
  (126531, "Zzzz"), (126535, "Arab"), (126536, "Zzzz"), (126537, "Arab"), (126538, "Zzzz"),
  (126539, "Arab"), (126540, "Zzzz"), (126541, "Arab"), (126544, "Zzzz"), (126545, "Arab"),
  (126547, "Zzzz"), (126548, "Arab"), (126549, "Zzzz"), (126551, "Arab"), (126552, "Zzzz"),
  (126553, "Arab"), (126554, "Zzzz"), (126555, "Arab"), (126556, "Zzzz"), (126557, "Arab"),
  (126558, "Zzzz"), (126559, "Arab"), (126560, "Zzzz"), (126561, "Arab"), (126563, "Zzzz"),
  (126564, "Arab"), (126565, "Zzzz"), (126567, "Arab"), (126571, "Zzzz"), (126572, "Arab"),
  (126579, "Zzzz"), (126580, "Arab"), (126584, "Zzzz"), (126585, "Arab"), (126589, "Zzzz"),
  (126590, "Arab"), (126591, "Zzzz"), (126592, "Arab"), (126602, "Zzzz"), (126603, "Arab"),
  (126620, "Zzzz"), (126625, "Arab"), (126628, "Zzzz"), (126629, "Arab"), (126634, "Zzzz"),
  (126635, "Arab"), (126652, "Zzzz"), (126704, "Arab"), (126706, "Zzzz"), (126976, "Zyyy"),
  (127020, "Zzzz"), (127024, "Zyyy"), (127124, "Zzzz"), (127136, "Zyyy"), (127151, "Zzzz"),
  (127153, "Zyyy"), (127168, "Zzzz"), (127169, "Zyyy"), (127184, "Zzzz"), (127185, "Zyyy"),
  (127222, "Zzzz"), (127232, "Zyyy"), (127406, "Zzzz"), (127462, "Zyyy"), (127488, "Hira"),
  (127489, "Zyyy"), (127491, "Zzzz"), (127504, "Zyyy"), (127548, "Zzzz"), (127552, "Zyyy"),
  (127561, "Zzzz"), (127568, "Zyyy"), (127570, "Zzzz"), (127584, "Zyyy"), (127590, "Zzzz"),
  (127744, "Zyyy"), (128728, "Zzzz"), (128732, "Zyyy"), (128749, "Zzzz"), (128752, "Zyyy"),
  (128765, "Zzzz"), (128768, "Zyyy"), (128887, "Zzzz"), (128891, "Zyyy"), (128986, "Zzzz"),
  (128992, "Zyyy"), (129004, "Zzzz"), (129008, "Zyyy"), (129009, "Zzzz"), (129024, "Zyyy"),
  (129036, "Zzzz"), (129040, "Zyyy"), (129096, "Zzzz"), (129104, "Zyyy"), (129114, "Zzzz"),
  (129120, "Zyyy"), (129160, "Zzzz"), (129168, "Zyyy"), (129198, "Zzzz"), (129200, "Zyyy"),
  (129212, "Zzzz"), (129216, "Zyyy"), (129218, "Zzzz"), (129280, "Zyyy"), (129620, "Zzzz"),
  (129632, "Zyyy"), (129646, "Zzzz"), (129648, "Zyyy"), (129661, "Zzzz"), (129664, "Zyyy"),
  (129674, "Zzzz"), (129679, "Zyyy"), (129735, "Zzzz"), (129742, "Zyyy"), (129757, "Zzzz"),
  (129759, "Zyyy"), (129770, "Zzzz"), (129776, "Zyyy"), (129785, "Zzzz"), (129792, "Zyyy"),
  (129939, "Zzzz"), (129940, "Zyyy"), (130042, "Zzzz"), (131072, "Hani"), (173792, "Zzzz"),
  (173824, "Hani"), (177978, "Zzzz"), (177984, "Hani"), (178206, "Zzzz"), (178208, "Hani"),
  (183970, "Zzzz"), (183984, "Hani"), (191457, "Zzzz"), (191472, "Hani"), (192094, "Zzzz"),
  (194560, "Hani"), (195102, "Zzzz"), (196608, "Hani"), (201547, "Zzzz"), (201552, "Hani"),
  (205744, "Zzzz"), (917505, "Zyyy"), (917506, "Zzzz"), (917536, "Zyyy"), (917632, "Zzzz"),
  (917760, "Zinh"), (918000, "Zzzz")]

def runs : Runs String :=
  runs0000 ++ runs0C00 ++ runs2000 ++ runsA800 ++ runs10A00 ++ runs1D000

/-- The codes of scripts, under their names and codes in lower case and without separators. -/
def names : List (String × String) := [
  ("adlam", "Adlm"), ("adlm", "Adlm"), ("aghb", "Aghb"), ("ahom", "Ahom"),
  ("anatolianhieroglyphs", "Hluw"), ("arab", "Arab"), ("arabic", "Arab"), ("armenian", "Armn"),
  ("armi", "Armi"), ("armn", "Armn"), ("avestan", "Avst"), ("avst", "Avst"), ("bali", "Bali"),
  ("balinese", "Bali"), ("bamu", "Bamu"), ("bamum", "Bamu"), ("bass", "Bass"), ("bassavah", "Bass"),
  ("batak", "Batk"), ("batk", "Batk"), ("beng", "Beng"), ("bengali", "Beng"), ("bhaiksuki", "Bhks"),
  ("bhks", "Bhks"), ("bopo", "Bopo"), ("bopomofo", "Bopo"), ("brah", "Brah"), ("brahmi", "Brah"),
  ("brai", "Brai"), ("braille", "Brai"), ("bugi", "Bugi"), ("buginese", "Bugi"), ("buhd", "Buhd"),
  ("buhid", "Buhd"), ("cakm", "Cakm"), ("canadianaboriginal", "Cans"), ("cans", "Cans"),
  ("cari", "Cari"), ("carian", "Cari"), ("caucasianalbanian", "Aghb"), ("chakma", "Cakm"),
  ("cham", "Cham"), ("cher", "Cher"), ("cherokee", "Cher"), ("chorasmian", "Chrs"),
  ("chrs", "Chrs"), ("common", "Zyyy"), ("copt", "Copt"), ("coptic", "Copt"), ("cpmn", "Cpmn"),
  ("cprt", "Cprt"), ("cuneiform", "Xsux"), ("cypriot", "Cprt"), ("cyprominoan", "Cpmn"),
  ("cyrillic", "Cyrl"), ("cyrl", "Cyrl"), ("deseret", "Dsrt"), ("deva", "Deva"),
  ("devanagari", "Deva"), ("diak", "Diak"), ("divesakuru", "Diak"), ("dogr", "Dogr"),
  ("dogra", "Dogr"), ("dsrt", "Dsrt"), ("dupl", "Dupl"), ("duployan", "Dupl"), ("egyp", "Egyp"),
  ("egyptianhieroglyphs", "Egyp"), ("elba", "Elba"), ("elbasan", "Elba"), ("elym", "Elym"),
  ("elymaic", "Elym"), ("ethi", "Ethi"), ("ethiopic", "Ethi"), ("gara", "Gara"), ("garay", "Gara"),
  ("geor", "Geor"), ("georgian", "Geor"), ("glag", "Glag"), ("glagolitic", "Glag"),
  ("gong", "Gong"), ("gonm", "Gonm"), ("goth", "Goth"), ("gothic", "Goth"), ("gran", "Gran"),
  ("grantha", "Gran"), ("greek", "Grek"), ("grek", "Grek"), ("gujarati", "Gujr"), ("gujr", "Gujr"),
  ("gukh", "Gukh"), ("gunjalagondi", "Gong"), ("gurmukhi", "Guru"), ("guru", "Guru"),
  ("gurungkhema", "Gukh"), ("han", "Hani"), ("hang", "Hang"), ("hangul", "Hang"), ("hani", "Hani"),
  ("hanifirohingya", "Rohg"), ("hano", "Hano"), ("hanunoo", "Hano"), ("hatr", "Hatr"),
  ("hatran", "Hatr"), ("hebr", "Hebr"), ("hebrew", "Hebr"), ("hira", "Hira"), ("hiragana", "Hira"),
  ("hluw", "Hluw"), ("hmng", "Hmng"), ("hmnp", "Hmnp"), ("hung", "Hung"),
  ("imperialaramaic", "Armi"), ("inherited", "Zinh"), ("inscriptionalpahlavi", "Phli"),
  ("inscriptionalparthian", "Prti"), ("ital", "Ital"), ("java", "Java"), ("javanese", "Java"),
  ("kaithi", "Kthi"), ("kali", "Kali"), ("kana", "Kana"), ("kannada", "Knda"), ("katakana", "Kana"),
  ("kawi", "Kawi"), ("kayahli", "Kali"), ("khar", "Khar"), ("kharoshthi", "Khar"),
  ("khitansmallscript", "Kits"), ("khmer", "Khmr"), ("khmr", "Khmr"), ("khoj", "Khoj"),
  ("khojki", "Khoj"), ("khudawadi", "Sind"), ("kiratrai", "Krai"), ("kits", "Kits"),
  ("knda", "Knda"), ("krai", "Krai"), ("kthi", "Kthi"), ("lana", "Lana"), ("lao", "Laoo"),
  ("laoo", "Laoo"), ("latin", "Latn"), ("latn", "Latn"), ("lepc", "Lepc"), ("lepcha", "Lepc"),
  ("limb", "Limb"), ("limbu", "Limb"), ("lina", "Lina"), ("linb", "Linb"), ("lineara", "Lina"),
  ("linearb", "Linb"), ("lisu", "Lisu"), ("lyci", "Lyci"), ("lycian", "Lyci"), ("lydi", "Lydi"),
  ("lydian", "Lydi"), ("mahajani", "Mahj"), ("mahj", "Mahj"), ("maka", "Maka"), ("makasar", "Maka"),
  ("malayalam", "Mlym"), ("mand", "Mand"), ("mandaic", "Mand"), ("mani", "Mani"),
  ("manichaean", "Mani"), ("marc", "Marc"), ("marchen", "Marc"), ("masaramgondi", "Gonm"),
  ("medefaidrin", "Medf"), ("medf", "Medf"), ("meeteimayek", "Mtei"), ("mend", "Mend"),
  ("mendekikakui", "Mend"), ("merc", "Merc"), ("mero", "Mero"), ("meroiticcursive", "Merc"),
  ("meroitichieroglyphs", "Mero"), ("miao", "Plrd"), ("mlym", "Mlym"), ("modi", "Modi"),
  ("mong", "Mong"), ("mongolian", "Mong"), ("mro", "Mroo"), ("mroo", "Mroo"), ("mtei", "Mtei"),
  ("mult", "Mult"), ("multani", "Mult"), ("myanmar", "Mymr"), ("mymr", "Mymr"),
  ("nabataean", "Nbat"), ("nagm", "Nagm"), ("nagmundari", "Nagm"), ("nand", "Nand"),
  ("nandinagari", "Nand"), ("narb", "Narb"), ("nbat", "Nbat"), ("newa", "Newa"),
  ("newtailue", "Talu"), ("nko", "Nkoo"), ("nkoo", "Nkoo"), ("nshu", "Nshu"), ("nushu", "Nshu"),
  ("nyiakengpuachuehmong", "Hmnp"), ("ogam", "Ogam"), ("ogham", "Ogam"), ("olchiki", "Olck"),
  ("olck", "Olck"), ("oldhungarian", "Hung"), ("olditalic", "Ital"), ("oldnortharabian", "Narb"),
  ("oldpermic", "Perm"), ("oldpersian", "Xpeo"), ("oldsogdian", "Sogo"),
  ("oldsoutharabian", "Sarb"), ("oldturkic", "Orkh"), ("olduyghur", "Ougr"), ("olonal", "Onao"),
  ("onao", "Onao"), ("oriya", "Orya"), ("orkh", "Orkh"), ("orya", "Orya"), ("osage", "Osge"),
  ("osge", "Osge"), ("osma", "Osma"), ("osmanya", "Osma"), ("ougr", "Ougr"),
  ("pahawhhmong", "Hmng"), ("palm", "Palm"), ("palmyrene", "Palm"), ("pauc", "Pauc"),
  ("paucinhau", "Pauc"), ("perm", "Perm"), ("phag", "Phag"), ("phagspa", "Phag"), ("phli", "Phli"),
  ("phlp", "Phlp"), ("phnx", "Phnx"), ("phoenician", "Phnx"), ("plrd", "Plrd"), ("prti", "Prti"),
  ("psalterpahlavi", "Phlp"), ("qaac", "Copt"), ("qaai", "Zinh"), ("rejang", "Rjng"),
  ("rjng", "Rjng"), ("rohg", "Rohg"), ("runic", "Runr"), ("runr", "Runr"), ("samaritan", "Samr"),
  ("samr", "Samr"), ("sarb", "Sarb"), ("saur", "Saur"), ("saurashtra", "Saur"), ("sgnw", "Sgnw"),
  ("sharada", "Shrd"), ("shavian", "Shaw"), ("shaw", "Shaw"), ("shrd", "Shrd"), ("sidd", "Sidd"),
  ("siddham", "Sidd"), ("signwriting", "Sgnw"), ("sind", "Sind"), ("sinh", "Sinh"),
  ("sinhala", "Sinh"), ("sogd", "Sogd"), ("sogdian", "Sogd"), ("sogo", "Sogo"), ("sora", "Sora"),
  ("sorasompeng", "Sora"), ("soyo", "Soyo"), ("soyombo", "Soyo"), ("sund", "Sund"),
  ("sundanese", "Sund"), ("sunu", "Sunu"), ("sunuwar", "Sunu"), ("sylo", "Sylo"),
  ("sylotinagri", "Sylo"), ("syrc", "Syrc"), ("syriac", "Syrc"), ("tagalog", "Tglg"),
  ("tagb", "Tagb"), ("tagbanwa", "Tagb"), ("taile", "Tale"), ("taitham", "Lana"),
  ("taiviet", "Tavt"), ("takr", "Takr"), ("takri", "Takr"), ("tale", "Tale"), ("talu", "Talu"),
  ("tamil", "Taml"), ("taml", "Taml"), ("tang", "Tang"), ("tangsa", "Tnsa"), ("tangut", "Tang"),
  ("tavt", "Tavt"), ("telu", "Telu"), ("telugu", "Telu"), ("tfng", "Tfng"), ("tglg", "Tglg"),
  ("thaa", "Thaa"), ("thaana", "Thaa"), ("thai", "Thai"), ("tibetan", "Tibt"), ("tibt", "Tibt"),
  ("tifinagh", "Tfng"), ("tirh", "Tirh"), ("tirhuta", "Tirh"), ("tnsa", "Tnsa"), ("todhri", "Todr"),
  ("todr", "Todr"), ("toto", "Toto"), ("tulutigalari", "Tutg"), ("tutg", "Tutg"), ("ugar", "Ugar"),
  ("ugaritic", "Ugar"), ("unknown", "Zzzz"), ("vai", "Vaii"), ("vaii", "Vaii"), ("vith", "Vith"),
  ("vithkuqi", "Vith"), ("wancho", "Wcho"), ("wara", "Wara"), ("warangciti", "Wara"),
  ("wcho", "Wcho"), ("xpeo", "Xpeo"), ("xsux", "Xsux"), ("yezi", "Yezi"), ("yezidi", "Yezi"),
  ("yi", "Yiii"), ("yiii", "Yiii"), ("zanabazarsquare", "Zanb"), ("zanb", "Zanb"), ("zinh", "Zinh"),
  ("zyyy", "Zyyy"), ("zzzz", "Zzzz")]

/-- Spans of characters that are used with several scripts, or with another one than their own. -/
def extensions : List (Nat × Nat × List String) := [
  (183, 183, ["Avst", "Cari", "Copt", "Dupl", "Elba", "Geor", "Glag", "Gong", "Goth", "Grek",
    "Hani", "Latn", "Lydi", "Mahj", "Perm", "Shaw"]),
  (700, 700, ["Beng", "Cyrl", "Deva", "Latn", "Lisu", "Thai", "Toto"]),
  (711, 711, ["Bopo", "Latn"]), (713, 715, ["Bopo", "Latn"]), (717, 717, ["Latn", "Lisu"]),
  (727, 727, ["Latn", "Thai"]), (729, 729, ["Bopo", "Latn"]),
  (768, 768, ["Cher", "Copt", "Cyrl", "Grek", "Latn", "Perm", "Sunu", "Tale"]),
  (769, 769, ["Cher", "Cyrl", "Grek", "Latn", "Osge", "Sunu", "Tale", "Todr"]),
  (770, 770, ["Cher", "Cyrl", "Latn", "Tfng"]),
  (771, 771, ["Glag", "Latn", "Sunu", "Syrc", "Thai"]),
  (772, 772, ["Aghb", "Cher", "Copt", "Cyrl", "Goth", "Grek", "Latn", "Osge", "Syrc", "Tfng",
    "Todr"]), (773, 773, ["Copt", "Elba", "Glag", "Goth", "Kana", "Latn"]),
  (774, 774, ["Cyrl", "Grek", "Latn", "Perm", "Tfng"]),
  (775, 775, ["Copt", "Dupl", "Hebr", "Latn", "Perm", "Syrc", "Tale", "Tfng", "Todr"]),
  (776, 776, ["Armn", "Cyrl", "Dupl", "Goth", "Grek", "Hebr", "Latn", "Perm", "Syrc", "Tale",
    "Tfng"]), (777, 777, ["Latn", "Tfng"]), (778, 778, ["Dupl", "Latn", "Syrc"]),
  (779, 779, ["Cher", "Cyrl", "Latn", "Osge"]), (780, 780, ["Cher", "Latn", "Tale"]),
  (781, 781, ["Latn", "Sunu"]), (782, 782, ["Ethi", "Latn"]), (784, 784, ["Latn", "Sunu"]),
  (785, 785, ["Cyrl", "Latn", "Todr"]), (787, 787, ["Grek", "Latn", "Perm", "Todr"]),
  (803, 803, ["Cher", "Dupl", "Kana", "Latn", "Syrc", "Tfng"]),
  (804, 804, ["Cher", "Dupl", "Latn", "Syrc"]), (805, 805, ["Latn", "Syrc"]),
  (813, 813, ["Latn", "Sunu", "Syrc"]), (814, 814, ["Latn", "Syrc"]),
  (816, 816, ["Cher", "Latn", "Syrc"]),
  (817, 817, ["Aghb", "Cher", "Goth", "Latn", "Sunu", "Syrc", "Thai"]), (834, 834, ["Grek"]),
  (837, 837, ["Grek"]), (856, 856, ["Latn", "Osge"]), (862, 862, ["Aghb", "Latn", "Todr"]),
  (867, 879, ["Latn"]), (884, 885, ["Copt", "Grek"]), (1155, 1155, ["Cyrl", "Perm"]),
  (1156, 1156, ["Cyrl", "Glag"]), (1157, 1158, ["Cyrl", "Latn"]), (1159, 1159, ["Cyrl", "Glag"]),
  (1417, 1417, ["Armn", "Geor", "Glag"]),
  (1548, 1548, ["Arab", "Gara", "Nkoo", "Rohg", "Syrc", "Thaa", "Yezi"]),
  (1563, 1563, ["Arab", "Gara", "Nkoo", "Rohg", "Syrc", "Thaa", "Yezi"]),
  (1564, 1564, ["Arab", "Syrc", "Thaa"]),
  (1567, 1567, ["Adlm", "Arab", "Gara", "Nkoo", "Rohg", "Syrc", "Thaa", "Yezi"]),
  (1600, 1600, ["Adlm", "Arab", "Mand", "Mani", "Ougr", "Phlp", "Rohg", "Sogd", "Syrc"]),
  (1611, 1621, ["Arab", "Syrc"]), (1632, 1641, ["Arab", "Thaa", "Yezi"]),
  (1648, 1648, ["Arab", "Syrc"]), (1748, 1748, ["Arab", "Rohg"]),
  (2385, 2385, ["Beng", "Deva", "Gran", "Gujr", "Guru", "Knda", "Latn", "Mlym", "Nand", "Newa",
    "Orya", "Shrd", "Taml", "Telu", "Tirh"]),
  (2386, 2386, ["Beng", "Deva", "Gran", "Gujr", "Guru", "Knda", "Latn", "Mlym", "Newa", "Orya",
    "Taml", "Telu", "Tirh"]),
  (2404, 2404, ["Beng", "Deva", "Dogr", "Gong", "Gonm", "Gran", "Gujr", "Guru", "Knda", "Mahj",
    "Mlym", "Nand", "Onao", "Orya", "Sind", "Sinh", "Sylo", "Takr", "Taml", "Telu", "Tirh"]),
  (2405, 2405, ["Beng", "Deva", "Dogr", "Gong", "Gonm", "Gran", "Gujr", "Gukh", "Guru", "Knda",
    "Limb", "Mahj", "Mlym", "Nand", "Onao", "Orya", "Sind", "Sinh", "Sylo", "Takr", "Taml", "Telu",
    "Tirh"]), (2406, 2415, ["Deva", "Dogr", "Kthi", "Mahj"]),
  (2534, 2543, ["Beng", "Cakm", "Sylo"]), (2662, 2671, ["Guru", "Mult"]),
  (2790, 2799, ["Gujr", "Khoj"]), (3046, 3059, ["Gran", "Taml"]),
  (3302, 3311, ["Knda", "Nand", "Tutg"]), (4160, 4169, ["Cakm", "Mymr", "Tale"]),
  (4347, 4347, ["Geor", "Glag", "Latn"]), (5867, 5869, ["Runr"]),
  (5941, 5942, ["Buhd", "Hano", "Tagb", "Tglg"]), (6146, 6147, ["Mong", "Phag"]),
  (6149, 6149, ["Mong", "Phag"]), (7376, 7376, ["Beng", "Deva", "Gran", "Knda"]),
  (7377, 7377, ["Deva"]), (7378, 7378, ["Beng", "Deva", "Gran", "Knda"]),
  (7379, 7379, ["Deva", "Gran", "Knda"]), (7380, 7380, ["Deva"]),
  (7381, 7381, ["Beng", "Deva", "Newa", "Telu", "Tirh"]), (7382, 7382, ["Beng", "Deva", "Telu"]),
  (7383, 7383, ["Deva", "Newa", "Shrd"]), (7384, 7384, ["Beng", "Deva", "Newa", "Telu"]),
  (7385, 7385, ["Deva", "Shrd"]), (7386, 7386, ["Deva", "Knda", "Mlym", "Orya", "Taml", "Telu"]),
  (7387, 7387, ["Deva"]), (7388, 7389, ["Deva", "Shrd"]), (7390, 7391, ["Deva"]),
  (7392, 7392, ["Deva", "Shrd"]), (7393, 7393, ["Beng", "Deva"]),
  (7394, 7394, ["Deva", "Newa", "Tirh"]), (7395, 7400, ["Deva"]),
  (7401, 7401, ["Deva", "Nand", "Newa"]), (7402, 7402, ["Beng", "Deva", "Shrd"]),
  (7403, 7403, ["Deva", "Newa"]), (7404, 7404, ["Deva"]),
  (7405, 7405, ["Beng", "Deva", "Newa", "Shrd"]), (7406, 7409, ["Deva"]),
  (7410, 7410, ["Beng", "Deva", "Gran", "Knda", "Mlym", "Nand", "Orya", "Sinh", "Telu", "Tirh",
    "Tutg"]), (7411, 7411, ["Deva", "Gran"]), (7412, 7412, ["Deva", "Gran", "Knda", "Tutg"]),
  (7413, 7414, ["Beng", "Deva"]), (7415, 7415, ["Beng"]), (7416, 7417, ["Deva", "Gran"]),
  (7418, 7418, ["Nand"]), (7616, 7617, ["Grek"]), (7672, 7672, ["Cyrl", "Latn", "Syrc"]),
  (7674, 7674, ["Syrc"]), (8239, 8239, ["Latn", "Mong", "Phag"]), (8271, 8271, ["Adlm", "Arab"]),
  (8282, 8282, ["Cari", "Geor", "Glag", "Hung", "Lyci", "Orkh"]),
  (8285, 8285, ["Cari", "Grek", "Hung", "Mero"]), (8432, 8432, ["Deva", "Gran", "Latn"]),
  (11799, 11799, ["Copt", "Latn"]), (11824, 11824, ["Avst", "Orkh"]),
  (11825, 11825, ["Avst", "Cari", "Geor", "Hung", "Kthi", "Lydi", "Samr"]),
  (11836, 11836, ["Dupl"]), (11841, 11841, ["Adlm", "Arab", "Hung"]),
  (11843, 11843, ["Cyrl", "Glag"]), (12272, 12287, ["Hani", "Tang"]),
  (12289, 12289, ["Bopo", "Hang", "Hani", "Hira", "Kana", "Mong", "Yiii"]),
  (12290, 12290, ["Bopo", "Hang", "Hani", "Hira", "Kana", "Mong", "Phag", "Yiii"]),
  (12291, 12291, ["Bopo", "Hang", "Hani", "Hira", "Kana"]), (12294, 12294, ["Hani"]),
  (12296, 12297, ["Bopo", "Hang", "Hani", "Hira", "Kana", "Mong", "Tibt", "Yiii"]),
  (12298, 12299, ["Bopo", "Hang", "Hani", "Hira", "Kana", "Lisu", "Mong", "Tibt", "Yiii"]),
  (12300, 12305, ["Bopo", "Hang", "Hani", "Hira", "Kana", "Yiii"]),
  (12307, 12307, ["Bopo", "Hang", "Hani", "Hira", "Kana"]),
  (12308, 12315, ["Bopo", "Hang", "Hani", "Hira", "Kana", "Yiii"]),
  (12316, 12319, ["Bopo", "Hang", "Hani", "Hira", "Kana"]), (12330, 12333, ["Bopo", "Hani"]),
  (12336, 12336, ["Bopo", "Hang", "Hani", "Hira", "Kana"]), (12337, 12341, ["Hira", "Kana"]),
  (12343, 12343, ["Bopo", "Hang", "Hani", "Hira", "Kana"]),
  (12348, 12349, ["Hani", "Hira", "Kana"]), (12350, 12351, ["Hani"]),
  (12441, 12444, ["Hira", "Kana"]), (12448, 12448, ["Hira", "Kana"]),
  (12539, 12539, ["Bopo", "Hang", "Hani", "Hira", "Kana", "Yiii"]),
  (12540, 12540, ["Hira", "Kana"]), (12688, 12703, ["Hani"]), (12736, 12773, ["Hani"]),
  (12783, 12783, ["Hani", "Tang"]), (12832, 12871, ["Hani"]), (12928, 12976, ["Hani"]),
  (12992, 13003, ["Hani"]), (13055, 13055, ["Hani"]), (13144, 13168, ["Hani"]),
  (13179, 13183, ["Hani"]), (13280, 13310, ["Hani"]), (42607, 42607, ["Cyrl", "Glag"]),
  (42752, 42759, ["Hani", "Latn"]),
  (43056, 43058, ["Deva", "Dogr", "Gujr", "Guru", "Khoj", "Knda", "Kthi", "Mahj", "Mlym", "Modi",
    "Nand", "Shrd", "Sind", "Takr", "Tirh", "Tutg"]),
  (43059, 43061, ["Deva", "Dogr", "Gujr", "Guru", "Khoj", "Knda", "Kthi", "Mahj", "Modi", "Nand",
    "Shrd", "Sind", "Takr", "Tirh", "Tutg"]),
  (43062, 43063, ["Deva", "Dogr", "Gujr", "Guru", "Khoj", "Kthi", "Mahj", "Modi", "Sind", "Takr",
    "Tirh"]),
  (43064, 43064, ["Deva", "Dogr", "Gujr", "Guru", "Khoj", "Kthi", "Mahj", "Modi", "Shrd", "Sind",
    "Takr", "Tirh"]),
  (43065, 43065, ["Deva", "Dogr", "Gujr", "Guru", "Khoj", "Kthi", "Mahj", "Modi", "Sind", "Takr",
    "Tirh"]), (43249, 43249, ["Beng", "Deva", "Tutg"]), (43251, 43251, ["Deva", "Taml"]),
  (43310, 43310, ["Kali", "Latn", "Mymr"]), (43471, 43471, ["Bugi", "Java"]),
  (64830, 64831, ["Arab", "Nkoo"]), (65010, 65010, ["Arab", "Thaa"]),
  (65021, 65021, ["Arab", "Thaa"]), (65093, 65094, ["Bopo", "Hang", "Hani", "Hira", "Kana"]),
  (65377, 65381, ["Bopo", "Hang", "Hani", "Hira", "Kana", "Yiii"]),
  (65392, 65392, ["Hira", "Kana"]), (65438, 65439, ["Hira", "Kana"]),
  (65792, 65793, ["Cpmn", "Cprt", "Linb"]), (65794, 65794, ["Cprt", "Linb"]),
  (65799, 65843, ["Cprt", "Lina", "Linb"]), (65847, 65855, ["Cprt", "Linb"]),
  (66272, 66299, ["Arab", "Copt"]), (68338, 68338, ["Mani", "Ougr"]),
  (70401, 70401, ["Gran", "Taml"]), (70403, 70403, ["Gran", "Taml"]),
  (70459, 70460, ["Gran", "Taml"]), (73680, 73681, ["Gran", "Taml"]),
  (73683, 73683, ["Gran", "Taml"]), (113824, 113827, ["Dupl"]), (119648, 119665, ["Hani"]),
  (127568, 127569, ["Hani"])]

def of (c : Char) : String := runs.find c.toNat "Zzzz"

def allOf (c : Char) : List String :=
  match extensions.find? fun (first, last, _) => first ≤ c.toNat && c.toNat ≤ last with
  | some (_, _, codes) => codes
  | none => [of c]

def ofName? (name : String) : Option String := names.lookup name

end CommitStyle.Unicode.Script
