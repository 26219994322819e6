/-
Which characters may stand in the parts of an address, by the profiles of RFC
3454: tables of ranges, and the classes of characters made of them. A character
is taken as it is after the mapping that its profile asks for.
-/

namespace Courier.Address

/-- Ranges of characters beyond ASCII that no part may have: controls, private,
unassigned and deprecated ones. -/
def barred : List (Nat × Nat) := [
  (128, 159), (545, 545), (564, 591), (686, 687), (751, 767), (848, 863), (880, 883), (886, 889),
  (891, 893), (895, 899), (907, 907), (909, 909), (930, 930), (975, 975), (1015, 1016),
  (1018, 1023), (1159, 1159), (1231, 1231), (1270, 1271), (1274, 1279), (1296, 1328), (1367, 1368),
  (1376, 1376), (1416, 1416), (1419, 1424), (1442, 1442), (1466, 1466), (1477, 1487), (1515, 1519),
  (1525, 1547), (1549, 1562), (1564, 1566), (1568, 1568), (1595, 1599), (1622, 1631), (1757, 1757),
  (1774, 1775), (1791, 1791), (1806, 1807), (1837, 1839), (1867, 1919), (1970, 2304), (2308, 2308),
  (2362, 2363), (2382, 2383), (2389, 2391), (2417, 2432), (2436, 2436), (2445, 2446), (2449, 2450),
  (2473, 2473), (2481, 2481), (2483, 2485), (2490, 2491), (2493, 2493), (2501, 2502), (2505, 2506),
  (2510, 2518), (2520, 2523), (2526, 2526), (2532, 2533), (2555, 2561), (2563, 2564), (2571, 2574),
  (2577, 2578), (2601, 2601), (2609, 2609), (2612, 2612), (2615, 2615), (2618, 2619), (2621, 2621),
  (2627, 2630), (2633, 2634), (2638, 2648), (2653, 2653), (2655, 2661), (2677, 2688), (2692, 2692),
  (2700, 2700), (2702, 2702), (2706, 2706), (2729, 2729), (2737, 2737), (2740, 2740), (2746, 2747),
  (2758, 2758), (2762, 2762), (2766, 2767), (2769, 2783), (2785, 2789), (2800, 2816), (2820, 2820),
  (2829, 2830), (2833, 2834), (2857, 2857), (2865, 2865), (2868, 2869), (2874, 2875), (2884, 2886),
  (2889, 2890), (2894, 2901), (2904, 2907), (2910, 2910), (2914, 2917), (2929, 2945), (2948, 2948),
  (2955, 2957), (2961, 2961), (2966, 2968), (2971, 2971), (2973, 2973), (2976, 2978), (2981, 2983),
  (2987, 2989), (2998, 2998), (3002, 3005), (3011, 3013), (3017, 3017), (3022, 3030), (3032, 3046),
  (3059, 3072), (3076, 3076), (3085, 3085), (3089, 3089), (3113, 3113), (3124, 3124), (3130, 3133),
  (3141, 3141), (3145, 3145), (3150, 3156), (3159, 3167), (3170, 3173), (3184, 3201), (3204, 3204),
  (3213, 3213), (3217, 3217), (3241, 3241), (3252, 3252), (3258, 3261), (3269, 3269), (3273, 3273),
  (3278, 3284), (3287, 3293), (3295, 3295), (3298, 3301), (3312, 3329), (3332, 3332), (3341, 3341),
  (3345, 3345), (3369, 3369), (3386, 3389), (3396, 3397), (3401, 3401), (3406, 3414), (3416, 3423),
  (3426, 3429), (3440, 3457), (3460, 3460), (3479, 3481), (3506, 3506), (3516, 3516), (3518, 3519),
  (3527, 3529), (3531, 3534), (3541, 3541), (3543, 3543), (3552, 3569), (3573, 3584), (3643, 3646),
  (3676, 3712), (3715, 3715), (3717, 3718), (3721, 3721), (3723, 3724), (3726, 3731), (3736, 3736),
  (3744, 3744), (3748, 3748), (3750, 3750), (3752, 3753), (3756, 3756), (3770, 3770), (3774, 3775),
  (3781, 3781), (3783, 3783), (3790, 3791), (3802, 3803), (3806, 3839), (3912, 3912), (3947, 3952),
  (3980, 3983), (3992, 3992), (4029, 4029), (4045, 4046), (4048, 4095), (4130, 4130), (4136, 4136),
  (4139, 4139), (4147, 4149), (4154, 4159), (4186, 4255), (4294, 4303), (4345, 4346), (4349, 4351),
  (4442, 4446), (4515, 4519), (4602, 4607), (4615, 4615), (4679, 4679), (4681, 4681), (4686, 4687),
  (4695, 4695), (4697, 4697), (4702, 4703), (4743, 4743), (4745, 4745), (4750, 4751), (4783, 4783),
  (4785, 4785), (4790, 4791), (4799, 4799), (4801, 4801), (4806, 4807), (4815, 4815), (4823, 4823),
  (4847, 4847), (4879, 4879), (4881, 4881), (4886, 4887), (4895, 4895), (4935, 4935), (4955, 4960),
  (4989, 5023), (5109, 5120), (5751, 5760), (5789, 5791), (5873, 5887), (5901, 5901), (5909, 5919),
  (5943, 5951), (5972, 5983), (5997, 5997), (6001, 6001), (6004, 6015), (6109, 6111), (6122, 6143),
  (6158, 6159), (6170, 6175), (6264, 6271), (6314, 7467), (7471, 7471), (7483, 7483), (7494, 7494),
  (7502, 7502), (7508, 7509), (7513, 7513), (7516, 7516), (7531, 7543), (7545, 7578), (7591, 7591),
  (7594, 7594), (7608, 7608), (7616, 7679), (7836, 7839), (7930, 7935), (7958, 7959), (7966, 7967),
  (8006, 8007), (8014, 8015), (8024, 8024), (8026, 8026), (8028, 8028), (8030, 8030), (8062, 8063),
  (8117, 8117), (8133, 8133), (8148, 8149), (8156, 8156), (8176, 8177), (8181, 8181), (8191, 8191),
  (8206, 8207), (8232, 8238), (8275, 8278), (8280, 8286), (8289, 8303), (8306, 8307), (8335, 8335),
  (8349, 8351), (8370, 8399), (8427, 8447), (8524, 8527), (8580, 8584), (8586, 8591), (9167, 9215),
  (9255, 9279), (9291, 9311), (9471, 9471), (9748, 9749), (9752, 9752), (9854, 9855), (9866, 9984),
  (9989, 9989), (9994, 9995), (10024, 10024), (10060, 10060), (10062, 10062), (10067, 10069),
  (10071, 10071), (10079, 10080), (10133, 10135), (10160, 10160), (10175, 10191), (10220, 10223),
  (11008, 11387), (11390, 11903), (11930, 11930), (12020, 12031), (12246, 12287), (12352, 12352),
  (12439, 12440), (12544, 12548), (12589, 12592), (12687, 12687), (12728, 12783), (12831, 12831),
  (12872, 12879), (19894, 19967), (40870, 40959), (42125, 42127), (42183, 42651), (42654, 42993),
  (42997, 42999), (43002, 43869), (43871, 43880), (43882, 44031), (55204, 63743), (64110, 64111),
  (64218, 64255), (64263, 64274), (64280, 64284), (64311, 64311), (64317, 64317), (64319, 64319),
  (64322, 64322), (64325, 64325), (64434, 64466), (64832, 64847), (64912, 64913), (64968, 65007),
  (65021, 65023), (65050, 65055), (65060, 65071), (65107, 65107), (65127, 65127), (65132, 65135),
  (65141, 65141), (65277, 65280), (65471, 65473), (65480, 65481), (65488, 65489), (65496, 65497),
  (65501, 65503), (65511, 65511), (65519, 66303), (66335, 66335), (66340, 66351), (66379, 66559),
  (66598, 66599), (66638, 67456), (67462, 67462), (67464, 67464), (67469, 67469), (67484, 67485),
  (67487, 67487), (67489, 67489), (67495, 67495), (67501, 67501), (67504, 67505), (67513, 118783),
  (119030, 119039), (119079, 119081), (119155, 119162), (119262, 119807), (119893, 119893),
  (119965, 119965), (119968, 119969), (119971, 119972), (119975, 119976), (119981, 119981),
  (119994, 119994), (119996, 119996), (120004, 120004), (120070, 120070), (120075, 120076),
  (120085, 120085), (120093, 120093), (120122, 120122), (120127, 120127), (120133, 120133),
  (120135, 120137), (120145, 120145), (120485, 120487), (120780, 120781), (120832, 126463),
  (126468, 126468), (126496, 126496), (126499, 126499), (126501, 126502), (126504, 126504),
  (126515, 126515), (126520, 126520), (126522, 126522), (126524, 126529), (126531, 126534),
  (126536, 126536), (126538, 126538), (126540, 126540), (126544, 126544), (126547, 126547),
  (126549, 126550), (126552, 126552), (126554, 126554), (126556, 126556), (126558, 126558),
  (126560, 126560), (126563, 126563), (126565, 126566), (126571, 126571), (126579, 126579),
  (126584, 126584), (126589, 126589), (126591, 126591), (126602, 126602), (126620, 126624),
  (126628, 126628), (126634, 126634), (126652, 127231), (127243, 127247), (127279, 127279),
  (127312, 127337), (127341, 127375), (127377, 127487), (127491, 127503), (127548, 127551),
  (127561, 127567), (127570, 130031), (130042, 131071), (173783, 194559), (195102, 1114111)]

/-- Ranges of characters beyond ASCII that a node may not have although other
parts may: spaces, and forms of the marks that are barred from nodes. -/
def barredInNode : List (Nat × Nat) := [
  (160, 160), (168, 168), (175, 175), (180, 180), (184, 184), (728, 733), (890, 890), (900, 901),
  (8125, 8125), (8127, 8129), (8141, 8143), (8157, 8159), (8173, 8174), (8189, 8202), (8215, 8215),
  (8239, 8239), (8254, 8254), (8287, 8287), (8448, 8449), (8453, 8454), (10868, 10868),
  (12288, 12288), (12443, 12444), (64606, 64611), (65018, 65019), (65043, 65043), (65097, 65100),
  (65109, 65109), (65120, 65120), (65124, 65125), (65131, 65136), (65138, 65138), (65140, 65142),
  (65144, 65144), (65146, 65146), (65148, 65148), (65150, 65150), (65282, 65282), (65286, 65287),
  (65295, 65295), (65306, 65306), (65308, 65308), (65310, 65310), (65312, 65312), (65507, 65507)]

/-- Ranges of characters that are written from right to left. -/
def rightToLeft : List (Nat × Nat) := [
  (1470, 1470), (1472, 1472), (1475, 1475), (1488, 1524), (1563, 1610), (1645, 1647), (1649, 1749),
  (1765, 1766), (1786, 1808), (1810, 1836), (1920, 1957), (1969, 1969), (8501, 8504),
  (64285, 64285), (64287, 64296), (64298, 64605), (64612, 64829), (64848, 65020), (65137, 65137),
  (65139, 65139), (65143, 65143), (65145, 65145), (65147, 65147), (65149, 65149), (65151, 65276),
  (126464, 126651)]

/-- Ranges of characters beyond ASCII that are written from left to right. -/
def leftToRight : List (Nat × Nat) := [
  (170, 170), (181, 181), (186, 186), (192, 214), (216, 246), (248, 696), (699, 705), (720, 721),
  (736, 740), (750, 750), (837, 837), (890, 890), (902, 902), (904, 1013), (1017, 1154),
  (1162, 1417), (2307, 2361), (2365, 2368), (2377, 2380), (2384, 2384), (2392, 2401), (2404, 2416),
  (2434, 2489), (2494, 2496), (2503, 2508), (2519, 2529), (2534, 2545), (2548, 2554), (2565, 2617),
  (2622, 2624), (2649, 2671), (2674, 2676), (2691, 2745), (2749, 2752), (2761, 2764), (2768, 2799),
  (2818, 2873), (2877, 2878), (2880, 2880), (2887, 2892), (2903, 2928), (2947, 3007), (3009, 3020),
  (3031, 3129), (3137, 3140), (3168, 3275), (3285, 3392), (3398, 3404), (3415, 3526), (3535, 3537),
  (3544, 3632), (3634, 3635), (3648, 3654), (3663, 3760), (3762, 3763), (3773, 3782), (3792, 3863),
  (3866, 3892), (3894, 3894), (3896, 3896), (3902, 3946), (3967, 3967), (3973, 3973), (3976, 3979),
  (4030, 4037), (4039, 4140), (4145, 4145), (4152, 4152), (4160, 4183), (4256, 5786), (5792, 5905),
  (5920, 5937), (5940, 5969), (5984, 6000), (6016, 6067), (6070, 6070), (6078, 6085), (6087, 6088),
  (6100, 6106), (6108, 6121), (6160, 6276), (6279, 6312), (7468, 8124), (8126, 8126), (8130, 8140),
  (8144, 8155), (8160, 8172), (8178, 8188), (8305, 8305), (8319, 8319), (8336, 8348), (8360, 8360),
  (8448, 8451), (8453, 8455), (8457, 8467), (8469, 8470), (8473, 8477), (8480, 8482), (8484, 8484),
  (8486, 8486), (8488, 8488), (8490, 8493), (8495, 8500), (8505, 8505), (8507, 8511), (8517, 8521),
  (8544, 8579), (9014, 9082), (9109, 9109), (9372, 9449), (10240, 10495), (11388, 11389),
  (11935, 11935), (12019, 12245), (12293, 12295), (12321, 12329), (12334, 12335), (12337, 12341),
  (12344, 12348), (12353, 12438), (12445, 12447), (12449, 12538), (12540, 12880), (12896, 12976),
  (12992, 42124), (42652, 64279), (65313, 65338), (65345, 65370), (65382, 65437), (65440, 65500),
  (66304, 119142), (119146, 119154), (119171, 119172), (119180, 119209), (119214, 120512),
  (120514, 120538), (120540, 120570), (120572, 120596), (120598, 120628), (120630, 120654),
  (120656, 120686), (120688, 120712), (120714, 120744), (120746, 120770), (120772, 120779),
  (127248, 127569), (131072, 195101)]

/-- Ranges of characters that count for nothing. -/
def ignored : List (Nat × Nat) := [
  (173, 173), (847, 847), (6150, 6150), (6155, 6157), (8203, 8205), (8288, 8288), (65024, 65039),
  (65279, 65279)]

/-- Whether a character is in one of some ranges. -/
def isIn (ranges : List (Nat × Nat)) (c : Char) : Bool := ranges.any fun r => r.1 ≤ c.toNat && c.toNat ≤ r.2

/-- Whether a character is an ASCII control. -/
def isControl (c : Char) : Bool := c.toNat < 0x20 || c.toNat == 0x7F

def isBarred (c : Char) : Bool := 0x80 ≤ c.toNat && isIn barred c

/-- Whether a node may not have a character. -/
def isBarredInNode (c : Char) : Bool :=
  if c.toNat < 0x80 then isControl c || " \"&'/:<>@".toList.contains c else isIn barred c || isIn barredInNode c

/-- Whether a resource may not have a character. -/
def isBarredInResource (c : Char) : Bool := isControl c || isBarred c

def isRightToLeft (c : Char) : Bool := 0x80 ≤ c.toNat && isIn rightToLeft c

def isLeftToRight (c : Char) : Bool := if c.toNat < 0x80 then c.isAlpha else isIn leftToRight c

def isIgnored (c : Char) : Bool := 0x80 ≤ c.toNat && isIn ignored c

end Courier.Address
