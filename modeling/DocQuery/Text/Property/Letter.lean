import DocQuery.Text.Category

/-!
# Letter Case and Letters

Properties of letters: their case, whether a change of case alters them, and which characters
outside the categories of letters count as letters.  The tables are those of edition 16.0 of
the Unicode character database; what follows from a table and the categories is computed.
-/

namespace DocQuery.Text

namespace Property

/-- Characters that count as lower case without being lowercase letters. -/
def otherLowercase : CodePointSet where
  changes := [
    170, 171, 186, 187, 688, 697, 704, 706, 736, 741, 837, 838, 890, 891, 4348, 4349, 7468, 7531,
    7544, 7545, 7579, 7616, 8305, 8306, 8319, 8320, 8336, 8349, 8560, 8576, 9424, 9450, 11388,
    11390, 42652, 42654, 42864, 42865, 42994, 42997, 43000, 43002, 43868, 43872, 43881, 43882,
    67456, 67457, 67459, 67462, 67463, 67505, 67506, 67515, 122928, 122990]

/-- Characters that count as upper case without being uppercase letters. -/
def otherUppercase : CodePointSet where
  changes := [8544, 8560, 9398, 9424, 127280, 127306, 127312, 127338, 127344, 127370]

/-- Points of change of `otherAlphabetic` from U+0345 to U+2E00. -/
def otherAlphabeticChanges1 : List Nat := [
  837, 838, 867, 880, 1456, 1470, 1471, 1472, 1473, 1475, 1476, 1478, 1479, 1480, 1552, 1563,
  1611, 1624, 1625, 1632, 1648, 1649, 1750, 1757, 1761, 1765, 1767, 1769, 1773, 1774, 1809, 1810,
  1840, 1856, 1958, 1969, 2070, 2072, 2075, 2084, 2085, 2088, 2089, 2093, 2199, 2200, 2260, 2272,
  2275, 2282, 2288, 2308, 2362, 2364, 2366, 2381, 2382, 2384, 2389, 2392, 2402, 2404, 2433, 2436,
  2494, 2501, 2503, 2505, 2507, 2509, 2519, 2520, 2530, 2532, 2561, 2564, 2622, 2627, 2631, 2633,
  2635, 2637, 2641, 2642, 2672, 2674, 2677, 2678, 2689, 2692, 2750, 2758, 2759, 2762, 2763, 2765,
  2786, 2788, 2810, 2813, 2817, 2820, 2878, 2885, 2887, 2889, 2891, 2893, 2902, 2904, 2914, 2916,
  2946, 2947, 3006, 3011, 3014, 3017, 3018, 3021, 3031, 3032, 3072, 3077, 3134, 3141, 3142, 3145,
  3146, 3149, 3157, 3159, 3170, 3172, 3201, 3204, 3262, 3269, 3270, 3273, 3274, 3277, 3285, 3287,
  3298, 3300, 3315, 3316, 3328, 3332, 3390, 3397, 3398, 3401, 3402, 3405, 3415, 3416, 3426, 3428,
  3457, 3460, 3535, 3541, 3542, 3543, 3544, 3552, 3570, 3572, 3633, 3634, 3636, 3643, 3661, 3662,
  3761, 3762, 3764, 3770, 3771, 3773, 3789, 3790, 3953, 3972, 3981, 3992, 3993, 4029, 4139, 4151,
  4152, 4153, 4155, 4159, 4182, 4186, 4190, 4193, 4194, 4197, 4199, 4206, 4209, 4213, 4226, 4238,
  4239, 4240, 4250, 4254, 5906, 5908, 5938, 5940, 5970, 5972, 6002, 6004, 6070, 6089, 6277, 6279,
  6313, 6314, 6432, 6444, 6448, 6457, 6679, 6684, 6741, 6751, 6753, 6773, 6847, 6849, 6860, 6863,
  6912, 6917, 6965, 6980, 7040, 7043, 7073, 7082, 7084, 7086, 7143, 7154, 7204, 7223, 7635, 7669,
  9398, 9450, 11744, 11776]

/-- Points of change of `otherAlphabetic` from U+A674 to U+1F18A. -/
def otherAlphabeticChanges2 : List Nat := [
  42612, 42620, 42654, 42656, 43010, 43011, 43019, 43020, 43043, 43048, 43136, 43138, 43188,
  43204, 43205, 43206, 43263, 43264, 43302, 43307, 43335, 43347, 43392, 43396, 43444, 43456,
  43493, 43494, 43561, 43575, 43587, 43588, 43596, 43598, 43643, 43646, 43696, 43697, 43698,
  43701, 43703, 43705, 43710, 43711, 43755, 43760, 43765, 43766, 44003, 44011, 64286, 64287,
  66422, 66427, 68097, 68100, 68101, 68103, 68108, 68112, 68900, 68904, 68969, 68970, 69291,
  69293, 69372, 69373, 69632, 69635, 69688, 69702, 69747, 69749, 69760, 69763, 69808, 69817,
  69826, 69827, 69888, 69891, 69927, 69939, 69957, 69959, 70016, 70019, 70067, 70080, 70094,
  70096, 70188, 70197, 70199, 70200, 70206, 70207, 70209, 70210, 70367, 70377, 70400, 70404,
  70462, 70469, 70471, 70473, 70475, 70477, 70487, 70488, 70498, 70500, 70584, 70593, 70594,
  70595, 70597, 70598, 70599, 70603, 70604, 70606, 70709, 70722, 70723, 70726, 70832, 70850,
  71087, 71094, 71096, 71103, 71132, 71134, 71216, 71231, 71232, 71233, 71339, 71350, 71453,
  71467, 71724, 71737, 71984, 71990, 71991, 71993, 71995, 71997, 72000, 72001, 72002, 72003,
  72145, 72152, 72154, 72160, 72164, 72165, 72193, 72203, 72245, 72250, 72251, 72255, 72273,
  72284, 72330, 72344, 72751, 72759, 72760, 72767, 72850, 72872, 72873, 72887, 73009, 73015,
  73018, 73019, 73020, 73022, 73023, 73026, 73027, 73028, 73031, 73032, 73098, 73103, 73104,
  73106, 73107, 73111, 73459, 73463, 73472, 73474, 73475, 73476, 73524, 73531, 73534, 73537,
  90398, 90415, 94031, 94032, 94033, 94088, 94095, 94099, 94192, 94194, 113822, 113823, 122880,
  122887, 122888, 122905, 122907, 122914, 122915, 122917, 122918, 122923, 123023, 123024, 125255,
  125256, 127280, 127306, 127312, 127338, 127344, 127370]

/-- Marks and symbols that count as letters. -/
def otherAlphabetic : CodePointSet where
  changes := [otherAlphabeticChanges1, otherAlphabeticChanges2].flatten

def lowercase : CodePointSet := (ofCategory .ll).union otherLowercase

def uppercase : CodePointSet := (ofCategory .lu).union otherUppercase

/-- Characters that have a case. -/
def cased : CodePointSet := (lowercase.union uppercase).union (ofCategory .lt)

/-- Letters, letter numbers, and what counts as letters. -/
def alphabetic : CodePointSet :=
  (ofCategories fun k => k.isLetter || k == .nl).union otherAlphabetic

/-- Punctuation that may stand inside a word. -/
def midword : CodePointSet where
  changes := [
    39, 40, 46, 47, 58, 59, 183, 184, 903, 904, 1375, 1376, 1524, 1525, 8216, 8218, 8228, 8229,
    8231, 8232, 65043, 65044, 65106, 65107, 65109, 65110, 65287, 65288, 65294, 65295, 65306,
    65307]

/-- Characters that are passed over when the surroundings decide about case. -/
def caseIgnorable : CodePointSet :=
  (ofCategories ([.mn, .me, .cf, .lm, .sk].contains ·)).union midword

/-- Characters whose dot disappears under an accent. -/
def softDotted : CodePointSet where
  changes := [
    105, 107, 303, 304, 585, 586, 616, 617, 669, 670, 690, 691, 1011, 1012, 1110, 1111, 1112,
    1113, 7522, 7523, 7574, 7575, 7588, 7589, 7592, 7593, 7725, 7726, 7883, 7884, 8305, 8306,
    8520, 8522, 11388, 11389, 119842, 119844, 119894, 119896, 119946, 119948, 119998, 120000,
    120050, 120052, 120102, 120104, 120154, 120156, 120206, 120208, 120258, 120260, 120310,
    120312, 120362, 120364, 120414, 120416, 120466, 120468, 122650, 122651, 122956, 122958,
    122984, 122985]

/-- Capital letters that no small letter belongs to. -/
def withoutLowercase : CodePointSet where
  changes := [
    978, 981, 8450, 8451, 8455, 8456, 8459, 8462, 8464, 8467, 8469, 8470, 8473, 8478, 8484, 8485,
    8488, 8489, 8492, 8494, 8496, 8498, 8499, 8500, 8510, 8512, 8517, 8518, 119808, 119834,
    119860, 119886, 119912, 119938, 119964, 119965, 119966, 119968, 119970, 119971, 119973,
    119975, 119977, 119981, 119982, 119990, 120016, 120042, 120068, 120070, 120071, 120075,
    120077, 120085, 120086, 120093, 120120, 120122, 120123, 120127, 120128, 120133, 120134,
    120135, 120138, 120145, 120172, 120198, 120224, 120250, 120276, 120302, 120328, 120354,
    120380, 120406, 120432, 120458, 120488, 120513, 120546, 120571, 120604, 120629, 120662,
    120687, 120720, 120745, 120778, 120779, 127280, 127306, 127312, 127338, 127344, 127370]

/-- Characters that their lowercase form differs from. -/
def changesWhenLowercased : CodePointSet :=
  (uppercase.union (ofCategory .lt)).diff withoutLowercase

/-- Small letters that no capital letter belongs to, and titlecase letters. -/
def uppercaseExceptions : CodePointSet where
  changes := [
    170, 171, 186, 187, 312, 313, 397, 398, 426, 428, 442, 443, 446, 447, 453, 454, 456, 457, 459,
    460, 498, 499, 545, 546, 564, 570, 597, 598, 600, 601, 602, 603, 605, 608, 610, 611, 615, 616,
    621, 623, 624, 625, 627, 629, 630, 637, 638, 640, 641, 642, 644, 647, 653, 658, 659, 660, 661,
    669, 671, 697, 704, 706, 736, 741, 890, 891, 1020, 1021, 1376, 1377, 1416, 1417, 4348, 4349,
    7424, 7545, 7546, 7549, 7550, 7566, 7567, 7616, 7836, 7838, 7839, 7840, 8072, 8080, 8088,
    8096, 8104, 8112, 8124, 8125, 8140, 8141, 8188, 8189, 8305, 8306, 8319, 8320, 8336, 8349,
    8458, 8459, 8462, 8464, 8467, 8468, 8495, 8496, 8500, 8501, 8505, 8506, 8508, 8510, 8518,
    8522, 11377, 11378, 11380, 11381, 11383, 11390, 11492, 11493, 42652, 42654, 42800, 42802,
    42864, 42873, 42894, 42895, 42901, 42902, 42927, 42928, 42963, 42964, 42965, 42966, 42994,
    42997, 43000, 43003, 43824, 43859, 43860, 43867, 43868, 43882, 67456, 67457, 67459, 67462,
    67463, 67505, 67506, 67515, 119834, 119860, 119886, 119893, 119894, 119912, 119938, 119964,
    119990, 119994, 119995, 119996, 119997, 120004, 120005, 120016, 120042, 120068, 120094,
    120120, 120146, 120172, 120198, 120224, 120250, 120276, 120302, 120328, 120354, 120380,
    120406, 120432, 120458, 120486, 120514, 120539, 120540, 120546, 120572, 120597, 120598,
    120604, 120630, 120655, 120656, 120662, 120688, 120713, 120714, 120720, 120746, 120771,
    120772, 120778, 120779, 120780, 122624, 122634, 122635, 122655, 122661, 122667, 122928,
    122990]

/-- Characters that their uppercase form differs from. -/
def changesWhenUppercased : CodePointSet := lowercase.symmDiff uppercaseExceptions

/-- Characters that change to upper case or to title case, but not both. -/
def titlecaseExceptions : CodePointSet where
  changes := [
    452, 454, 455, 457, 458, 460, 497, 499, 4304, 4347, 4349, 4352, 8072, 8080, 8088, 8096, 8104,
    8112, 8124, 8125, 8140, 8141, 8188, 8189]

/-- Characters that their titlecase form differs from. -/
def changesWhenTitlecased : CodePointSet := changesWhenUppercased.symmDiff titlecaseExceptions

/-- Characters that change to lower case or under case folding, but not both. -/
def foldExceptions : CodePointSet where
  changes := [
    181, 182, 223, 224, 329, 330, 383, 384, 837, 838, 962, 963, 976, 978, 981, 983, 1008, 1010,
    1013, 1014, 1415, 1416, 5024, 5110, 5112, 5118, 7296, 7305, 7834, 7836, 8064, 8072, 8080,
    8088, 8096, 8104, 8114, 8117, 8119, 8120, 8130, 8133, 8135, 8136, 8178, 8181, 8183, 8184,
    43888, 43968, 64256, 64263, 64275, 64280]

/-- Characters that case folding changes. -/
def changesWhenCasefolded : CodePointSet := changesWhenLowercased.symmDiff foldExceptions

/-- Characters that some change of case alters. -/
def changesWhenCasemapped : CodePointSet :=
  (changesWhenLowercased.union changesWhenUppercased).union changesWhenTitlecased

/-- Points of change of `diacritic` from U+005E to U+AAC3. -/
def diacriticChanges1 : List Nat := [
  94, 95, 96, 97, 168, 169, 175, 176, 180, 181, 183, 185, 688, 847, 848, 856, 861, 867, 884, 886,
  890, 891, 900, 902, 1155, 1160, 1369, 1370, 1425, 1470, 1471, 1472, 1473, 1475, 1476, 1478,
  1479, 1480, 1611, 1619, 1623, 1625, 1759, 1761, 1765, 1767, 1770, 1773, 1840, 1867, 1958, 1969,
  2027, 2038, 2072, 2074, 2200, 2208, 2249, 2259, 2275, 2303, 2364, 2365, 2381, 2382, 2385, 2389,
  2417, 2418, 2492, 2493, 2509, 2510, 2620, 2621, 2637, 2638, 2748, 2749, 2765, 2766, 2813, 2816,
  2876, 2877, 2893, 2894, 2901, 2902, 3021, 3022, 3132, 3133, 3149, 3150, 3260, 3261, 3277, 3278,
  3387, 3389, 3405, 3406, 3530, 3531, 3642, 3643, 3655, 3661, 3662, 3663, 3770, 3771, 3784, 3789,
  3864, 3866, 3893, 3894, 3895, 3896, 3897, 3898, 3902, 3904, 3970, 3973, 3974, 3976, 4038, 4039,
  4151, 4152, 4153, 4155, 4195, 4197, 4201, 4206, 4231, 4238, 4239, 4240, 4250, 4252, 4957, 4960,
  5908, 5910, 5940, 5941, 6089, 6100, 6109, 6110, 6457, 6460, 6752, 6753, 6773, 6781, 6783, 6784,
  6832, 6847, 6849, 6860, 6964, 6965, 6980, 6981, 7019, 7028, 7082, 7084, 7142, 7143, 7154, 7156,
  7222, 7224, 7288, 7294, 7376, 7401, 7405, 7406, 7412, 7413, 7415, 7418, 7468, 7531, 7579, 7615,
  7620, 7632, 7669, 7680, 8125, 8126, 8127, 8130, 8141, 8144, 8157, 8160, 8173, 8176, 8189, 8191,
  11503, 11506, 11823, 11824, 12330, 12336, 12441, 12445, 12540, 12541, 42607, 42608, 42620,
  42622, 42623, 42624, 42652, 42654, 42736, 42738, 42752, 42786, 42888, 42891, 43000, 43002,
  43014, 43015, 43052, 43053, 43204, 43205, 43232, 43250, 43307, 43311, 43347, 43348, 43443,
  43444, 43456, 43457, 43493, 43494, 43643, 43646, 43711, 43715]

/-- Points of change of `diacritic` from U+AAF6 to U+1E94B. -/
def diacriticChanges2 : List Nat := [
  43766, 43767, 43867, 43872, 43881, 43884, 44012, 44014, 64286, 64287, 65056, 65072, 65342,
  65343, 65344, 65345, 65392, 65393, 65438, 65440, 65507, 65508, 66272, 66273, 67456, 67462,
  67463, 67505, 67506, 67515, 68152, 68155, 68159, 68160, 68325, 68327, 68898, 68904, 68942,
  68943, 68969, 68974, 69373, 69376, 69446, 69457, 69506, 69510, 69702, 69703, 69744, 69745,
  69817, 69819, 69939, 69941, 70003, 70004, 70080, 70081, 70090, 70093, 70197, 70199, 70377,
  70379, 70459, 70461, 70477, 70478, 70502, 70509, 70512, 70517, 70606, 70609, 70610, 70612,
  70625, 70627, 70722, 70723, 70726, 70727, 70850, 70852, 71103, 71105, 71231, 71232, 71350,
  71352, 71467, 71468, 71737, 71739, 71997, 71999, 72003, 72004, 72160, 72161, 72244, 72245,
  72263, 72264, 72345, 72346, 72767, 72768, 73026, 73027, 73028, 73030, 73111, 73112, 73537,
  73539, 73562, 73563, 78919, 78934, 90415, 90416, 92912, 92917, 92976, 92983, 93547, 93549,
  94095, 94112, 94192, 94194, 110576, 110580, 110581, 110588, 110589, 110591, 118528, 118574,
  118576, 118599, 119143, 119146, 119149, 119155, 119163, 119171, 119173, 119180, 119210, 119214,
  122928, 122990, 123184, 123191, 123566, 123567, 123628, 123632, 124398, 124400, 125136, 125143,
  125252, 125255, 125256, 125259]

/-- Marks and signs that alter the value of a neighbouring character. -/
def diacritic : CodePointSet where
  changes := [diacriticChanges1, diacriticChanges2].flatten

/-- Characters that lengthen or repeat the one before. -/
def extender : CodePointSet where
  changes := [
    183, 184, 720, 722, 1600, 1601, 2042, 2043, 2673, 2674, 2811, 2812, 2901, 2902, 3654, 3655,
    3782, 3783, 6154, 6155, 6211, 6212, 6823, 6824, 7222, 7223, 7291, 7292, 12293, 12294, 12337,
    12342, 12445, 12447, 12540, 12543, 40981, 40982, 42508, 42509, 43471, 43472, 43494, 43495,
    43632, 43633, 43741, 43742, 43763, 43765, 65392, 65393, 67457, 67459, 68942, 68943, 68970,
    68971, 68975, 68976, 70199, 70200, 70493, 70494, 70610, 70612, 71110, 71113, 72344, 72345,
    92994, 92996, 94176, 94178, 94179, 94180, 123196, 123198, 124399, 124400, 125252, 125255]

/-- Vowels that are written before their consonant and spoken after it. -/
def logicalOrderException : CodePointSet where
  changes := [
    3648, 3653, 3776, 3781, 6581, 6584, 6586, 6587, 43701, 43703, 43705, 43706, 43707, 43709]

/-- The hexadecimal digits of ASCII. -/
def asciiHexDigit : CodePointSet where
  changes := [48, 58, 65, 71, 97, 103]

/-- Hexadecimal digits, fullwidth forms included. -/
def hexDigit : CodePointSet where
  changes := [48, 58, 65, 71, 97, 103, 65296, 65306, 65313, 65319, 65345, 65351]

/-- Ideographs of any script. -/
def ideographic : CodePointSet where
  changes := [
    12294, 12296, 12321, 12330, 12344, 12347, 13312, 19904, 19968, 40960, 63744, 64110, 64112,
    64218, 94180, 94181, 94208, 100344, 100352, 101590, 101631, 101641, 110960, 111356, 131072,
    173792, 173824, 177978, 177984, 178206, 178208, 183970, 183984, 191457, 191472, 192094,
    194560, 195102, 196608, 201547, 201552, 205744]

/-- The unified ideographs of Chinese, Japanese and Korean. -/
def unifiedIdeograph : CodePointSet where
  changes := [
    13312, 19904, 19968, 40960, 64014, 64016, 64017, 64018, 64019, 64021, 64031, 64032, 64033,
    64034, 64035, 64037, 64039, 64042, 131072, 173792, 173824, 177978, 177984, 178206, 178208,
    183970, 183984, 191457, 191472, 192094, 196608, 201547, 201552, 205744]

/-- Radicals of ideographs. -/
def radical : CodePointSet where
  changes := [11904, 11930, 11931, 12020, 12032, 12246]

/-- Operators that describe an ideograph by two parts. -/
def idsBinaryOperator : CodePointSet where
  changes := [12272, 12274, 12276, 12286, 12783, 12784]

/-- Operators that describe an ideograph by three parts. -/
def idsTrinaryOperator : CodePointSet where
  changes := [12274, 12276]

/-- Operators that describe an ideograph by one part. -/
def idsUnaryOperator : CodePointSet where
  changes := [12286, 12288]

end Property

end DocQuery.Text
