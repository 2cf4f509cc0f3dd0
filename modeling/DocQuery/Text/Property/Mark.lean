import DocQuery.Text.Category

/-!
# Marks and Format Characters

Properties of marks, of characters without a graphic form, and of the code points that never
stand for a character.  The tables are those of edition 16.0 of the Unicode character
database; what follows from a table and the categories is computed.
-/

namespace DocQuery.Text

namespace Property

def whiteSpace : CodePointSet where
  changes := [
    9, 14, 32, 33, 133, 134, 160, 161, 5760, 5761, 8192, 8203, 8232, 8234, 8239, 8240, 8287, 8288,
    12288, 12289]

/-- The zero width joiner and non-joiner. -/
def joinControl : CodePointSet where
  changes := [8204, 8206]

/-- Characters that control the direction of writing. -/
def bidiControl : CodePointSet where
  changes := [1564, 1565, 8206, 8208, 8234, 8239, 8294, 8298]

/-- Characters that select a variant of the one before. -/
def variationSelector : CodePointSet where
  changes := [6155, 6158, 6159, 6160, 65024, 65040, 917760, 918000]

/-- Marks that stand before the characters they belong to. -/
def prependedConcatenationMark : CodePointSet where
  changes := [
    1536, 1542, 1757, 1758, 1807, 1808, 2192, 2194, 2274, 2275, 69821, 69822, 69837, 69838]

/-- Arabic marks that belong to the letter below other marks. -/
def modifierCombiningMark : CodePointSet where
  changes := [
    1620, 1622, 1624, 1625, 1756, 1757, 1763, 1764, 1767, 1769, 2250, 2252, 2253, 2256, 2259,
    2260, 2291, 2292]

/-- Code points that never stand for a character. -/
def noncharacter : CodePointSet where
  changes := [
    64976, 65008, 65534, 65536, 131070, 131072, 196606, 196608, 262142, 262144, 327678, 327680,
    393214, 393216, 458750, 458752, 524286, 524288, 589822, 589824, 655358, 655360, 720894,
    720896, 786430, 786432, 851966, 851968, 917502, 917504, 983038, 983040, 1048574, 1048576,
    1114110, 1114112]

/-- Characters that should no longer be used. -/
def deprecated : CodePointSet where
  changes := [
    329, 330, 1651, 1652, 3959, 3960, 3961, 3962, 6051, 6053, 8298, 8304, 9001, 9003, 917505,
    917506]

/-- Characters that are not displayed without being format characters. -/
def otherDefaultIgnorable : CodePointSet where
  changes := [
    847, 848, 4447, 4449, 6068, 6070, 8293, 8294, 12644, 12645, 65440, 65441, 65520, 65529,
    917504, 917505, 917506, 917536, 917632, 917760, 918000, 921600]

/-- Format characters that are displayed all the same. -/
def visibleFormat : CodePointSet where
  changes := [65529, 65532, 78896, 78913]

/-- Characters that are not displayed when they are not supported. -/
def defaultIgnorable : CodePointSet :=
  (((otherDefaultIgnorable.union (ofCategory .cf)).union variationSelector).diff
    (visibleFormat.union prependedConcatenationMark)).diff whiteSpace

/-- Characters that extend what is before them without being nonspacing marks. -/
def otherGraphemeExtend : CodePointSet where
  changes := [
    2494, 2495, 2519, 2520, 2878, 2879, 2903, 2904, 3006, 3007, 3031, 3032, 3264, 3265, 3266,
    3267, 3271, 3273, 3274, 3276, 3285, 3287, 3390, 3391, 3415, 3416, 3535, 3536, 3551, 3552,
    5909, 5910, 5940, 5941, 6965, 6966, 6971, 6972, 6973, 6974, 6979, 6981, 7082, 7083, 7154,
    7156, 8204, 8205, 12334, 12336, 43347, 43348, 43456, 43457, 65438, 65440, 70080, 70081, 70197,
    70198, 70462, 70463, 70477, 70478, 70487, 70488, 70584, 70585, 70594, 70595, 70597, 70598,
    70599, 70602, 70607, 70608, 70832, 70833, 70845, 70846, 71087, 71088, 71350, 71351, 71984,
    71985, 71997, 71998, 73537, 73538, 94192, 94194, 119141, 119143, 119149, 119155, 917536,
    917632]

/-- Characters that extend what is before them. -/
def graphemeExtend : CodePointSet :=
  (ofCategories fun k => k == .mn || k == .me).union otherGraphemeExtend

/-- Characters that others may extend. -/
def graphemeBase : CodePointSet :=
  (ofCategories fun k => [.cc, .cf, .cs, .co, .cn, .zl, .zp].all (· != k)).diff graphemeExtend

/-- Viramas, which join consonants. -/
def graphemeLink : CodePointSet where
  changes := [
    2381, 2382, 2509, 2510, 2637, 2638, 2765, 2766, 2893, 2894, 3021, 3022, 3149, 3150, 3277,
    3278, 3387, 3389, 3405, 3406, 3530, 3531, 3642, 3643, 3770, 3771, 3972, 3973, 4153, 4155,
    5908, 5910, 5940, 5941, 6098, 6099, 6752, 6753, 6980, 6981, 7082, 7084, 7154, 7156, 11647,
    11648, 43014, 43015, 43052, 43053, 43204, 43205, 43347, 43348, 43456, 43457, 43766, 43767,
    44013, 44014, 68159, 68160, 69702, 69703, 69744, 69745, 69759, 69760, 69817, 69818, 69939,
    69941, 70080, 70081, 70197, 70198, 70378, 70379, 70477, 70478, 70606, 70609, 70722, 70723,
    70850, 70851, 71103, 71104, 71231, 71232, 71350, 71351, 71467, 71468, 71737, 71738, 71997,
    71999, 72160, 72161, 72244, 72245, 72263, 72264, 72345, 72346, 72767, 72768, 73028, 73030,
    73111, 73112, 73537, 73539, 90415, 90416]

/-- The letters that pairs of make up flags. -/
def regionalIndicator : CodePointSet where
  changes := [127462, 127488]

end Property

end DocQuery.Text
