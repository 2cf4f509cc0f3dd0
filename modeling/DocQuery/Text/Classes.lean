import DocQuery.Text.Alphabetic
import DocQuery.Text.Property.Letter
import DocQuery.Text.Property.Mark

/-!
# Character Classes

The classes of characters that the languages of this library are built on.

* `isSpace`, `isControl`: white space and control characters.
* `isAlphabetic`, `isAlphanumeric`, `isNameChar`: what names in paths and expressions are
  made of.
* `isDigit`, `isWord`: what patterns call a digit and a word character.

`isNameChar` and `isWord` agree on ASCII and differ beyond it: a superscript two is a
character of a name and no word character, a combining accent is a word character and no
character of a name.  They also follow different editions of the Unicode character database.
Names follow edition 17.0 and patterns edition 16.0, so a letter that only the newer edition
lists may stand in a name without being a word character.

## Main statements

- `isSpace_eq_of_lt`, `isDigit_eq_of_lt`: white space and digits of ASCII
- `isNameChar_eq_of_lt`, `isWord_eq_of_lt`: the characters of names and words of ASCII
-/

namespace DocQuery.Text

/-- White space, in all scripts. -/
def isSpace (c : Char) : Bool := Property.whiteSpace.contains c

/-- Control characters: below the space, and from delete up to U+009F. -/
def isControl (c : Char) : Bool := c.toNat < 32 || (127 ≤ c.toNat && c.toNat < 160)

/-! ## Numbers

Decimal digits, letter numbers such as Roman numerals, and other numbers such as fractions and
circled digits.  The table is that of edition 17.0. -/

/-- Points of change of `numeric` from U+0030 to U+1D2D4. -/
def numericChanges1 : List Nat := [
  48, 58, 178, 180, 185, 186, 188, 191, 1632, 1642, 1776, 1786, 1984, 1994, 2406, 2416, 2534,
  2544, 2548, 2554, 2662, 2672, 2790, 2800, 2918, 2928, 2930, 2936, 3046, 3059, 3174, 3184, 3192,
  3199, 3302, 3312, 3416, 3423, 3430, 3449, 3558, 3568, 3664, 3674, 3792, 3802, 3872, 3892, 4160,
  4170, 4240, 4250, 4969, 4989, 5870, 5873, 6112, 6122, 6128, 6138, 6160, 6170, 6470, 6480, 6608,
  6619, 6784, 6794, 6800, 6810, 6992, 7002, 7088, 7098, 7232, 7242, 7248, 7258, 8304, 8305, 8308,
  8314, 8320, 8330, 8528, 8579, 8581, 8586, 9312, 9372, 9450, 9472, 10102, 10132, 11517, 11518,
  12295, 12296, 12321, 12330, 12344, 12347, 12690, 12694, 12832, 12842, 12872, 12880, 12881,
  12896, 12928, 12938, 12977, 12992, 42528, 42538, 42726, 42736, 43056, 43062, 43216, 43226,
  43264, 43274, 43472, 43482, 43504, 43514, 43600, 43610, 44016, 44026, 65296, 65306, 65799,
  65844, 65856, 65913, 65930, 65932, 66273, 66300, 66336, 66340, 66369, 66370, 66378, 66379,
  66513, 66518, 66720, 66730, 67672, 67680, 67705, 67712, 67751, 67760, 67835, 67840, 67862,
  67868, 68028, 68030, 68032, 68048, 68050, 68096, 68160, 68169, 68221, 68223, 68253, 68256,
  68331, 68336, 68440, 68448, 68472, 68480, 68521, 68528, 68858, 68864, 68912, 68922, 68928,
  68938, 69216, 69247, 69405, 69415, 69457, 69461, 69573, 69580, 69714, 69744, 69872, 69882,
  69942, 69952, 70096, 70106, 70113, 70133, 70384, 70394, 70736, 70746, 70864, 70874, 71248,
  71258, 71360, 71370, 71376, 71396, 71472, 71484, 71904, 71923, 72016, 72026, 72688, 72698,
  72784, 72813, 73040, 73050, 73120, 73130, 73184, 73194, 73552, 73562, 73664, 73685, 74752,
  74863, 90416, 90426, 92768, 92778, 92864, 92874, 93008, 93018, 93019, 93026, 93552, 93562,
  93824, 93847, 94196, 94199, 118000, 118010, 119488, 119508]

/-- Points of change of `numeric` from U+1D2E0 to U+1FBFA. -/
def numericChanges2 : List Nat := [
  119520, 119540, 119648, 119673, 120782, 120832, 123200, 123210, 123632, 123642, 124144, 124154,
  124401, 124411, 125127, 125136, 125264, 125274, 126065, 126124, 126125, 126128, 126129, 126133,
  126209, 126254, 126255, 126270, 127232, 127245, 130032, 130042]

/-- The characters of the categories of numbers. -/
def numeric : CodePointSet where
  changes := [numericChanges1, numericChanges2].flatten

/-! ## Names -/

/-- Letters, in all scripts. -/
def isAlphabetic (c : Char) : Bool := alphabetic.contains c

/-- Letters and numbers of every kind. -/
def isAlphanumeric (c : Char) : Bool := isAlphabetic c || numeric.contains c

/-- The characters of a bare name: letters, numbers and the low line. -/
def isNameChar (c : Char) : Bool := c == '_' || isAlphanumeric c

/-! ## Patterns -/

/-- Decimal digits, in all scripts. -/
def digit : CodePointSet := ofCategory .nd

/-- The word characters of patterns: letters, marks, decimal digits, connectors and
joiners. -/
def word : CodePointSet :=
  (Property.alphabetic.union (ofCategories fun k => k.isMark || k == .nd || k == .pc)).union
    Property.joinControl

/-- Whether patterns call `c` a digit. -/
def isDigit (c : Char) : Bool := digit.contains c

/-- Whether patterns call `c` a word character. -/
def isWord (c : Char) : Bool := word.contains c

/-! ## ASCII

Below U+0080 the classes are the familiar ones.  So whether a given mark belongs to a class is read
off the mark, without the tables of the class. -/

/-- White space of ASCII: the space and the control characters from tab to carriage return. -/
theorem isSpace_ascii : ∀ n < 128,
    isSpace (Char.ofNat n) = (n == 32 || (9 ≤ n && n ≤ 13 : Bool)) := by
  decide +kernel

/-- Letters of ASCII are alphabetic, and no other character of ASCII is. -/
theorem isAlphabetic_ascii : ∀ n < 128,
    isAlphabetic (Char.ofNat n) = (Char.ofNat n).isAlpha := by
  decide +kernel

/-- On ASCII a character of a name is a word character and the other way round. -/
theorem isNameChar_eq_isWord_ascii : ∀ n < 128,
    isNameChar (Char.ofNat n) = isWord (Char.ofNat n) := by
  decide +kernel

/-- On ASCII the characters of a name are letters, digits and the low line. -/
theorem isNameChar_ascii : ∀ n < 128,
    isNameChar (Char.ofNat n) = ((Char.ofNat n).isAlphanum || Char.ofNat n == '_') := by
  decide +kernel

variable {c : Char}

theorem isSpace_eq_of_lt (hc : c.toNat < 128) :
    isSpace c = (c.toNat == 32 || (9 ≤ c.toNat && c.toNat ≤ 13 : Bool)) := by
  have h := isSpace_ascii c.toNat hc
  rwa [Char.ofNat_toNat] at h

theorem isNameChar_eq_of_lt (hc : c.toNat < 128) : isNameChar c = (c.isAlphanum || c == '_') := by
  have h := isNameChar_ascii c.toNat hc
  rwa [Char.ofNat_toNat] at h

theorem isWord_eq_of_lt (hc : c.toNat < 128) : isWord c = (c.isAlphanum || c == '_') := by
  have h := isNameChar_eq_isWord_ascii c.toNat hc
  rw [Char.ofNat_toNat] at h
  rw [← h, isNameChar_eq_of_lt hc]

theorem isDigit_eq_of_lt (hc : c.toNat < 128) : isDigit c = c.isDigit := by
  have hascii : ∀ n < 128, isDigit (Char.ofNat n) = (Char.ofNat n).isDigit := by decide +kernel
  have h := hascii c.toNat hc
  rwa [Char.ofNat_toNat] at h

end DocQuery.Text
