import DocQuery.Text.Property.Letter
import DocQuery.Text.Property.Mark

/-!
# Identifiers

The characters that names in formal languages are made of, and those that such languages keep
for themselves.  The tables are those of edition 16.0 of the Unicode character database.
-/

namespace DocQuery.Text

namespace Property

/-- Characters that patterns may use as operators. -/
def patternSyntax : CodePointSet where
  changes := [
    33, 48, 58, 65, 91, 95, 96, 97, 123, 127, 161, 168, 169, 170, 171, 173, 174, 175, 176, 178,
    182, 183, 187, 188, 191, 192, 215, 216, 247, 248, 8208, 8232, 8240, 8255, 8257, 8276, 8277,
    8287, 8592, 9312, 9472, 10102, 10132, 11264, 11776, 11904, 12289, 12292, 12296, 12321, 12336,
    12337, 64830, 64832, 65093, 65095]

/-- White space between the parts of a pattern. -/
def patternWhiteSpace : CodePointSet where
  changes := [9, 14, 32, 33, 133, 134, 8206, 8208, 8232, 8234]

/-- Characters that may start a name although they are no letters. -/
def otherIdStart : CodePointSet where
  changes := [6277, 6279, 8472, 8473, 8494, 8495, 12443, 12445]

/-- Characters that may stand in a name although they are no letters or marks. -/
def otherIdContinue : CodePointSet where
  changes := [183, 184, 903, 904, 4969, 4978, 6618, 6619, 8204, 8206, 12539, 12540, 65381, 65382]

/-- Characters that may start a name. -/
def idStart : CodePointSet :=
  (((ofCategories fun k => k.isLetter || k == .nl).union otherIdStart).diff patternSyntax).diff
    patternWhiteSpace

/-- Characters that may stand in a name. -/
def idContinue : CodePointSet :=
  (((idStart.union (ofCategories ([.mn, .mc, .nd, .pc].contains ·))).union otherIdContinue).diff
    patternSyntax).diff patternWhiteSpace

/-- Starts of names that normalization may turn into something else. -/
def unstableStart : CodePointSet where
  changes := [
    890, 891, 3635, 3636, 3763, 3764, 12443, 12445, 64606, 64612, 65018, 65020, 65136, 65137,
    65138, 65139, 65140, 65141, 65142, 65143, 65144, 65145, 65146, 65147, 65148, 65149, 65150,
    65151, 65438, 65440]

/-- Parts of names that normalization may turn into something else. -/
def unstableContinue : CodePointSet where
  changes := [
    890, 891, 12443, 12445, 64606, 64612, 65018, 65020, 65136, 65137, 65138, 65139, 65140, 65141,
    65142, 65143, 65144, 65145, 65146, 65147, 65148, 65149, 65150, 65151]

/-- Characters that may start a name and still do after normalization. -/
def xidStart : CodePointSet := idStart.diff unstableStart

/-- Characters that may stand in a name and still do after normalization. -/
def xidContinue : CodePointSet := idContinue.diff unstableContinue

/-- Mathematical characters that may start a name. -/
def idCompatMathStart : CodePointSet where
  changes := [
    8706, 8707, 8711, 8712, 8734, 8735, 120513, 120514, 120539, 120540, 120571, 120572, 120597,
    120598, 120629, 120630, 120655, 120656, 120687, 120688, 120713, 120714, 120745, 120746,
    120771, 120772]

/-- Mathematical characters that may stand in a name. -/
def idCompatMathContinue : CodePointSet where
  changes := [
    178, 180, 185, 186, 8304, 8305, 8308, 8319, 8320, 8335, 8706, 8707, 8711, 8712, 8734, 8735,
    120513, 120514, 120539, 120540, 120571, 120572, 120597, 120598, 120629, 120630, 120655,
    120656, 120687, 120688, 120713, 120714, 120745, 120746, 120771, 120772]

end Property

end DocQuery.Text
