import DocQuery.Text.Property.Identifier
import DocQuery.Text.Property.Symbol
import DocQuery.Text.Script

/-!
# Breaks

Where a text may be broken into what readers take for characters, into words and into
sentences depends on a class of each character.  Most classes follow from other properties;
what they add and leave out stands here.  Characters outside all classes are not listed.

## Main definitions

- `clusterClasses`, `wordClasses`, `sentenceClasses`: the classes by their names
-/

namespace DocQuery.Text

namespace Property

/-! ## Characters as readers see them -/

/-- A line feed and a carriage return. -/
def lineEnds : CodePointSet where
  changes := [10, 11, 13, 14]

/-- The zero width joiner. -/
def joiners : CodePointSet where
  changes := [8205, 8206]

/-- Consonants that are written as a sign before the next one. -/
def prefixedConsonants : CodePointSet where
  changes := [
    3406, 3407, 70082, 70084, 70609, 70610, 71999, 72000, 72001, 72002, 72250, 72251, 72324,
    72330, 73030, 73031, 73474, 73475]

/-- Letters that count as spacing marks. -/
def spacingVowels : CodePointSet where
  changes := [3635, 3636, 3763, 3764]

/-- Spacing marks that do not extend what is before them. -/
def freeMarks : CodePointSet where
  changes := [
    4139, 4141, 4152, 4153, 4194, 4197, 4199, 4206, 4227, 4228, 4231, 4237, 4239, 4240, 4250,
    4253, 6753, 6754, 6755, 6757, 43643, 43644, 43645, 43646, 71456, 71458]

/-- Marks that belong to what is before them. -/
def clusterExtend : CodePointSet := graphemeExtend.union emojiModifier

/-- Control characters, which stand alone. -/
def clusterControl : CodePointSet := ((((ofCategories ([.zl, .zp, .cc, .cf].contains ·)).union
    ((ofCategory .cn).inter defaultIgnorable)).diff lineEnds).diff joinControl).diff
    (prependedConcatenationMark.union clusterExtend)

/-- Marks that belong to what is behind them. -/
def clusterPrepend : CodePointSet := prependedConcatenationMark.union prefixedConsonants

/-- Spacing marks that belong to what is before them. -/
def spacingMark : CodePointSet :=
  (((ofCategory .mc).diff clusterExtend).union spacingVowels).diff freeMarks

/-- Letters that begin a Hangul syllable. -/
def leadingJamo : CodePointSet where
  changes := [4352, 4448, 43360, 43389]

/-- Vowels in the middle of a Hangul syllable, and the vowels of Kirat Rai. -/
def vowelJamo : CodePointSet where
  changes := [4448, 4520, 55216, 55239, 93539, 93540, 93543, 93547]

/-- Letters that end a Hangul syllable. -/
def trailingJamo : CodePointSet where
  changes := [4520, 4608, 55243, 55292]

/-- Hangul syllables without an end; every twenty-eighth syllable is one. -/
def openSyllable : CodePointSet := .ofAscending ((List.range 399).map fun i => 44032 + 28 * i)

/-- Hangul syllables with an end. -/
def closedSyllable : CodePointSet := (CodePointSet.interval 44032 55204).diff openSyllable

/-- The classes of characters as readers see them. -/
def clusterClasses : List (List String × CodePointSet) := [
  (["cn", "control"], clusterControl),
  (["cr"], .single '\r'),
  (["ex", "extend"], clusterExtend),
  (["l"], leadingJamo),
  (["lf"], .single '\n'),
  (["lv"], openSyllable),
  (["lvt"], closedSyllable),
  (["pp", "prepend"], clusterPrepend),
  (["ri", "regionalindicator"], regionalIndicator),
  (["sm", "spacingmark"], spacingMark),
  (["t"], trailingJamo),
  (["v"], vowelJamo),
  (["zwj"], joiners)]

/-! ## Words -/

/-- Signs that stand before Arabic numbers. -/
def numberSign : CodePointSet := prependedConcatenationMark.diff (.single '\u070f')

/-- The decimal separator of Arabic numbers. -/
def otherDecimal : CodePointSet where
  changes := [1643, 1644]

/-- Digits and what belongs to numbers. -/
def wordNumeric : CodePointSet := ((ofCategory .nd).union otherDecimal).union numberSign

/-- Marks that belong to the character before them. -/
def wordExtend : CodePointSet :=
  ((graphemeExtend.union (ofCategory .mc)).union emojiModifier).diff joiners

/-- The zero width space, non-joiner and joiner. -/
def zeroWidthSpaces : CodePointSet where
  changes := [8203, 8206]

/-- Format characters, which words pass over. -/
def wordFormat : CodePointSet :=
  (((ofCategory .cf).diff zeroWidthSpaces).diff wordExtend).diff prependedConcatenationMark

/-- Signs that belong to Katakana without being part of the script. -/
def otherKatakana : CodePointSet where
  changes := [12337, 12342, 12443, 12445, 12448, 12449, 12540, 12541, 65392, 65393]

/-- Katakana. -/
def wordKatakana : CodePointSet :=
  (Script.katakana.characters.union otherKatakana).diff wordExtend

/-- The letters of Hebrew. -/
def hebrewLetter : CodePointSet := Script.hebrew.characters.inter (ofCategory .lo)

/-- Signs that count as letters of a word. -/
def otherWordLetter : CodePointSet where
  changes := [
    706, 710, 722, 728, 734, 736, 741, 748, 749, 750, 751, 768, 1370, 1373, 1374, 1375, 1418,
    1419, 1523, 1524, 1807, 1808, 42760, 42775, 42784, 42786, 42889, 42891, 43867, 43868]

/-- The scripts that are written without spaces between words. -/
def unspacedScripts : List Script := [
  .thai, .lao, .myanmar, .khmer, .taiLe, .newTaiLue, .taiTham, .taiViet, .ahom, .hiragana]

/-- The letters of scripts with spaces between words. -/
def wordLetter : CodePointSet := ((((alphabetic.union otherWordLetter).diff ideographic).diff
    (.unionAll (unspacedScripts.map Script.characters))).diff
    (wordKatakana.union hebrewLetter)).diff wordExtend

/-- Punctuation between letters. -/
def midLetter : CodePointSet where
  changes := [
    58, 59, 183, 184, 903, 904, 1375, 1376, 1524, 1525, 8231, 8232, 65043, 65044, 65109, 65110,
    65306, 65307]

/-- Punctuation between letters or digits. -/
def midNumLet : CodePointSet where
  changes := [46, 47, 8216, 8218, 8228, 8229, 65106, 65107, 65287, 65288, 65294, 65295]

/-- Punctuation between digits. -/
def midNum : CodePointSet where
  changes := [
    44, 45, 59, 60, 894, 895, 1417, 1418, 1548, 1550, 1644, 1645, 2040, 2041, 8260, 8261, 65040,
    65041, 65044, 65045, 65104, 65105, 65108, 65109, 65292, 65293, 65307, 65308]

/-- The narrow space that connects words. -/
def narrowSpace : CodePointSet where
  changes := [8239, 8240]

/-- Spaces that words are not broken at. -/
def fixedSpaces : CodePointSet where
  changes := [160, 161, 8199, 8200, 8239, 8240]

/-- Ends of lines that are neither line feeds nor carriage returns. -/
def wordNewline : CodePointSet where
  changes := [11, 13, 133, 134, 8232, 8234]

/-- The classes for breaks between words. -/
def wordClasses : List (List String × CodePointSet) := [
  (["le", "aletter"], wordLetter),
  (["cr"], .single '\r'),
  (["dq", "doublequote"], .single '"'),
  (["extend"], wordExtend),
  (["ex", "extendnumlet"], (ofCategory .pc).union narrowSpace),
  (["fo", "format"], wordFormat),
  (["hl", "hebrewletter"], hebrewLetter),
  (["ka", "katakana"], wordKatakana),
  (["lf"], .single '\n'),
  (["ml", "midletter"], midLetter),
  (["mn", "midnum"], midNum),
  (["mb", "midnumlet"], midNumLet),
  (["nl", "newline"], wordNewline),
  (["nu", "numeric"], wordNumeric),
  (["ri", "regionalindicator"], regionalIndicator),
  (["sq", "singlequote"], .single '\x27'),
  (["wsegspace"], (ofCategory .zs).diff fixedSpaces),
  (["zwj"], joiners)]

/-! ## Sentences -/

/-- Ends of lines and paragraphs. -/
def sentenceSeparator : CodePointSet where
  changes := [133, 134, 8232, 8234]

/-- Marks that belong to the character before them. -/
def sentenceExtend : CodePointSet := (graphemeExtend.union (ofCategory .mc)).union joiners

/-- Format characters, which sentences pass over. -/
def sentenceFormat : CodePointSet :=
  (((ofCategory .cf).diff joinControl).diff sentenceExtend).diff numberSign

/-- Spaces inside a line. -/
def sentenceSpace : CodePointSet := (whiteSpace.diff sentenceSeparator).diff lineEnds

/-- Small letters that sentences do not tell from capital ones. -/
def caselessGeorgian : CodePointSet where
  changes := [4304, 4347, 4349, 4352]

/-- Capital letters that do not begin sentences. -/
def georgianCapital : CodePointSet where
  changes := [7312, 7355, 7357, 7360]

/-- Small letters. -/
def sentenceLower : CodePointSet := (lowercase.diff graphemeExtend).diff caselessGeorgian

/-- Capital letters. -/
def sentenceUpper : CodePointSet := ((ofCategory .lt).union uppercase).diff georgianCapital

/-- Letters without case. -/
def sentenceLetter : CodePointSet :=
  (((alphabetic.union (.single '\u05f3')).diff sentenceLower).diff sentenceUpper).diff
    sentenceExtend

/-- The separators of Arabic numbers. -/
def otherNumeric : CodePointSet where
  changes := [1643, 1645]

/-- Digits and what belongs to numbers. -/
def sentenceNumeric : CodePointSet := ((ofCategory .nd).union otherNumeric).union numberSign

/-- Full stops, which may end a sentence or an abbreviation. -/
def fullStop : CodePointSet where
  changes := [46, 47, 8228, 8229, 65106, 65107, 65294, 65295]

/-- Punctuation that a sentence goes on behind. -/
def sentenceContinue : CodePointSet where
  changes := [
    44, 46, 58, 60, 894, 895, 1373, 1374, 1548, 1550, 2040, 2041, 6146, 6147, 6152, 6153, 8211,
    8213, 12289, 12290, 65040, 65042, 65043, 65045, 65073, 65075, 65104, 65106, 65108, 65110,
    65112, 65113, 65123, 65124, 65292, 65294, 65306, 65308, 65380, 65381]

/-- Punctuation that ends a sentence. -/
def sentenceEnd : CodePointSet := sentenceTerminal.diff fullStop

/-- Quotation marks that do not tell opening from closing. -/
def plainQuotes : CodePointSet where
  changes := [
    34, 35, 39, 40, 10075, 10081, 11776, 11778, 11782, 11785, 11787, 11788, 128630, 128633]

/-- Brackets and quotation marks, which may follow the end of a sentence. -/
def sentenceClose : CodePointSet :=
  (((ofCategories ([.ps, .pe, .pi, .pf].contains ·)).union plainQuotes).diff fullStop).diff
    sentenceEnd

/-- The classes for breaks between sentences. -/
def sentenceClasses : List (List String × CodePointSet) := [
  (["at", "aterm"], fullStop),
  (["cl", "close"], sentenceClose),
  (["cr"], .single '\r'),
  (["ex", "extend"], sentenceExtend),
  (["fo", "format"], sentenceFormat),
  (["lf"], .single '\n'),
  (["lo", "lower"], sentenceLower),
  (["nu", "numeric"], sentenceNumeric),
  (["le", "oletter"], sentenceLetter),
  (["sc", "scontinue"], sentenceContinue),
  (["se", "sep"], sentenceSeparator),
  (["sp"], sentenceSpace),
  (["st", "sterm"], sentenceEnd),
  (["up", "upper"], sentenceUpper)]

end Property

end DocQuery.Text
