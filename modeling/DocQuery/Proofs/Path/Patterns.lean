import Mathlib
import DocQuery.Path.Rule
import DocQuery.Proofs.Pattern.Language
import DocQuery.Proofs.Pattern.Size

/-!
# The Patterns of the Rules

The rules for fragments are meant as patterns.  This module has the patterns as they are written,
and what the reader takes them for: rows between anchors, none of which is too large.

## Main definitions

- `plainSource`, `globSource`, `filterSource`, `descendantSource`, `arraySource`: the rules as they
  are written
- `SegmentKind.matches?`: whether the rule of a kind, as it is written, matches a fragment
- `writtenRules`: the rules with what they stand for

## Main statements

- `read?_of_mem_writtenRules`: the rules are patterns, and what they stand for
-/

namespace DocQuery

deriving instance DecidableEq for Pattern

end DocQuery

namespace DocQuery.Path

open DocQuery.Text DocQuery.Pattern

/-! ## As they are written -/

/-- A name: word characters, or anything between quotes. -/
def nameSource : String := "(?:\\w+|\"[^\"]+\")"

/-- Names with dots between them. -/
def namesSource : String := nameSource ++ "(?:\\." ++ nameSource ++ ")*"

/-- The rule for names. -/
def plainSource : String := "^" ++ namesSource ++ "$"

/-- The rule for globs, which need a star and a word character besides. -/
def globSource : String := "^[^.\\[\\]()?\x27\"]*$"

/-- A word character. -/
def wordSource : String := "\\w"

/-- The rule for filters. -/
def filterSource : String := "^.*\\[?\\??\\(.*\\)\\]?$"

/-- The rule for searches. -/
def descendantSource : String := "^\\.\x7b2,3\x7d(?:" ++ namesSource ++ ")?$"

/-- A clause in parentheses, the first of what brackets may hold. -/
def clauseSource : String := "\\??\\(.+\\)"

/-- The rule for brackets.  What they may hold is tried from left to right. -/
def arraySource : String :=
  "^\\[(?:" ++ ("(?P<filter>" ++ clauseSource ++ ")") ++
    "|(?P<slices>-?\\d*:?-?\\d*(?:,-?\\d*:?-?\\d*)*)" ++ "|(?P<all>\\*)" ++
    "|\x27(?P<single>.+?)\x27" ++ "|\"(?P<double>.+?)\"" ++ "|\x60(?P<tick>.+?)\x60" ++ ")\\]$"

/-- The rule for brackets, if they might hold nothing but a clause. -/
def clauseOnlySource : String := "^\\[(?:" ++ clauseSource ++ ")\\]$"

/-- Whether a pattern, as it is written, occurs in a text; `none` if it is no pattern. -/
def occurs? (source : String) (cs : List Char) : Option Bool :=
  (read? source.toList).map (·.occursIn cs)

/-- Whether the rule of a kind, as it is written, matches all of a fragment; `none` if what is
written is no pattern. -/
def SegmentKind.matches? (fragment : List Char) : SegmentKind → Option Bool
  | plain => occurs? plainSource fragment
  | glob => do
    let word ← occurs? wordSource fragment
    let allowed ← occurs? globSource fragment
    return fragment.contains '*' && word && allowed
  | filter => occurs? filterSource fragment
  | descendant => occurs? descendantSource fragment
  | array => occurs? arraySource fragment
  | unrecognized => some false

/-! ## What they stand for -/

/-- One character. -/
def character (c : Char) : Pattern := .one (.single c)

/-- What may be left out. -/
def optional (p : Pattern) : Pattern := .repetition p 0 (some 1) false

/-- What may come any number of times. -/
def star (p : Pattern) : Pattern := .repetition p 0 none false

/-- The characters that do not end a line. -/
def lineChars : CodePointSet := (CodePointSet.single '\n').compl

/-- The characters that may stand between quotes. -/
def quotedChars : CodePointSet := (CodePointSet.single '"').compl

/-- The characters that end a glob: quotes, parentheses, the dot, the question mark, brackets. -/
def globStops : CodePointSet := .ofAscending [34, 39, 40, 41, 46, 63, 91, 93]

/-- Anything on one line. -/
def anyLine : Pattern := star (.one lineChars)

/-- A name. -/
def namePattern : Pattern :=
  .group none (.choice (.repetition (.one word) 1 none false)
    (concatAll [character '"', .repetition (.one quotedChars) 1 none false, character '"']))

/-- More names, each behind a dot. -/
def moreNames : Pattern := star (.group none (.concat (character '.') namePattern))

/-- A clause in parentheses. -/
def clausePattern : Pattern :=
  concatAll [optional (character '?'), character '(', .repetition (.one lineChars) 1 none false,
    character ')']

/-- An index or a range: a number, a colon, a number, each of them optional. -/
def sliceParts : List Pattern :=
  [optional (character '-'), star (.one digit), optional (character ':'),
    optional (character '-'), star (.one digit)]

/-- Indices and ranges with commas between them. -/
def slicesPattern : Pattern :=
  concatAll (sliceParts ++ [star (.group none (concatAll (character ',' :: sliceParts)))])

/-- A key between two quotes.  It prefers to be short. -/
def keyPattern (quote : Char) (number : Nat) : Pattern :=
  concatAll [character quote, .group (some number) (.repetition (.one lineChars) 1 none true),
    character quote]

/-- What brackets may hold. -/
def bodyPattern : Pattern :=
  choiceOf (.group (some 1) clausePattern)
    [.group (some 2) slicesPattern, .group (some 3) (character '*'), keyPattern '\x27' 4,
      keyPattern '"' 5, keyPattern '\x60' 6]

/-- The rule for names, part by part. -/
def plainParts : List Pattern := [namePattern, moreNames]

/-- The rule for globs. -/
def globParts : List Pattern := [star (.one globStops.compl)]

/-- The rule for filters, part by part. -/
def filterParts : List Pattern :=
  [anyLine, optional (character '['), optional (character '?'), character '(', anyLine,
    character ')', optional (character ']')]

/-- The rule for searches, part by part. -/
def descendantParts : List Pattern :=
  [.repetition (character '.') 2 (some 3) false, optional (.group none (concatAll plainParts))]

/-- A pattern in brackets, part by part. -/
def bracketParts (p : Pattern) : List Pattern := [character '[', .group none p, character ']']

/-- A rule as it is written, what it stands for, and how deeply that nests. -/
structure WrittenRule where
  source : String
  pattern : Pattern
  depth : Nat

/-- The rules, and what two of them are put together from. -/
def writtenRules : List WrittenRule :=
  [⟨plainSource, row plainParts, 9⟩, ⟨wordSource, .one word, 0⟩, ⟨globSource, row globParts, 4⟩,
    ⟨filterSource, row filterParts, 2⟩, ⟨descendantSource, row descendantParts, 12⟩,
    ⟨arraySource, row (bracketParts bodyPattern), 9⟩,
    ⟨clauseOnlySource, row (bracketParts clausePattern), 4⟩]

/-! ## Reading them -/

theorem written?_writtenRules : ∀ rule ∈ writtenRules,
    written? rule.source.toList = some (rule.pattern, rule.depth) := by
  decide +kernel

theorem withinLimits_writtenRules : ∀ rule ∈ writtenRules,
    rule.depth ≤ Reader.maxDepth ∧
      216 + (Shape.ofPattern rule.pattern).cost ≤ Automaton.maxBytes := by
  decide +kernel

theorem read?_of_mem_writtenRules {rule : WrittenRule} (h : rule ∈ writtenRules) :
    read? rule.source.toList = some rule.pattern := by
  obtain ⟨hdepth, hroom⟩ := withinLimits_writtenRules rule h
  refine read?_eq_some_iff.mpr ⟨rule.depth, written?_writtenRules rule h, ?_⟩
  simp [withinLimits, hdepth, Automaton.fits_of_cost hroom]

/-- A rule that is a row occurs in the texts that the row covers. -/
theorem occurs?_row {source : String} {ps : List Pattern} {depth : Nat}
    (h : ⟨source, row ps, depth⟩ ∈ writtenRules) (hplace : ∀ p ∈ ps, p.isPlaceless = true)
    {cs : List Char} {b : Bool} (hb : cs ∈ rowLanguage ps ↔ b = true) :
    occurs? source cs = some b := by
  have hread := read?_of_mem_writtenRules h
  rw [occurs?, hread, Option.map_some, Option.some.injEq, Bool.eq_iff_iff,
    occursIn_row_iff (read?_wellFormed hread) hplace, hb]

end DocQuery.Path
