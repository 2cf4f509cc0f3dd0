import DocQuery.Lazy.Sequence
import DocQuery.Path.Fragment
import DocQuery.Path.Segment

/-!
# Rules for Fragments

A fragment is read by the first rule that fits all of it.  The rules speak of word characters
in the sense of patterns, and the parts that may hold anything stop at a line feed.

## Main definitions

- `SegmentKind.fits`: whether a rule fits a fragment
- `classify`: the first rule that fits
- `ArrayForm.ofBracket?`: what a bracket holds
-/

namespace DocQuery.Path

open DocQuery.Text

/-! ## Names -/

/-- Whether `cs` is a row of names with dots between them.  Bare names are made of word
characters here. -/
def isNames (cs : List Char) : Bool :=
  let n := nameLength isWord cs
  if n = 0 then false
  else
    match _h : cs.drop n with
    | [] => true
    | c :: rest => c == '.' && isNames rest
termination_by cs.length
decreasing_by
  have := congrArg List.length _h
  simp at this
  omega

/-- Whether `cs` is a non-empty run of decimal digits. -/
def isInteger (cs : List Char) : Bool := !cs.isEmpty && cs.all isDigit

/-! ## Rules -/

/-- A glob holds a star and a word character, and none of the marks that end one. -/
def isGlob (cs : List Char) : Bool :=
  cs.contains '*' && cs.any isWord && cs.all (!isGlobStop ·)

/-- A filter is one line that ends with a closing parenthesis, or with that and a bracket, and
has an opening parenthesis before. -/
def isFilter (cs : List Char) : Bool :=
  !cs.contains '\n' &&
    match cs.reverse with
    | ')' :: before | ']' :: ')' :: before => before.contains '('
    | _ => false

/-- A search marker is two or three dots, and dotted names or nothing. -/
def isDescendant : List Char → Bool
  | '.' :: '.' :: '.' :: rest => rest.isEmpty || isNames rest
  | '.' :: '.' :: rest => rest.isEmpty || isNames rest
  | _ => false

/-- What a bracket holds. -/
inductive ArrayForm where
  /-- A clause in parentheses -/
  | clause (text : List Char)
  /-- A list of indices and ranges -/
  | slices (text : List Char)
  /-- A star -/
  | all
  /-- A key between quotes -/
  | key (text : List Char)
deriving DecidableEq

/-- Whether `cs` is a clause in parentheses, with or without a question mark in front. -/
def isClause (cs : List Char) : Bool :=
  let inner := match cs with
    | '?' :: rest => stripEnds? '(' ')' rest
    | _ => stripEnds? '(' ')' cs
  inner.any fun inner => !inner.isEmpty && !inner.contains '\n'

/-- `cs` without `c` in front. -/
def dropOne (c : Char) : List Char → List Char
  | [] => []
  | d :: cs => if d = c then cs else d :: cs

/-- Whether `cs` is an index or a range: a number, a colon, a number, each of them optional. -/
def isSlice (cs : List Char) : Bool :=
  let number (cs : List Char) : List Char := (dropOne '-' cs).dropWhile isDigit
  (number (dropOne ':' (number cs))).isEmpty

/-- The key in `cs`, if `cs` is a key between two marks `quote`.  It must not be empty and
must lie on one line. -/
def quotedKey? (quote : Char) (cs : List Char) : Option (List Char) :=
  (stripEnds? quote quote cs).filter fun key => !key.isEmpty && !key.contains '\n'

/-- The form of what stands between brackets. -/
def ArrayForm.ofBody? (body : List Char) : Option ArrayForm :=
  if isClause body then some (.clause body)
  else if (splitAt ',' body).all isSlice then some (.slices body)
  else if body = ['*'] then some .all
  else ((quotedKey? '\x27' body).or ((quotedKey? '"' body).or (quotedKey? '\x60' body))).map .key

/-- The form of a bracket. -/
def ArrayForm.ofBracket? (cs : List Char) : Option ArrayForm :=
  (stripEnds? '[' ']' cs).bind ArrayForm.ofBody?

/-- Whether the rule of a kind fits all of a fragment. -/
def SegmentKind.fits (fragment : List Char) : SegmentKind → Bool
  | plain => isNames fragment
  | glob => isGlob fragment
  | filter => isFilter fragment
  | descendant => isDescendant fragment
  | array => (ArrayForm.ofBracket? fragment).isSome
  | unrecognized => false

/-- The first rule that fits, tried one after the other. -/
def classify (fragment : List Char) : SegmentKind :=
  (((Lazy.Sequence.ofList SegmentKind.priority).filter (·.fits fragment)).first).getD
    .unrecognized

/-- There are too few rules for the search to be given up. -/
theorem classify_eq_find? (fragment : List Char) :
    classify fragment =
      (SegmentKind.priority.find? (·.fits fragment)).getD .unrecognized := by
  unfold classify Lazy.Sequence.first Lazy.Sequence.next
  rw [Lazy.Sequence.nextWithin_filter_ofList]
  decide

end DocQuery.Path
