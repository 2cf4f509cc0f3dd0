import Mathlib
import DocQuery.Proofs.Path.Bracket

/-!
# Pieces of a Path

A written path is a row of pieces: names, globs, searches and brackets, the first two of them
behind a dot unless they come first.  One scanner takes the text of a piece, or of several names,
and one rule reads what it has taken.

## Main definitions

- `Piece`: a piece and the way it is written
- `startText`, `restText`: a row of pieces at the front of a path, and behind another piece
- `reading`: the segments of a text, with one name in each step along names

## Main statements

- `reading_pattern`, `reading_bracket`, `reading_joined`, `reading_search`, `reading_dots`: what
  a text is read as that starts with a glob, with a bracket, with names or with a search
-/

namespace DocQuery.Path

open DocQuery.Text

/-! ## Segments name by name -/

/-- A segment, with one name in each step along names. -/
def Segment.singles : Segment → List Segment
  | plain names => names.map fun n => .plain [n]
  | s => [s]

/-- The segments of a text, with one name in each step along names. -/
def reading (cs : List Char) : List Segment :=
  (splitFrom cs).flatMap fun fragment => (segmentOf fragment).singles

theorem reading_nil : reading [] = [] := by
  rw [reading, splitFrom]
  rfl

/-- Where a scanner takes a fragment, the fragment is read, and then what is left. -/
theorem reading_append {scan : List Char → Nat} {fragment rest : List Char} (hne : fragment ≠ [])
    (hscan : scan (fragment ++ rest) = fragment.length)
    (hsplit : scan (fragment ++ rest) ≠ 0 →
      splitFrom (fragment ++ rest) = (fragment ++ rest).take (scan (fragment ++ rest)) ::
        splitFrom ((fragment ++ rest).drop (scan (fragment ++ rest)))) :
    reading (fragment ++ rest) = (segmentOf fragment).singles ++ reading rest := by
  rw [hscan, List.take_left, List.drop_left] at hsplit
  have hpos : fragment.length ≠ 0 := fun hzero => hne (List.length_eq_zero_iff.mp hzero)
  rw [reading, hsplit hpos, List.flatMap_cons, reading]

/-! ## Pieces -/

/-- A piece of a path and the way it is written. -/
inductive Piece where
  /-- One name -/
  | name (n : WrittenName)
  /-- A key with stars -/
  | glob (pattern : List Char)
  /-- Two dots, and dotted names or nothing -/
  | search (names : List WrittenName)
  /-- A bracket -/
  | bracket (body : List Char)

/-- A glob that can be written: characters of bare names and stars, and at least one of each. -/
def IsPattern (pattern : List Char) : Prop :=
  (∀ c ∈ pattern, isBareChar c = true ∨ c = '*') ∧ '*' ∈ pattern ∧
    ∃ c ∈ pattern, isBareChar c = true

section Patterns

variable {pattern : List Char}

theorem IsPattern.ne (h : IsPattern pattern) {c d : Char} (hc : c ∈ pattern)
    (hbare : isBareChar d = false) (hstar : d ≠ '*') : c ≠ d := by
  rcases h.1 c hc with hc | rfl
  · exact ne_of_holds hc hbare
  · exact hstar.symm

theorem IsPattern.exists_cons (h : IsPattern pattern) :
    ∃ c cs, pattern = c :: cs ∧ c ≠ '.' ∧ c ≠ '$' := by
  obtain ⟨c, cs, rfl⟩ := List.exists_cons_of_ne_nil (List.ne_nil_of_mem h.2.1)
  exact ⟨c, cs, rfl, h.ne List.mem_cons_self (by decide) (by decide),
    h.ne List.mem_cons_self (by decide) (by decide)⟩

end Patterns

namespace Piece

/-- How a piece stands in a path. -/
def text : Piece → List Char
  | name n => n.text
  | glob pattern => pattern
  | search names => '.' :: '.' :: join ['.'] (names.map WrittenName.text)
  | bracket body => Path.bracket body

/-- How a piece stands behind another one. -/
def dottedText : Piece → List Char
  | name n => '.' :: n.text
  | glob pattern => '.' :: pattern
  | search names => (search names).text
  | bracket body => Path.bracket body

/-- The segment that a piece stands for. -/
def segment : Piece → Segment
  | name n => .plain [String.ofList n.name]
  | glob pattern => .glob (String.ofList pattern)
  | search [] => .descendant none
  | search (n :: names) => .descendant (some ((n :: names).map fun m => String.ofList m.name))
  | bracket body => segmentOf (Path.bracket body)

/-- The pieces that can be written. -/
def Valid : Piece → Prop
  | name n => n.Valid
  | glob pattern => IsPattern pattern
  | search names => ∀ n ∈ names, n.Valid
  | bracket body => body ≠ [] ∧ ']' ∉ body

end Piece

/-- Pieces behind another piece. -/
def restText (ps : List Piece) : List Char := ps.flatMap Piece.dottedText

/-- Pieces at the front of a path. -/
def startText : List Piece → List Char
  | [] => []
  | p :: ps => p.text ++ restText ps

theorem restText_cons (p : Piece) (ps : List Piece) :
    restText (p :: ps) = p.dottedText ++ restText ps := rfl

/-! ## What follows a piece -/

/-- Behind a piece there is nothing, a dot or an opening bracket. -/
theorem ends_restText {p : Char → Bool} (hdot : p '.' = false) (hopen : p '[' = false)
    (ps : List Piece) : Ends p (restText ps) := by
  cases ps with
  | nil => exact ends_nil p
  | cons piece ps =>
    cases piece with
    | name n => exact ends_cons hdot _
    | glob pattern => exact ends_cons hdot _
    | search names => exact ends_cons hdot _
    | bracket body => exact ends_cons hopen _

theorem scanMoreNames_of_ne_dot {c : Char} (h : c ≠ '.') (cs : List Char) :
    scanMoreNames (c :: cs) = 0 := by
  rw [scanMoreNames]
  rintro rest heq
  exact h (List.cons.inj heq).1

theorem scanMoreNames_of_not_name {c : Char} (hquote : c ≠ '"') (h : isNameChar c = false)
    (cs : List Char) : scanMoreNames ('.' :: c :: cs) = 0 := by
  have hname : scanName (c :: cs) = 0 := by
    rw [scanName, nameLength_of_ne_quote hquote]
    simp [h]
  rw [scanMoreNames]
  simp only [hname, if_true]

theorem isNameChar_star : isNameChar '*' = false := isNameChar_eq_of_lt (by decide)

/-- The scan of names stops at a piece that is neither a name nor a glob with a word in front. -/
theorem scanMoreNames_restText {ps : List Piece} (hname : ∀ n, ps.head? ≠ some (.name n))
    (hglob : ∀ pattern, ps.head? = some (.glob pattern) → pattern.head? = some '*') :
    scanMoreNames (restText ps) = 0 := by
  cases ps with
  | nil =>
    rw [restText, List.flatMap_nil, scanMoreNames]
    intro rest heq
    cases heq
  | cons piece ps =>
    cases piece with
    | name n => exact absurd rfl (hname n)
    | glob pattern =>
      obtain ⟨cs, rfl⟩ : ∃ cs, pattern = '*' :: cs := by
        have hstar := hglob pattern rfl
        cases pattern with
        | nil => cases hstar
        | cons c cs => exact ⟨cs, by rw [Option.some.inj hstar]⟩
      exact scanMoreNames_of_not_name (by decide) isNameChar_star _
    | search names => exact scanMoreNames_of_not_name (by decide) isNameChar_dot _
    | bracket body => exact scanMoreNames_of_ne_dot (by decide) _

/-- What comes first in a row of pieces is no single dot, so one in front of it is left out. -/
theorem reading_restText {ps : List Piece} (h : ∀ p ∈ ps, p.Valid) :
    reading (restText ps) = reading (startText ps) := by
  -- no scanner takes a single dot
  have hskip : ∀ {c : Char} (cs : List Char), c ≠ '.' →
      reading ('.' :: c :: cs) = reading (c :: cs) := by
    intro c cs hc
    have hdescendant : scanDescendant ('.' :: c :: cs) = 0 := by simp [scanDescendant, hc]
    rw [reading, splitFrom_of_none (scanGlob_of_stop (by decide) _)
      (scanNames_of_not_name (by decide) isNameChar_dot _) hdescendant
      (scanBracket_of_ne (by decide) _), reading]
  cases ps with
  | nil => rfl
  | cons piece ps =>
    have hpiece := h piece List.mem_cons_self
    cases piece with
    | name n =>
      obtain ⟨c, cs, heq, hdot, -⟩ := WrittenName.Valid.exists_cons hpiece
      rw [restText_cons, startText, Piece.dottedText, Piece.text, heq]
      exact hskip _ hdot
    | glob pattern =>
      obtain ⟨c, cs, rfl, hdot, -⟩ := IsPattern.exists_cons hpiece
      exact hskip _ hdot
    | search names => rfl
    | bracket body => rfl

/-- A row of pieces starts with no dollar sign, and with no single dot. -/
theorem stripRoot_startText {ps : List Piece} (h : ∀ p ∈ ps, p.Valid) (k : Nat) :
    stripRoot (List.replicate k '$' ++ startText ps) = startText ps := by
  have hdollars : ∀ {cs : List Char}, Ends (· == '$') cs →
      (List.replicate k '$' ++ cs).dropWhile (· == '$') = cs := fun hends =>
    dropWhile_append_of_ends (fun c hc => beq_iff_eq.mpr (List.eq_of_mem_replicate hc)) hends
  have hskip : ∀ {c : Char} (cs : List Char), c ≠ '.' → c ≠ '$' →
      stripRoot (List.replicate k '$' ++ c :: cs) = c :: cs := by
    intro c cs hdot hdollar
    have hends : Ends (· == '$') (c :: cs) := ends_cons (by simpa using hdollar) cs
    rw [stripRoot, hdollars hends]
    split
    · next heq => exact absurd (List.cons.inj heq).1 hdot
    · next heq => exact absurd (List.cons.inj heq).1 hdot
    · rfl
  -- only a search starts with a dot, and with a second one, which is kept
  cases ps with
  | nil => rw [startText, stripRoot, hdollars (ends_nil _)]
  | cons p ps =>
    have hp := h p List.mem_cons_self
    cases p with
    | name n =>
      obtain ⟨c, cs, heq, hdot, hdollar⟩ := WrittenName.Valid.exists_cons hp
      rw [startText, Piece.text, heq]
      exact hskip _ hdot hdollar
    | glob pattern =>
      obtain ⟨c, cs, rfl, hdot, hdollar⟩ := IsPattern.exists_cons hp
      exact hskip _ hdot hdollar
    | search names =>
      have hends : Ends (· == '$') (startText (.search names :: ps)) :=
        ends_cons (by decide) _
      rw [stripRoot, hdollars hends]
      rfl
    | bracket body => exact hskip _ (by decide) (by decide)

/-! ## Globs -/

/-- Where a line holds a star and a name, a glob goes up to what ends it. -/
theorem scanGlob_append {front : List Char} (hline : '\n' ∉ front) (hstar : '*' ∈ front)
    (hname : ∃ c ∈ front, isNameChar c = true) (rest : List Char) :
    scanGlob (front ++ rest) = ((front ++ rest).takeWhile (!isGlobStop ·)).length := by
  have hfront : (front ++ rest).takeWhile (· != '\n') =
      front ++ rest.takeWhile (· != '\n') :=
    List.takeWhile_append_of_pos fun c hc => bne_iff_ne.mpr fun he => hline (he ▸ hc)
  obtain ⟨c, hc, hpart⟩ := hname
  have hahead : ((front ++ rest.takeWhile (· != '\n')).contains '*' &&
      (front ++ rest.takeWhile (· != '\n')).any isNameChar) = true := by
    rw [Bool.and_eq_true, List.contains_iff_mem, List.any_eq_true]
    exact ⟨List.mem_append_left _ hstar, c, List.mem_append_left _ hc, hpart⟩
  simp only [scanGlob, hfront, hahead, if_true]

section Globs

variable {pattern : List Char}

theorem not_isGlobStop {c : Char} (h : isBareChar c = true ∨ c = '*') :
    (!isGlobStop c) = true := by
  rcases h with hc | rfl
  · rw [isGlobStop_of_isBareChar hc]
    rfl
  · decide

/-- A pattern is no row of names: the names would stop in front of its first star. -/
theorem IsPattern.isNames_eq_false (h : IsPattern pattern) : isNames pattern = false := by
  obtain ⟨hchars, hstar, -⟩ := id h
  obtain ⟨c, cs, rfl⟩ := List.exists_cons_of_ne_nil (List.ne_nil_of_mem hstar)
  have hquote : c ≠ '"' := h.ne List.mem_cons_self (by decide) (by decide)
  have hword : isWord '*' = false := isWord_eq_of_lt (by decide)
  by_cases hpos : nameLength isWord (c :: cs) = 0
  · rw [isNames]
    simp only [hpos, if_true]
  · -- behind the first name neither the end nor a dot follows
    have hdrop : (c :: cs).drop (nameLength isWord (c :: cs)) = (c :: cs).dropWhile isWord := by
      rw [nameLength_of_ne_quote hquote, drop_length_takeWhile]
    cases hrest : (c :: cs).dropWhile isWord with
    | nil =>
      -- without a first character that is no word character, the star would be one
      have hall := List.dropWhile_eq_nil_iff.mp hrest '*' hstar
      rw [hword] at hall
      exact absurd hall Bool.false_ne_true
    | cons d rest =>
      have hmem : d ∈ c :: cs :=
        (List.dropWhile_sublist isWord).subset (hrest ▸ List.mem_cons_self)
      have hdot : (d == '.') = false := beq_false_of_ne (h.ne hmem (by decide) (by decide))
      rw [isNames_of_drop_eq_cons hpos (hdrop.trans hrest), hdot, Bool.false_and]

/-- A pattern is read as a glob. -/
theorem segmentOf_pattern (h : IsPattern pattern) :
    segmentOf pattern = .glob (String.ofList pattern) := by
  obtain ⟨hchars, hstar, c, hc, hbare⟩ := id h
  have hglob : isGlob pattern = true := by
    rw [isGlob, Bool.and_eq_true, Bool.and_eq_true, List.contains_iff_mem, List.any_eq_true,
      List.all_eq_true]
    exact ⟨⟨hstar, c, hc, isWord_of_isBareChar hbare⟩, fun d hd => not_isGlobStop (hchars d hd)⟩
  have hclassify : classify pattern = .glob := by
    simp only [classify_eq_find?, SegmentKind.priority, List.find?_cons, SegmentKind.fits,
      h.isNames_eq_false, hglob, Option.getD_some]
  rw [segmentOf, hclassify]

theorem scanGlob_pattern (h : IsPattern pattern) {rest : List Char}
    (hrest : Ends (!isGlobStop ·) rest) : scanGlob (pattern ++ rest) = pattern.length := by
  obtain ⟨hchars, hstar, c, hc, hbare⟩ := id h
  have hline : '\n' ∉ pattern := fun hmem => h.ne hmem (by decide) (by decide) rfl
  rw [scanGlob_append hline hstar ⟨c, hc, isNameChar_of_isBareChar hbare⟩,
    takeWhile_append_of_ends (fun d hd => not_isGlobStop (hchars d hd)) hrest]

theorem reading_pattern (h : IsPattern pattern) {rest : List Char}
    (hrest : Ends (!isGlobStop ·) rest) :
    reading (pattern ++ rest) = .glob (String.ofList pattern) :: reading rest := by
  have hscan := scanGlob_pattern h hrest
  rw [reading_append (List.ne_nil_of_mem h.2.1) hscan splitFrom_of_glob, segmentOf_pattern h]
  rfl

end Globs

/-! ## Brackets -/

/-- Only names are read as names. -/
theorem eq_of_segmentOf_eq_plain {fragment : List Char} {names : List String}
    (h : segmentOf fragment = .plain names) :
    isNames fragment = true ∧ splitNames fragment = names := by
  rw [segmentOf] at h
  split at h
  · next hclassify =>
    refine ⟨?_, Segment.plain.inj h⟩
    -- the kind was found among the rules, so its rule fits
    rw [classify_eq_find?, Option.getD_eq_iff] at hclassify
    rcases hclassify with hfind | ⟨-, hkind⟩
    · have hfits : SegmentKind.fits fragment .plain = true := List.find?_some hfind
      exact hfits
    · cases hkind
  · cases h
  · cases h
  · split at h
    · cases h
    · cases h
  · split at h
    · next form _ => cases form <;> cases h
    · cases h
  · cases h

theorem reading_bracket {body : List Char} (hne : body ≠ []) (hclose : ']' ∉ body)
    (rest : List Char) :
    reading (bracket body ++ rest) = segmentOf (bracket body) :: reading rest := by
  have hscan : scanBracket (bracket body ++ rest) = (bracket body).length :=
    scanBracket_bracket hne hclose rest
  -- a bracket is read as anything but names, so it is a segment of its own
  have hsingles : (segmentOf (bracket body)).singles = [segmentOf (bracket body)] := by
    cases hsegment : segmentOf (bracket body) with
    | plain names =>
      have hnames := (eq_of_segmentOf_eq_plain hsegment).1
      rw [isNames_bracket] at hnames
      exact absurd hnames Bool.false_ne_true
    | _ => rfl
  have hbracket : bracket body ≠ [] := List.cons_ne_nil _ _
  rw [reading_append hbracket hscan splitFrom_of_bracket, hsingles]
  rfl

/-! ## Names and searches -/

theorem isNames_dot (cs : List Char) : isNames ('.' :: cs) = false :=
  isNames_of_not_word (by decide) (isWord_eq_of_lt (by decide)) cs

/-- Two or three dots are scanned together with the names behind them. -/
theorem scanDescendant_dots {k : Nat} (hk : k = 2 ∨ k = 3) {rest : List Char}
    (hrest : Ends (· == '.') rest) :
    scanDescendant (List.replicate k '.' ++ rest) = k + scanNames rest := by
  have hdots : (List.replicate k '.' ++ rest).takeWhile (· == '.') = List.replicate k '.' :=
    takeWhile_append_of_ends (fun c hc => beq_iff_eq.mpr (List.eq_of_mem_replicate hc)) hrest
  simp only [scanDescendant, hdots, List.length_replicate]
  rcases hk with rfl | rfl
  · rfl
  · rfl

section Rows

variable {n : WrittenName} {names : List WrittenName} {rest : List Char}

/-- Dotted names are read as names. -/
theorem segmentOf_joined (hn : n.Fits isWord) (h : ∀ m ∈ names, m.Fits isWord) :
    segmentOf (n.text ++ dotted names) =
      .plain ((n :: names).map fun m => String.ofList m.name) := by
  have hclassify : classify (n.text ++ dotted names) = .plain := by
    simp only [classify_eq_find?, SegmentKind.priority, List.find?_cons, SegmentKind.fits,
      isNames_joined hn h, Option.getD_some]
  rw [segmentOf, hclassify]
  simp only [splitNames_joined hn h]

theorem reading_joined (hn : n.Valid) (h : ∀ m ∈ names, m.Valid)
    (hglob : scanGlob (n.text ++ (dotted names ++ rest)) = 0) (hrest : Ends isNameChar rest)
    (hmore : scanMoreNames rest = 0) :
    reading (n.text ++ (dotted names ++ rest)) =
      ((n :: names).map fun m => Segment.plain [String.ofList m.name]) ++ reading rest := by
  have hne : n.text ++ dotted names ≠ [] := List.append_ne_nil_of_left_ne_nil hn.text_ne_nil _
  have hscan := scanNames_joined hn.fits_nameChar (fun m hm => (h m hm).fits_nameChar) hrest hmore
  rw [← List.append_assoc] at hscan hglob ⊢
  rw [reading_append hne hscan (splitFrom_of_names hglob),
    segmentOf_joined hn.fits_word fun m hm => (h m hm).fits_word, Segment.singles, List.map_map]
  rfl

/-- A row of names ends with a quote or with a character of names. -/
theorem exists_concat_joined {isPart : Char → Bool} (hn : n.Fits isPart)
    (h : ∀ m ∈ names, m.Fits isPart) :
    ∃ cs c, n.text ++ dotted names = cs ++ [c] ∧ (c = '"' ∨ isPart c = true) := by
  induction names generalizing n with
  | nil =>
    obtain ⟨cs, c, heq, hc⟩ := hn.exists_concat
    exact ⟨cs, c, by rw [heq]; exact List.append_nil _, hc⟩
  | cons m names ih =>
    obtain ⟨cs, c, heq, hc⟩ :=
      ih (h m List.mem_cons_self) fun k hk => h k (List.mem_cons_of_mem m hk)
    exact ⟨n.text ++ '.' :: cs, c, by rw [dotted_cons, heq]; simp, hc⟩

/-- Names are no dots. -/
theorem ends_dot_joined {isPart : Char → Bool} (hdot : isPart '.' = false) (hn : n.Fits isPart)
    (rest : List Char) : Ends (· == '.') (n.text ++ rest) := by
  obtain ⟨c, cs, hfirst, hc⟩ := hn.exists_cons
  rw [hfirst]
  refine ends_cons ?_ _
  rw [beq_eq_false_iff_ne]
  exact ne_of_quote_or hc (by decide) hdot

/-- Only a bracket or a closing parenthesis ends a filter. -/
theorem isFilter_concat (front : List Char) {d : Char} (hparen : d ≠ ')') (hbracket : d ≠ ']') :
    isFilter (front ++ [d]) = false := by
  rw [isFilter, List.reverse_append, List.reverse_singleton, List.singleton_append]
  split
  · next heq => exact absurd (List.cons.inj heq).1 hparen
  · next heq => exact absurd (List.cons.inj heq).1 hbracket
  · exact Bool.and_false _

/-- A row of names ends otherwise. -/
theorem isFilter_append_joined {isPart : Char → Bool} (hparen : isPart ')' = false)
    (hbracket : isPart ']' = false) (hn : n.Fits isPart) (h : ∀ m ∈ names, m.Fits isPart)
    (front : List Char) : isFilter (front ++ (n.text ++ dotted names)) = false := by
  obtain ⟨cs, d, hlast, hd⟩ := exists_concat_joined hn h
  rw [hlast, ← List.append_assoc]
  exact isFilter_concat _ (ne_of_quote_or hd (by decide) hparen)
    (ne_of_quote_or hd (by decide) hbracket)

theorem isGlob_dot (cs : List Char) : isGlob ('.' :: cs) = false := by
  rw [isGlob, List.all_cons]
  exact Bool.and_false _

/-- Two or three dots fit the rule for searches if names or nothing follow them. -/
theorem isDescendant_dots {k : Nat} (hk : k = 2 ∨ k = 3) {rest : List Char}
    (hrest : Ends (· == '.') rest) :
    isDescendant (List.replicate k '.' ++ rest) = (rest.isEmpty || isNames rest) := by
  rcases hk with rfl | rfl
  · have hthird : ∀ more, rest ≠ '.' :: more := by
      rintro more rfl
      cases hrest '.' rfl
    exact isDescendant.eq_2 rest hthird
  · rfl

/-- Dots with names behind them are read as a search for the names. -/
theorem segmentOf_search {k : Nat} (hk : k = 2 ∨ k = 3) (hn : n.Fits isWord)
    (h : ∀ m ∈ names, m.Fits isWord) :
    segmentOf (List.replicate k '.' ++ (n.text ++ dotted names)) =
      .descendant (some ((n :: names).map fun m => String.ofList m.name)) := by
  have hends : Ends (· == '.') (n.text ++ dotted names) := ends_dot_joined isWord_dot hn _
  -- the rules for names and globs refuse the first dot
  obtain ⟨more, hmore⟩ :
      ∃ more, List.replicate k '.' ++ (n.text ++ dotted names) = '.' :: more := by
    rcases hk with rfl | rfl <;> exact ⟨_, rfl⟩
  have hnames : isNames (List.replicate k '.' ++ (n.text ++ dotted names)) = false := by
    rw [hmore]
    exact isNames_dot more
  have hglob : isGlob (List.replicate k '.' ++ (n.text ++ dotted names)) = false := by
    rw [hmore]
    exact isGlob_dot more
  -- the one for filters refuses the last character
  have hfilter : isFilter (List.replicate k '.' ++ (n.text ++ dotted names)) = false :=
    isFilter_append_joined (isWord_eq_of_lt (by decide)) (isWord_eq_of_lt (by decide)) hn h _
  have hdescendant : isDescendant (List.replicate k '.' ++ (n.text ++ dotted names)) = true := by
    rw [isDescendant_dots hk hends, isNames_joined hn h, Bool.or_true]
  have hclassify :
      classify (List.replicate k '.' ++ (n.text ++ dotted names)) = .descendant := by
    simp only [classify_eq_find?, SegmentKind.priority, List.find?_cons, SegmentKind.fits,
      hnames, hglob, hfilter, hdescendant, Option.getD_some]
  have hdots : (List.replicate k '.' ++ (n.text ++ dotted names)).dropWhile (· == '.') =
      n.text ++ dotted names :=
    dropWhile_append_of_ends (fun d hd => beq_iff_eq.mpr (List.eq_of_mem_replicate hd)) hends
  rw [segmentOf, hclassify]
  simp only [hdots]
  split
  · next heq => exact absurd (List.append_eq_nil_iff.mp heq).1 hn.text_ne_nil
  · rw [splitNames_joined hn h]

theorem reading_search {k : Nat} (hk : k = 2 ∨ k = 3) (hn : n.Valid) (h : ∀ m ∈ names, m.Valid)
    (hrest : Ends isNameChar rest) (hmore : scanMoreNames rest = 0) :
    reading (List.replicate k '.' ++ (n.text ++ (dotted names ++ rest))) =
      .descendant (some ((n :: names).map fun m => String.ofList m.name)) :: reading rest := by
  have hends : Ends (· == '.') (n.text ++ (dotted names ++ rest)) :=
    ends_dot_joined isNameChar_dot hn.fits_nameChar _
  have hwords : ∀ m ∈ names, m.Fits isWord := fun m hm => (h m hm).fits_word
  have hchars : ∀ m ∈ names, m.Fits isNameChar := fun m hm => (h m hm).fits_nameChar
  have hne : List.replicate k '.' ++ (n.text ++ dotted names) ≠ [] :=
    List.append_ne_nil_of_right_ne_nil _ (List.append_ne_nil_of_left_ne_nil hn.text_ne_nil _)
  have hassoc : List.replicate k '.' ++ (n.text ++ (dotted names ++ rest)) =
      List.replicate k '.' ++ (n.text ++ dotted names) ++ rest := by simp
  have hscan : scanDescendant (List.replicate k '.' ++ (n.text ++ dotted names) ++ rest) =
      (List.replicate k '.' ++ (n.text ++ dotted names)).length := by
    have hlength := @List.length_append _ (List.replicate k '.') (n.text ++ dotted names)
    rw [List.length_replicate] at hlength
    rw [← hassoc, scanDescendant_dots hk hends,
      scanNames_joined hn.fits_nameChar hchars hrest hmore, hlength]
  rw [hassoc, reading_append hne hscan splitFrom_of_descendant,
    segmentOf_search hk hn.fits_word hwords]
  rfl

end Rows

/-- Dots alone are read as a search for everything. -/
theorem segmentOf_dots {k : Nat} (hk : k = 2 ∨ k = 3) :
    segmentOf (List.replicate k '.') = .descendant none := by
  have hclassify : classify (List.replicate k '.') = .descendant := by
    rcases hk with rfl | rfl <;>
    · simp only [classify_eq_find?, SegmentKind.priority, List.find?_cons, SegmentKind.fits,
        List.replicate_succ, isNames_dot]
      decide
  rw [segmentOf, hclassify]
  rcases hk with rfl | rfl
  · rfl
  · rfl

theorem reading_dots {k : Nat} (hk : k = 2 ∨ k = 3) {rest : List Char}
    (hdot : Ends (· == '.') rest) (hnames : scanNames rest = 0) :
    reading (List.replicate k '.' ++ rest) = .descendant none :: reading rest := by
  have hne : List.replicate k '.' ≠ [] := by
    rcases hk with rfl | rfl <;> exact List.cons_ne_nil _ _
  have hscan : scanDescendant (List.replicate k '.' ++ rest) =
      (List.replicate k '.').length := by
    rw [scanDescendant_dots hk hdot, hnames, List.length_replicate, Nat.add_zero]
  rw [reading_append hne hscan splitFrom_of_descendant, segmentOf_dots hk]
  rfl

end DocQuery.Path
