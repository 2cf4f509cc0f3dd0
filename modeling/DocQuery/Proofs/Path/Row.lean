import Mathlib
import DocQuery.Proofs.Path.Piece

/-!
# Rows of Pieces

Reading a row of pieces gives their segments back, name by name, as long as no glob is taken
along by the names in front of it.  A glob is taken along exactly where names are scanned in one
go and it starts with a word; then more names are read than were written.

## Main definitions

- `Separated`, `Apart`: the pieces of a row do not run together
- `totalNames`, `Gains`: reading a row gives more names than it has

## Main statements

- `reading_startText`: reading a row of pieces that stay apart gives their segments
- `apart_or_gains`: reading any other row gives more names than it has
-/

namespace DocQuery.Path

open DocQuery.Text

/-! ## Pieces that stay apart -/

/-- Behind a search no name stands, and behind one without names no other search. -/
def Separated : List Piece → Prop
  | [] => True
  | .search names :: ps =>
    (∀ n, ps.head? ≠ some (.name n)) ∧ (names = [] → ∀ more, ps.head? ≠ some (.search more)) ∧
      Separated ps
  | .name _ :: ps | .glob _ :: ps | .bracket _ :: ps => Separated ps

/-- Where names are scanned in one go, that is behind a search and behind a quoted name, no glob
starts with a word.  `scanned` says whether that is so at the front of the row. -/
def Apart (scanned : Bool) : List Piece → Prop
  | [] => True
  | .name n :: ps => Apart (scanned || n.isQuoted) ps
  | .glob pattern :: ps => (scanned = true → pattern.head? = some '*') ∧ Apart false ps
  | .search _ :: ps => Apart true ps
  | .bracket _ :: ps => Apart false ps
termination_by structural ps => ps

section Pieces

variable {ps : List Piece} {scanned : Bool}

theorem apart_names {names : List WrittenName} :
    Apart scanned (names.map .name ++ ps) ↔ Apart (scanned || names.any (·.isQuoted)) ps := by
  induction names generalizing scanned with
  | nil => simp
  | cons n names ih =>
    rw [List.map_cons, List.cons_append, Apart, ih, List.any_cons, Bool.or_assoc]

/-- The names at the front of a row, and the pieces behind them. -/
theorem exists_names (ps : List Piece) :
    ∃ (names : List WrittenName) (rest : List Piece),
      ps = names.map .name ++ rest ∧ ∀ n, rest.head? ≠ some (.name n) := by
  induction ps with
  | nil => exact ⟨[], [], rfl, by simp⟩
  | cons p ps ih =>
    cases p with
    | name n =>
      obtain ⟨names, rest, rfl, hrest⟩ := ih
      exact ⟨n :: names, rest, rfl, hrest⟩
    | _ => exact ⟨[], _, rfl, by simp⟩

theorem restText_names (names : List WrittenName) (ps : List Piece) :
    restText (names.map .name ++ ps) = dotted names ++ restText ps := by
  induction names with
  | nil => rfl
  | cons n names ih =>
    rw [List.map_cons, List.cons_append, restText_cons, ih, dotted_cons]
    simp [Piece.dottedText]

theorem reading_name_of_glob {n : WrittenName} (hn : n.Valid)
    (hglob : scanGlob (n.text ++ restText ps) ≠ 0) :
    reading (n.text ++ restText ps) =
      .plain [String.ofList n.name] :: reading (restText ps) := by
  -- the scan of globs ends at the dot behind the name; it never starts at a quote
  have hscan : scanGlob (n.text ++ restText ps) = n.text.length := by
    cases n with
    | bare name =>
      have hpart : ∀ c ∈ name, (!isGlobStop c) = true := fun c hc => by
        rw [isGlobStop_of_isBareChar (hn.2 c hc)]
        rfl
      rw [scanGlob_eq_length hglob, WrittenName.text, takeWhile_append_of_ends hpart
        (ends_restText (by decide) (by decide) ps)]
    | quoted name => exact absurd (scanGlob_of_stop (by decide) _) hglob
  have hsegment : segmentOf n.text = .plain [String.ofList n.name] := by
    have h := segmentOf_joined hn.fits_word fun _ hm => absurd hm List.not_mem_nil
    rwa [dotted, List.flatMap_nil, List.append_nil] at h
  rw [reading_append hn.text_ne_nil hscan splitFrom_of_glob, hsegment]
  rfl

/-- A glob that is ahead switches the scan of globs on, unless a quoted name stands in front. -/
theorem exists_quoted_of_scanGlob {n : WrittenName} {names : List WrittenName}
    {pattern : List Char} (hn : n.Valid) (h : ∀ m ∈ names, m.Valid) (hpattern : IsPattern pattern)
    {rest : List Char}
    (hglob : scanGlob (n.text ++ (dotted names ++ '.' :: (pattern ++ rest))) = 0) :
    (n :: names).any (·.isQuoted) = true := by
  by_contra hbare
  have hwords : ∀ m ∈ n :: names, ∀ c ∈ m.text, isBareChar c = true := by
    intro m hm c hc
    have hvalid : m.Valid := by
      rcases List.mem_cons.mp hm with rfl | hm
      · exact hn
      · exact h m hm
    cases m with
    | bare name => exact hvalid.2 c hc
    | quoted name => exact absurd (List.any_eq_true.mpr ⟨_, hm, rfl⟩) hbare
  -- then names and glob lie on one line, which has a star and a name, so a glob is scanned
  obtain ⟨hchars, hstar, -⟩ := id hpattern
  obtain ⟨c, cs, hfirst⟩ := List.exists_cons_of_ne_nil hn.text_ne_nil
  have hc : isBareChar c = true := hwords n List.mem_cons_self c (hfirst ▸ List.mem_cons_self)
  have hline : '\n' ∉ n.text ++ (dotted names ++ '.' :: pattern) := by
    intro hmem
    have hno : ∀ d : Char, isBareChar d = true → d ≠ '\n' := fun d hd =>
      ne_of_holds hd (by decide)
    rcases List.mem_append.mp hmem with hmem | hmem
    · exact hno _ (hwords n List.mem_cons_self _ hmem) rfl
    rcases List.mem_append.mp hmem with hmem | hmem
    · obtain ⟨m, hm, hmem⟩ := List.mem_flatMap.mp hmem
      rcases List.mem_cons.mp hmem with heq | hmem
      · exact absurd heq (by decide)
      · exact hno _ (hwords m (List.mem_cons_of_mem n hm) _ hmem) rfl
    · rcases List.mem_cons.mp hmem with heq | hmem
      · exact absurd heq (by decide)
      · exact hpattern.ne hmem (by decide) (by decide) rfl
  have hscan := scanGlob_append hline (by simp [hstar])
    ⟨c, by simp [hfirst], isNameChar_of_isBareChar hc⟩ rest
  have hassoc : n.text ++ (dotted names ++ '.' :: (pattern ++ rest)) =
      n.text ++ (dotted names ++ '.' :: pattern) ++ rest := by simp
  rw [hassoc, hscan, hfirst] at hglob
  simp [isGlobStop_of_isBareChar hc] at hglob

theorem reading_names {n : WrittenName} {names : List WrittenName} (hn : n.Valid)
    (h : ∀ m ∈ names, m.Valid) (hname : ∀ m, ps.head? ≠ some (.name m))
    (hstar : ∀ pattern, ps.head? = some (.glob pattern) → pattern.head? = some '*')
    (hglob : scanGlob (n.text ++ (dotted names ++ restText ps)) = 0) :
    reading (n.text ++ (dotted names ++ restText ps)) =
      ((n :: names).map fun m => Segment.plain [String.ofList m.name]) ++
        reading (restText ps) :=
  reading_joined hn h hglob (ends_restText isNameChar_dot isNameChar_openBracket ps)
    (scanMoreNames_restText hname hstar)

theorem reading_search_names {names : List WrittenName} (h : ∀ m ∈ names, m.Valid)
    (hps : ∀ p ∈ ps, p.Valid) (hseparated : Separated (.search names :: ps))
    (hstar : ∀ pattern, ps.head? = some (.glob pattern) → pattern.head? = some '*') :
    reading (startText (.search names :: ps)) =
      (Piece.search names).segment :: reading (restText ps) := by
  obtain ⟨hname, hsearch, -⟩ := hseparated
  cases names with
  | cons n names =>
    have hread := reading_search (.inl rfl) (h n List.mem_cons_self)
      (fun m hm => h m (List.mem_cons_of_mem n hm))
      (ends_restText isNameChar_dot isNameChar_openBracket ps)
      (scanMoreNames_restText hname hstar)
    rw [startText, Piece.text, join_text, List.cons_append, List.cons_append, List.append_assoc]
    exact hread
  | nil =>
    cases ps with
    | nil => exact reading_dots (.inl rfl) (ends_nil _) rfl
    | cons p ps =>
      cases p with
      | name n => exact absurd rfl (hname n)
      | search more => exact absurd rfl (hsearch rfl more)
      | bracket body =>
        exact reading_dots (.inl rfl) (ends_cons (by decide) _)
          (scanNames_of_not_name (by decide) isNameChar_openBracket _)
      | glob pattern =>
        obtain ⟨cs, rfl⟩ := List.head?_eq_some_iff.mp (hstar pattern rfl)
        -- the dot in front of the star is scanned as the third dot of the search
        rw [reading_restText hps]
        exact reading_dots (.inr rfl) (ends_cons (by decide) _)
          (scanNames_of_not_name (by decide) isNameChar_star _)

/-- Where names are being scanned, a glob that comes next starts with a star. -/
theorem Apart.head?_of_glob (happart : Apart true ps) :
    ∀ pattern, ps.head? = some (.glob pattern) → pattern.head? = some '*' := by
  intro pattern hhead
  obtain ⟨qs, rfl⟩ := List.head?_eq_some_iff.mp hhead
  exact happart.1 rfl

theorem Separated.of_append {front back : List Piece} (h : Separated (front ++ back)) :
    Separated back := by
  induction front with
  | nil => exact h
  | cons p front ih =>
    cases p with
    | search names => exact ih h.2.2
    | _ => exact ih h

/-- Reading a row of pieces gives their segments. -/
theorem reading_startText (hps : ∀ p ∈ ps, p.Valid) (hseparated : Separated ps)
    (happart : Apart scanned ps) : reading (startText ps) = ps.map Piece.segment := by
  -- on the length of the row, because a row of names can be taken in one go
  induction hlength : ps.length using Nat.strong_induction_on generalizing ps scanned with
  | _ length ih =>
  have hrest : ∀ {qs : List Piece} {b : Bool}, qs.length < length → (∀ p ∈ qs, p.Valid) →
      Separated qs → Apart b qs → reading (restText qs) = qs.map Piece.segment := by
    intro qs b hlt hqs hqsSeparated hapart
    rw [reading_restText hqs]
    exact ih _ hlt hqs hqsSeparated hapart rfl
  cases ps with
  | nil => exact reading_nil
  | cons p ps =>
    have hp := hps p List.mem_cons_self
    have hvalid : ∀ q ∈ ps, q.Valid := fun q hq => hps q (List.mem_cons_of_mem p hq)
    have hlt : ps.length < length := by
      rw [← hlength]
      exact Nat.lt_succ_self _
    cases p with
    | bracket body =>
      rw [startText, Piece.text, reading_bracket hp.1 hp.2, hrest hlt hvalid hseparated happart]
      rfl
    | glob pattern =>
      rw [startText, Piece.text, reading_pattern hp (ends_restText (by decide) (by decide) ps),
        hrest hlt hvalid hseparated happart.2]
      rfl
    | search names =>
      rw [reading_search_names hp hvalid hseparated happart.head?_of_glob,
        hrest hlt hvalid hseparated.2.2 happart]
      rfl
    | name n =>
      by_cases hglob : scanGlob (n.text ++ restText ps) = 0
      · -- the whole row of names is one fragment
        obtain ⟨names, qs, rfl, hname⟩ := exists_names ps
        have hnames : ∀ m ∈ names, m.Valid := fun m hm =>
          hvalid (.name m) (List.mem_append_left _ (List.mem_map_of_mem hm))
        have hqs : ∀ q ∈ qs, q.Valid := fun q hq => hvalid q (List.mem_append_right _ hq)
        have happart' : Apart (scanned || (n :: names).any (·.isQuoted)) qs :=
          apart_names.mp happart
        rw [restText_names] at hglob
        have hstar : ∀ pattern, qs.head? = some (.glob pattern) → pattern.head? = some '*' := by
          intro pattern hhead
          obtain ⟨more, rfl⟩ := List.head?_eq_some_iff.mp hhead
          -- no glob was scanned although one is ahead, so some name is quoted
          have hquoted := exists_quoted_of_scanGlob hp hnames (hqs _ List.mem_cons_self) hglob
          rw [hquoted, Bool.or_true] at happart'
          exact happart'.1 rfl
        have hshort : qs.length < length := by
          rw [List.length_append] at hlt
          omega
        rw [startText, Piece.text, restText_names, reading_names hp hnames hname hstar hglob,
          hrest hshort hqs hseparated.of_append happart']
        simp [Piece.segment, Function.comp_def]
      · -- a star is ahead, and the scan of globs takes the first name alone
        rw [startText, Piece.text, reading_name_of_glob hp hglob,
          hrest hlt hvalid hseparated happart]
        rfl

/-! ## Pieces that run together -/

/-- How many names a segment holds. -/
def Segment.nameCount : Segment → Nat
  | plain names | descendant (some names) => names.length
  | _ => 0

/-- How many names the segments of a row hold. -/
def totalNames (segments : List Segment) : Nat := (segments.map Segment.nameCount).sum

theorem totalNames_cons (s : Segment) (segments : List Segment) :
    totalNames (s :: segments) = s.nameCount + totalNames segments := by
  rw [totalNames, List.map_cons, List.sum_cons, totalNames]

theorem totalNames_append (front back : List Segment) :
    totalNames (front ++ back) = totalNames front + totalNames back := by
  rw [totalNames, List.map_append, List.sum_append, totalNames, totalNames]

theorem totalNames_map_plain {α : Type} (name : α → String) (names : List α) :
    totalNames (names.map fun n => .plain [name n]) = names.length := by
  induction names with
  | nil => rfl
  | cons n names ih =>
    rw [List.map_cons, totalNames_cons, ih, List.length_cons, Nat.add_comm]
    rfl

/-- What is left of a glob behind its first word costs no names that stand further behind. -/
theorem totalNames_reading_le {cs rest : List Char}
    (hchars : ∀ c ∈ cs, isBareChar c = true ∨ c = '*') (hstar : ∀ c ∈ cs.head?, c = '*')
    (hrest : Ends (!isGlobStop ·) rest) :
    totalNames (reading rest) ≤ totalNames (reading (cs ++ rest)) := by
  -- on the characters, because stars are left out one by one where no glob is scanned
  induction cs with
  | nil => exact Nat.le_refl _
  | cons c cs ih =>
    have hc : c = '*' := hstar c rfl
    subst hc
    by_cases hglob : scanGlob ('*' :: cs ++ rest) = 0
    · have hnext : ∀ d ∈ cs.head?, d = '*' := by
        intro d hd
        obtain ⟨ds, rfl⟩ := List.head?_eq_some_iff.mp hd
        refine (hchars d (by simp)).resolve_left fun hbare => ?_
        -- star and word make a glob
        have hpattern : IsPattern ('*' :: d :: ds) := ⟨hchars, by simp, d, by simp, hbare⟩
        rw [scanGlob_pattern hpattern hrest] at hglob
        exact absurd hglob (Nat.succ_ne_zero _)
      have hskip : reading ('*' :: cs ++ rest) = reading (cs ++ rest) := by
        rw [List.cons_append] at hglob ⊢
        rw [reading, splitFrom_of_none hglob
          (scanNames_of_not_name (by decide) isNameChar_star _)
          (scanDescendant_of_ne_dot (by decide) _) (scanBracket_of_ne (by decide) _), reading]
      rw [hskip]
      exact ih (fun d hd => hchars d (List.mem_cons_of_mem _ hd)) hnext
    · have hstop : ∀ d ∈ '*' :: cs, (!isGlobStop d) = true := fun d hd =>
        not_isGlobStop (hchars d hd)
      have hscan : scanGlob ('*' :: cs ++ rest) = ('*' :: cs).length := by
        rw [scanGlob_eq_length hglob, takeWhile_append_of_ends hstop hrest]
      rw [reading_append (List.cons_ne_nil _ _) hscan splitFrom_of_glob, totalNames_append]
      exact Nat.le_add_left _ _

/-- A glob that does not start with a star starts with a word and a star. -/
theorem IsPattern.exists_word {pattern : List Char} (h : IsPattern pattern)
    (hstar : pattern.head? ≠ some '*') :
    ∃ word cs, (WrittenName.bare word).Valid ∧ pattern = word ++ '*' :: cs := by
  obtain ⟨hchars, hmem, -⟩ := h
  -- the word is what stands in front of the first star
  obtain ⟨word, cs, rfl, hfirst⟩ := List.eq_append_cons_of_mem hmem
  refine ⟨word, cs, ⟨?_, fun c hc => ?_⟩, rfl⟩
  · rintro rfl
    exact hstar rfl
  · refine (hchars c (List.mem_append_left _ hc)).resolve_right ?_
    rintro rfl
    exact hfirst hc

/-- Behind names a glob that starts with a word gives them one more name. -/
theorem exists_name_of_glob {pattern : List Char} (h : IsPattern pattern)
    (hword : pattern.head? ≠ some '*') (ps : List Piece) :
    ∃ (n : WrittenName) (rest : List Char), n.Valid ∧
      (∀ names, dotted names ++ restText (.glob pattern :: ps) = dotted (names ++ [n]) ++ rest) ∧
      Ends isNameChar rest ∧ scanMoreNames rest = 0 ∧
      totalNames (reading (restText ps)) ≤ totalNames (reading rest) := by
  obtain ⟨word, cs, hvalid, rfl⟩ := h.exists_word hword
  refine ⟨.bare word, '*' :: cs ++ restText ps, hvalid, fun names => ?_,
    ends_cons isNameChar_star _, scanMoreNames_of_ne_dot (by decide) _, ?_⟩
  · simp [restText_cons, Piece.dottedText, dotted, WrittenName.text]
  · refine totalNames_reading_le (fun c hc => h.1 c (List.mem_append_right _ hc))
      (fun c hc => ?_) (ends_restText (by decide) (by decide) ps)
    exact (Option.mem_some_iff.mp hc).symm

/-- Where no names are scanned at the front of a row and no word is taken along, it does not
matter whether names were scanned in front of it. -/
theorem Apart.of_false (h : Apart false ps) (hname : ∀ n, ps.head? ≠ some (.name n))
    (hstar : ∀ pattern, ps.head? = some (.glob pattern) → pattern.head? = some '*') :
    Apart scanned ps := by
  cases ps with
  | nil => trivial
  | cons p ps =>
    cases p with
    | name n => exact absurd rfl (hname n)
    | glob pattern => exact ⟨fun _ => hstar pattern rfl, h.2⟩
    | search names => exact h
    | bracket body => exact h

/-- Reading the row gives more names than it has. -/
def Gains (ps : List Piece) : Prop :=
  totalNames (ps.map Piece.segment) < totalNames (reading (startText ps))

/-- Where the front of a row is read as it is written, what is gained behind it is gained. -/
theorem Gains.append {front back : List Piece} (h : Gains back)
    (hread : reading (startText (front ++ back)) =
      front.map Piece.segment ++ reading (startText back)) : Gains (front ++ back) := by
  rw [Gains, hread, List.map_append, totalNames_append, totalNames_append]
  exact Nat.add_lt_add_left h _

section Words

variable {names : List WrittenName} {pattern : List Char}

/-- Names take the first word of a glob along. -/
theorem gains_names_glob {n : WrittenName} (hn : n.Valid) (h : ∀ m ∈ names, m.Valid)
    (hpattern : IsPattern pattern) (hword : pattern.head? ≠ some '*')
    (hglob : scanGlob (n.text ++ (dotted names ++ restText (.glob pattern :: ps))) = 0)
    (hrest : totalNames (ps.map Piece.segment) ≤ totalNames (reading (restText ps))) :
    Gains ((n :: names).map .name ++ .glob pattern :: ps) := by
  obtain ⟨m, rest, hm, htext, hends, hmore, hle⟩ := exists_name_of_glob hpattern hword ps
  have hnames : ∀ k ∈ names ++ [m], k.Valid :=
    List.forall_mem_append.mpr ⟨h, List.forall_mem_singleton.mpr hm⟩
  have hread : totalNames (reading (startText ((n :: names).map .name ++ .glob pattern :: ps))) =
      (n :: (names ++ [m])).length + totalNames (reading rest) := by
    rw [htext names] at hglob
    rw [List.map_cons, List.cons_append, startText, Piece.text, restText_names, htext names,
      reading_joined hn hnames hglob hends hmore, totalNames_append, totalNames_map_plain]
  have hmap :
      totalNames (((n :: names).map Piece.name ++ .glob pattern :: ps).map Piece.segment) =
      (n :: names).length + totalNames (ps.map Piece.segment) := by
    rw [List.map_append, List.map_map, totalNames_append]
    exact congrArg₂ _ (totalNames_map_plain _ _) ((totalNames_cons _ _).trans (Nat.zero_add _))
  simp only [Gains, hread, hmap, List.length_cons, List.length_append, List.length_nil]
  omega

theorem nameCount_search (names : List WrittenName) :
    (Piece.search names).segment.nameCount = names.length := by
  cases names with
  | nil => rfl
  | cons n names => exact List.length_map _

/-- So does a search, with names or without. -/
theorem gains_search_glob (h : ∀ m ∈ names, m.Valid) (hpattern : IsPattern pattern)
    (hword : pattern.head? ≠ some '*')
    (hrest : totalNames (ps.map Piece.segment) ≤ totalNames (reading (restText ps))) :
    Gains (.search names :: .glob pattern :: ps) := by
  obtain ⟨m, rest, hm, htext, hends, hmore, hle⟩ := exists_name_of_glob hpattern hword ps
  have hread : reading (startText (.search names :: .glob pattern :: ps)) =
      (Piece.search (names ++ [m])).segment :: reading rest := by
    cases names with
    | nil =>
      -- the dot in front of the word is scanned as the third dot of the search
      have hdots : startText (.search [] :: .glob pattern :: ps) =
          List.replicate 3 '.' ++ (m.text ++ (dotted [] ++ rest)) := by
        have hrow := htext []
        rw [List.nil_append, dotted_cons, List.cons_append, List.append_assoc] at hrow
        exact congrArg (fun cs => '.' :: '.' :: cs) hrow
      have hnone : ∀ k ∈ ([] : List WrittenName), k.Valid := by simp
      rw [hdots, reading_search (.inr rfl) hm hnone hends hmore]
      rfl
    | cons n names =>
      have hdots : startText (.search (n :: names) :: .glob pattern :: ps) =
          List.replicate 2 '.' ++ (n.text ++ (dotted (names ++ [m]) ++ rest)) := by
        rw [← htext names, startText, Piece.text, join_text, List.cons_append, List.cons_append,
          List.append_assoc]
        rfl
      have hnames : ∀ k ∈ names ++ [m], k.Valid :=
        List.forall_mem_append.mpr ⟨fun k hk => h k (List.mem_cons_of_mem n hk),
          List.forall_mem_singleton.mpr hm⟩
      rw [hdots, reading_search (.inl rfl) (h n List.mem_cons_self) hnames hends hmore]
      rfl
  have hglob : (Piece.glob pattern).segment.nameCount = 0 := rfl
  simp only [Gains, hread, List.map_cons, totalNames_cons, nameCount_search, hglob,
    List.length_append, List.length_cons, List.length_nil]
  omega

end Words

/-- Pieces stay apart, or reading them gives more names than they have. -/
theorem apart_or_gains (hps : ∀ p ∈ ps, p.Valid) (hseparated : Separated ps) :
    Apart false ps ∨ Gains ps := by
  -- on the length of the row, as above
  induction hlength : ps.length using Nat.strong_induction_on generalizing ps with
  | _ length ih =>
  have hle : ∀ {qs : List Piece}, qs.length < length → (∀ p ∈ qs, p.Valid) → Separated qs →
      totalNames (qs.map Piece.segment) ≤ totalNames (reading (restText qs)) := by
    intro qs hlt hqs hqsSeparated
    rw [reading_restText hqs]
    rcases ih _ hlt hqs hqsSeparated rfl with happart | hgains
    · rw [reading_startText hqs hqsSeparated happart]
    · exact Nat.le_of_lt hgains
  -- where the front is read as it is written, the row behind it decides
  have hfront : ∀ {front qs : List Piece}, qs.length < length → ps = front ++ qs →
      reading (startText ps) = front.map Piece.segment ++ reading (restText qs) →
      (Apart false qs → Apart false ps) → Apart false ps ∨ Gains ps := by
    rintro front qs hlt rfl hread happart
    have hqs : ∀ q ∈ qs, q.Valid := fun q hq => hps q (List.mem_append_right _ hq)
    rw [reading_restText hqs] at hread
    exact (ih _ hlt hqs hseparated.of_append rfl).imp happart fun hgains => hgains.append hread
  cases ps with
  | nil => exact .inl trivial
  | cons p ps =>
    have hp := hps p List.mem_cons_self
    have hvalid : ∀ q ∈ ps, q.Valid := fun q hq => hps q (List.mem_cons_of_mem p hq)
    have hlt : ps.length < length := by
      rw [← hlength]
      exact Nat.lt_succ_self _
    have hsingle : p :: ps = [p] ++ ps := rfl
    cases p with
    | bracket body => exact hfront hlt hsingle (reading_bracket hp.1 hp.2 _) id
    | glob pattern =>
      have hread := reading_pattern hp (ends_restText (by decide) (by decide) ps)
      exact hfront hlt hsingle hread fun happart => ⟨by simp, happart⟩
    | search names =>
      by_cases hstar : ∀ pattern, ps.head? = some (.glob pattern) → pattern.head? = some '*'
      · have hread := reading_search_names hp hvalid hseparated hstar
        exact hfront hlt hsingle hread fun happart => happart.of_false hseparated.1 hstar
      · right
        push Not at hstar
        obtain ⟨pattern, hhead, hword⟩ := hstar
        obtain ⟨more, rfl⟩ := List.head?_eq_some_iff.mp hhead
        have hmore := hle (Nat.lt_of_succ_lt hlt)
          (fun q hq => hvalid q (List.mem_cons_of_mem _ hq)) hseparated.2.2
        exact gains_search_glob hp (hvalid _ List.mem_cons_self) hword hmore
    | name n =>
      by_cases hglob : scanGlob (n.text ++ restText ps) = 0
      · obtain ⟨names, qs, rfl, hname⟩ := exists_names ps
        have hnames : ∀ m ∈ names, m.Valid := fun m hm =>
          hvalid (.name m) (List.mem_append_left _ (List.mem_map_of_mem hm))
        have hqs : ∀ q ∈ qs, q.Valid := fun q hq => hvalid q (List.mem_append_right _ hq)
        have hshort : qs.length < length := by
          rw [List.length_append] at hlt
          omega
        have hrow : .name n :: (names.map .name ++ qs) = (n :: names).map .name ++ qs := rfl
        have hmoreSeparated : Separated (names.map .name ++ qs) := hseparated
        rw [restText_names] at hglob
        by_cases hstar : ∀ pattern, qs.head? = some (.glob pattern) → pattern.head? = some '*'
        · have hread := reading_names hp hnames hname hstar hglob
          refine hfront hshort hrow ?_ fun happart => ?_
          · rw [startText, Piece.text, restText_names, hread, List.map_map]
            rfl
          · exact apart_names.mpr (happart.of_false hname hstar)
        · right
          push Not at hstar
          obtain ⟨pattern, hhead, hword⟩ := hstar
          obtain ⟨more, rfl⟩ := List.head?_eq_some_iff.mp hhead
          have hmore := hle (Nat.lt_of_succ_lt hshort)
            (fun q hq => hqs q (List.mem_cons_of_mem _ hq)) hmoreSeparated.of_append
          exact gains_names_glob hp hnames (hqs _ List.mem_cons_self) hword hglob hmore
      · -- no glob is scanned at a quote, so the name is bare
        have hbare : n.isQuoted = false := by
          cases n with
          | bare name => rfl
          | quoted name => exact absurd (scanGlob_of_stop (by decide) _) hglob
        refine hfront hlt hsingle (reading_name_of_glob hp hglob) fun happart => ?_
        rwa [Apart, hbare]

end Pieces

/-! ## Whole paths -/

/-- A path is read fragment by fragment. -/
theorem parse_ofList (cs : List Char) :
    parse (String.ofList cs) = (splitFrom (stripRoot cs)).map segmentOf := by
  simp [parse, split, segment, Function.comp_def]

/-- A bracket on its own is a path of a single segment. -/
theorem parse_bracket {body : List Char} (hne : body ≠ []) (hclose : ']' ∉ body) :
    parse (String.ofList (bracket body)) = [segmentOf (bracket body)] := by
  have hroot : stripRoot (bracket body) = bracket body := rfl
  have hscan : scanBracket (bracket body) = (bracket body).length := by
    simpa using scanBracket_bracket hne hclose []
  have hpos : scanBracket (bracket body) ≠ 0 := by
    rw [hscan, bracket, List.length_cons]
    exact Nat.succ_ne_zero _
  rw [parse_ofList, hroot, splitFrom_of_bracket hpos, hscan, List.take_length, List.drop_length,
    splitFrom, List.map_singleton]

/-- A path may begin with a glob, which goes up to what ends it. -/
theorem parse_pattern_append {pattern rest : List Char} (h : IsPattern pattern)
    (hrest : Ends (!isGlobStop ·) rest) :
    parse (String.ofList (pattern ++ rest)) =
      .glob (String.ofList pattern) :: (splitFrom rest).map segmentOf := by
  have hroot : stripRoot (pattern ++ rest) = pattern ++ rest := by
    obtain ⟨c, cs, rfl, hdot, hdollar⟩ := h.exists_cons
    have hstart : (c :: (cs ++ rest)).dropWhile (· == '$') = c :: (cs ++ rest) :=
      List.dropWhile_cons_of_neg (by simpa using hdollar)
    rw [List.cons_append, stripRoot, hstart]
    split
    · next heq => exact absurd (List.cons.inj heq).1 hdot
    · next heq => exact absurd (List.cons.inj heq).1 hdot
    · rfl
  have hscan := scanGlob_pattern h hrest
  have hpos : scanGlob (pattern ++ rest) ≠ 0 := by
    rw [hscan]
    exact (List.length_pos_of_mem h.2.1).ne'
  rw [parse_ofList, hroot, splitFrom_of_glob hpos, hscan, List.take_left, List.drop_left,
    List.map_cons, segmentOf_pattern h]

theorem flatMap_singles_parse (cs : List Char) :
    (parse (String.ofList cs)).flatMap Segment.singles = reading (stripRoot cs) := by
  rw [parse_ofList, List.flatMap_map, reading]

theorem splitNames_ne_nil (cs : List Char) : splitNames cs ≠ [] := by
  rw [splitNames]
  split <;> exact List.cons_ne_nil _ _

/-- Each step along names has at least one name. -/
theorem plain_nil_notMem_parse (cs : List Char) : .plain [] ∉ parse (String.ofList cs) := by
  intro hmem
  rw [parse_ofList] at hmem
  obtain ⟨fragment, -, hfragment⟩ := List.mem_map.mp hmem
  exact splitNames_ne_nil fragment (eq_of_segmentOf_eq_plain hfragment).2

end DocQuery.Path
