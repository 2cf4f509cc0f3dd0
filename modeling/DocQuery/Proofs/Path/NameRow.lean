import Mathlib
import DocQuery.Proofs.Path.Piece

/-!
# Rows of Names

What the scanner of names cuts out of a text, and what the rule for names accepts, are rows of
written names with dots between them.  The two differ in the characters that they allow in a bare
name, and in nothing else: so the rule accepts what the scanner cuts out exactly if each character
outside of quotes is one of its own.

## Main definitions

- `outsideQuotes`: the characters of a text that are not between quotes

## Main statements

- `exists_names_of_scanNames`: what the scanner cuts out
- `isNames_iff`: what the rule accepts
- `isNames_iff_of_fits`: when the rule accepts what the scanner cuts out
-/

namespace DocQuery.Path

open DocQuery.Text

variable {isPart : Char → Bool} {cs : List Char} {n : WrittenName} {names : List WrittenName}

/-! ## Cutting out names -/

/-- The first name of a text is a written name. -/
theorem exists_name_of_nameLength (h : nameLength isPart cs ≠ 0) :
    ∃ n : WrittenName, n.Fits isPart ∧ cs.take (nameLength isPart cs) = n.text := by
  unfold nameLength at h ⊢
  split at h
  · next rest =>
    simp only at h ⊢
    split at h
    · exact absurd rfl h
    · next hbody =>
      rw [if_neg hbody]
      simp only [Bool.or_eq_true, List.isEmpty_iff, beq_iff_eq, not_or] at hbody
      obtain ⟨hne, hlength⟩ := hbody
      have hlt := lt_of_le_of_ne (List.takeWhile_sublist _).length_le hlength
      refine ⟨.quoted (rest.takeWhile (· != '"')), ⟨hne, fun hmem => ?_⟩, take_quoted hlt⟩
      simpa using List.mem_takeWhile_imp hmem
  · refine ⟨.bare (cs.takeWhile isPart), ⟨?_, fun c hc => List.mem_takeWhile_imp hc⟩,
      take_length_takeWhile isPart cs⟩
    exact List.ne_nil_of_length_pos (Nat.pos_of_ne_zero h)

/-- More names are cut out with the dots in front of them. -/
theorem exists_names_of_scanMoreNames (cs : List Char) :
    ∃ names : List WrittenName, (∀ m ∈ names, m.Fits isNameChar) ∧
      cs.take (scanMoreNames cs) = dotted names := by
  induction cs using scanMoreNames.induct with
  | case1 rest k hzero =>
    refine ⟨[], by simp, ?_⟩
    rw [scanMoreNames]
    simp only [k] at hzero
    simp [hzero, dotted]
  | case2 rest k hpos ih =>
    obtain ⟨m, hm, htext⟩ := exists_name_of_nameLength hpos
    obtain ⟨names, hnames, hmore⟩ := ih
    refine ⟨m :: names, List.forall_mem_cons.mpr ⟨hm, hnames⟩, ?_⟩
    have hsum : k + 1 + scanMoreNames (rest.drop k) = k + scanMoreNames (rest.drop k) + 1 := by
      omega
    rw [scanMoreNames]
    show List.take (if k = 0 then 0 else k + 1 + scanMoreNames (rest.drop k)) ('.' :: rest) = _
    rw [if_neg hpos, hsum, List.take_succ_cons, List.take_add, hmore, dotted_cons, ← htext]
    rfl
  | case3 cs hdot =>
    refine ⟨[], by simp, ?_⟩
    rw [scanMoreNames]
    · rfl
    · exact hdot

/-- The scanner of names cuts out a row of names. -/
theorem exists_names_of_scanNames (h : scanNames cs ≠ 0) :
    ∃ (n : WrittenName) (names : List WrittenName), n.Fits isNameChar ∧
      (∀ m ∈ names, m.Fits isNameChar) ∧ cs.take (scanNames cs) = n.text ++ dotted names := by
  have hpos : scanName cs ≠ 0 := by
    intro hzero
    simp [scanNames, hzero] at h
  obtain ⟨n, hn, htext⟩ := exists_name_of_nameLength hpos
  obtain ⟨names, hnames, hmore⟩ := exists_names_of_scanMoreNames (cs.drop (scanName cs))
  refine ⟨n, names, hn, hnames, ?_⟩
  simp only [scanNames, if_neg hpos]
  rw [List.take_add, hmore, ← htext]
  rfl

/-- The rule for names accepts rows of names. -/
theorem isNames_iff :
    isNames cs = true ↔ ∃ (n : WrittenName) (names : List WrittenName), n.Fits isWord ∧
      (∀ m ∈ names, m.Fits isWord) ∧ cs = n.text ++ dotted names := by
  constructor
  · intro h
    induction cs using isNames.induct with
    | case1 cs k hzero =>
      rw [isNames] at h
      simp only [k] at hzero
      simp [hzero] at h
    | case2 cs k hpos hdrop =>
      obtain ⟨n, hn, htext⟩ := exists_name_of_nameLength hpos
      have hwhole := List.take_append_drop k cs
      rw [hdrop, List.append_nil] at hwhole
      refine ⟨n, [], hn, by simp, ?_⟩
      rw [← htext]
      show cs = List.take k cs ++ []
      rw [List.append_nil, hwhole]
    | case3 cs k hpos c rest hdrop ih =>
      rw [isNames_of_drop_eq_cons hpos hdrop, Bool.and_eq_true, beq_iff_eq] at h
      obtain ⟨rfl, hrest⟩ := h
      obtain ⟨n, hn, htext⟩ := exists_name_of_nameLength hpos
      obtain ⟨m, names, hm, hnames, rfl⟩ := ih hrest
      refine ⟨n, m :: names, hn, List.forall_mem_cons.mpr ⟨hm, hnames⟩, ?_⟩
      rw [dotted_cons, ← hdrop, ← htext]
      exact (List.take_append_drop k cs).symm
  · rintro ⟨n, names, hn, hnames, rfl⟩
    exact isNames_joined hn hnames

/-! ## Characters outside of quotes -/

/-- The characters of a text that are not between quotes, when the text begins inside of quotes or
outside of them. -/
def unquotedFrom : (inside : Bool) → List Char → List Char
  | _, [] => []
  | inside, c :: cs =>
    if c = '"' then unquotedFrom (!inside) cs
    else if inside then unquotedFrom inside cs
    else c :: unquotedFrom inside cs

/-- The characters of a text that are not between quotes. -/
def outsideQuotes (cs : List Char) : List Char := unquotedFrom false cs

theorem outsideQuotes_append_of_notMem {run : List Char} (h : '"' ∉ run) (rest : List Char) :
    outsideQuotes (run ++ rest) = run ++ outsideQuotes rest := by
  induction run with
  | nil => rfl
  | cons c run ih =>
    obtain ⟨hc, hrun⟩ := not_or.mp (mt List.mem_cons.mpr h)
    rw [List.cons_append, outsideQuotes, unquotedFrom, if_neg (Ne.symm hc),
      if_neg Bool.false_ne_true, ← outsideQuotes, ih hrun]
    rfl

theorem unquotedFrom_true_append {body : List Char} (h : '"' ∉ body) (rest : List Char) :
    unquotedFrom true (body ++ '"' :: rest) = outsideQuotes rest := by
  induction body with
  | nil => rfl
  | cons c body ih =>
    obtain ⟨hc, hbody⟩ := not_or.mp (mt List.mem_cons.mpr h)
    rw [List.cons_append, unquotedFrom, if_neg (Ne.symm hc), if_pos rfl, ih hbody]

/-- The characters of a name that are not between quotes. -/
def WrittenName.bareChars : WrittenName → List Char
  | bare name => name
  | quoted _ => []

theorem WrittenName.outsideQuotes_append (hmark : isPart '"' = false) (hn : n.Fits isPart)
    (rest : List Char) : outsideQuotes (n.text ++ rest) = n.bareChars ++ outsideQuotes rest := by
  cases n with
  | bare name =>
    refine outsideQuotes_append_of_notMem (fun hmem => ?_) rest
    rw [hn.2 _ hmem] at hmark
    cases hmark
  | quoted name =>
    rw [text, List.cons_append, List.append_assoc, List.singleton_append]
    exact unquotedFrom_true_append hn.2 rest

/-- Outside of quotes a row of names has the characters of its bare names, and dots. -/
theorem mem_outsideQuotes_joined (hmark : isPart '"' = false) (hn : n.Fits isPart)
    (h : ∀ m ∈ names, m.Fits isPart) {c : Char} :
    c ∈ outsideQuotes (n.text ++ dotted names) ↔
      (∃ m ∈ n :: names, c ∈ m.bareChars) ∨ c = '.' ∧ names ≠ [] := by
  induction names generalizing n with
  | nil =>
    have hempty : outsideQuotes (dotted []) = [] := rfl
    rw [WrittenName.outsideQuotes_append hmark hn, hempty]
    simp
  | cons m names ih =>
    have hdot : outsideQuotes ('.' :: (m.text ++ dotted names)) =
        '.' :: outsideQuotes (m.text ++ dotted names) :=
      @outsideQuotes_append_of_notMem ['.'] (by decide) _
    have hrest := ih (h m List.mem_cons_self) fun k hk => h k (List.mem_cons_of_mem m hk)
    rw [WrittenName.outsideQuotes_append hmark hn, dotted_cons, hdot, List.mem_append,
      List.mem_cons, hrest]
    simp only [List.exists_mem_cons_iff, ne_eq, List.cons_ne_nil, not_false_eq_true, and_true]
    grind

theorem WrittenName.Fits.bareChars (hn : n.Fits isPart) : ∀ c ∈ n.bareChars, isPart c = true := by
  cases n with
  | bare name => exact hn.2
  | quoted name => exact fun _ hc => absurd hc List.not_mem_nil

theorem WrittenName.Fits.of_bareChars {isPart' : Char → Bool} (hn : n.Fits isPart)
    (h : ∀ c ∈ n.bareChars, isPart' c = true) : n.Fits isPart' := by
  cases n with
  | bare name => exact ⟨hn.1, h⟩
  | quoted name => exact hn

/-- The rule accepts a row of scanned names exactly if all its characters outside of quotes, but
for the dots, are word characters. -/
theorem isNames_iff_of_fits (hn : n.Fits isNameChar) (h : ∀ m ∈ names, m.Fits isNameChar) :
    isNames (n.text ++ dotted names) = true ↔
      ∀ c ∈ outsideQuotes (n.text ++ dotted names), isNameChar c = true → isWord c = true := by
  constructor
  · intro hrule c hc hname
    obtain ⟨n', names', hn', hnames', htext⟩ := isNames_iff.mp hrule
    rw [htext, mem_outsideQuotes_joined isWord_quote hn' hnames'] at hc
    rcases hc with ⟨m, hm, hc⟩ | ⟨rfl, -⟩
    · exact (List.forall_mem_cons.mpr ⟨hn', hnames'⟩ m hm).bareChars c hc
    · rw [isNameChar_dot] at hname
      cases hname
  · intro hwords
    have hall : ∀ m ∈ n :: names, m.Fits isWord := by
      intro m hm
      have hfits : m.Fits isNameChar := List.forall_mem_cons.mpr ⟨hn, h⟩ m hm
      refine hfits.of_bareChars fun c hc => hwords c ?_ (hfits.bareChars c hc)
      exact (mem_outsideQuotes_joined isNameChar_quote hn h).mpr (.inl ⟨m, hm, hc⟩)
    exact isNames_joined (hall n List.mem_cons_self) fun m hm => hall m (List.mem_cons_of_mem n hm)

end DocQuery.Path
