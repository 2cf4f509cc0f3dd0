import Mathlib
import DocQuery.Path.Compile
import DocQuery.Proofs.Path.Splitting

/-!
# Names as They Are Written

A name stands in a path either bare, as a run of letters, digits and low lines of ASCII, or
between double quotes.  The scanners take written names up to their end, the rule for names
accepts them, and reading them gives the names back.

## Main definitions

- `WrittenName`: a name together with the way it is written
- `dotted`: more names, each behind a dot

## Main statements

- `scanNames_joined`: dotted names are scanned up to where no further name follows
- `isNames_joined`, `splitNames_joined`: the rule for names fits them, and reads them back
-/

namespace DocQuery.Path

open DocQuery.Text

/-! ## Runs of characters -/

/-- What stands behind a run of `p`-characters ends it. -/
def Ends (p : Char → Bool) (rest : List Char) : Prop := ∀ c ∈ rest.head?, p c = false

theorem ends_nil (p : Char → Bool) : Ends p [] := by
  intro c hc
  cases hc

theorem ends_cons {p : Char → Bool} {c : Char} (h : p c = false) (cs : List Char) :
    Ends p (c :: cs) := by
  intro d hd
  rwa [← Option.mem_some_iff.mp hd]

theorem takeWhile_of_ends {p : Char → Bool} {rest : List Char} (h : Ends p rest) :
    rest.takeWhile p = [] := by
  cases rest with
  | nil => rfl
  | cons c rest =>
    have hc : ¬p c = true := by simp [h c rfl]
    exact List.takeWhile_cons_of_neg hc

theorem dropWhile_of_ends {p : Char → Bool} {rest : List Char} (h : Ends p rest) :
    rest.dropWhile p = rest := by
  cases rest with
  | nil => rfl
  | cons c rest =>
    have hc : ¬p c = true := by simp [h c rfl]
    exact List.dropWhile_cons_of_neg hc

/-- A run goes up to what ends it. -/
theorem takeWhile_append_of_ends {p : Char → Bool} {run rest : List Char}
    (hrun : ∀ c ∈ run, p c = true) (hrest : Ends p rest) :
    (run ++ rest).takeWhile p = run := by
  rw [List.takeWhile_append_of_pos hrun, takeWhile_of_ends hrest, List.append_nil]

theorem dropWhile_append_of_ends {p : Char → Bool} {run rest : List Char}
    (hrun : ∀ c ∈ run, p c = true) (hrest : Ends p rest) :
    (run ++ rest).dropWhile p = rest := by
  rw [List.dropWhile_append_of_pos hrun, dropWhile_of_ends hrest]

/-- A run that is shorter than its text is followed by a character that ends it. -/
theorem exists_eq_takeWhile_append {p : Char → Bool} {cs : List Char}
    (h : (cs.takeWhile p).length < cs.length) :
    ∃ d rest, p d = false ∧ cs = cs.takeWhile p ++ d :: rest := by
  have hsplit := List.takeWhile_append_dropWhile (p := p) (l := cs)
  cases hrest : cs.dropWhile p with
  | nil =>
    rw [hrest, List.append_nil] at hsplit
    rw [hsplit] at h
    exact absurd h (Nat.lt_irrefl _)
  | cons d rest =>
    have hhead := List.head?_dropWhile_not p cs
    rw [hrest] at hhead
    refine ⟨d, rest, by simpa using hhead, ?_⟩
    rw [← hrest]
    exact hsplit.symm

/-- A text between two marks is taken with the marks around it. -/
theorem take_quoted {quote : Char} {rest : List Char}
    (h : (rest.takeWhile (· != quote)).length < rest.length) :
    (quote :: rest).take ((rest.takeWhile (· != quote)).length + 2) =
      quote :: (rest.takeWhile (· != quote) ++ [quote]) := by
  obtain ⟨d, more, hd, hsplit⟩ := exists_eq_takeWhile_append h
  have hquote : d = quote := by simpa using hd
  generalize rest.takeWhile (· != quote) = body at hsplit ⊢
  rw [hsplit, hquote, List.take_succ_cons, List.take_append, List.take_of_length_le (by omega),
    Nat.add_sub_cancel_left]
  rfl

/-- A weaker condition on the characters makes no shorter run. -/
theorem length_takeWhile_le {p q : Char → Bool} (h : ∀ c, p c = true → q c = true)
    (cs : List Char) : (cs.takeWhile p).length ≤ (cs.takeWhile q).length := by
  induction cs with
  | nil => exact Nat.le_refl _
  | cons c cs ih =>
    by_cases hc : p c = true
    · rw [List.takeWhile_cons_of_pos hc, List.takeWhile_cons_of_pos (h c hc)]
      exact Nat.succ_le_succ ih
    · rw [List.takeWhile_cons_of_neg hc]
      exact Nat.zero_le _

/-! ## Bare names -/

/-- The characters that may stand in a name without quotes. -/
def isBareChar (c : Char) : Bool := c.isAlphanum || c == '_'

theorem toNat_lt_of_isBareChar {c : Char} (h : isBareChar c = true) : c.toNat < 128 := by
  -- the last of them is `z`
  have hle : c.val.toNat ≤ 122 := by
    simp only [isBareChar, Char.isAlphanum, Char.isAlpha, Char.isUpper, Char.isLower, Char.isDigit,
      Bool.or_eq_true, Bool.and_eq_true, decide_eq_true_eq, beq_iff_eq, UInt32.le_iff_toNat_le,
      ge_iff_le] at h
    rcases h with ((⟨-, h⟩ | ⟨-, h⟩) | ⟨-, h⟩) | rfl
    · exact Nat.le_trans h (by decide)
    · exact Nat.le_trans h (by decide)
    · exact Nat.le_trans h (by decide)
    · decide
  exact Nat.lt_of_le_of_lt hle (by decide)

theorem isNameChar_of_isBareChar {c : Char} (h : isBareChar c = true) : isNameChar c = true := by
  -- on ASCII the table of name characters is checked entry by entry
  have hascii := isNameChar_ascii c.toNat (toNat_lt_of_isBareChar h)
  rw [Char.ofNat_toNat] at hascii
  rw [hascii]
  exact h

theorem isWord_of_isBareChar {c : Char} (h : isBareChar c = true) : isWord c = true := by
  have hascii := isNameChar_eq_isWord_ascii c.toNat (toNat_lt_of_isBareChar h)
  rw [Char.ofNat_toNat] at hascii
  rw [← hascii]
  exact isNameChar_of_isBareChar h

/-- A character of a class is none of those outside of it. -/
theorem ne_of_holds {p : Char → Bool} {c d : Char} (hc : p c = true) (hd : p d = false) :
    c ≠ d := by
  rintro rfl
  exact Bool.false_ne_true (hd.symm.trans hc)

/-- So is one that may also be a quote. -/
theorem ne_of_quote_or {p : Char → Bool} {c d : Char} (hc : c = '"' ∨ p c = true) (hquote : d ≠ '"')
    (hd : p d = false) : c ≠ d := by
  rcases hc with rfl | hc
  · exact hquote.symm
  · exact ne_of_holds hc hd

theorem isGlobStop_of_isBareChar {c : Char} (h : isBareChar c = true) : isGlobStop c = false := by
  cases hstop : isGlobStop c with
  | false => rfl
  | true =>
    simp only [isGlobStop, List.contains_eq_mem, List.mem_cons, List.not_mem_nil, or_false,
      decide_eq_true_eq] at hstop
    rcases hstop with rfl | rfl | rfl | rfl | rfl | rfl | rfl | rfl <;> exact absurd h (by decide)

/-! ## Written names -/

/-- A name and the way it is written. -/
inductive WrittenName where
  /-- Without quotes -/
  | bare (name : List Char)
  /-- Between double quotes -/
  | quoted (name : List Char)
deriving DecidableEq

namespace WrittenName

/-- The name itself. -/
def name : WrittenName → List Char
  | bare name | quoted name => name

/-- How the name stands in a path. -/
def text : WrittenName → List Char
  | bare name => name
  | quoted name => '"' :: (name ++ ['"'])

/-- Whether the name stands between quotes. -/
def isQuoted : WrittenName → Bool
  | bare _ => false
  | quoted _ => true

/-- A name is not empty, and only a quoted one may hold other characters than those of bare
names; no name holds a quote. -/
def Valid : WrittenName → Prop
  | bare name => name ≠ [] ∧ ∀ c ∈ name, isBareChar c = true
  | quoted name => name ≠ [] ∧ '"' ∉ name

/-- A name is not empty.  The characters of a bare one satisfy `isPart`, and a quoted one may hold
any character but a quote. -/
def Fits (isPart : Char → Bool) : WrittenName → Prop
  | bare name => name ≠ [] ∧ ∀ c ∈ name, isPart c = true
  | quoted name => name ≠ [] ∧ '"' ∉ name

theorem Fits.text_ne_nil {isPart : Char → Bool} {n : WrittenName} (h : n.Fits isPart) :
    n.text ≠ [] := by
  cases n with
  | bare name => exact h.1
  | quoted name => exact List.cons_ne_nil _ _

theorem Valid.fits {n : WrittenName} (h : n.Valid) {isPart : Char → Bool}
    (hpart : ∀ c, isBareChar c = true → isPart c = true) : n.Fits isPart := by
  cases n with
  | bare name => exact ⟨h.1, fun c hc => hpart c (h.2 c hc)⟩
  | quoted name => exact h

/-- What is written with the characters of bare names is a name to the scanners. -/
theorem Valid.fits_nameChar {n : WrittenName} (h : n.Valid) : n.Fits isNameChar :=
  h.fits fun _ => isNameChar_of_isBareChar

/-- It is a name to the rule for names too. -/
theorem Valid.fits_word {n : WrittenName} (h : n.Valid) : n.Fits isWord :=
  h.fits fun _ => isWord_of_isBareChar

/-- A written name starts with a quote or with one of its characters. -/
theorem Fits.exists_cons {isPart : Char → Bool} {n : WrittenName} (h : n.Fits isPart) :
    ∃ c cs, n.text = c :: cs ∧ (c = '"' ∨ isPart c = true) := by
  cases n with
  | bare name =>
    obtain ⟨c, cs, rfl⟩ := List.exists_cons_of_ne_nil h.1
    exact ⟨c, cs, rfl, .inr (h.2 c List.mem_cons_self)⟩
  | quoted name => exact ⟨'"', name ++ ['"'], rfl, .inl rfl⟩

/-- It ends with a quote or with one of its characters. -/
theorem Fits.exists_concat {isPart : Char → Bool} {n : WrittenName} (h : n.Fits isPart) :
    ∃ cs c, n.text = cs ++ [c] ∧ (c = '"' ∨ isPart c = true) := by
  cases n with
  | bare name =>
    refine ⟨name.dropLast, name.getLast h.1, ?_, .inr (h.2 _ (List.getLast_mem h.1))⟩
    exact (List.dropLast_append_getLast h.1).symm
  | quoted name => exact ⟨'"' :: name, '"', rfl, .inl rfl⟩

/-- A written name does not start like a search, nor like the root. -/
theorem Valid.exists_cons {n : WrittenName} (h : n.Valid) :
    ∃ c cs, n.text = c :: cs ∧ c ≠ '.' ∧ c ≠ '$' := by
  obtain ⟨c, cs, htext, hc⟩ := (h.fits fun _ hc => hc).exists_cons
  exact ⟨c, cs, htext, ne_of_quote_or hc (by decide) (by decide),
    ne_of_quote_or hc (by decide) (by decide)⟩

theorem Valid.text_ne_nil {n : WrittenName} (h : n.Valid) : n.text ≠ [] := by
  obtain ⟨c, cs, heq, -⟩ := h.exists_cons
  rw [heq]
  exact List.cons_ne_nil c cs

/-- The first name of a text is as long as it is written. -/
theorem nameLength_text {isPart : Char → Bool} (hmark : isPart '"' = false) {n : WrittenName}
    (h : n.Fits isPart) {rest : List Char} (hrest : Ends isPart rest) :
    nameLength isPart (n.text ++ rest) = n.text.length := by
  cases n with
  | bare name =>
    obtain ⟨c, cs, rfl⟩ := List.exists_cons_of_ne_nil h.1
    have hquote : c ≠ '"' := ne_of_holds (h.2 c List.mem_cons_self) hmark
    rw [text, List.cons_append, nameLength_of_ne_quote hquote, ← List.cons_append,
      takeWhile_append_of_ends h.2 hrest]
  | quoted name =>
    -- the closing quote is the next one, and is there
    have hbody : (name ++ '"' :: rest).takeWhile (· != '"') = name := by
      refine takeWhile_append_of_ends (fun d hd => ?_) (ends_cons (by decide) rest)
      exact bne_iff_ne.mpr fun he => h.2 (he ▸ hd)
    have hempty : name.isEmpty = false := by
      rw [List.isEmpty_eq_false_iff]
      exact h.1
    have hclosed : (name.length == (name ++ '"' :: rest).length) = false := by simp
    have htext : (quoted name).text ++ rest = '"' :: (name ++ '"' :: rest) := by simp [text]
    rw [htext, nameLength]
    simp only [hbody, hempty, hclosed, Bool.or_self, Bool.false_eq_true, if_false]
    simp [text]

theorem scanName_text {n : WrittenName} (h : n.Fits isNameChar) {rest : List Char}
    (hrest : Ends isNameChar rest) : scanName (n.text ++ rest) = n.text.length :=
  nameLength_text isNameChar_quote h hrest

/-- Taking the quotes away leaves the name. -/
theorem unquote_text {n : WrittenName} (h : n.Fits isWord) : unquote n.text = n.name := by
  cases n with
  | bare name =>
    obtain ⟨c, cs, rfl⟩ := List.exists_cons_of_ne_nil h.1
    have hquote : c ≠ '"' := ne_of_holds (h.2 c List.mem_cons_self) isWord_quote
    simp [text, unquote, stripEnds?, hquote, WrittenName.name]
  | quoted name => simp [text, unquote, stripEnds?, WrittenName.name]

/-- Up to its first dot a name is not longer than it is written. -/
theorem length_takeWhile_dot_le {n : WrittenName} {rest : List Char}
    (hrest : Ends (· != '.') rest) :
    ((n.text ++ rest).takeWhile (· != '.')).length ≤ n.text.length := by
  -- what follows the name starts with a dot, if there is anything, so the run ends there at last
  have hcut : (n.text ++ rest).takeWhile (· != '.') = n.text.takeWhile (· != '.') := by
    rw [List.takeWhile_append]
    split
    · next hall =>
      have hwhole : n.text.takeWhile (· != '.') = n.text :=
        (List.takeWhile_sublist _).eq_of_length hall
      rw [takeWhile_of_ends hrest, List.append_nil, hwhole]
    · rfl
  rw [hcut]
  exact (List.takeWhile_sublist _).length_le

end WrittenName

/-! ## Rows of names -/

/-- No name starts at a mark that is neither a quote nor a word character. -/
theorem isNames_of_not_word {c : Char} (hquote : c ≠ '"') (hword : isWord c = false)
    (cs : List Char) : isNames (c :: cs) = false := by
  have hlength : nameLength isWord (c :: cs) = 0 := by
    rw [nameLength_of_ne_quote hquote, List.takeWhile_cons_of_neg (by simp [hword]),
      List.length_nil]
  rw [isNames]
  simp only [hlength, if_true]

theorem isNames_of_drop_eq_nil {cs : List Char} (hpos : nameLength isWord cs ≠ 0)
    (h : cs.drop (nameLength isWord cs) = []) : isNames cs = true := by
  rw [isNames]
  simp only [if_neg hpos]
  split
  · rfl
  · next heq => rw [h] at heq; exact absurd heq.symm (List.cons_ne_nil _ _)

theorem isNames_of_drop_eq_cons {cs rest : List Char} {c : Char}
    (hpos : nameLength isWord cs ≠ 0) (h : cs.drop (nameLength isWord cs) = c :: rest) :
    isNames cs = (c == '.' && isNames rest) := by
  rw [isNames]
  simp only [if_neg hpos]
  split
  · next heq => rw [h] at heq; exact absurd heq (List.cons_ne_nil c rest)
  · next heq =>
    rw [h] at heq
    obtain ⟨rfl, rfl⟩ := List.cons.inj heq
    rfl

theorem splitNames_of_drop_eq_dot {cs rest : List Char}
    (h : cs.drop (firstNameLength cs) = '.' :: rest) :
    splitNames cs = String.ofList (unquote (cs.take (firstNameLength cs))) :: splitNames rest := by
  rw [splitNames]
  split
  · next heq =>
    rw [h] at heq
    obtain ⟨-, rfl⟩ := List.cons.inj heq
    rfl
  · next hne => exact absurd h (hne rest)

theorem splitNames_of_drop_ne_dot {cs : List Char}
    (h : ∀ rest, cs.drop (firstNameLength cs) ≠ '.' :: rest) :
    splitNames cs = [String.ofList (unquote (cs.take (firstNameLength cs)))] := by
  rw [splitNames]
  split
  · next rest heq => exact absurd heq (h rest)
  · rfl

/-- More names, each behind a dot. -/
def dotted (names : List WrittenName) : List Char := names.flatMap fun n => '.' :: n.text

theorem dotted_cons (n : WrittenName) (names : List WrittenName) :
    dotted (n :: names) = '.' :: (n.text ++ dotted names) := rfl

/-- A row of names is joined by dots. -/
theorem join_text (n : WrittenName) (names : List WrittenName) :
    join ['.'] ((n :: names).map WrittenName.text) = n.text ++ dotted names := by
  rw [List.map_cons, join_cons, List.flatMap_map]
  rfl

/-- Names are followed by a dot, or by what ends the row. -/
theorem ends_dotted_append {p : Char → Bool} (hdot : p '.' = false) (names : List WrittenName)
    {rest : List Char} (hrest : Ends p rest) : Ends p (dotted names ++ rest) := by
  cases names with
  | nil => exact hrest
  | cons n names => exact ends_cons hdot _

theorem ends_dotted {p : Char → Bool} (hdot : p '.' = false) (names : List WrittenName) :
    Ends p (dotted names) := by
  have hends := ends_dotted_append hdot names (ends_nil p)
  rwa [List.append_nil] at hends

section Rows

variable {n : WrittenName} {names : List WrittenName} {rest : List Char}

theorem scanMoreNames_dotted (h : ∀ m ∈ names, m.Fits isNameChar) (hrest : Ends isNameChar rest) :
    scanMoreNames (dotted names ++ rest) = (dotted names).length + scanMoreNames rest := by
  -- on the names: each of them ends where the dot of the next one stands
  induction names with
  | nil => simp [dotted]
  | cons m names ih =>
    have hm : m.Fits isNameChar := h m List.mem_cons_self
    have hname : scanName (m.text ++ (dotted names ++ rest)) = m.text.length :=
      WrittenName.scanName_text hm (ends_dotted_append isNameChar_dot _ hrest)
    have hpos : ¬m.text.length = 0 := by simp [hm.text_ne_nil]
    rw [dotted_cons, List.cons_append, List.append_assoc, scanMoreNames]
    simp only [hname, if_neg hpos, List.drop_left, ih fun k hk => h k (List.mem_cons_of_mem m hk),
      List.length_cons, List.length_append]
    omega

/-- Dotted names are scanned up to where no further name follows. -/
theorem scanNames_joined (hn : n.Fits isNameChar) (h : ∀ m ∈ names, m.Fits isNameChar)
    (hrest : Ends isNameChar rest) (hmore : scanMoreNames rest = 0) :
    scanNames (n.text ++ (dotted names ++ rest)) = (n.text ++ dotted names).length := by
  have hname : scanName (n.text ++ (dotted names ++ rest)) = n.text.length :=
    WrittenName.scanName_text hn (ends_dotted_append isNameChar_dot _ hrest)
  have hpos : ¬n.text.length = 0 := by simp [hn.text_ne_nil]
  simp only [scanNames, hname, if_neg hpos, List.drop_left, scanMoreNames_dotted h hrest, hmore,
    List.length_append, Nat.add_zero]

/-- The rule for names fits them. -/
theorem isNames_joined (hn : n.Fits isWord) (h : ∀ m ∈ names, m.Fits isWord) :
    isNames (n.text ++ dotted names) = true := by
  induction names generalizing n with
  | nil =>
    have hlength : nameLength isWord (n.text ++ dotted []) = n.text.length :=
      WrittenName.nameLength_text isWord_quote hn (ends_nil isWord)
    have hpos : nameLength isWord (n.text ++ dotted []) ≠ 0 := by
      simp only [hlength, ne_eq, List.length_eq_zero_iff, hn.text_ne_nil, not_false_eq_true]
    exact isNames_of_drop_eq_nil hpos (by rw [hlength, List.drop_left]; rfl)
  | cons m names ih =>
    have hlength : nameLength isWord (n.text ++ dotted (m :: names)) = n.text.length :=
      WrittenName.nameLength_text isWord_quote hn (ends_cons isWord_dot _)
    have hpos : nameLength isWord (n.text ++ dotted (m :: names)) ≠ 0 := by
      simp only [hlength, ne_eq, List.length_eq_zero_iff, hn.text_ne_nil, not_false_eq_true]
    have hrest := ih (h m List.mem_cons_self) fun k hk => h k (List.mem_cons_of_mem m hk)
    rw [isNames_of_drop_eq_cons hpos (by rw [hlength, List.drop_left, dotted_cons]), hrest]
    rfl

/-- A bare name goes up to the next dot, and a quoted one up to its closing quote. -/
theorem firstNameLength_joined (hn : n.Fits isWord) :
    firstNameLength (n.text ++ dotted names) = n.text.length := by
  rw [firstNameLength]
  cases n with
  | bare name =>
    obtain ⟨c, cs, rfl⟩ := List.exists_cons_of_ne_nil hn.1
    have hquote : c ≠ '"' := ne_of_holds (hn.2 c List.mem_cons_self) isWord_quote
    have hdot : ((c :: cs) ++ dotted names).takeWhile (· != '.') = c :: cs := by
      refine takeWhile_append_of_ends (fun d hd => ?_) (ends_dotted (by decide) names)
      exact bne_iff_ne.mpr (ne_of_holds (hn.2 d hd) isWord_dot)
    -- the scanner may stop before the dot, but does not pass it
    have hscan : scanName ((c :: cs) ++ dotted names) ≤
        (((c :: cs) ++ dotted names).takeWhile (· != '.')).length := by
      rw [List.cons_append, scanName, nameLength_of_ne_quote hquote]
      exact length_takeWhile_le (fun d hd => bne_iff_ne.mpr (ne_of_holds hd isNameChar_dot)) _
    rw [WrittenName.text, max_eq_right hscan, hdot]
  | quoted name =>
    have hquoted : (WrittenName.quoted name).Fits isNameChar := hn
    have hname : scanName ((WrittenName.quoted name).text ++ dotted names) =
        (WrittenName.quoted name).text.length :=
      WrittenName.scanName_text hquoted (ends_dotted isNameChar_dot names)
    rw [hname]
    exact max_eq_left (WrittenName.length_takeWhile_dot_le (ends_dotted (by decide) names))

theorem take_firstNameLength_joined (hn : n.Fits isWord) :
    (n.text ++ dotted names).take (firstNameLength (n.text ++ dotted names)) = n.text := by
  rw [firstNameLength_joined hn, List.take_left]

theorem drop_firstNameLength_joined (hn : n.Fits isWord) :
    (n.text ++ dotted names).drop (firstNameLength (n.text ++ dotted names)) = dotted names := by
  rw [firstNameLength_joined hn, List.drop_left]

/-- Reading a row of names gives the names back. -/
theorem splitNames_joined (hn : n.Fits isWord) (h : ∀ m ∈ names, m.Fits isWord) :
    splitNames (n.text ++ dotted names) =
      (n :: names).map fun m => String.ofList m.name := by
  induction names generalizing n with
  | nil =>
    have hlast : ∀ rest, dotted [] ≠ '.' :: rest := fun _ => (List.cons_ne_nil _ _).symm
    rw [splitNames_of_drop_ne_dot (by rw [drop_firstNameLength_joined hn]; exact hlast),
      take_firstNameLength_joined hn, WrittenName.unquote_text hn]
    rfl
  | cons m names ih =>
    have hrest := ih (h m List.mem_cons_self) fun k hk => h k (List.mem_cons_of_mem m hk)
    rw [splitNames_of_drop_eq_dot (by rw [drop_firstNameLength_joined hn, dotted_cons]),
      take_firstNameLength_joined hn, WrittenName.unquote_text hn, hrest]
    rfl

end Rows

end DocQuery.Path
