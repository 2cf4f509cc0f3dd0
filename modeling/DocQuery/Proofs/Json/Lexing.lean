import Mathlib
import DocQuery.Json.Lexeme
import DocQuery.Json.Printer

/-!
# Lexemes of Printed Text

The text of a string, of a whole number or of a word is read back as one lexeme, whatever follows
it.  Only a number has to be followed by something that does not go on with it.  Brackets, commas
and colons are lexemes of their own, and blanks are none.

## Main definitions

- `Ends`: what may follow a number
- `Lexes`: a piece of text and the lexemes that it is read as

## Main statements

- `readString_canonical`: the characters of a string
- `read?_intText`: the digits of a whole number
- `lexes_block`: an array or an object, in both styles
-/

namespace DocQuery.Json

open DocQuery.Decimal DocQuery.Text

/-! ## Strings -/

/-- What follows an escape of four digits is left over. -/
theorem readEscape?_append {cs left : List Char} {n : Nat} (hread : readEscape? cs = some (n, left))
    (rest : List Char) : readEscape? (cs ++ rest) = some (n, left ++ rest) := by
  unfold readEscape? at hread
  split at hread
  · obtain ⟨m, hdigits, hm⟩ := Option.map_eq_some_iff.mp hread
    obtain ⟨rfl, rfl⟩ := Prod.mk.inj hm
    simp [readEscape?, hdigits]
  · cases hread

/-- The numbers that are written with an escape are read back. -/
theorem readEscape?_escapeNumber {c : Char} (hc : c.toNat < 160) (rest : List Char) :
    readEscape? (escapeNumber c ++ rest) = some (c.toNat, rest) := by
  have hdigits : ∀ n < 160, readEscape? ('\\' :: 'u' :: hex4 n) = some (n, []) := by
    decide +kernel
  exact readEscape?_append (hdigits c.toNat hc) rest

theorem readNumbered?_escapeNumber {c : Char} (hc : c.toNat < 160) (rest : List Char) :
    readNumbered? (escapeNumber c ++ rest) = some (c, rest) := by
  have hlow : isLowSurrogate c.toNat = false := by
    simp only [isLowSurrogate, Bool.and_eq_false_iff, decide_eq_false_iff_not]
    omega
  have hhigh : isHighSurrogate c.toNat = false := by
    simp only [isHighSurrogate, Bool.and_eq_false_iff, decide_eq_false_iff_not]
    omega
  rw [readNumbered?, readEscape?_escapeNumber hc]
  simp [hlow, hhigh, Char.ofNat_toNat]

/-- One character of a string, however it is spelled. -/
theorem readChar?_canonical (c : Char) (rest : List Char) :
    readChar? (Spelling.canonical.char c ++ rest) = some (c, rest) := by
  change readChar? ((shortEscape? c).getD _ ++ rest) = some (c, rest)
  unfold shortEscape?
  split
  case h_6 _ hbackslash _ _ _ =>
    rw [Option.getD_none]
    split
    · next hcontrol =>
      have hc : c.toNat < 160 := by
        simp only [isControl, Bool.or_eq_true, Bool.and_eq_true, decide_eq_true_eq] at hcontrol
        omega
      exact readNumbered?_escapeNumber hc rest
    · next hcontrol =>
      have hc : 32 ≤ c.toNat := by
        simp only [isControl, Bool.or_eq_true, Bool.and_eq_true, decide_eq_true_eq] at hcontrol
        omega
      rw [List.singleton_append]
      unfold readChar?
      split
      · next h => cases h
      · next h => exact absurd (List.cons.inj h).1 hbackslash
      · next h => exact absurd (List.cons.inj h).1 hbackslash
      · next h =>
        obtain ⟨rfl, rfl⟩ := List.cons.inj h
        rw [if_neg]
        rintro (hlt | heq)
        · omega
        · exact hbackslash heq
  all_goals rfl

/-- No character of a string is spelled with a quote at the front. -/
theorem canonical_char_ne_quote (c : Char) (rest cs : List Char) :
    Spelling.canonical.char c ++ rest ≠ '"' :: cs := by
  change (shortEscape? c).getD _ ++ rest ≠ '"' :: cs
  unfold shortEscape?
  split
  case h_6 hquote _ _ _ _ =>
    rw [Option.getD_none]
    split
    · nofun
    · rintro h
      exact hquote (List.cons.inj h).1
  all_goals nofun

/-- The characters of a string are read up to the closing quote. -/
theorem readString_canonical (cs rest : List Char) :
    readString (cs.flatMap Spelling.canonical.char ++ '"' :: rest) = some (cs, rest) := by
  induction cs with
  | nil => rw [List.flatMap_nil, List.nil_append, readString]
  | cons c cs ih =>
    rw [List.flatMap_cons, List.append_assoc]
    generalize htail : cs.flatMap Spelling.canonical.char ++ '"' :: rest = tail at ih
    have hread := readChar?_canonical c tail
    have hquote := canonical_char_ne_quote c tail
    generalize Spelling.canonical.char c ++ tail = text at hread hquote
    unfold readString
    split
    · exact absurd rfl (hquote _)
    · split
      · next hnone =>
        rw [hread] at hnone
        cases hnone
      · next hsome =>
        rw [hread] at hsome
        obtain ⟨rfl, rfl⟩ := Prod.mk.inj (Option.some.inj hsome)
        rw [ih]

/-! ## Numbers -/

/-- A character that no number goes on with. -/
def EndsNumber (c : Char) : Prop := c.isDigit = false ∧ c ≠ '.' ∧ c ≠ 'e' ∧ c ≠ 'E'

/-- The text does not go on with a number. -/
def Ends (rest : List Char) : Prop := ∀ c ∈ rest.head?, EndsNumber c

theorem ends_nil : Ends [] := nofun

theorem ends_cons {c : Char} (hc : EndsNumber c) (rest : List Char) : Ends (c :: rest) := by
  rintro d ⟨⟩
  exact hc

/-- The digits of a number other than zero do not begin with a zero. -/
theorem head?_natText {n : Nat} (hn : 0 < n) : (natText n).head? ≠ some '0' := by
  induction n using Nat.strong_induction_on with
  | h n ih =>
    rw [natText]
    by_cases hlt : n < 10
    · rw [Nat.toDigits_of_lt_base hlt]
      interval_cases n <;> decide
    · have hne : Nat.toDigits 10 (n / 10) ≠ [] := Nat.toDigits_ne_nil
      rw [Nat.toDigits_of_base_le (by decide) (Nat.not_lt.mp hlt),
        List.head?_append_of_ne_nil _ hne]
      exact ih (n / 10) (by omega) (by omega)

namespace NumberLiteral

theorem digits?_append {ds rest : List Char} (hne : ds ≠ []) (hdigits : ∀ c ∈ ds, c.isDigit = true)
    (hends : Ends rest) : digits? (ds ++ rest) = some (ds, rest) := by
  have hrest : rest.takeWhile Char.isDigit = [] ∧ rest.dropWhile Char.isDigit = rest := by
    cases rest with
    | nil => exact ⟨rfl, rfl⟩
    | cons c cs => simp [(hends c rfl).1]
  rw [digits?, List.takeWhile_append_of_pos hdigits, List.dropWhile_append_of_pos hdigits, hrest.1,
    hrest.2, List.append_nil]
  simp [hne]

/-- The digits of a natural number. -/
theorem whole?_natText {rest : List Char} (hends : Ends rest) (n : Nat) :
    whole? (natText n ++ rest) = some (natText n, rest) := by
  have hread := digits?_append (Nat.toDigits_ne_nil : natText n ≠ [])
    (fun c hc => isDigit_of_mem_natText hc) hends
  unfold whole?
  split
  · next c cs heq =>
    rcases Nat.eq_zero_or_pos n with rfl | hpos
    · -- a zero alone, and what follows it is no digit
      obtain rfl : rest = c :: cs := (List.cons.inj heq).2
      rw [(hends c rfl).1]
      rfl
    · obtain ⟨d, ds, hdigits, -⟩ := exists_natText n
      have hzero : d = '0' := by
        rw [hdigits] at heq
        exact (List.cons.inj heq).1
      refine absurd ?_ (head?_natText hpos)
      rw [hdigits, hzero, List.head?_cons]
  · exact hread

theorem fraction?_of_ends {rest : List Char} (hends : Ends rest) :
    fraction? rest = some (none, rest) := by
  unfold fraction?
  split
  · exact absurd rfl (hends '.' rfl).2.1
  · rfl

theorem exponent?_of_ends {rest : List Char} (hends : Ends rest) :
    exponent? rest = some (none, rest) := by
  cases rest with
  | nil => rfl
  | cons c rest =>
    obtain ⟨-, -, he, hE⟩ := hends c rfl
    unfold exponent?
    dsimp only
    rw [if_neg (not_or.mpr ⟨he, hE⟩)]

/-- A whole number is read as its sign and its digits. -/
theorem read?_intText {rest : List Char} (hends : Ends rest) (n : Int) :
    read? (intText n ++ rest) = some (⟨decide (n < 0), natText n.natAbs, none, none⟩, rest) := by
  have hwhole := whole?_natText hends n.natAbs
  have hfraction := fraction?_of_ends hends
  have hexponent := exponent?_of_ends hends
  by_cases hneg : n < 0
  · have htext : intText n = '-' :: natText n.natAbs := if_pos hneg
    simp [read?, htext, hwhole, hfraction, hexponent, hneg]
  · have htext : intText n = natText n.natAbs := if_neg hneg
    obtain ⟨c, cs, hdigits, hdigit⟩ := exists_natText n.natAbs
    have hminus : c ≠ '-' := by
      rintro rfl
      cases hdigit
    rw [hdigits, List.cons_append] at hwhole
    simp [read?, htext, hdigits, hminus, hwhole, hfraction, hexponent, hneg]

/-- The digits of a whole number of 64 bits stand for it. -/
theorem value?_natText {n : Int} (hlow : -2 ^ 63 ≤ n) (hhigh : n < 2 ^ 64) :
    value? ⟨decide (n < 0), natText n.natAbs, none, none⟩ = some (.integer n) := by
  have hdigits : Nat.ofDigitChars 10 (natText n.natAbs) 0 = n.natAbs :=
    Nat.ofDigitChars_ten_toDigits
  have hsize : n.natAbs < UInt64.size := by
    simp only [UInt64.size]
    omega
  rw [value?]
  simp only [hdigits, hsize, decide_true, Option.isNone_none, Bool.and_self, if_true]
  by_cases hneg : n < 0
  · have hrange : ¬(n.natAbs = 0 ∨ UInt64.size / 2 < n.natAbs) := by
      simp only [UInt64.size]
      omega
    simp only [hneg, decide_true, Bool.not_true, Bool.false_eq_true, if_false, hrange]
    congr 2
    omega
  · simp only [hneg, decide_false, Bool.not_false, if_true]
    congr 2
    omega

end NumberLiteral

/-! ## Pieces of text -/

theorem lexemes?_eq (cs : List Char) :
    lexemes? cs = match cs.dropWhile isBlank with
      | [] => some []
      | c :: rest => (Lexeme.next? (c :: rest)).bind fun (l, left) =>
          (lexemes? left).map (l :: ·) := by
  rw [lexemes?]
  split
  · next heq => rw [heq]
  · next heq =>
    rw [heq]
    split
    · next hnone => simp only [hnone, Option.bind_none]
    · next hsome => simp only [hsome, Option.bind_some]

theorem lexemes?_blank {c : Char} (hblank : isBlank c = true) (cs : List Char) :
    lexemes? (c :: cs) = lexemes? cs := by
  rw [lexemes?_eq, List.dropWhile_cons_of_pos hblank, ← lexemes?_eq]

theorem lexemes?_of_next {cs rest : List Char} {c : Char} {l : Lexeme} (hblank : isBlank c = false)
    (hnext : Lexeme.next? (c :: cs) = some (l, rest)) :
    lexemes? (c :: cs) = (lexemes? rest).map (l :: ·) := by
  rw [lexemes?_eq, List.dropWhile_cons_of_neg (by simp [hblank])]
  simp only [hnext, Option.bind_some]

/-- The text is read as these lexemes, whatever follows that does not go on with a number. -/
def Lexes (cs : List Char) (ls : List Lexeme) : Prop :=
  ∀ rest, Ends rest → lexemes? (cs ++ rest) = (lexemes? rest).map (ls ++ ·)

/-- A character that is a lexeme by itself, and that ends a number. -/
structure IsMark (c : Char) (l : Lexeme) : Prop where
  blank : isBlank c = false
  ends : EndsNumber c
  next : ∀ rest, Lexeme.next? (c :: rest) = some (l, rest)

variable {c : Char} {l : Lexeme} {cs ds : List Char} {ls ms : List Lexeme}

theorem isMark_comma : IsMark ',' .comma := ⟨rfl, by simp [EndsNumber], fun _ => rfl⟩

theorem isMark_colon : IsMark ':' .colon := ⟨rfl, by simp [EndsNumber], fun _ => rfl⟩

theorem isMark_openArray : IsMark '[' .openArray := ⟨rfl, by simp [EndsNumber], fun _ => rfl⟩

theorem isMark_closeArray : IsMark ']' .closeArray := ⟨rfl, by simp [EndsNumber], fun _ => rfl⟩

theorem isMark_openObject : IsMark '\x7b' .openObject := ⟨rfl, by simp [EndsNumber], fun _ => rfl⟩

theorem isMark_closeObject : IsMark '\x7d' .closeObject := ⟨rfl, by simp [EndsNumber], fun _ => rfl⟩

namespace Lexes

theorem nil : Lexes [] [] := by
  intro rest _
  simp

theorem blanks {blanks : List Char} (hblanks : ∀ c ∈ blanks, isBlank c = true) (h : Lexes cs ls) :
    Lexes (blanks ++ cs) ls := by
  induction blanks with
  | nil => exact h
  | cons c blanks ih =>
    intro rest hends
    obtain ⟨hc, hrest⟩ := List.forall_mem_cons.mp hblanks
    rw [List.cons_append, List.cons_append, lexemes?_blank hc]
    exact ih hrest rest hends

theorem mark (hmark : IsMark c l) (h : Lexes cs ls) : Lexes (c :: cs) (l :: ls) := by
  intro rest hends
  rw [List.cons_append, lexemes?_of_next hmark.blank (hmark.next _), h rest hends, Option.map_map]
  rfl

/-- Two pieces one behind the other, where the second one does not go on with a number. -/
theorem append (h : Lexes cs ls) (hc : EndsNumber c) (h' : Lexes (c :: ds) ms) :
    Lexes (cs ++ c :: ds) (ls ++ ms) := by
  intro rest hends
  rw [List.append_assoc, h (c :: ds ++ rest) (ends_cons hc _), h' rest hends, Option.map_map]
  congr 1
  funext x
  exact (List.append_assoc ls ms x).symm

end Lexes

/-! ## Leaves -/

theorem lexes_null : Lexes Spelling.null [.null] :=
  fun _ _ => lexemes?_of_next (c := 'n') rfl rfl

theorem lexes_bool (b : Bool) : Lexes (Spelling.bool b) [.bool b] := by
  intro rest _
  cases b with
  | false => exact lexemes?_of_next (c := 'f') rfl rfl
  | true => exact lexemes?_of_next (c := 't') rfl rfl

theorem lexes_string (text : String) : Lexes (Spelling.canonical.string text) [.string text] := by
  intro rest _
  have hnext : Lexeme.next? ('"' :: (text.toList.flatMap Spelling.canonical.char ++ '"' :: rest)) =
      some (.string text, rest) := by
    show (readString (text.toList.flatMap Spelling.canonical.char ++ '"' :: rest)).map _ = _
    rw [readString_canonical]
    simp
  rw [Spelling.string, List.cons_append, List.append_assoc, List.singleton_append]
  exact lexemes?_of_next rfl hnext

theorem ne_of_mem_intText {n : Int} {d : Char} (hc : c ∈ intText n) (hminus : d ≠ '-')
    (hdigit : d.isDigit = false) : c ≠ d := by
  rintro rfl
  rcases mem_intText hc with heq | hdigit'
  · exact hminus heq
  · rw [hdigit] at hdigit'
    cases hdigit'

theorem lexes_integer {n : Int} (hlow : -2 ^ 63 ≤ n) (hhigh : n < 2 ^ 64) :
    Lexes (Spelling.integer n) [.number (.integer n)] := by
  intro rest hends
  have hread := NumberLiteral.read?_intText hends n
  have hvalue := NumberLiteral.value?_natText hlow hhigh
  obtain ⟨c, cs, heq⟩ := List.exists_cons_of_ne_nil (intText_ne_nil n)
  have hne : ∀ d : Char, d ≠ '-' → d.isDigit = false → c ≠ d := fun d =>
    ne_of_mem_intText (n := n) (heq ▸ List.mem_cons_self)
  rw [Spelling.integer]
  rw [heq, List.cons_append] at hread ⊢
  have hblank : isBlank c = false := by
    simp [isBlank, hne ' ' (by decide) (by decide), hne '\n' (by decide) (by decide),
      hne '\t' (by decide) (by decide), hne '\r' (by decide) (by decide)]
  refine lexemes?_of_next hblank ?_
  -- no other lexeme begins with a digit or a minus sign
  unfold Lexeme.next?
  split
  case h_11 => simp [hread, hvalue]
  all_goals next heq => exact absurd (List.cons.inj heq).1 (hne _ (by decide) (by decide))

/-! ## Arrays and objects -/

/-- The lexemes of parts with commas between them. -/
def separated : List (List Lexeme) → List Lexeme
  | [] => []
  | part :: parts => part ++ parts.flatMap (.comma :: ·)

/-- Parts with commas between them, and blanks behind each comma. -/
theorem lexes_join {blanks tail : List Char} {parts : List (List Char)} {lexs : List (List Lexeme)}
    (hblanks : ∀ c ∈ blanks, isBlank c = true) (h : List.Forall₂ Lexes parts lexs)
    (hc : EndsNumber c) (htail : Lexes (c :: tail) ms) :
    Lexes (join (',' :: blanks) parts ++ c :: tail) (separated lexs ++ ms) := by
  induction h with
  | nil => exact htail
  | @cons part ls parts lexs hpart hrest ih =>
    cases hrest with
    | nil =>
      rw [separated, List.flatMap_nil, List.append_nil]
      exact hpart.append hc htail
    | @cons next ls' parts lexs hnext hrest =>
      have hcomma := (ih.blanks hblanks).mark isMark_comma
      have hboth := hpart.append isMark_comma.ends hcomma
      rw [join_cons_cons]
      simpa [separated] using hboth

theorem isBlank_of_mem_indent {level : Nat} (hc : c ∈ Style.indent level) : isBlank c = true := by
  rw [List.eq_of_mem_replicate hc]
  rfl

/-- The parts of an array or an object between its brackets, in both styles. -/
theorem lexes_block (style : Style) (level : Nat) {first last : Char} {opening closing : Lexeme}
    (hfirst : IsMark first opening) (hlast : IsMark last closing) {parts : List (List Char)}
    {lexs : List (List Lexeme)} (h : List.Forall₂ Lexes parts lexs) :
    Lexes (style.block level first last parts) (opening :: (separated lexs ++ [closing])) := by
  have hclose : Lexes [last] [closing] := Lexes.nil.mark hlast
  unfold Style.block
  split
  · next hempty =>
    rw [List.isEmpty_iff] at hempty
    subst hempty
    cases h
    exact hclose.mark hfirst
  · cases style with
    | compact =>
      have hrow := lexes_join (fun _ hmem => absurd hmem List.not_mem_nil) h hlast.ends hclose
      exact hrow.mark hfirst
    | indented =>
      have hlines : List.Forall₂ Lexes (parts.map (Style.indent (level + 1) ++ ·)) lexs :=
        List.forall₂_map_left_iff.mpr (h.imp fun _ _ hpart =>
          hpart.blanks fun _ => isBlank_of_mem_indent)
      have hbreak : ∀ c ∈ ['\n'], isBlank c = true := by simp [isBlank]
      have htail : Lexes ('\n' :: (Style.indent level ++ [last])) [closing] :=
        (hclose.blanks fun _ => isBlank_of_mem_indent).blanks hbreak
      have hinner := lexes_join hbreak hlines (by simp [EndsNumber]) htail
      exact (hinner.blanks hbreak).mark hfirst

end DocQuery.Json
