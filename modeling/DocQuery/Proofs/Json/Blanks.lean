import Mathlib
import DocQuery.Json.Lexeme
import DocQuery.Json.Printer
import DocQuery.Proofs.Decimal.RoundTrip

/-!
# Blanks in Printed Trees

Printed with one item a line, a tree has line breaks and indentation that are not there when it is
printed on one line.  This is the only difference: without the blanks outside strings the two
texts are the same.

What counts as outside is decided by a scan of three places: outside strings, inside one, and
behind a backslash in one.  Every part of a printed tree brings the scan back to where it was, so
the parts can be looked at one by one.

## Main definitions

- `Place`, `withoutBlanks`: the scan, and the text that it leaves
- `Scans`: what a piece of text becomes, and where the scan stands behind it

## Main statements

- `scans_print`: a tree that is printed with one item a line
- `withoutBlanks_print`: without its blanks it is printed on one line
-/

namespace DocQuery.Json

open DocQuery.Decimal DocQuery.Text

/-! ## The scan -/

/-- Where a scan stands in a JSON text. -/
inductive Place where
  /-- Outside all strings -/
  | outside
  /-- Inside a string -/
  | inside
  /-- Inside a string, behind a backslash -/
  | escaped
deriving DecidableEq

/-- Where the scan stands behind one more character. -/
def Place.next : Place → Char → Place
  | outside, c => if c = '"' then inside else outside
  | inside, c => if c = '"' then outside else if c = '\\' then escaped else inside
  | escaped, _ => inside

/-- A text without the blanks that stand outside strings. -/
def withoutBlanks : Place → List Char → List Char
  | _, [] => []
  | p, c :: cs =>
    if p = .outside ∧ isBlank c then withoutBlanks p cs else c :: withoutBlanks (p.next c) cs

/-- From the place `p` the scan goes through the text `cs` to the place `q`, and leaves `ds` of it,
whatever follows. -/
def Scans (p : Place) (cs ds : List Char) (q : Place) : Prop :=
  ∀ rest, withoutBlanks p (cs ++ rest) = ds ++ withoutBlanks q rest

variable {p q r : Place} {c : Char} {cs ds es fs : List Char}

theorem Scans.nil (p : Place) : Scans p [] [] p := fun _ => rfl

theorem Scans.append (h : Scans p cs ds q) (h' : Scans q es fs r) :
    Scans p (cs ++ es) (ds ++ fs) r := by
  intro rest
  rw [List.append_assoc, h, h', List.append_assoc]

/-- A character that is no blank outside strings stays. -/
theorem scans_char (h : p = .outside → isBlank c = false) : Scans p [c] [c] (p.next c) := by
  intro rest
  have hkeep : ¬(p = .outside ∧ isBlank c = true) := by
    rintro ⟨hp, hc⟩
    rw [h hp] at hc
    cases hc
  rw [List.singleton_append, withoutBlanks, if_neg hkeep, List.singleton_append]

theorem scans_blank (h : isBlank c = true) : Scans .outside [c] [] .outside := by
  intro rest
  rw [List.singleton_append, withoutBlanks, if_pos ⟨rfl, h⟩, List.nil_append]

/-- A text that is gone through character by character. -/
theorem scans_of_forall (h : ∀ c ∈ cs, Scans p [c] [c] p) : Scans p cs cs p := by
  induction cs with
  | nil => exact .nil p
  | cons c cs ih =>
    have hrest := ih fun d hd => h d (List.mem_cons_of_mem c hd)
    exact (h c List.mem_cons_self).append hrest

/-! ## Leaves -/

/-- Neither a quote nor a blank. -/
def IsPlain (c : Char) : Prop := c ≠ '"' ∧ isBlank c = false

theorem scans_plain (h : ∀ c ∈ cs, IsPlain c) : Scans .outside cs cs .outside := by
  refine scans_of_forall fun c hc => ?_
  have hnext : Place.outside.next c = .outside := if_neg (h c hc).1
  have hchar := scans_char (p := .outside) fun _ => (h c hc).2
  rwa [hnext] at hchar

theorem scans_inside (h : ∀ c ∈ cs, c ≠ '"' ∧ c ≠ '\\') : Scans .inside cs cs .inside := by
  refine scans_of_forall fun c hc => ?_
  have hnext : Place.inside.next c = .inside := by
    rw [Place.next, if_neg (h c hc).1, if_neg (h c hc).2]
  have hchar := scans_char (p := .inside) (c := c) nofun
  rwa [hnext] at hchar

/-- Behind a backslash any character is part of the string. -/
theorem scans_escape (c : Char) : Scans .inside ['\\', c] ['\\', c] .inside :=
  (scans_char (p := .inside) (c := '\\') nofun).append (scans_char (p := .escaped) nofun)

theorem exists_digitChar {b n : Nat} {c : Char} (hb : 0 < b) (h : c ∈ Nat.toDigits b n) :
    ∃ d < b, c = Nat.digitChar d := by
  -- on the fuel of the conversion; the digits found so far are kept behind the next one
  have hcore : ∀ fuel n ds, (∀ c ∈ ds, ∃ d < b, c = Nat.digitChar d) →
      ∀ c ∈ Nat.toDigitsCore b fuel n ds, ∃ d < b, c = Nat.digitChar d := by
    intro fuel
    induction fuel with
    | zero => exact fun n ds hds => hds
    | succ fuel ih =>
      intro n ds hds
      have hcons : ∀ c ∈ Nat.digitChar (n % b) :: ds, ∃ d < b, c = Nat.digitChar d :=
        List.forall_mem_cons.mpr ⟨⟨_, Nat.mod_lt n hb, rfl⟩, hds⟩
      rw [Nat.toDigitsCore]
      split
      · exact hcons
      · exact ih _ _ hcons
  exact hcore (n + 1) n [] (fun c hc => absurd hc List.not_mem_nil) c h

theorem ne_of_mem_hex4 {n : Nat} (h : c ∈ hex4 n) : c ≠ '"' ∧ c ≠ '\\' := by
  rcases List.mem_append.mp h with hzero | hdigit
  · rw [List.eq_of_mem_replicate hzero]
    decide
  · obtain ⟨d, hd, rfl⟩ := exists_digitChar (by decide) hdigit
    interval_cases d <;> decide

/-- One character of a string leaves the scan inside the string. -/
theorem scans_canonical_char (c : Char) :
    Scans .inside (Spelling.canonical.char c) (Spelling.canonical.char c) .inside := by
  change Scans .inside ((shortEscape? c).getD _) ((shortEscape? c).getD _) .inside
  unfold shortEscape?
  split
  case h_6 _ hquote hbackslash _ _ _ =>
    rw [Option.getD_none]
    split
    · -- the digits behind the backslash and the letter are no quotes
      exact (scans_escape 'u').append (scans_inside fun d hd => ne_of_mem_hex4 hd)
    · refine scans_inside fun d hd => ?_
      rw [List.mem_singleton.mp hd]
      exact ⟨hquote, hbackslash⟩
  all_goals exact scans_escape _

theorem scans_canonical_string (s : String) :
    Scans .outside (Spelling.canonical.string s) (Spelling.canonical.string s) .outside := by
  have hbody : Scans .inside (s.toList.flatMap Spelling.canonical.char)
      (s.toList.flatMap Spelling.canonical.char) .inside := by
    generalize s.toList = cs
    induction cs with
    | nil => exact .nil _
    | cons c cs ih => exact (scans_canonical_char c).append ih
  have hopen : Scans .outside ['"'] ['"'] .inside := scans_char fun _ => rfl
  have hclose : Scans .inside ['"'] ['"'] .outside := scans_char fun _ => rfl
  exact hopen.append (hbody.append hclose)

theorem isPlain_of_isDigit (h : c.isDigit = true) : IsPlain c := by
  have hne : ∀ d : Char, d.isDigit = false → c ≠ d := by
    rintro d hd rfl
    rw [hd] at h
    cases h
  refine ⟨hne _ (by decide), ?_⟩
  simp [isBlank, hne ' ' (by decide), hne '\n' (by decide), hne '\t' (by decide),
    hne '\r' (by decide)]

theorem scans_integer (n : Int) :
    Scans .outside (Spelling.integer n) (Spelling.integer n) .outside := by
  refine scans_plain fun c hc => ?_
  rcases mem_intText hc with rfl | hdigit
  · exact ⟨by decide, by decide⟩
  · exact isPlain_of_isDigit hdigit

theorem isPlain_positionalText (x : Float) (h : c ∈ Layout.positional.text x) : IsPlain c := by
  -- digits and a point, or a zero; in front of them there may be a minus
  have hmagnitude : ∀ m, ∀ c ∈ Layout.positional.magnitudeText m, IsPlain c := by
    intro m c hc
    unfold Layout.magnitudeText at hc
    split at hc
    · rw [List.mem_singleton.mp hc]
      exact ⟨by decide, by decide⟩
    · obtain ⟨whole, fraction, htext, hfixed, -⟩ := exists_positionalText (shortest .larger m)
      change c ∈ Layout.positional.positionalText (shortest .larger m) at hc
      rw [htext] at hc
      rcases mem_fixedText hfixed hc with rfl | hdigit
      · exact ⟨by decide, by decide⟩
      · exact isPlain_of_isDigit hdigit
  have hminus : ∀ {cs}, (∀ c ∈ cs, IsPlain c) → ∀ c ∈ '-' :: cs, IsPlain c := fun hcs =>
    List.forall_mem_cons.mpr ⟨⟨by decide, by decide⟩, hcs⟩
  have hinfinity : ∀ c ∈ Layout.positional.infinity, IsPlain c := by
    simp [Layout.positional, IsPlain, isBlank]
  have hview : ∀ view, ∀ c ∈ Layout.positional.viewText view, IsPlain c := by
    intro view
    cases view with
    | nan => simp [Layout.viewText, Layout.positional, IsPlain, isBlank]
    | infinite negative =>
      cases negative with
      | false => exact hinfinity
      | true => exact hminus hinfinity
    | finite negative m =>
      cases negative with
      | false => exact hmagnitude m
      | true => exact hminus (hmagnitude m)
  exact hview _ c h

theorem scans_number (n : Number) :
    Scans .outside (n.print .canonical) (n.print .canonical) .outside := by
  cases n with
  | integer n => exact scans_integer n
  | float x =>
    change Scans .outside (Spelling.canonical.number x) (Spelling.canonical.number x) .outside
    unfold Spelling.number
    split
    · exact scans_plain fun c hc => isPlain_positionalText x hc
    · exact scans_plain (by simp [IsPlain, isBlank])

/-! ## Arrays and objects -/

theorem scans_indent (level : Nat) : Scans .outside (Style.indent level) [] .outside := by
  unfold Style.indent
  induction 2 * level with
  | zero => exact .nil _
  | succ n ih => exact (scans_blank (c := ' ') rfl).append ih

/-- Parts that are put on lines of their own become the same parts, one behind the other. -/
theorem scans_join (level : Nat) {parts : List (List Char)} {lines : List (List Char)}
    (h : List.Forall₂ (fun cs ds => Scans .outside cs ds .outside) lines parts) :
    Scans .outside (join [',', '\n'] (lines.map (Style.indent level ++ ·))) (join [','] parts)
      .outside := by
  induction h with
  | nil => exact .nil _
  | @cons line part lines parts hline hrest ih =>
    have hindented := (scans_indent level).append hline
    cases hrest with
    | nil => exact hindented
    | cons _ _ =>
      have hcomma : Scans .outside [',', '\n'] [','] .outside :=
        (scans_char (c := ',') fun _ => rfl).append (scans_blank rfl)
      exact (hindented.append hcomma).append ih

theorem scans_block (level other : Nat) {first last : Char} {parts lines : List (List Char)}
    (hfirst : IsPlain first) (hlast : IsPlain last)
    (h : List.Forall₂ (fun cs ds => Scans .outside cs ds .outside) lines parts) :
    Scans .outside (Style.indented.block level first last lines)
      (Style.compact.block other first last parts) .outside := by
  have hbracket : ∀ {c}, IsPlain c → Scans .outside [c] [c] .outside := fun hc =>
    scans_plain (by simpa using hc)
  cases h with
  | nil => exact (hbracket hfirst).append (hbracket hlast)
  | cons hline hrest =>
    have hlines := scans_join (level + 1) (.cons hline hrest)
    have hbreak : Scans .outside ['\n'] [] .outside := scans_blank rfl
    have hend := hbreak.append ((scans_indent level).append (hbracket hlast))
    exact (hbracket hfirst).append (hbreak.append (hlines.append hend))

/-! ## Trees -/

mutual

/-- The blanks of a tree that is printed with one item a line are all there is between its text
and the one on one line. -/
theorem scans_print (t : Tree) (level other : Nat) :
    Scans .outside (t.print .canonical .indented level) (t.print .canonical .compact other)
      .outside := by
  cases t with
  | null =>
    have hplain : ∀ c ∈ Spelling.null, IsPlain c := by simp [Spelling.null, IsPlain, isBlank]
    exact scans_plain hplain
  | bool b =>
    have hplain : ∀ c ∈ Spelling.bool b, IsPlain c := by
      cases b <;> simp [Spelling.bool, IsPlain, isBlank]
    exact scans_plain hplain
  | number n => exact scans_number n
  | string s => exact scans_canonical_string s
  | array items =>
    exact scans_block level other ⟨by decide, by decide⟩ ⟨by decide, by decide⟩
      (scans_printItems items (level + 1) (other + 1))
  | object members =>
    exact scans_block level other ⟨by decide, by decide⟩ ⟨by decide, by decide⟩
      (scans_printMembers members (level + 1) (other + 1))

theorem scans_printItems (items : List Tree) (level other : Nat) :
    List.Forall₂ (fun cs ds => Scans .outside cs ds .outside)
      (Tree.printItems .canonical .indented level items)
      (Tree.printItems .canonical .compact other items) := by
  cases items with
  | nil => exact .nil
  | cons t ts => exact .cons (scans_print t level other) (scans_printItems ts level other)

theorem scans_printMembers (members : List (String × Tree)) (level other : Nat) :
    List.Forall₂ (fun cs ds => Scans .outside cs ds .outside)
      (Tree.printMembers .canonical .indented level members)
      (Tree.printMembers .canonical .compact other members) := by
  match members with
  | [] => exact .nil
  | (name, t) :: ms =>
    have hcolon : Scans .outside [':', ' '] [':'] .outside :=
      (scans_char (c := ':') fun _ => rfl).append (scans_blank rfl)
    have hname := (scans_canonical_string name).append hcolon
    exact .cons (hname.append (scans_print t level other)) (scans_printMembers ms level other)

end

/-- Without its blanks a tree that is printed with one item a line is printed on one line. -/
theorem withoutBlanks_print (t : Tree) :
    withoutBlanks .outside (t.print .canonical .indented 0) = t.print .canonical .compact 0 := by
  have hscan := scans_print t 0 0 []
  simpa [withoutBlanks] using hscan

end DocQuery.Json
