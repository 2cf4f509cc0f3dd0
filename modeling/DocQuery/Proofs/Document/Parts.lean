import Mathlib
import DocQuery.Document.Condition
import DocQuery.Proofs.Path.Name

/-!
# The Part at the Front

A condition is cut into parts from the left, and each part is as long as possible.  Whether a part
stands at the front of a text therefore depends on a little of what follows: a word ends where no
word character is next, an equals sign would make a comparison longer, and a quote stands alone if
there is no other.  What a part needs of the text behind it is all that the cut depends on, so it is
said once and for all parts here.

## Main definitions

- `FrontPart`: what a part needs of the text behind it

## Main statements

- `FrontPart.parts_eq`, `exists_frontPart`: these are the parts that a condition is cut into
- `parts_induction`: induction on a condition part by part
- `FrontPart.of_append`, `FrontPart.append_quote`: less text, and more text behind a part
-/

namespace DocQuery

open DocQuery.Text
open DocQuery.Path (Ends ends_nil ends_cons takeWhile_append_of_ends)

variable {p : ConditionPart} {c : Char} {cs rest front back : List Char}

/-- The part `p` stands at the front of its text with `rest` behind it. -/
inductive FrontPart : ConditionPart → List Char → Prop where
  | parameter (rest : List Char) : FrontPart .parameter rest
  /-- A quote up to the next one -/
  | quoted {body : List Char} (rest : List Char) (closed : '\x27' ∉ body) :
      FrontPart (.verbatim ('\x27' :: (body ++ ['\x27']))) rest
  /-- A quote without another one -/
  | quote {rest : List Char} (unpaired : '\x27' ∉ rest) : FrontPart (.verbatim ['\x27']) rest
  | reference {name rest : List Char} (ne_nil : name ≠ []) (all : ∀ d ∈ name, isWord d = true)
      (ends : Ends isWord rest) : FrontPart (.verbatim ('@' :: '.' :: name)) rest
  /-- An at sign without a name -/
  | atSign {rest : List Char} (nameless : ∀ more, rest = '.' :: more → Ends isWord more) :
      FrontPart (.verbatim ['@']) rest
  | word {c : Char} {run rest : List Char} (start : ConditionPart.startsWord c = true)
      (all : ∀ d ∈ run, isWord d = true) (ends : Ends isWord rest) :
      FrontPart (.word (c :: run)) rest
  | comparison {c : Char} {run rest : List Char}
      (sign : c = '=' ∨ ((c = '!' ∨ c = '<' ∨ c = '>') ∧ run ≠ [])) (all : ∀ d ∈ run, d = '=')
      (ends : Ends (· == '=') rest) : FrontPart (.comparison (c :: run)) rest
  /-- A character of any other use -/
  | other {c : Char} {rest : List Char} (mark : c ≠ '?' ∧ c ≠ '\x27' ∧ c ≠ '@' ∧ c ≠ '=')
      (start : ConditionPart.startsWord c = false)
      (alone : c = '!' ∨ c = '<' ∨ c = '>' → Ends (· == '=') rest) : FrontPart (.verbatim [c]) rest

theorem isWord_of_startsWord (h : ConditionPart.startsWord c = true) : isWord c = true := by
  refine Path.isWord_of_isBareChar ?_
  simp only [ConditionPart.startsWord, Bool.or_eq_true] at h
  rw [Path.isBareChar, Char.isAlphanum, Bool.or_eq_true, Bool.or_eq_true]
  exact h.imp_left .inl

namespace Condition

/-- A part that is found at the front is cut off, and the cut goes on behind it. -/
theorem parts_of_atFront (hfront : ConditionPart.atFront c (cs ++ rest) = p)
    (htext : p.text = c :: cs) : parts (c :: (cs ++ rest)) = p :: parts rest := by
  rw [parts]
  simp only [hfront, htext, List.length_cons, Nat.add_sub_cancel, List.drop_left]

end Condition

open Condition

/-- A part that stands at the front of a condition is the first one that the condition is cut
into. -/
theorem FrontPart.parts_eq (h : FrontPart p rest) : parts (p.text ++ rest) = p :: parts rest := by
  cases h with
  | parameter rest => exact parts_of_atFront rfl rfl
  | @quoted body rest closed =>
    refine parts_of_atFront ?_ rfl
    -- the string ends at the first quote behind its own
    have hcut := cutFirst?_append closed rest
    simp [ConditionPart.atFront, hcut]
  | quote unpaired =>
    refine parts_of_atFront ?_ rfl
    -- no quote follows, so this one stands for itself
    simp [ConditionPart.atFront, cutFirst?_eq_none unpaired]
  | @reference name rest ne_nil all ends =>
    refine parts_of_atFront ?_ rfl
    have hname : (name ++ rest).takeWhile isWord = name := takeWhile_append_of_ends all ends
    simp [ConditionPart.atFront, hname, ne_nil]
  | atSign nameless =>
    refine parts_of_atFront ?_ rfl
    -- a reference needs a point and a name behind the sign
    have hname : ¬(rest.head? = some '.' ∧ (rest.drop 1).takeWhile isWord ≠ []) := by
      rintro ⟨hhead, hne⟩
      obtain ⟨more, rfl⟩ := List.head?_eq_some_iff.mp hhead
      exact hne (Path.takeWhile_of_ends (nameless more rfl))
    simp only [ConditionPart.atFront, List.nil_append, if_neg hname]
    simp
  | @word c run rest start all ends =>
    refine parts_of_atFront ?_ rfl
    -- what starts a word is none of the marks that are asked for first
    have hmark : ∀ d, ConditionPart.startsWord d = false → c ≠ d := fun d => Path.ne_of_holds start
    have hrun : (run ++ rest).takeWhile isWord = run := takeWhile_append_of_ends all ends
    rw [ConditionPart.atFront, if_neg (hmark '?' (by decide)), if_neg (hmark '\x27' (by decide)),
      if_neg (hmark '@' (by decide)), if_pos start, hrun]
  | @comparison c run rest sign all ends =>
    refine parts_of_atFront ?_ rfl
    have hrun : (run ++ rest).takeWhile (· == '=') = run :=
      takeWhile_append_of_ends (fun d hd => beq_iff_eq.mpr (all d hd)) ends
    -- the sign of a comparison is none of these marks either, and starts no word
    have hmark : ∀ d, d ≠ '=' ∧ d ≠ '!' ∧ d ≠ '<' ∧ d ≠ '>' → c ≠ d := by
      rintro d ⟨h₁, h₂, h₃, h₄⟩ rfl
      rcases sign with rfl | ⟨rfl | rfl | rfl, -⟩ <;> contradiction
    have hstart : ConditionPart.startsWord c = false := by
      rcases sign with rfl | ⟨rfl | rfl | rfl, -⟩ <;> decide
    rw [ConditionPart.atFront, if_neg (hmark '?' (by decide)), if_neg (hmark '\x27' (by decide)),
      if_neg (hmark '@' (by decide)), if_neg (Bool.eq_false_iff.mp hstart), hrun, if_pos sign]
  | @other c rest mark start alone =>
    refine parts_of_atFront ?_ rfl
    -- a sign is a comparison only with an equals sign in it
    have hsigns : ¬(c = '=' ∨ (c = '!' ∨ c = '<' ∨ c = '>') ∧ rest.takeWhile (· == '=') ≠ []) := by
      rintro (heq | ⟨hsign, hne⟩)
      · exact mark.2.2.2 heq
      · exact hne (Path.takeWhile_of_ends (alone hsign))
    rw [ConditionPart.atFront, if_neg mark.1, if_neg mark.2.1, if_neg mark.2.2.1,
      if_neg (Bool.eq_false_iff.mp start), List.nil_append, if_neg hsigns]

/-- What is left behind a run of `p`-characters does not go on with one. -/
theorem ends_dropWhile (p : Char → Bool) (cs : List Char) : Ends p (cs.dropWhile p) := by
  intro d hd
  have hhead := List.head?_dropWhile_not p cs
  rw [Option.mem_def.mp hd] at hhead
  simpa using hhead

theorem ends_of_takeWhile_eq_nil {q : Char → Bool} (h : cs.takeWhile q = []) : Ends q cs := by
  have hends := ends_dropWhile q cs
  rwa [← List.nil_append (cs.dropWhile q), ← h, List.takeWhile_append_dropWhile] at hends

/-- Some part stands at the front of every text. -/
theorem exists_frontPart (c : Char) (cs : List Char) :
    ∃ p rest, FrontPart p rest ∧ c :: cs = p.text ++ rest := by
  have hrun : ∀ q : Char → Bool, c :: cs = (c :: cs.takeWhile q) ++ cs.dropWhile q := fun q => by
    rw [List.cons_append, List.takeWhile_append_dropWhile]
  have hword : ∀ ds : List Char, ∀ d ∈ ds.takeWhile isWord, isWord d = true := fun _ _ hd =>
    List.mem_takeWhile_imp hd
  -- by what the text starts with, in the order in which the parts are cut off
  by_cases hparameter : c = '?'
  · exact ⟨.parameter, cs, .parameter cs, by rw [hparameter]; rfl⟩
  by_cases hquote : c = '\x27'
  · subst hquote
    -- a quote that is closed, or one that stands alone
    by_cases hmem : '\x27' ∈ cs
    · obtain ⟨body, rest, rfl, hbody⟩ := List.eq_append_cons_of_mem hmem
      exact ⟨_, rest, .quoted rest hbody, by simp [ConditionPart.text]⟩
    · exact ⟨_, cs, .quote hmem, rfl⟩
  by_cases hat : c = '@'
  · subst hat
    -- a sign with a name, or one that stands alone
    by_cases hname : ∃ more, cs = '.' :: more ∧ more.takeWhile isWord ≠ []
    · obtain ⟨more, rfl, hne⟩ := hname
      refine ⟨_, _, .reference hne (hword more) (ends_dropWhile isWord more), ?_⟩
      simp [ConditionPart.text]
    · refine ⟨_, cs, .atSign fun more hcs => ends_of_takeWhile_eq_nil ?_, rfl⟩
      by_contra hne
      exact hname ⟨more, hcs, hne⟩
  by_cases hstart : ConditionPart.startsWord c = true
  · exact ⟨_, _, .word hstart (hword cs) (ends_dropWhile isWord cs), hrun isWord⟩
  by_cases hsign : c = '=' ∨ ((c = '!' ∨ c = '<' ∨ c = '>') ∧ cs.takeWhile (· == '=') ≠ [])
  · refine ⟨_, _, .comparison hsign (fun d hd => ?_) (ends_dropWhile (· == '=') cs), hrun _⟩
    have hequals := List.mem_takeWhile_imp hd
    exact beq_iff_eq.mp hequals
  · obtain ⟨hequals, hsigns⟩ := not_or.mp hsign
    refine ⟨.verbatim [c], cs, .other ⟨hparameter, hquote, hat, hequals⟩
      (Bool.eq_false_iff.mpr hstart) fun hmark => ends_of_takeWhile_eq_nil ?_, rfl⟩
    by_contra hne
    exact hsigns ⟨hmark, hne⟩

/-- What holds of the empty condition, and of a part with a condition behind it if it holds of that,
holds of every condition. -/
theorem parts_induction {motive : List Char → Prop} (nil : motive [])
    (front : ∀ p rest, FrontPart p rest → motive rest → motive (p.text ++ rest)) (cs : List Char) :
    motive cs := by
  induction hlength : cs.length using Nat.strong_induction_on generalizing cs with
  | _ length ih =>
    cases cs with
    | nil => exact nil
    | cons c cs =>
      obtain ⟨p, rest, hp, hcs⟩ := exists_frontPart c cs
      have hpos : p.text ≠ [] := by cases hp <;> exact List.cons_ne_nil _ _
      have hshorter : rest.length < length := by
        have hsum := congrArg List.length hcs
        have htext := List.length_pos_iff.mpr hpos
        rw [List.length_append] at hsum
        omega
      rw [hcs]
      exact front p rest hp (ih rest.length hshorter rest rfl)

/-! ## Less text, and more text -/

theorem ends_of_append {q : Char → Bool} (h : Ends q (front ++ back)) : Ends q front := by
  cases front with
  | nil => exact ends_nil q
  | cons c front => exact h

theorem ends_append {q : Char → Bool} (hfront : Ends q front) (hback : Ends q back) :
    Ends q (front ++ back) := by
  cases front with
  | nil => exact hback
  | cons c front => exact hfront

/-- A part stays at the front when the text behind it is cut off somewhere. -/
theorem FrontPart.of_append (h : FrontPart p (front ++ back)) : FrontPart p front := by
  cases h with
  | parameter => exact .parameter front
  | quoted _ closed => exact .quoted front closed
  | quote unpaired => exact .quote fun hmem => unpaired (List.mem_append_left back hmem)
  | reference ne_nil all ends => exact .reference ne_nil all (ends_of_append ends)
  | atSign nameless =>
    refine .atSign fun more hfront => ends_of_append (nameless (more ++ back) ?_)
    rw [hfront, List.cons_append]
  | word start all ends => exact .word start all (ends_of_append ends)
  | comparison sign all ends => exact .comparison sign all (ends_of_append ends)
  | other mark start alone => exact .other mark start fun hsign => ends_of_append (alone hsign)

/-- It also stays there when text is added that goes on with a quote, unless it is a quote itself
that stands alone. -/
theorem FrontPart.append_quote (h : FrontPart p front) (hp : p ≠ .verbatim ['\x27'])
    (back : List Char) : FrontPart p (front ++ '\x27' :: back) := by
  have hword : Ends isWord ('\x27' :: back) := ends_cons (isWord_eq_of_lt (by decide)) back
  have hsign : Ends (· == '=') ('\x27' :: back) := ends_cons (by decide) back
  cases h with
  | parameter => exact .parameter _
  | quoted _ closed => exact .quoted _ closed
  | quote unpaired => exact absurd rfl hp
  | reference ne_nil all ends => exact .reference ne_nil all (ends_append ends hword)
  | atSign nameless =>
    refine .atSign fun more hmore => ?_
    cases front with
    | nil => exact absurd (List.cons.inj hmore).1 (by decide)
    | cons d front =>
      obtain ⟨rfl, rfl⟩ := List.cons.inj hmore
      exact ends_append (nameless front rfl) hword
  | word start all ends => exact .word start all (ends_append ends hword)
  | comparison sign all ends => exact .comparison sign all (ends_append ends hsign)
  | other mark start alone => exact .other mark start fun hc => ends_append (alone hc) hsign

end DocQuery
