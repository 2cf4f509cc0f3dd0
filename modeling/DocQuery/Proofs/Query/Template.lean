import Mathlib
import DocQuery.Proofs.Path.Name
import DocQuery.Query.Filter

/-!
# Filling Templates

A template is filled from left to right: text without references stays as it is, and a reference
is replaced by what is found for its name, which is as long as possible.
-/

namespace DocQuery.Template

open DocQuery.Text
open DocQuery.Path (Ends takeWhile_append_of_ends)

variable {find? : List Char → Option (List Char)} {cs rest : List Char}

/-- Text without references is a piece for each of its characters. -/
theorem parts_append (h : '@' ∉ cs) (rest : List Char) :
    parts (cs ++ rest) = cs.map .char ++ parts rest := by
  induction cs with
  | nil => rfl
  | cons c cs ih =>
    simp only [List.mem_cons, not_or] at h
    obtain ⟨hc, hcs⟩ := h
    rw [List.cons_append, parts]
    · rw [ih hcs]
      rfl
    · rintro - rfl
      exact absurd rfl hc

/-- A reference takes all of its name, and no more. -/
theorem parts_reference {name : List Char} (hne : name ≠ []) (hname : ∀ c ∈ name, isWord c = true)
    (hrest : Ends isWord rest) :
    parts ('@' :: '.' :: name ++ rest) = .reference name :: parts rest := by
  have hrun : (name ++ rest).takeWhile isWord = name := takeWhile_append_of_ends hname hrest
  rw [List.cons_append, List.cons_append, parts]
  simp only [hrun, List.isEmpty_eq_false_iff.mpr hne, Bool.false_eq_true, if_false, List.drop_left]

theorem fill?_append (ps qs : List TemplatePart) :
    fill? find? (ps ++ qs) = (do
      let text ← fill? find? ps
      let rest ← fill? find? qs
      return text ++ rest) := by
  induction ps with
  | nil =>
    simp only [List.nil_append, fill?]
    cases fill? find? qs <;> rfl
  | cons p ps ih =>
    simp only [List.cons_append, fill?, ih]
    cases fillPart? find? p with
    | none => rfl
    | some text =>
      cases fill? find? ps with
      | none => rfl
      | some more =>
        cases fill? find? qs with
        | none => rfl
        | some rest => simp

theorem fill?_map_char (cs : List Char) : fill? find? (cs.map .char) = some cs := by
  induction cs with
  | nil => rfl
  | cons c cs ih => simp [fill?, fillPart?, ih]

/-- Text without references stays as it is. -/
theorem fill?_parts_append (h : '@' ∉ cs) (rest : List Char) :
    fill? find? (parts (cs ++ rest)) = (fill? find? (parts rest)).map (cs ++ ·) := by
  rw [parts_append h, fill?_append, fill?_map_char]
  cases fill? find? (parts rest) <;> rfl

/-- A reference is replaced by what is found for it. -/
theorem fill?_parts_reference {name : List Char} (hne : name ≠ [])
    (hname : ∀ c ∈ name, isWord c = true) (hrest : Ends isWord rest) :
    fill? find? (parts ('@' :: '.' :: name ++ rest)) = (do
      let text ← find? name
      let more ← fill? find? (parts rest)
      return text ++ more) := by
  rw [parts_reference hne hname hrest, fill?, fillPart?]

end DocQuery.Template
