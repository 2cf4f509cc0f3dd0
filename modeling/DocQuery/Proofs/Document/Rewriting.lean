import Mathlib
import DocQuery.Proofs.Document.Parts

/-!
# Rewriting Conditions

A condition is rewritten piece by piece: what stands between two places for arguments is rewritten
as if it stood alone, and the literals of the arguments are put between the results, one after the
other.  A question mark inside of quotes is no place for an argument, and what stands in quotes is
not rewritten.

A condition without places for arguments is rewritten once and for all.  What a part becomes stands
at the front again, and is left as it is the second time, because what comes behind it changes too
little: it goes on with a word character, an equals sign, a quote or a dot only where it did before.

## Main definitions

- `Condition.pieces`: a condition, cut at the places for arguments
- `Condition.weave`: pieces with literals between them
- `Follows`: what rewriting may change of the text behind a part

## Main statements

- `fill_parts_eq_weave`: a condition is rewritten piece by piece
- `rewrite_rewrite`: rewriting twice is rewriting once
- `expand_pieces`: both for conditions and their arguments
-/

namespace DocQuery

open DocQuery.Text
open DocQuery.Path (Ends ends_nil ends_cons)

variable {p : ConditionPart} {c : Char} {cs rest rest' front body : List Char}

namespace Condition

/-! ## Pieces -/

/-- The pieces of a condition between the places for arguments.  `inside` says whether the number of
quotes so far is odd; the last of them opens a quoted text only if there is another quote ahead. -/
def piecesFrom (inside : Bool) : List Char → List (List Char)
  | [] => [[]]
  | c :: cs =>
    if c = '?' ∧ ¬(inside = true ∧ '\x27' ∈ cs) then [] :: piecesFrom inside cs
    else (piecesFrom (if c = '\x27' then !inside else inside) cs).modifyHead (c :: ·)

/-- The pieces of a condition between the question marks that stand outside of quotes.  Quotes pair
up from the left, and a last one without a partner quotes nothing. -/
def pieces (cs : List Char) : List (List Char) := piecesFrom false cs

/-- Pieces with literals between them; an empty one where there are no more. -/
def weave : List (List Char) → List (List Char) → List Char
  | [], _ => []
  | [piece], _ => piece
  | piece :: next :: pieces, literals =>
    piece ++ (literals.headD [] ++ weave (next :: pieces) literals.tail)

/-- A condition, rewritten for no arguments. -/
def rewrite (cs : List Char) : List Char := fill (parts cs) []

/-- The literal for an argument. -/
def literal (v : Value) : List Char := (argument? v).getD []

theorem piecesFrom_run {run : List Char} (hrun : ∀ d ∈ run, d ≠ '?' ∧ d ≠ '\x27') (inside : Bool)
    (rest : List Char) :
    piecesFrom inside (run ++ rest) = (piecesFrom inside rest).modifyHead (run ++ ·) := by
  induction run with
  | nil => exact (congrFun List.modifyHead_id _).symm
  | cons d run ih =>
    obtain ⟨hd, hrun⟩ := List.forall_mem_cons.mp hrun
    rw [List.cons_append, piecesFrom, if_neg (fun h => hd.1 h.1), if_neg hd.2, ih hrun,
      List.modifyHead_modifyHead]
    rfl

/-- Inside of quotes no question mark cuts. -/
theorem piecesFrom_quoted (hbody : '\x27' ∉ body) (rest : List Char) :
    piecesFrom true (body ++ '\x27' :: rest) =
      (piecesFrom false rest).modifyHead (body ++ '\x27' :: ·) := by
  induction body with
  | nil =>
    rw [List.nil_append, piecesFrom, if_neg (by simp), if_pos rfl]
    rfl
  | cons d body ih =>
    obtain ⟨hd, hbody⟩ := not_or.mp (mt List.mem_cons.mpr hbody)
    rw [List.cons_append, piecesFrom, if_neg (by simp), if_neg (Ne.symm hd), ih hbody,
      List.modifyHead_modifyHead]
    rfl

/-- A quote without a partner makes no difference. -/
theorem piecesFrom_unpaired (h : '\x27' ∉ cs) : piecesFrom true cs = piecesFrom false cs := by
  induction cs with
  | nil => rfl
  | cons d cs ih =>
    obtain ⟨hd, hcs⟩ := not_or.mp (mt List.mem_cons.mpr h)
    simp only [piecesFrom, hcs, and_false, not_false_eq_true, and_true, if_neg (Ne.symm hd),
      ih hcs]

theorem piecesFrom_ne_nil (inside : Bool) (cs : List Char) : piecesFrom inside cs ≠ [] := by
  induction cs generalizing inside with
  | nil => exact List.cons_ne_nil _ _
  | cons d cs ih =>
    rw [piecesFrom]
    split
    · exact List.cons_ne_nil _ _
    · exact fun h => ih _ (List.modifyHead_eq_nil_iff.mp h)

/-- A text begins with its first piece. -/
theorem prefix_of_piecesFrom {inside : Bool} {piece : List Char} {others : List (List Char)}
    (h : piecesFrom inside cs = piece :: others) : piece <+: cs := by
  induction cs generalizing inside piece others with
  | nil =>
    obtain ⟨rfl, -⟩ := List.cons.inj h
    exact List.prefix_refl []
  | cons d cs ih =>
    rw [piecesFrom] at h
    split at h
    · obtain ⟨rfl, -⟩ := List.cons.inj h
      exact List.nil_prefix
    · obtain ⟨first, more, hfirst⟩ := List.exists_cons_of_ne_nil (piecesFrom_ne_nil
        (if d = '\x27' then !inside else inside) cs)
      rw [hfirst, List.modifyHead_cons] at h
      rw [← (List.cons.inj h).1]
      exact List.cons_prefix_cons.mpr ⟨rfl, ih hfirst⟩

/-- A place for an argument begins a new piece. -/
theorem pieces_parameter (rest : List Char) : pieces ('?' :: rest) = [] :: pieces rest := by
  rw [pieces, piecesFrom, if_pos (by simp)]
  rfl

end Condition

open Condition

/-- Any other part belongs to the piece that it stands in front of. -/
theorem FrontPart.pieces_eq (h : FrontPart p rest) (hp : p ≠ .parameter) :
    pieces (p.text ++ rest) = (pieces rest).modifyHead (p.text ++ ·) := by
  -- no character of a word is a mark that the cut looks at
  have hword : ∀ {d}, isWord d = true → d ≠ '?' ∧ d ≠ '\x27' := fun hd =>
    ⟨Path.ne_of_holds hd (isWord_eq_of_lt (by decide)),
      Path.ne_of_holds hd (isWord_eq_of_lt (by decide))⟩
  cases h with
  | parameter => exact absurd rfl hp
  | @quoted body rest closed =>
    have htext : (ConditionPart.verbatim ('\x27' :: (body ++ ['\x27']))).text ++ rest =
        '\x27' :: (body ++ '\x27' :: rest) := by simp [ConditionPart.text]
    -- the cut goes on inside the quotes until it comes to the closing one
    rw [htext, pieces, piecesFrom, if_neg (by simp), if_pos rfl]
    show (piecesFrom true (body ++ '\x27' :: rest)).modifyHead _ = _
    rw [piecesFrom_quoted closed, List.modifyHead_modifyHead]
    refine congrArg (fun f => List.modifyHead f (pieces rest)) (funext fun piece => ?_)
    simp [ConditionPart.text]
  | quote unpaired =>
    rw [ConditionPart.text, List.singleton_append, pieces, piecesFrom, if_neg (by simp), if_pos rfl]
    show (piecesFrom true rest).modifyHead _ = _
    rw [piecesFrom_unpaired unpaired]
    rfl
  | reference ne_nil all ends =>
    refine piecesFrom_run (fun d hd => ?_) false rest
    simp only [ConditionPart.text, List.mem_cons] at hd
    rcases hd with rfl | rfl | hd
    · decide
    · decide
    · exact hword (all d hd)
  | atSign nameless => exact piecesFrom_run (by simp [ConditionPart.text]) false rest
  | word start all ends =>
    exact piecesFrom_run (List.forall_mem_cons.mpr
      ⟨hword (isWord_of_startsWord start), fun d hd => hword (all d hd)⟩) false rest
  | comparison sign all ends =>
    refine piecesFrom_run (List.forall_mem_cons.mpr ⟨?_, fun d hd => ?_⟩) false rest
    · rcases sign with rfl | ⟨rfl | rfl | rfl, -⟩ <;> decide
    · rw [all d hd]
      decide
  | other mark start alone =>
    exact piecesFrom_run (List.forall_mem_singleton.mpr ⟨mark.1, mark.2.1⟩) false rest

/-- A part has two quotes or none, unless it is a quote itself that stands alone. -/
theorem FrontPart.count_quote (h : FrontPart p rest) :
    p.text.count '\x27' % 2 = 0 ∨ (p = .verbatim ['\x27'] ∧ '\x27' ∉ rest) := by
  have hnone : ∀ {text : List Char}, '\x27' ∉ text → text.count '\x27' % 2 = 0 := fun hmem => by
    rw [List.count_eq_zero_of_not_mem hmem]
  have hword : ∀ {run : List Char}, (∀ d ∈ run, isWord d = true) → '\x27' ∉ run := fun hall hmem =>
    absurd (hall _ hmem) (by rw [isWord_eq_of_lt (by decide)]; decide)
  cases h with
  | parameter => exact .inl rfl
  | quoted _ closed =>
    exact .inl (by simp [ConditionPart.text, List.count_eq_zero_of_not_mem closed])
  | quote unpaired => exact .inr ⟨rfl, unpaired⟩
  | reference _ all => exact .inl (hnone (by simp [ConditionPart.text, hword all]))
  | atSign => exact .inl rfl
  | word start all =>
    exact .inl (hnone (hword (List.forall_mem_cons.mpr ⟨isWord_of_startsWord start, all⟩)))
  | comparison sign all =>
    refine .inl (hnone fun hmem => ?_)
    rcases List.mem_cons.mp hmem with rfl | hmem
    · simp at sign
    · exact absurd (all _ hmem) (by decide)
  | other mark => exact .inl (hnone (by simpa [ConditionPart.text] using Ne.symm mark.2.1))

namespace Condition

/-! ## Piece by piece -/

theorem fill_cons (hp : p ≠ .parameter) (ps : List ConditionPart) (literals : List (List Char)) :
    fill (p :: ps) literals = p.expanded ++ fill ps literals := by
  cases p with
  | parameter => exact absurd rfl hp
  | _ => rfl

/-- What stands at the front is rewritten, and what stands behind it. -/
theorem rewrite_front (h : FrontPart p rest) :
    rewrite (p.text ++ rest) = p.expanded ++ rewrite rest := by
  rw [rewrite, h.parts_eq]
  cases p <;> rfl

theorem rewrite_nil : rewrite [] = [] := by
  rw [rewrite, parts]
  rfl

/-- A condition is rewritten piece by piece, with the literals between the pieces. -/
theorem fill_parts_eq_weave (cs : List Char) (literals : List (List Char)) :
    fill (parts cs) literals = weave ((pieces cs).map rewrite) literals := by
  induction cs using parts_induction generalizing literals with
  | nil =>
    show fill (parts []) literals = rewrite []
    rw [rewrite_nil, parts]
    rfl
  | front p rest hp ih =>
    obtain ⟨piece, others, hpieces⟩ := List.exists_cons_of_ne_nil (piecesFrom_ne_nil false rest)
    replace hpieces : pieces rest = piece :: others := hpieces
    rw [hp.parts_eq]
    by_cases hparameter : p = .parameter
    · subst hparameter
      rw [ConditionPart.text, List.singleton_append, pieces_parameter, hpieces, List.map_cons,
        rewrite_nil, List.map_cons, weave, ← List.map_cons, ← hpieces, ← ih]
      rfl
    · -- the part stands at the front of the piece, too
      obtain ⟨back, hback⟩ := prefix_of_piecesFrom hpieces
      have hpiece : FrontPart p piece := by
        rw [← hback] at hp
        exact hp.of_append
      rw [fill_cons hparameter, ih, hp.pieces_eq hparameter, hpieces, List.modifyHead_cons,
        List.map_cons, List.map_cons, rewrite_front hpiece]
      cases others with
      | nil => rfl
      | cons next others => simp [weave]

/-- Arguments are the values that are truth values, numbers or strings. -/
theorem argument?_eq (v : Value) :
    argument? v = if v.isPrimitive then some (literal v) else none := by
  cases v <;> rfl

theorem filterMap_argument? (arguments : List Value) :
    arguments.filterMap argument? = (arguments.filter Value.isPrimitive).map literal := by
  induction arguments with
  | nil => rfl
  | cons v arguments ih =>
    rw [List.filterMap_cons, List.filter_cons, argument?_eq]
    cases v.isPrimitive with
    | false => exact ih
    | true => exact congrArg (literal v :: ·) ih

/-! ## Quotes -/

/-- What stands between two quotes is left as it is, and does not change what is around it. -/
theorem rewrite_quoted (hfront : front.count '\x27' % 2 = 0) (hbody : '\x27' ∉ body)
    (behind : List Char) :
    rewrite (front ++ '\x27' :: (body ++ '\x27' :: behind)) =
      rewrite front ++ '\x27' :: (body ++ '\x27' :: rewrite behind) := by
  induction front using parts_induction with
  | nil =>
    have hquoted := rewrite_front (.quoted behind hbody)
    simpa [ConditionPart.text, ConditionPart.expanded, rewrite_nil] using hquoted
  | front p rest hp ih =>
    rw [List.count_append] at hfront
    rcases hp.count_quote with heven | ⟨rfl, hnone⟩
    · have hne : p ≠ .verbatim ['\x27'] := by
        rintro rfl
        cases heven
      rw [List.append_assoc, rewrite_front (hp.append_quote hne _), rewrite_front hp,
        ih (by omega), List.append_assoc]
    · -- a quote that stands alone would make the number of quotes odd
      rw [List.count_eq_zero_of_not_mem hnone] at hfront
      cases hfront

end Condition

/-! ## Rewriting once more -/

/-- What may have become of the text behind a part, so that the part still stands at the front. -/
structure Follows (rest rest' : List Char) : Prop where
  word : Ends isWord rest → Ends isWord rest'
  sign : Ends (· == '=') rest → Ends (· == '=') rest'
  quote : '\x27' ∉ rest → '\x27' ∉ rest'
  /-- A dot is the same dot as before, with no word behind it if there was none. -/
  dot : ∀ more', rest' = '.' :: more' →
    ∃ more, rest = '.' :: more ∧ (Ends isWord more → Ends isWord more')

theorem follows_nil : Follows [] [] := ⟨id, id, id, by nofun⟩

/-- Another text may be put in front of each, if its first character is as harmless. -/
theorem Follows.append {d : Char} {text text' : List Char} (h : Follows rest rest')
    (word : isWord c = false → isWord d = false) (sign : c ≠ '=' → d ≠ '=') (dot : d ≠ '.')
    (quote : '\x27' ∉ c :: text → '\x27' ∉ d :: text') :
    Follows ((c :: text) ++ rest) ((d :: text') ++ rest') where
  word hends := ends_cons (word (hends c rfl)) _
  sign hends := by
    have hc : c ≠ '=' := beq_eq_false_iff_ne.mp (hends c rfl)
    exact ends_cons (p := (· == '=')) (beq_eq_false_iff_ne.mpr (sign hc)) _
  quote hmem := by
    rw [List.mem_append, not_or] at hmem ⊢
    exact ⟨quote hmem.1, h.quote hmem.2⟩
  dot _ heq := absurd (List.cons.inj heq).1 dot

/-- Any text that starts with another mark may be put in front of both, and so may a dot. -/
theorem Follows.same (h : Follows rest rest') {text : List Char} (hne : text ≠ [])
    (hdot : text.head? = some '.' → text = ['.']) : Follows (text ++ rest) (text ++ rest') := by
  obtain ⟨c, text, rfl⟩ := List.exists_cons_of_ne_nil hne
  by_cases hc : c = '.'
  · subst hc
    obtain rfl : text = [] := (List.cons.inj (hdot rfl)).2
    refine ⟨fun _ => ends_cons (isWord_eq_of_lt (by decide)) _, fun _ => ends_cons (by decide) _,
      fun hmem => ?_, fun more' heq => ?_⟩
    · rw [List.mem_append, not_or] at hmem ⊢
      exact ⟨hmem.1, h.quote hmem.2⟩
    · obtain ⟨-, rfl⟩ := List.cons.inj heq
      exact ⟨rest, rfl, h.word⟩
  · exact h.append id id hc id

/-- A part that is left as it is stands at the front again. -/
theorem FrontPart.follow {text : List Char} (h : FrontPart (.verbatim text) rest)
    (hrest : Follows rest rest') : FrontPart (.verbatim text) rest' := by
  cases h with
  | quoted _ closed => exact .quoted rest' closed
  | quote unpaired => exact .quote (hrest.quote unpaired)
  | reference ne_nil all ends => exact .reference ne_nil all (hrest.word ends)
  | atSign nameless =>
    refine .atSign fun more' heq => ?_
    obtain ⟨more, hmore, himp⟩ := hrest.dot more' heq
    exact himp (nameless more hmore)
  | other mark start alone =>
    exact .other mark start fun hsign => hrest.sign (alone hsign)

namespace ConditionPart

/-- A word becomes a connective, stays a truth value, or becomes a reference. -/
theorem expandWord_cases (text : List Char) :
    expandWord text = ['&', '&'] ∨ expandWord text = ['|', '|'] ∨ expandWord text = text ∨
      expandWord text = '@' :: '.' :: text := by
  unfold expandWord
  dsimp only
  split
  · exact .inl rfl
  · split
    · exact .inr (.inl rfl)
    · split
      · exact .inr (.inr (.inl rfl))
      · exact .inr (.inr (.inr rfl))

/-- A comparison keeps its first sign, and has one equals sign behind it. -/
theorem expandComparison_cons {c : Char} (hsign : c = '=' ∨ c = '!' ∨ c = '<' ∨ c = '>')
    (run : List Char) : expandComparison (c :: run) = [c, '='] := by
  rcases hsign with rfl | rfl | rfl | rfl <;> rfl

end ConditionPart

/-- What a part has become is left as it is when it is rewritten once more. -/
theorem FrontPart.rewrite_expanded (h : FrontPart p rest) (hrest : Follows rest rest') :
    rewrite (p.expanded ++ rest') = p.expanded ++ rewrite rest' := by
  cases p with
  | verbatim text => exact rewrite_front (h.follow hrest)
  | parameter => rfl
  | word text =>
    cases h with
    | @word c run _ start all ends =>
      have hall : ∀ d ∈ c :: run, isWord d = true :=
        List.forall_mem_cons.mpr ⟨isWord_of_startsWord start, all⟩
      have hmark : ∀ d, d = '&' ∨ d = '|' → ∀ cs, rewrite (d :: cs) = d :: rewrite cs := by
        rintro d (rfl | rfl) cs
        · exact rewrite_front (.other (by decide) (by decide) (by simp))
        · exact rewrite_front (.other (by decide) (by decide) (by simp))
      show rewrite (ConditionPart.expandWord _ ++ rest') =
        ConditionPart.expandWord _ ++ rewrite rest'
      -- `and` and `or` became two marks, a word for a value is kept, and any other word became a
      -- reference
      rcases ConditionPart.expandWord_cases (c :: run) with heq | heq | heq | heq
      · rw [heq]
        exact (hmark '&' (.inl rfl) _).trans (congrArg _ (hmark '&' (.inl rfl) _))
      · rw [heq]
        exact (hmark '|' (.inr rfl) _).trans (congrArg _ (hmark '|' (.inr rfl) _))
      · have hagain := rewrite_front (.word start all (hrest.word ends))
        rw [ConditionPart.expanded, heq] at hagain
        rwa [heq]
      · rw [heq]
        exact rewrite_front (.reference (List.cons_ne_nil c run) hall (hrest.word ends))
  | comparison text =>
    cases h with
    | @comparison c run _ sign all ends =>
      -- it became a comparison with one equals sign, which is kept
      have hsign : c = '=' ∨ c = '!' ∨ c = '<' ∨ c = '>' := sign.imp_right And.left
      have hagain := rewrite_front (@FrontPart.comparison c ['='] rest'
        (sign.imp_right fun h => ⟨h.1, List.cons_ne_nil _ _⟩) (by simp) (hrest.sign ends))
      rw [ConditionPart.expanded, ConditionPart.expandComparison_cons hsign] at hagain ⊢
      exact hagain

/-- What a part has become may stand in front where the part stood. -/
theorem FrontPart.follows (h : FrontPart p rest) (hp : p ≠ .parameter)
    (hrest : Follows rest rest') : Follows (p.text ++ rest) (p.expanded ++ rest') := by
  cases p with
  | verbatim text =>
    refine hrest.same ?_ ?_
    · cases h <;> exact List.cons_ne_nil _ _
    · cases h <;> simp [ConditionPart.text]
  | parameter => exact absurd rfl hp
  | word text =>
    cases h with
    | @word c run _ start all ends =>
      have hword : isWord c = true := isWord_of_startsWord start
      have hc : ∀ {q : Prop}, isWord c = false → q := fun hfalse =>
        absurd (hfalse.symm.trans hword) Bool.false_ne_true
      show Follows _ (ConditionPart.expandWord _ ++ rest')
      -- marks and references start with no character of a word; a value starts as before
      rcases ConditionPart.expandWord_cases (c :: run) with heq | heq | heq | heq
      · rw [heq]
        exact hrest.append hc (fun _ => by decide) (by decide) (by simp)
      · rw [heq]
        exact hrest.append hc (fun _ => by decide) (by decide) (by simp)
      · rw [heq]
        exact hrest.append id id (Path.ne_of_holds hword (isWord_eq_of_lt (by decide))) id
      · rw [heq]
        exact hrest.append hc (fun _ => by decide) (by decide) (by simp)
  | comparison text =>
    cases h with
    | @comparison c run _ sign all ends =>
      have hsign : c = '=' ∨ c = '!' ∨ c = '<' ∨ c = '>' := sign.imp_right And.left
      rw [ConditionPart.expanded, ConditionPart.expandComparison_cons hsign]
      refine hrest.append id id ?_ ?_
      · rcases hsign with rfl | rfl | rfl | rfl <;> decide
      · intro hmem
        simp only [List.mem_cons, not_or] at hmem ⊢
        exact ⟨hmem.1, by decide, List.not_mem_nil⟩

namespace Condition

/-- A condition without places for arguments is rewritten once and for all. -/
theorem rewrite_rewrite (h : pieces cs = [cs]) : rewrite (rewrite cs) = rewrite cs := by
  suffices hboth : Follows cs (rewrite cs) ∧ rewrite (rewrite cs) = rewrite cs from hboth.2
  induction cs using parts_induction with
  | nil => exact ⟨by rw [rewrite_nil]; exact follows_nil, by rw [rewrite_nil, rewrite_nil]⟩
  | front p rest hp ih =>
    have hparameter : p ≠ .parameter := by
      rintro rfl
      rw [ConditionPart.text, List.singleton_append, pieces_parameter] at h
      exact absurd (List.cons.inj h).1 (List.cons_ne_nil _ _).symm
    have hrest : pieces rest = [rest] := by
      obtain ⟨piece, others, hpieces⟩ := List.exists_cons_of_ne_nil (piecesFrom_ne_nil false rest)
      replace hpieces : pieces rest = piece :: others := hpieces
      rw [hp.pieces_eq hparameter, hpieces, List.modifyHead_cons] at h
      obtain ⟨hpiece, rfl⟩ := List.cons.inj h
      rw [hpieces, List.append_cancel_left hpiece]
    obtain ⟨hfollows, hagain⟩ := ih hrest
    rw [rewrite_front hp]
    exact ⟨hp.follows hparameter hfollows, by rw [hp.rewrite_expanded hfollows, hagain]⟩

/-! ## Conditions and their arguments -/

theorem toList_expand_nil (condition : String) :
    (expand condition []).toList = rewrite condition.toList := String.toList_ofList

/-- A condition is cut at its places for arguments, each piece is rewritten alone, and between them
come the literals of the values that can be arguments, in their order, as they are.  What stands in
quotes is left alone.  A condition without places for arguments is the same after the first
rewriting as after the second. -/
theorem expand_pieces :
    (∀ condition arguments, (expand condition arguments).toList =
      weave ((pieces condition.toList).map fun piece => (expand (String.ofList piece) []).toList)
        ((arguments.filter Value.isPrimitive).map literal)) ∧
    (∀ front body behind : String, front.toList.count '\x27' % 2 = 0 → '\x27' ∉ body.toList →
      expand (front ++ "\x27" ++ body ++ "\x27" ++ behind) [] =
        expand front [] ++ "\x27" ++ body ++ "\x27" ++ expand behind []) ∧
    ∀ condition, pieces condition.toList = [condition.toList] →
      expand (expand condition []) [] = expand condition [] := by
  refine ⟨fun condition arguments => ?_, fun front body behind hfront hbody => ?_,
    fun condition hpieces => ?_⟩
  · have hrewrite : (fun piece : List Char => (expand (String.ofList piece) []).toList) = rewrite :=
      funext fun piece => by rw [toList_expand_nil, String.toList_ofList]
    rw [hrewrite, ← filterMap_argument?, ← fill_parts_eq_weave]
    exact String.toList_ofList
  · apply String.toList_inj.mp
    have hquoted := rewrite_quoted hfront hbody behind.toList
    simp only [String.toList_append, toList_expand_nil]
    simpa using hquoted
  · apply String.toList_inj.mp
    rw [toList_expand_nil, toList_expand_nil, rewrite_rewrite hpieces]

/-- A container that is no argument, an argument that looks like a condition, connectives and a
question mark inside of quotes, and marks that run into each other in front of a last single
quote. -/
theorem expand_pieces_overlapping :
    let condition := "a >=? AND b = 'or ?' OR c !== ?"
    let arguments : List Value := [.container ⟨0⟩, .integer (-2), .string "and = ?"]
    pieces condition.toList = ["a >=".toList, " AND b = 'or ?' OR c !== ".toList, []] ∧
      expand condition arguments = "@.a >=(0 - 2) && @.b == 'or ?' || @.c != 'and = ?'" ∧
      expand ("f'g'h=" ++ "\x27" ++ "and ?" ++ "\x27" ++ "=i") [] =
        "@.f'g'@.h==" ++ "\x27" ++ "and ?" ++ "\x27" ++ "==@.i" ∧
      pieces "!===@a.b<='x or".toList = ["!===@a.b<='x or".toList] ∧
      expand (expand "!===@a.b<='x or" []) [] = expand "!===@a.b<='x or" [] := by
  intro condition arguments
  obtain ⟨hpieces, hquoted, hagain⟩ := expand_pieces
  have hsingle : pieces "!===@a.b<='x or".toList = ["!===@a.b<='x or".toList] := by decide +kernel
  refine ⟨by decide +kernel, ?_, ?_, hsingle, hagain _ hsingle⟩
  · apply String.toList_inj.mp
    rw [hpieces]
    decide +kernel
  · rw [hquoted "f'g'h=" "and ?" "=i" (by decide) (by decide)]
    decide +kernel

end Condition

end DocQuery
