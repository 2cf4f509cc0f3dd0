import Mathlib
import DocQuery.Proofs.Edit.Putting
import DocQuery.Proofs.Path.NameRow

/-!
# Targets of Names

A path of names, bare or between quotes, is read twice: a query walks along all of them, and a put
cuts the last one off as its key.  A query honours the quotes and a put does not, for it cuts at
the last dot wherever that stands and keeps quotes in the key.  So the two readings agree exactly if
the last name is written without quotes; a put then writes what the query finds.

## Main definitions

- `ReadsAs`: a path, or none at all, is read as a row of names

## Main statements

- `splitTarget_names`: when a target of names is cut in front of its last name, and what is then
  found and written
-/

namespace DocQuery.Path

open DocQuery.Text DocQuery.Edit

variable {path name : String} {names : List String}

/-- A query reads the path as the row of names; the empty path stands for no names. -/
def ReadsAs (path : String) : List String → Prop
  | [] => path = ""
  | name :: names => segment path = .plain (name :: names)

/-! ## The last name -/

/-- A path that is read as names consists of written names with dots between them. -/
theorem exists_written_of_segment (hread : segment path = .plain (names ++ [name])) :
    ∃ (front : List WrittenName) (last : WrittenName), (∀ m ∈ front, m.Fits isWord) ∧
      last.Fits isWord ∧ path.toList = join ['.'] ((front ++ [last]).map WrittenName.text) ∧
      names = front.map (fun m => String.ofList m.name) ∧ name = String.ofList last.name := by
  obtain ⟨hrule, hnames⟩ := eq_of_segmentOf_eq_plain hread
  obtain ⟨n, others, hn, hothers, htext⟩ := isNames_iff.mp hrule
  rw [htext, splitNames_joined hn hothers] at hnames
  -- the row is not empty, so it has a last name
  obtain hempty | ⟨front, last, hrow⟩ := List.eq_nil_or_concat (n :: others)
  · cases hempty
  rw [List.concat_eq_append] at hrow
  rw [← join_text, hrow] at htext
  rw [hrow, List.map_append, List.map_singleton] at hnames
  have hfits : ∀ m ∈ front ++ [last], m.Fits isWord :=
    hrow ▸ List.forall_mem_cons.mpr ⟨hn, hothers⟩
  obtain ⟨hfront, hlast⟩ := List.append_inj' hnames rfl
  exact ⟨front, last, fun m hm => hfits m (List.mem_append_left _ hm),
    hfits last (List.mem_append_right _ (List.mem_singleton_self _)), htext, hfront.symm,
    (List.singleton_inj.mp hlast).symm⟩

theorem getLast?_join_concat (parts : List (List Char)) {part : List Char} (hne : part ≠ []) :
    (join ['.'] (parts ++ [part])).getLast? = part.getLast? := by
  by_cases hparts : parts = []
  · rw [hparts]
    rfl
  · rw [join_concat _ _ hparts, List.getLast?_append_of_ne_nil _ hne]

/-- A row of names ends with a quote exactly if its last name does. -/
theorem getLast?_eq_quote_iff {last : WrittenName} (hlast : last.Fits isWord) :
    last.text.getLast? = some '"' ↔ last.isQuoted = true := by
  cases last with
  | bare word =>
    refine iff_of_false (fun hquote => ?_) Bool.false_ne_true
    exact ne_of_holds (hlast.2 '"' (List.mem_of_getLast? hquote)) isWord_quote rfl
  | quoted body =>
    refine iff_of_true ?_ rfl
    rw [WrittenName.text, ← List.cons_append, List.getLast?_concat]

/-- The key of a target that ends with a quote has that quote in it. -/
theorem quote_mem_of_splitTarget (hquote : path.toList.getLast? = some '"')
    (hkey : (splitTarget path).2 = .name name) : '"' ∈ name.toList := by
  -- a key that is a name is the text behind the dot, quotes and all
  have hparsed : ∀ key : List Char, Key.parse key = .name name → name.toList = key := by
    intro key hparse
    unfold Key.parse at hparse
    split at hparse
    · cases hparse
    · rw [← Key.name.inj hparse, String.toList_ofList]
  unfold splitTarget at hkey
  split at hkey
  · next parent key hcut =>
    rw [hparsed key hkey]
    rw [eq_append_of_cutLast? hcut, List.getLast?_append_cons, List.getLast?_cons] at hquote
    cases hlast : key.getLast? with
    | none =>
      rw [hlast] at hquote
      cases hquote
    | some c =>
      rw [hlast] at hquote
      cases hquote
      exact List.mem_of_getLast? hlast
  · rw [hparsed _ hkey]
    exact List.mem_of_getLast? hquote

/-- Written names with dots between them are read as the names. -/
theorem readsAs_join {front : List WrittenName} (hfront : ∀ m ∈ front, m.Fits isWord) :
    ReadsAs (String.ofList (join ['.'] (front.map WrittenName.text)))
      (front.map fun m => String.ofList m.name) := by
  cases front with
  | nil => rfl
  | cons n others =>
    rw [List.forall_mem_cons] at hfront
    show segment _ = _
    rw [segment, String.toList_ofList, join_text,
      segmentOf_joined hfront.1 hfront.2, List.map_cons]

/-! ## Paths of one fragment -/

theorem takeWhile_prefix_takeWhile_append (p : Char → Bool) (front rest : List Char) :
    front.takeWhile p <+: (front ++ rest).takeWhile p := by
  rw [List.takeWhile_append]
  split
  · exact (List.takeWhile_prefix p).trans (List.prefix_append front _)
  · exact List.prefix_refl _

/-- Where a glob starts, one starts also if the text goes on. -/
theorem scanGlob_eq_zero_of_append {front rest : List Char} (h : scanGlob (front ++ rest) = 0) :
    scanGlob front = 0 := by
  have hline := (takeWhile_prefix_takeWhile_append (· != '\n') front rest).subset
  have hrun := (takeWhile_prefix_takeWhile_append (!isGlobStop ·) front rest).length_le
  simp only [scanGlob, Bool.and_eq_true, List.contains_iff_mem, List.any_eq_true] at h ⊢
  split at h
  · split
    · exact Nat.le_zero.mp (h ▸ hrun)
    · rfl
  · next hahead =>
    rw [if_neg]
    rintro ⟨hstar, c, hc, hname⟩
    exact hahead ⟨hline hstar, c, hline hc, hname⟩

/-- Names that are a whole fragment are names to the scanners too. -/
theorem scanned_of_splitFrom_eq_self {n : WrittenName} {others : List WrittenName}
    (hn : n.Fits isWord) (hothers : ∀ m ∈ others, m.Fits isWord) (hmore : others ≠ [])
    (hsplit : splitFrom (n.text ++ dotted others) = [n.text ++ dotted others]) :
    scanGlob (n.text ++ dotted others) = 0 ∧ ∀ m ∈ n :: others, m.Fits isNameChar := by
  have hdot : '.' ∈ n.text ++ dotted others := by
    obtain ⟨m, rest, rfl⟩ := List.exists_cons_of_ne_nil hmore
    rw [dotted_cons]
    exact List.mem_append_right _ List.mem_cons_self
  have houtside : ∀ m ∈ n :: others, ∀ d ∈ m.bareChars,
      d ∈ outsideQuotes (n.text ++ dotted others) := fun m hm d hd =>
    (mem_outsideQuotes_joined isWord_quote hn hothers).mpr (.inl ⟨m, hm, hd⟩)
  obtain ⟨c, rest, hfirst, hc⟩ := hn.exists_cons
  generalize htext : n.text ++ dotted others = text at hsplit hdot houtside ⊢
  have hcons : text = c :: (rest ++ dotted others) := by
    rw [← htext, hfirst, List.cons_append]
  -- a glob would end in front of the first dot
  have hglob : scanGlob text = 0 := by
    by_contra hne
    rw [splitFrom_of_glob hne, scanGlob_eq_length hne, take_length_takeWhile] at hsplit
    rw [← (List.cons.inj hsplit).1] at hdot
    simpa [isGlobStop] using List.mem_takeWhile_imp hdot
  -- what comes first is a name, and if the scanner left it out the fragment were too long
  have hnames : scanNames text ≠ 0 := by
    intro hzero
    have hdot : c ≠ '.' := ne_of_quote_or hc (by decide) isWord_dot
    have hopen : c ≠ '[' := ne_of_quote_or hc (by decide) (isWord_eq_of_lt (by decide))
    have hparts := flatten_splitFrom_sublist (rest ++ dotted others)
    rw [hcons] at hglob hzero hsplit
    rw [splitFrom_of_none hglob hzero (scanDescendant_of_ne_dot hdot _)
      (scanBracket_of_ne hopen _)] at hsplit
    rw [hsplit] at hparts
    simpa using hparts.length_le
  refine ⟨hglob, fun m hm => ?_⟩
  -- the scanner takes the same text, so outside of quotes it has only characters of names
  rw [splitFrom_of_names hglob hnames] at hsplit
  obtain ⟨n', others', hn', hothers', htext'⟩ := exists_names_of_scanNames hnames
  rw [(List.cons.inj hsplit).1] at htext'
  have hfits : m.Fits isWord := List.forall_mem_cons.mpr ⟨hn, hothers⟩ m hm
  refine hfits.of_bareChars fun d hd => ?_
  have hmem := houtside m hm d hd
  rw [htext', mem_outsideQuotes_joined isNameChar_quote hn' hothers'] at hmem
  rcases hmem with ⟨k, hk, hd'⟩ | ⟨rfl, -⟩
  · exact (List.forall_mem_cons.mpr ⟨hn', hothers'⟩ k hk).bareChars d hd'
  · exact absurd isWord_dot (by rw [hfits.bareChars _ hd]; decide)

/-- The names before the last one of such a fragment are read as one step along them. -/
theorem parse_front {front : List WrittenName} {last : WrittenName} (hne : front ≠ [])
    (hfront : ∀ m ∈ front, m.Fits isWord) (hlast : last.Fits isWord) (hone : split path = [path])
    (htext : path.toList = join ['.'] ((front ++ [last]).map WrittenName.text)) :
    parse (String.ofList (join ['.'] (front.map WrittenName.text))) =
      [.plain (front.map fun m => String.ofList m.name)] := by
  -- the scanners read the whole row, so they read its front; a glob would have started in both
  obtain ⟨n, others, rfl⟩ := List.exists_cons_of_ne_nil hne
  have hn : n.Fits isWord := hfront n List.mem_cons_self
  have hothers : ∀ m ∈ others ++ [last], m.Fits isWord := by
    intro m hm
    rcases List.mem_append.mp hm with hm | hm
    · exact hfront m (List.mem_cons_of_mem n hm)
    · rw [List.mem_singleton.mp hm]
      exact hlast
  rw [List.cons_append, join_text] at htext
  have hsplit : splitFrom (n.text ++ dotted (others ++ [last])) =
      [n.text ++ dotted (others ++ [last])] := by
    rw [split, htext, stripRoot_joined hn] at hone
    obtain ⟨fragment, hfragment, hpath⟩ := List.map_eq_singleton_iff.mp hone
    rw [hfragment, ← htext, ← hpath, String.toList_ofList]
  obtain ⟨hglob, hscanned⟩ := scanned_of_splitFrom_eq_self hn hothers (by simp) hsplit
  have hfront_glob : scanGlob (n.text ++ dotted others) = 0 := by
    rw [dotted, List.flatMap_append, ← List.append_assoc] at hglob
    exact scanGlob_eq_zero_of_append hglob
  rw [join_text]
  refine parse_joined (fun m hm => hscanned m ?_) hfront hfront_glob
  rw [← List.cons_append]
  exact List.mem_append_left _ hm

end DocQuery.Path

namespace DocQuery.Store

open DocQuery.Text DocQuery.Path DocQuery.Edit

variable {s : Store} {root : Handle} {u v w : Value} {path parent name : String}
  {names : List String}

/-! ## Finding and putting -/

theorem walk_singleton (s : Store) (v : Value) (name : String) :
    s.walk v [name] = s.stepName v name := by
  rw [walk]
  cases s.stepName v name with
  | error e => rfl
  | ok hit => cases hit <;> rfl

/-- A walk along two rows of names is one along the first, and one along the second from there. -/
theorem walk_append_names (s : Store) (v : Value) (names more : List String) :
    s.walk v (names ++ more) = (do
      match ← s.walk v names with
      | some w => s.walk w more
      | none => return none) := by
  induction names generalizing v with
  | nil => rfl
  | cons name names ih =>
    simp only [List.cons_append, walk]
    cases s.stepName v name with
    | error e => rfl
    | ok hit =>
      cases hit with
      | none => rfl
      | some next => exact ih next

/-- A walk along a row of names is one along all of them but the last, and one more step. -/
theorem walk_concat (s : Store) (v : Value) (names : List String) (name : String) :
    s.walk v (names ++ [name]) = (do
      match ← s.walk v names with
      | some w => s.stepName w name
      | none => return none) := by
  simp only [walk_append_names, walk_singleton]

/-- No walk below the root of an acyclic document ends at the root. -/
theorem not_same_of_walk (hacyclic : s.AcyclicFrom root) (hne : names ≠ [])
    (hwalk : s.walk (.container root) names = .ok (some w)) : w.same (.container root) = false := by
  obtain ⟨first, names, rfl⟩ := List.exists_cons_of_ne_nil hne
  apply not_same_of_ne
  rintro rfl
  obtain ⟨u, hstep, -⟩ := walk_cons_eq_some hwalk
  have hsize : root.index < s.size := lt_size_of_mem_children (mem_children_of_stepName hstep)
  exact hacyclic root .refl (transGen_of_walk hsize hwalk)

/-- In an acyclic document a walk along names finds what one more step finds from the hit of the
walk along all names but the last. -/
theorem navigate_concat (hacyclic : s.AcyclicFrom root) (hne : names ≠ []) (name : String) :
    (s.navigate (names ++ [name]) (.container root)).map Option.toList = (do
      let parents ← (s.navigate names (.container root)).map Option.toList
      s.applyAll (.plain [name]) parents) := by
  have hconcat := walk_concat s (.container root) names name
  cases hwalk : s.walk (.container root) names with
  | error e =>
    rw [hwalk] at hconcat
    simp only [navigate, hconcat, hwalk]
    rfl
  | ok hit =>
    rw [hwalk] at hconcat
    cases hit with
    | none =>
      simp only [navigate, hconcat, hwalk]
      rfl
    | some w =>
      -- the walk goes down, so neither its end nor what is one step further is where it started
      have hw := not_same_of_walk hacyclic hne hwalk
      have hparents : (s.navigate names (.container root)).map Option.toList = .ok [w] := by
        simp only [navigate, hwalk, bind, Except.bind, pure, Except.pure, Except.map,
          Option.filter_some, hw, Bool.not_false, if_true, Option.toList_some]
      rw [hparents]
      show _ = s.applyAll (.plain [name]) [w]
      rw [applyAll_singleton, apply, navigate, navigate, walk_singleton]
      replace hconcat : s.walk (.container root) (names ++ [name]) = s.stepName w name := hconcat
      rw [hconcat]
      cases hstep : s.stepName w name with
      | error e => rfl
      | ok next =>
        cases next with
        | none => rfl
        | some u =>
          have hroot := not_same_of_walk hacyclic (by simp) (hconcat.trans hstep)
          have hparent : u.same w = false := by
            cases w with
            | container o =>
              have hchild := mem_children_of_stepName hstep
              have hreach : s.Reaches root o := by
                obtain ⟨first, rest, rfl⟩ := List.exists_cons_of_ne_nil hne
                exact (transGen_of_walk (lt_size_of_mem_children hchild) hwalk).to_reflTransGen
              exact not_same_of_walk (hacyclic.of_reaches hreach) (List.cons_ne_nil name [])
                ((walk_singleton s _ name).trans hstep)
            | _ => cases hstep
          simp only [bind, Except.bind, pure, Except.pure, Except.map, Option.filter_some, hroot,
            hparent, Bool.not_false, if_true]

end DocQuery.Store

namespace DocQuery.Edit

open DocQuery.Text DocQuery.Path

variable {path name : String} {names : List String}

/-! ## Reading a target -/

/-- A last name without quotes is the key, and the names before it are left. -/
theorem splitTarget_of_bare {front : List WrittenName} {word : List Char}
    (hword : (WrittenName.bare word).Fits isWord)
    (htext : path.toList = join ['.'] ((front ++ [WrittenName.bare word]).map WrittenName.text)) :
    splitTarget path =
      (String.ofList (join ['.'] (front.map WrittenName.text)), .name (String.ofList word)) := by
  have hdot : '.' ∉ word := fun hmem => ne_of_holds (hword.2 '.' hmem) isWord_dot rfl
  rw [List.map_append, List.map_singleton] at htext
  rw [← String.ofList_toList (s := path), htext]
  exact (splitTarget_join _ hdot).trans (by rw [parse_word hword.1 hword.2])

/-- A target that is read as names is cut in front of its last name exactly if this is written
without quotes.  What is left is then read as the names before it, and a put writes the member that
a query finds: both look under the last name in what the path of the others finds. -/
theorem splitTarget_names (hread : segment path = .plain (names ++ [name])) :
    ((splitTarget path).2 = .name name ↔ path.toList.getLast? ≠ some '"') ∧
    (path.toList.getLast? ≠ some '"' →
      ReadsAs (splitTarget path).1 names ∧
      ∀ (s : Store) (root : Handle),
        (∀ v, s.put (.container root) path v =
          s.putAll (.container root) (splitTarget path).1 .replace [(.name name, v)]) ∧
        (split path = [path] → s.AcyclicFrom root →
          s.find (.container root) path = (do
            let parents ← s.find (.container root) (splitTarget path).1
            s.applyAll (.plain [name]) parents))) := by
  obtain ⟨front, last, hfront, hlast, htext, hnames, hname⟩ := exists_written_of_segment hread
  have hend : path.toList.getLast? = some '"' ↔ last.isQuoted = true := by
    rw [htext, List.map_append, List.map_singleton, getLast?_join_concat _ hlast.text_ne_nil,
      getLast?_eq_quote_iff hlast]
  cases last with
  | quoted body =>
    -- the key ends with the quote, and no name has a quote in it
    have hquote : path.toList.getLast? = some '"' := hend.mpr rfl
    refine ⟨iff_of_false (fun hkey => ?_) (not_not_intro hquote), fun h => absurd hquote h⟩
    have hmem := quote_mem_of_splitTarget hquote hkey
    rw [hname, String.toList_ofList] at hmem
    exact hlast.2 hmem
  | bare word =>
    have hsplit := splitTarget_of_bare hlast htext
    have hbare : path.toList.getLast? ≠ some '"' := fun hquote => by cases hend.mp hquote
    replace hname : name = String.ofList word := hname
    rw [hsplit, ← hname]
    refine ⟨iff_of_true rfl hbare, fun _ => ⟨hnames ▸ readsAs_join hfront, fun s root => ?_⟩⟩
    refine ⟨fun v => ?_, fun hone hacyclic => ?_⟩
    · rw [Store.put, Store.putIn, hsplit, ← hname]
    · have hparse : parse path = [.plain (names ++ [name])] := by
        rw [parse, hone, List.map_singleton, hread]
      rw [find_of_parse_eq_plain hparse]
      by_cases hempty : front = []
      · -- a single name is looked up in the root, which the empty path finds
        subst hempty
        rw [hnames]
        exact (Store.applyAll_singleton s (.plain [name]) (.container root)).symm
      · have hfrontParse := parse_front hempty hfront hlast hone htext
        rw [← hnames] at hfrontParse
        have hne : names ≠ [] := by simpa [hnames] using hempty
        rw [find_of_parse_eq_plain hfrontParse]
        exact Store.navigate_concat hacyclic hne name

/-- A member of what a name between quotes leads to. -/
theorem splitTarget_names_quoted_parent :
    let s : Store := ⟨#[.object [("a b", .container ⟨1⟩)], .object [("x", .bool true)]]⟩
    let path := "\"a b\".x"
    splitTarget path = ("\"a b\"", .name "x") ∧ ReadsAs "\"a b\"" ["a b"] ∧
      s.find (.container ⟨0⟩) path = (do
        let parents ← s.find (.container ⟨0⟩) "\"a b\""
        s.applyAll (.plain ["x"]) parents) := by
  intro s path
  have hacyclic : s.AcyclicFrom ⟨0⟩ := by
    apply Store.acyclicFrom_of_index_lt
    rintro ⟨_ | _ | i⟩ h ⟨hlt, hmem⟩
    case succ.succ =>
      have hcell : s.cell ⟨i + 2⟩ = .array [] := rfl
      simp [hcell, Cell.children] at hmem
    all_goals simp_all [s, Store.cell, Cell.children]
  have hread : segment path = .plain (["a b"] ++ ["x"]) := by decide +kernel
  have htarget := splitTarget_names hread
  have hbare : path.toList.getLast? ≠ some '"' := by decide
  obtain ⟨hparent, hstore⟩ := htarget.2 hbare
  have hsplit : splitTarget path = ("\"a b\"", .name "x") :=
    Prod.ext (by decide +kernel) (htarget.1.mpr hbare)
  rw [hsplit] at hparent hstore
  exact ⟨hsplit, hparent, (hstore s ⟨0⟩).2 (by decide +kernel) hacyclic⟩

/-- A last name between quotes: the key keeps the quotes, a dot between them is taken for the one in
front of the key, and what is written is not what is found. -/
theorem splitTarget_quoted_key :
    segment "a.\"b\"" = .plain ["a", "b"] ∧ splitTarget "a.\"b\"" = ("a", .name "\"b\"") ∧
      segment "a.\"b.c\"" = .plain ["a", "b.c"] ∧
      splitTarget "a.\"b.c\"" = ("a.\"b", .name "c\"") ∧
      (let s : Store := ⟨#[.object [("a b", .integer 1)]]⟩
      let after := s.put (.container ⟨0⟩) "\"a b\"" (.integer 2)
      s.find (.container ⟨0⟩) "\"a b\"" = .ok [.integer 1] ∧
        after.store.find (.container ⟨0⟩) "\"a b\"" = .ok [.integer 1] ∧
        after.store.cell ⟨0⟩ = .object [("a b", .integer 1), ("\"a b\"", .integer 2)]) := by
  decide +kernel

end DocQuery.Edit
