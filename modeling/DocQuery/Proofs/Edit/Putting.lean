import Mathlib
import DocQuery.Edit.Write
import DocQuery.Proofs.Path.Dotted
import DocQuery.Proofs.Store.Reachability

/-!
# Putting and Finding

What is put under a dotted row of words is found there afterwards, putting it once more changes
nothing, and of two values put at one place only the last one counts.  A put changes the one
container that the path of the parent finds, and of this one only the member that it names; an
array is opened at the index that is named.

The way to the parent never leads through the parent itself, because the document is acyclic.  So
a put does not disturb it, even if it closes a cycle.

## Main definitions

- `MemberPut`: what a put does to the members of an object

## Main statements

- `put_wordPath`: what is found after a put, and what has changed
-/

namespace DocQuery.Edit

open DocQuery.Decimal DocQuery.Path
open DocQuery.Json (Members)

/-- The members `new` are the members `old` after the value `v` was put under a name. -/
structure MemberPut (name : String) (v : Value) (old new : Members Value) : Prop where
  /-- A member that is there keeps its place -/
  replaced : v ≠ .null → ∀ before w after, name ∉ before.names →
    old = before ++ (name, w) :: after → new = before ++ (name, v) :: after
  /-- A new member comes last -/
  appended : v ≠ .null → name ∉ old.names → new = old ++ [(name, v)]
  /-- The absent value takes the member out -/
  removed : v = .null → new = old.filter (·.1 != name)

variable {s t : Store} {g root o : Handle} {u v w : Value} {name : String}
  {names more : List String}

/-! ## Walks -/

/-- A walk along names that reaches a value takes one step after the other. -/
theorem walk_cons_eq_some (hwalk : s.walk u (name :: names) = .ok (some v)) :
    ∃ w, s.stepName u name = .ok (some w) ∧ s.walk w names = .ok (some v) := by
  rw [Store.walk] at hwalk
  cases hstep : s.stepName u name with
  | error e => rw [hstep] at hwalk; cases hwalk
  | ok next =>
    rw [hstep] at hwalk
    cases next with
    | none => cases hwalk
    | some w => exact ⟨w, rfl, hwalk⟩

theorem walk_append (hwalk : s.walk u names = .ok (some w)) (more : List String) :
    s.walk u (names ++ more) = s.walk w more := by
  induction names generalizing u with
  | nil =>
    rw [Store.walk] at hwalk
    cases hwalk
    rfl
  | cons name names ih =>
    obtain ⟨next, hstep, hrest⟩ := walk_cons_eq_some hwalk
    rw [List.cons_append, Store.walk, hstep]
    exact ih hrest

/-- A walk that takes a step leads below the container where it starts. -/
theorem transGen_of_walk (ho : o.index < s.size)
    (hwalk : s.walk (.container g) (name :: names) = .ok (some (.container o))) :
    Relation.TransGen s.Child g o := by
  induction names generalizing g name with
  | nil =>
    obtain ⟨w, hstep, hrest⟩ := walk_cons_eq_some hwalk
    cases hrest
    exact .single ⟨ho, Store.mem_children_of_stepName hstep⟩
  | cons next names ih =>
    obtain ⟨w, hstep, hrest⟩ := walk_cons_eq_some hwalk
    obtain ⟨u, hnext, -⟩ := walk_cons_eq_some hrest
    cases w with
    | container k =>
      -- the container in between holds something, so it is one of the store
      have hsize : k.index < s.size :=
        Store.lt_size_of_mem_children (Store.mem_children_of_stepName hnext)
      exact .head ⟨hsize, Store.mem_children_of_stepName hstep⟩ (ih hrest)
    | _ => cases hnext

/-- The way to a container of an acyclic document does not depend on what the container holds. -/
theorem walk_congr (ho : o.index < s.size) (hagree : ∀ g, g ≠ o → t.cell g = s.cell g)
    (hacyclic : ∀ g, u = .container g → s.AcyclicFrom g)
    (hwalk : s.walk u names = .ok (some (.container o))) :
    t.walk u names = .ok (some (.container o)) := by
  -- on the names; each step starts at a container above the one that may differ
  induction names generalizing u with
  | nil => exact hwalk
  | cons name names ih =>
    obtain ⟨w, hstep, hrest⟩ := walk_cons_eq_some hwalk
    cases u with
    | container g =>
      have hroot : s.AcyclicFrom g := hacyclic g rfl
      have hne : g ≠ o := by
        rintro rfl
        exact hroot g .refl (transGen_of_walk ho hwalk)
      have hstep' : t.stepName (.container g) name = .ok (some w) := by
        rw [← hstep]
        simp only [Store.stepName, hagree g hne]
      rw [Store.walk, hstep']
      apply ih
      · rintro k rfl
        intro h hreach hcycle
        have hbelow := Relation.TransGen.trans_right hreach hcycle
        have hchild : s.Child g k :=
          ⟨Store.lt_size_of_transGen hbelow, Store.mem_children_of_stepName hstep⟩
        exact hroot.of_reaches (.single hchild) h hreach hcycle
      · exact hrest
    | _ => cases hstep

/-! ## Finding along words -/

/-- A path that is read as a single row of names finds the hit of the walk along them. -/
theorem find_of_parse_eq_plain {path : String} (hparse : parse path = [.plain names]) (s : Store)
    (root : Handle) :
    s.find (.container root) path = (s.navigate names (.container root)).map Option.toList :=
  Store.find_of_parse_singleton hparse (fun _ => nofun) s root

/-- A row of words finds the hit of the walk along them. -/
theorem find_wordPath (hne : names ≠ []) (hnames : ∀ n ∈ names, IsBareName n) (s : Store)
    (root : Handle) :
    s.find (.container root) (wordPath names) =
      (s.navigate names (.container root)).map Option.toList :=
  find_of_parse_eq_plain (parse_wordPath hne hnames) s root

/-- What a row of words finds is where the walk along them ends. -/
theorem walk_of_find (hnames : ∀ n ∈ names, IsBareName n)
    (hfind : s.find (.container root) (wordPath names) = .ok [v]) :
    s.walk (.container root) names = .ok (some v) := by
  by_cases hne : names = []
  · subst hne
    -- the empty path finds the root itself
    rw [Store.find, if_pos (.inl rfl)] at hfind
    cases hfind
    rfl
  · rw [find_wordPath hne hnames, Store.navigate] at hfind
    cases hwalk : s.walk (.container root) names with
    | error e => rw [hwalk] at hfind; cases hfind
    | ok hit =>
      rw [hwalk] at hfind
      have hlist : (hit.filter fun w => !w.same (.container root)).toList = [v] :=
        Except.ok.inj hfind
      have hsome : hit.filter (fun w => !w.same (.container root)) = some v := by
        rwa [Option.toList_eq_singleton_iff] at hlist
      rw [(Option.filter_eq_some_iff.mp hsome).1]

/-- Two stores in which the walk ends alike find the same along it. -/
theorem find_congr_of_walk (hnames : ∀ n ∈ names, IsBareName n)
    (hwalk : t.walk (.container root) names = s.walk (.container root) names) :
    t.find (.container root) (wordPath names) = s.find (.container root) (wordPath names) := by
  by_cases hne : names = []
  · subst hne
    rfl
  · rw [find_wordPath hne hnames, find_wordPath hne hnames, Store.navigate, Store.navigate, hwalk]

/-- One more word looks up a child of what the words before it find. -/
theorem find_wordPath_concat (hnames : ∀ n ∈ names, IsBareName n) (hname : IsBareName name)
    (hwalk : s.walk (.container root) names = .ok (some (.container o))) :
    s.find (.container root) (wordPath (names ++ [name])) =
      (s.stepName (.container o) name).map fun hit =>
        (hit.filter fun w => !w.same (.container root)).toList := by
  have hall : ∀ n ∈ names ++ [name], IsBareName n := by
    simpa [or_imp, forall_and] using ⟨hnames, hname⟩
  rw [find_wordPath (by simp) hall, Store.navigate, walk_append hwalk, Store.walk]
  cases s.stepName (.container o) name with
  | error e => rfl
  | ok hit => cases hit <;> rfl

/-! ## Putting -/

/-- A put into the only container that the path finds is a single write. -/
theorem put_eq_write (hname : IsBareName name) {cell : Cell}
    (hfind : s.find (.container root) (wordPath names) = .ok [.container o])
    (hcell : writeCell .replace (s.cell o) (.name name) v = .ok cell) :
    s.put (.container root) (wordPath (names ++ [name])) v = ⟨s.write o cell, none⟩ := by
  have hinsert : s.insert .replace ⟨.container o, .name name, v⟩ = .ok (s.write o cell) := by
    simp only [Store.insert, hcell]
    rfl
  simp only [Store.put, Store.putIn, splitTarget_wordPath names hname, Store.putAll, hfind, writes,
    List.flatMap_cons, List.flatMap_nil, List.map_cons, List.map_nil, List.append_nil,
    Store.runWrites, hinsert]

theorem writeMember_null (members : Members Value) (name : String) :
    writeMember .replace members name .null = members.remove name := rfl

theorem writeMember_of_ne_null (hv : v ≠ .null) (members : Members Value) (name : String) :
    writeMember .replace members name v = members.set name v := by
  have hnull : v.isNull = false := Bool.eq_false_of_not_eq_true (mt Value.isNull_iff.mp hv)
  simp [writeMember, hnull]

/-- Putting into an object does to its members what it should. -/
theorem memberPut_writeMember (name : String) (v : Value) (members : Members Value) :
    MemberPut name v members (writeMember .replace members name v) := by
  constructor
  · rintro hv before w after hbefore rfl
    rw [writeMember_of_ne_null hv, Members.set_append_cons hbefore]
  · intro hv hmem
    rw [writeMember_of_ne_null hv, Members.set_of_notMem hmem]
  · rintro rfl
    rfl

/-- A value that was put before does not count, unless it is the absent one: a member that is taken
out and put back has lost its place. -/
theorem writeMember_writeMember (members : Members Value) (name : String) (hw : w ≠ .null ∨ w = v) :
    writeMember .replace (writeMember .replace members name w) name v =
      writeMember .replace members name v := by
  by_cases hv : v = .null
  · subst hv
    by_cases hnull : w = .null
    · subst hnull
      simp only [writeMember_null, Members.remove_remove]
    · simp only [writeMember_null, writeMember_of_ne_null hnull, Members.remove_set]
  · have hnull : w ≠ .null := by
      rcases hw with hw | rfl
      · exact hw
      · exact hv
    simp only [writeMember_of_ne_null hv, writeMember_of_ne_null hnull, Members.set_set]

theorem get?_writeMember (members : Members Value) (name : String) (v : Value) :
    (writeMember .replace members name v).get? name = if v = .null then none else some v := by
  split
  · next hv =>
    rw [hv, writeMember_null, Members.get?_remove, if_pos rfl]
  · next hv =>
    rw [writeMember_of_ne_null hv, Members.get?_set, if_pos rfl]

/-! ## Opening an array -/

theorem insertIdx_eq_take_append_drop {items : List Value} {i : Nat} (h : i ≤ items.length)
    (v : Value) : items.insertIdx i v = items.take i ++ v :: items.drop i := by
  induction items generalizing i with
  | nil =>
    obtain rfl : i = 0 := Nat.le_zero.mp h
    rfl
  | cons item items ih =>
    cases i with
    | zero => rfl
    | succ i =>
      rw [List.insertIdx_succ_cons, ih (Nat.le_of_succ_le_succ h)]
      rfl

/-- A word has no sign, so it is read as a natural number. -/
theorem readInt?_of_isBareName (hname : IsBareName name) :
    readInt? name.toList = (readNat? name.toList).map Int.ofNat := by
  obtain ⟨c, cs, hcons⟩ := List.exists_cons_of_ne_nil hname.1
  have hc : isBareChar c = true := hname.2 c (by rw [hcons]; exact List.mem_cons_self)
  have hminus : c ≠ '-' := ne_of_holds hc (by decide)
  have hplus : c ≠ '+' := ne_of_holds hc (by decide)
  rw [hcons]
  unfold readInt?
  split
  · next heq => exact absurd (List.cons.inj heq).1 hminus
  · next heq => exact absurd (List.cons.inj heq).1 hplus
  · rfl

/-- A word that is the key of an index is read as this index. -/
theorem readIndex_of_position? (hname : IsBareName name) {i : Int64}
    (hposition : position? (.name name) = .ok (some i)) :
    isInteger name.toList = true ∧ 0 ≤ i.toInt ∧ Store.readIndex name.toList = i.toInt.toNat := by
  rw [position?] at hposition
  split at hposition
  · next hinteger =>
    have hread : readInt64? name.toList = some i := Except.ok.inj hposition
    rw [readInt64?, readInt?_of_isBareName hname] at hread
    cases hnat : readNat? name.toList with
    | none => rw [hnat] at hread; cases hread
    | some n =>
      rw [hnat] at hread
      have hi : i.toInt = n := toInt_of_toInt64? hread
      -- what fits 64 bits with a sign is below the largest index
      have hsmall : n ≤ Store.maxIndex := by
        have hmax : Int64.maxValue.toInt = 2 ^ 63 - 1 := by decide
        have hindex : Store.maxIndex = 2 ^ 64 - 1 := by decide
        have hle := Int64.toInt_le i
        omega
      refine ⟨hinteger, by omega, ?_⟩
      rw [Store.readIndex, hnat, hi, Int.toNat_natCast]
      exact min_eq_left hsmall
  · cases hposition

/-- Putting at an index of an array opens the array there. -/
theorem writeCell_array {items : List Value} {i : Int64}
    (hposition : position? (.name name) = .ok (some i)) (hi : 0 ≤ i.toInt)
    (hlength : i.toInt < items.length) (hv : v ≠ .null) :
    writeCell .replace (.array items) (.name name) v =
      .ok (.array (items.take i.toInt.toNat ++ v :: items.drop i.toInt.toNat)) := by
  have hnull : v.isNull = false := Bool.eq_false_of_not_eq_true (mt Value.isNull_iff.mp hv)
  rw [writeCell, hposition]
  simp only [bind, Except.bind, pure, Except.pure, writeItem, hnull, Bool.false_eq_true, if_false,
    hi, hlength, and_self, if_true]
  rw [insertIdx_eq_take_append_drop (by omega)]

/-! ## What is found after a put -/

/-- Whatever is written to the parent, it is found as before, and one more word looks up what
the parent holds now. -/
theorem find_write (hacyclic : s.AcyclicFrom root) (hnames : ∀ n ∈ names, IsBareName n)
    (ho : o.index < s.size) (hfind : s.find (.container root) (wordPath names) = .ok [.container o])
    (cell : Cell) :
    (s.write o cell).walk (.container root) names = .ok (some (.container o)) ∧
      (s.write o cell).find (.container root) (wordPath names) = .ok [.container o] := by
  have hwalk := walk_of_find hnames hfind
  have hafter : (s.write o cell).walk (.container root) names = .ok (some (.container o)) := by
    apply walk_congr ho (fun g hg => Store.cell_write_of_ne hg s cell) _ hwalk
    rintro g ⟨⟩
    exact hacyclic
  refine ⟨hafter, ?_⟩
  rw [← hfind]
  exact find_congr_of_walk hnames (hafter.trans hwalk.symm)

theorem not_same_of_ne (h : v ≠ .container root) : v.same (.container root) = false := by
  cases v with
  | container g =>
    apply beq_false_of_ne
    rintro rfl
    exact h rfl
  | _ => rfl

/-- After a write to the parent, one more word looks up what the parent holds now. -/
theorem find_write_concat (hacyclic : s.AcyclicFrom root) (hnames : ∀ n ∈ names, IsBareName n)
    (hname : IsBareName name) (ho : o.index < s.size)
    (hfind : s.find (.container root) (wordPath names) = .ok [.container o]) {cell : Cell}
    {found : Option Value}
    (hstep : (s.write o cell).stepName (.container o) name = .ok found) :
    (s.write o cell).find (.container root) (wordPath (names ++ [name])) =
      .ok (found.filter fun w => !w.same (.container root)).toList := by
  obtain ⟨hwalk, -⟩ := find_write hacyclic hnames ho hfind cell
  rw [find_wordPath_concat hnames hname hwalk, hstep]
  rfl

section Object

variable {members : Members Value}

theorem put_object (hname : IsBareName name)
    (hfind : s.find (.container root) (wordPath names) = .ok [.container o])
    (hcell : s.cell o = .object members) (v : Value) :
    s.put (.container root) (wordPath (names ++ [name])) v =
      ⟨s.write o (.object (writeMember .replace members name v)), none⟩ := by
  apply put_eq_write hname hfind
  rw [hcell, writeCell]

/-- The value is found under its name, the absent one is not. -/
theorem find_put_object (hacyclic : s.AcyclicFrom root) (hnames : ∀ n ∈ names, IsBareName n)
    (hname : IsBareName name)
    (hfind : s.find (.container root) (wordPath names) = .ok [.container o])
    (hcell : s.cell o = .object members) (hroot : v ≠ .container root) :
    (s.put (.container root) (wordPath (names ++ [name])) v).store.find (.container root)
      (wordPath (names ++ [name])) = .ok (if v = .null then [] else [v]) := by
  have ho : o.index < s.size := Store.lt_size_of_object hcell
  rw [put_object hname hfind hcell]
  have hstep : (s.write o (.object (writeMember .replace members name v))).stepName
      (.container o) name = .ok (if v = .null then none else some v) := by
    simp only [Store.stepName, Store.cell_write_self ho, get?_writeMember]
  rw [find_write_concat hacyclic hnames hname ho hfind hstep]
  split
  · rfl
  · simp [not_same_of_ne hroot]

/-- Of two values put under one name only the last one counts. -/
theorem put_put_object (hacyclic : s.AcyclicFrom root) (hnames : ∀ n ∈ names, IsBareName n)
    (hname : IsBareName name)
    (hfind : s.find (.container root) (wordPath names) = .ok [.container o])
    (hcell : s.cell o = .object members) (hw : w ≠ .null ∨ w = v) :
    (s.put (.container root) (wordPath (names ++ [name])) w).store.put (.container root)
        (wordPath (names ++ [name])) v =
      s.put (.container root) (wordPath (names ++ [name])) v := by
  have ho : o.index < s.size := Store.lt_size_of_object hcell
  rw [put_object hname hfind hcell w, put_object hname hfind hcell v]
  -- the parent is found in the changed store too, with the changed members
  obtain ⟨-, hfind'⟩ := find_write hacyclic hnames ho hfind
    (.object (writeMember .replace members name w))
  have hcell' := Store.cell_write_self ho (.object (writeMember .replace members name w))
  show Store.put (s.write o _) _ _ _ = _
  rw [put_object hname hfind' hcell', writeMember_writeMember members name hw, Store.write_write]

end Object

section Array

variable {items : List Value} {i : Int64}

theorem put_array (hname : IsBareName name)
    (hfind : s.find (.container root) (wordPath names) = .ok [.container o])
    (hcell : s.cell o = .array items) (hposition : position? (.name name) = .ok (some i))
    (hlength : i.toInt < items.length) (hv : v ≠ .null) :
    s.put (.container root) (wordPath (names ++ [name])) v =
      ⟨s.write o (.array (items.take i.toInt.toNat ++ v :: items.drop i.toInt.toNat)), none⟩ := by
  obtain ⟨-, hi, -⟩ := readIndex_of_position? hname hposition
  apply put_eq_write hname hfind
  rw [hcell]
  exact writeCell_array hposition hi hlength hv

/-- The value is found at the index where the array was opened. -/
theorem find_put_array (hacyclic : s.AcyclicFrom root) (hnames : ∀ n ∈ names, IsBareName n)
    (hname : IsBareName name)
    (hfind : s.find (.container root) (wordPath names) = .ok [.container o])
    (hcell : s.cell o = .array items) (hposition : position? (.name name) = .ok (some i))
    (hlength : i.toInt < items.length) (hv : v ≠ .null) (ho : o.index < s.size)
    (hroot : v ≠ .container root) :
    (s.put (.container root) (wordPath (names ++ [name])) v).store.find (.container root)
      (wordPath (names ++ [name])) = .ok [v] := by
  obtain ⟨hinteger, hi, hindex⟩ := readIndex_of_position? hname hposition
  have hitem : (items.take i.toInt.toNat ++ v :: items.drop i.toInt.toNat)[i.toInt.toNat]? =
      some v := by
    have htake : (items.take i.toInt.toNat).length = i.toInt.toNat := by
      rw [List.length_take]
      omega
    rw [List.getElem?_append_right (by omega), htake, Nat.sub_self]
    rfl
  rw [put_array hname hfind hcell hposition hlength hv]
  have hstep : (s.write o (.array (items.take i.toInt.toNat ++ v ::
      items.drop i.toInt.toNat))).stepName (.container o) name = .ok (some v) := by
    simp only [Store.stepName, Store.cell_write_self ho, hinteger, if_true, hindex, hitem]
  rw [find_write_concat hacyclic hnames hname ho hfind hstep]
  simp [not_same_of_ne hroot]

end Array

/-- Let a path of words find a single container, the parent.  After a put of a value, which is not
the root itself, under one more word: if the parent is an object, the value is found there, or
nothing if it is the absent one; only the parent has changed, and only in the member of this name;
putting the value again changes nothing; and putting another value there first would not have made
a difference.  If the parent is an array and the word an index of it, the value is found there and
the elements from the index on have moved by one place. -/
theorem put_wordPath (hacyclic : s.AcyclicFrom root) (hnames : ∀ n ∈ names, IsBareName n)
    (hname : IsBareName name)
    (hfind : s.find (.container root) (wordPath names) = .ok [.container o])
    (hroot : v ≠ .container root) :
    let target := wordPath (names ++ [name])
    let after := s.put (.container root) target v
    (∀ members, s.cell o = .object members →
      after.failure? = none ∧
      after.store.find (.container root) target = .ok (if v = .null then [] else [v]) ∧
      (∃ new, after.store.cell o = .object new ∧ MemberPut name v members new) ∧
      (∀ g, g ≠ o → after.store.cell g = s.cell g) ∧
      after.store.put (.container root) target v = after ∧
      ∀ w, w ≠ .null →
        (s.put (.container root) target w).store.put (.container root) target v = after) ∧
    ∀ items i, s.cell o = .array items → position? (.name name) = .ok (some i) →
      i.toInt < items.length → v ≠ .null →
        after.failure? = none ∧
        after.store.find (.container root) target = .ok [v] ∧
        after.store.cell o = .array (items.take i.toInt.toNat ++ v :: items.drop i.toInt.toNat) ∧
        ∀ g, g ≠ o → after.store.cell g = s.cell g := by
  intro target after
  constructor
  · intro members hcell
    have ho : o.index < s.size := Store.lt_size_of_object hcell
    have hafter : after = ⟨s.write o (.object (writeMember .replace members name v)), none⟩ :=
      put_object hname hfind hcell v
    refine ⟨by rw [hafter], ?_, ?_, ?_, ?_, ?_⟩
    · exact find_put_object hacyclic hnames hname hfind hcell hroot
    · rw [hafter]
      exact ⟨_, Store.cell_write_self ho _, memberPut_writeMember name v members⟩
    · intro g hg
      rw [hafter]
      exact Store.cell_write_of_ne hg s _
    · exact put_put_object hacyclic hnames hname hfind hcell (.inr rfl)
    · intro w hw
      exact put_put_object hacyclic hnames hname hfind hcell (.inl hw)
  · intro items i hcell hposition hlength hv
    have ho : o.index < s.size := by
      -- the array has an element at the index, so it is a container of the store
      obtain ⟨-, hi, -⟩ := readIndex_of_position? hname hposition
      have hlt : i.toInt.toNat < items.length := by omega
      apply Store.lt_size_of_mem_children (v := items[i.toInt.toNat])
      rw [hcell]
      exact List.getElem_mem hlt
    have hafter : after = ⟨s.write o
        (.array (items.take i.toInt.toNat ++ v :: items.drop i.toInt.toNat)), none⟩ :=
      put_array hname hfind hcell hposition hlength hv
    refine ⟨by rw [hafter], ?_, ?_, ?_⟩
    · exact find_put_array hacyclic hnames hname hfind hcell hposition hlength hv ho hroot
    · rw [hafter]
      exact Store.cell_write_self ho _
    · intro g hg
      rw [hafter]
      exact Store.cell_write_of_ne hg s _

/-- A put that closes a cycle, and one into an array. -/
theorem put_wordPath_cycle :
    let s : Store := ⟨#[.object [("a", .container ⟨1⟩)],
      .object [("x", .bool true), ("list", .container ⟨2⟩)], .array [.integer 1, .integer 2]]⟩
    s.AcyclicFrom ⟨0⟩ ∧
      (s.put (.container ⟨0⟩) (wordPath ["a", "x"]) (.container ⟨1⟩)).store.find (.container ⟨0⟩)
        (wordPath ["a", "x"]) = .ok [.container ⟨1⟩] ∧
      (s.put (.container ⟨0⟩) (wordPath ["a", "list", "1"]) (.string "new")).store.cell ⟨2⟩ =
        .array [.integer 1, .string "new", .integer 2] := by
  intro s
  -- every container is held by one before it
  have hacyclic : s.AcyclicFrom ⟨0⟩ := by
    apply Store.acyclicFrom_of_index_lt
    rintro ⟨_ | _ | _ | i⟩ h ⟨hlt, hmem⟩
    case succ.succ.succ =>
      have hcell : s.cell ⟨i + 3⟩ = .array [] := rfl
      simp [hcell, Cell.children] at hmem
    all_goals simp_all [s, Store.cell, Cell.children]
  have hbare : ∀ n ∈ ["a", "list", "x", "1"], IsBareName n := by
    simp [IsBareName, isBareChar, Char.isAlphanum]
  refine ⟨hacyclic, ?_, ?_⟩
  · -- the value is the parent itself, so that the put closes a cycle
    have hnames : ∀ n ∈ ["a"], IsBareName n := by
      intro n hn
      exact hbare n (by simp_all)
    have hx : IsBareName "x" := hbare "x" (by simp)
    have hfind : s.find (.container ⟨0⟩) (wordPath ["a"]) = .ok [.container ⟨1⟩] := by
      rw [find_wordPath (by simp) hnames]
      rfl
    have hput := put_wordPath (v := .container ⟨1⟩) hacyclic hnames hx hfind (by simp)
    obtain ⟨-, hfound, -⟩ := hput.1 [("x", .bool true), ("list", .container ⟨2⟩)] rfl
    exact hfound
  · -- the parent is an array, and the last name its index
    have hnames : ∀ n ∈ ["a", "list"], IsBareName n := by
      intro n hn
      exact hbare n (by simp_all; tauto)
    have hposition : position? (.name "1") = .ok (some 1) := by decide +kernel
    have hindex : IsBareName "1" := hbare "1" (by simp)
    have hfind : s.find (.container ⟨0⟩) (wordPath ["a", "list"]) = .ok [.container ⟨2⟩] := by
      rw [find_wordPath (by simp) hnames]
      rfl
    have hput := put_wordPath (v := .string "new") hacyclic hnames hindex hfind (by simp)
    obtain ⟨-, -, hcell, -⟩ := hput.2 [.integer 1, .integer 2] 1 rfl hposition (by decide) (by simp)
    exact hcell

end DocQuery.Edit
