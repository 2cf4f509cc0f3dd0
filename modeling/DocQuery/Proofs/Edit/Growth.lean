import Mathlib
import DocQuery.Command.Run
import DocQuery.Proofs.Edit.Stopping
import DocQuery.Proofs.Store.Extension
import DocQuery.Proofs.Store.Loading

/-!
# Edits Lose Nothing

A write makes room for one element in an array, or changes one member of an object.  So the elements
of an array stay, in their order, and the members with other names do.  In the mode `keep` nothing
is put before what is there, and no member is changed.

Whatever holds of one write holds of a row of writes, also if one of them fails.  It is a property
of a cell before and after, so it does not matter through which parent a cell is written to, or how
often the same parent is found.

## Main definitions

- `Action`: the edits
- `Store.carriedOut`, `growth`: the writes before the first one that fails
- `Cell.Grown`: what writes leave in a cell

## Main statements

- `grown_insert`, `grown_runWrites`: what one write and a row of writes leave in a cell
- `extendedBy_insert`, `extendedBy_runWrites`: the same for the mode `keep`
- `edits_lose_nothing`: what edits and the command for them leave
-/

namespace DocQuery

open DocQuery.Edit
open DocQuery.Json (Members Tree)

/-! ## Elements and members -/

namespace Edit

theorem sublist_writeItem (mode : Mode) (items : List Value) (position : Option Int64) (v : Value) :
    items.Sublist (writeItem mode items position v) := by
  have hend : items.Sublist (items ++ [v]) := List.sublist_append_left items [v]
  unfold writeItem
  split
  · exact .refl items
  · split
    · split
      · exact List.sublist_insertIdx items _ v
      · exact hend
    · exact hend

/-- An array gets one element, unless it is an absent one. -/
theorem length_writeItem (mode : Mode) (items : List Value) (position : Option Int64) (v : Value) :
    (writeItem mode items position v).length = items.length + if v = .null then 0 else 1 := by
  unfold writeItem
  simp only [Value.isNull_iff]
  split
  · rfl
  · split
    · split
      · next hplace => exact List.length_insertIdx_of_le_length (by omega) v
      · exact List.length_append
    · exact List.length_append

theorem prefix_writeItem (items : List Value) (position : Option Int64) (v : Value) :
    items <+: writeItem .keep items position v := by
  unfold writeItem
  split
  · exact items.prefix_rfl
  · cases position <;> exact List.prefix_append items [v]

/-- Members of other names stay. -/
theorem filter_writeMember {names : List String} {name : String} (hname : name ∈ names)
    (mode : Mode) (members : Members Value) (v : Value) :
    (writeMember mode members name v).filter (·.1 ∉ names) = members.filter (·.1 ∉ names) := by
  unfold writeMember
  split
  · rfl
  · split
    · exact Members.filter_remove hname members
    · exact Members.filter_set hname members v

theorem prefix_writeMember (members : Members Value) (name : String) (v : Value) :
    members <+: writeMember .keep members name v := by
  unfold writeMember
  split
  · exact members.prefix_rfl
  · next hnew =>
    have hname : name ∉ members.names := fun hmem =>
      hnew ⟨rfl, (Members.isSome_get? members name).mpr hmem⟩
    -- so an absent value has nothing to take out, and any other one comes last
    split
    · rw [Members.remove_of_notMem hname]
    · rw [Members.set_of_notMem hname]
      exact List.prefix_append members [(name, v)]

end Edit

/-! ## Cells -/

namespace Cell

/-- An array has its elements in their order and `count` more, and an object has the members that
have none of the names. -/
inductive Grown (names : List String) (count : Nat) : Cell → Cell → Prop where
  | array {items longer : List Value} (hsublist : items.Sublist longer)
      (hlength : longer.length = items.length + count) :
      Grown names count (.array items) (.array longer)
  | object {members changed : Members Value}
      (hothers : changed.filter (·.1 ∉ names) = members.filter (·.1 ∉ names)) :
      Grown names count (.object members) (.object changed)

variable {names : List String} {a b c : Cell} {m n : Nat}

theorem Grown.refl : ∀ c : Cell, Grown names 0 c c
  | .array items => .array (.refl items) rfl
  | .object _ => .object rfl

theorem Grown.trans (hab : Grown names m a b) (hbc : Grown names n b c) :
    Grown names (m + n) a c := by
  cases hab with
  | array hsublist hlength =>
    cases hbc with
    | array hsublist' hlength' => exact .array (hsublist.trans hsublist') (by omega)
  | object hothers =>
    cases hbc with
    | object hothers' => exact .object (hothers'.trans hothers)

theorem grown_writeCell {mode : Mode} {key : Key} {v : Value}
    (hkey : ∀ name, key = .name name → name ∈ names) (h : writeCell mode a key v = .ok b) :
    Grown names (if v = .null then 0 else 1) a b := by
  rcases exists_of_writeCell h with
    ⟨items, position, rfl, -, rfl⟩ | ⟨members, name, rfl, rfl, rfl⟩
  · exact .array (sublist_writeItem mode items position v) (length_writeItem mode items position v)
  · exact .object (filter_writeMember (hkey name rfl) mode members v)

theorem extendedBy_writeCell {key : Key} {v : Value} (h : writeCell .keep a key v = .ok b) :
    a.ExtendedBy b := by
  rcases exists_of_writeCell h with ⟨items, position, rfl, -, rfl⟩ | ⟨members, name, rfl, -, rfl⟩
  · exact .array (prefix_writeItem items position v)
  · exact .object (prefix_writeMember members name v)

end Cell

/-! ## Rows of writes -/

/-- How many values the writes put into the container. -/
def Edit.growth (h : Handle) (ws : List Write) : Nat :=
  ws.countP fun w => w.parent = .container h ∧ w.value ≠ .null

namespace Store

variable {s t : Store} {mode : Mode} {w : Write} {names : List String} {h : Handle}

/-- The writes of a row that are carried out, which are those before the first one that fails. -/
def carriedOut (s : Store) (mode : Mode) : List Write → List Write
  | [] => []
  | w :: ws =>
    match s.insert mode w with
    | .ok t => w :: t.carriedOut mode ws
    | .error _ => []

/-- One write leaves all elements and all members of other names in every container. -/
theorem grown_insert (hkey : ∀ name, w.key = .name name → name ∈ names)
    (hinsert : s.insert mode w = .ok t) (hsize : h.index < s.size) :
    Cell.Grown names (growth h [w]) (s.cell h) (t.cell h) := by
  obtain ⟨parent, cell, hparent, hcell, rfl⟩ := exists_of_insert hinsert
  by_cases heq : h = parent
  · subst heq
    have hcount : growth h [w] = if w.value = .null then 0 else 1 := by simp [growth, hparent]
    rw [cell_write_self hsize, hcount]
    exact Cell.grown_writeCell hkey hcell
  · -- any other container is left alone, and the write does not count for it
    have hcount : growth h [w] = 0 := by simp [growth, hparent, Ne.symm heq]
    rw [cell_write_of_ne heq, hcount]
    exact .refl _

/-- A row of writes leaves them as well, and an array gets one element for every value that is put
into it before a write fails. -/
theorem grown_runWrites {ws : List Write}
    (hkeys : ∀ w ∈ ws, ∀ name, w.key = .name name → name ∈ names) (hsize : h.index < s.size) :
    Cell.Grown names (growth h (s.carriedOut mode ws)) (s.cell h)
      ((s.runWrites mode ws).store.cell h) := by
  -- on the writes; the first one that fails leaves the store as it found it
  induction ws generalizing s with
  | nil => exact .refl _
  | cons w ws ih =>
    obtain ⟨hkey, hrest⟩ := List.forall_mem_cons.mp hkeys
    cases hinsert : s.insert mode w with
    | error e =>
      simp only [runWrites, carriedOut, hinsert]
      exact .refl _
    | ok t =>
      have hcount : growth h (w :: t.carriedOut mode ws) =
          growth h [w] + growth h (t.carriedOut mode ws) := by
        rw [growth, growth, growth, ← List.countP_append, List.singleton_append]
      simp only [runWrites, carriedOut, hinsert, hcount]
      exact (grown_insert hkey hinsert hsize).trans (ih hrest (size_insert hinsert ▸ hsize))

/-- In the mode `keep` one write only makes containers longer. -/
theorem extendedBy_insert (hinsert : s.insert .keep w = .ok t) : s.ExtendedBy t := by
  refine ⟨size_insert hinsert, fun h hsize => ?_⟩
  obtain ⟨parent, cell, -, hcell, rfl⟩ := exists_of_insert hinsert
  rw [cell_write]
  split
  · next heq =>
    rw [heq.1]
    exact Cell.extendedBy_writeCell hcell
  · exact .refl _

theorem extendedBy_runWrites (s : Store) (ws : List Write) :
    s.ExtendedBy (s.runWrites .keep ws).store := by
  -- on the writes; the first one that fails leaves the store as it found it
  induction ws generalizing s with
  | nil => exact .refl s
  | cons w ws ih =>
    rw [runWrites]
    split
    · next t hinsert => exact (extendedBy_insert hinsert).trans (ih t)
    · exact .refl s

theorem extendedBy_putAll (s : Store) (root : Value) (path : String) (pairs : List (Key × Value)) :
    s.ExtendedBy (s.putAll root path .keep pairs).store := by
  unfold putAll
  split
  · exact extendedBy_runWrites s _
  · exact .refl s

end Store

/-! ## Edits -/

namespace Edit

/-- The name that a key is, if it is one. -/
def Key.name? : Key → Option String
  | .name n => some n
  | _ => none

/-- An edit of the document of a root. -/
inductive Action where
  | put (target : String) (v : Value)
  | putAll (path : String) (mode : Mode) (pairs : List (Key × Value))
  | add (v : Value)

namespace Action

/-- What becomes of the store, and whether the edit fails. -/
def outcome (s : Store) (root : Value) : Action → Outcome
  | put target v => s.put root target v
  | putAll path mode pairs => s.putAll root path mode pairs
  | add v => s.add root v

/-- The path to the containers that are written to. -/
def path : Action → String
  | put target _ => (splitTarget target).1
  | putAll path _ _ => path
  | add _ => ""

def mode : Action → Mode
  | put _ _ => .replace
  | putAll _ mode _ => mode
  | add _ => .keep

/-- What is written into each of the containers. -/
def pairs : Action → List (Key × Value)
  | put target v => [((splitTarget target).2, v)]
  | putAll _ _ pairs => pairs
  | add v => [(.append, v)]

/-- The names under which something is written. -/
def names (a : Action) : List String := a.pairs.filterMap (·.1.name?)

/-- The writes that are carried out before one fails. -/
def carriedOut (s : Store) (root : Value) (a : Action) : List Write :=
  match s.find root a.path with
  | .ok parents => s.carriedOut a.mode (writes parents a.pairs)
  | .error _ => []

theorem outcome_eq (s : Store) (root : Value) (a : Action) :
    a.outcome s root = s.putAll root a.path a.mode a.pairs := by
  cases a <;> rfl

theorem name_mem_names {parents : List Value} {w : Write} {name : String} (a : Action)
    (hw : w ∈ writes parents a.pairs) (hname : w.key = .name name) : name ∈ a.names := by
  obtain ⟨parent, -, hw⟩ := List.mem_flatMap.mp hw
  obtain ⟨⟨key, v⟩, hpair, rfl⟩ := List.mem_map.mp hw
  refine List.mem_filterMap.mpr ⟨(key, v), hpair, ?_⟩
  rw [show key = .name name from hname]
  rfl

theorem grown_outcome (s : Store) (root : Value) (a : Action) {h : Handle}
    (hsize : h.index < s.size) :
    Cell.Grown a.names (growth h (a.carriedOut s root)) (s.cell h)
      ((a.outcome s root).store.cell h) := by
  rw [outcome_eq]
  cases hfind : s.find root a.path with
  | error e =>
    simp only [Store.putAll, carriedOut, hfind]
    exact .refl _
  | ok parents =>
    simp only [Store.putAll, carriedOut, hfind]
    exact Store.grown_runWrites (fun w hw name => a.name_mem_names hw) hsize

theorem extendedBy_outcome (s : Store) (root : Value) {a : Action} (hmode : a.mode = .keep) :
    s.ExtendedBy (a.outcome s root).store := by
  rw [outcome_eq, hmode]
  exact Store.extendedBy_putAll s root a.path a.pairs

end Action

end Edit

/-! ## The command -/

namespace Command

/-- What the command shows is the document after the edit. -/
theorem exists_of_runPut {text target value out : String} {pretty keep : Bool}
    (h : runPut (some text) target value pretty keep = .ok out) :
    ∃ d v s, Document.ofText? {} text = some d ∧ d.store.loadText? value = some (v, s) ∧
      out = (s.putIn d.root target (if keep then .keep else .replace) v).store.interchange
        (style pretty) d.root := by
  rw [runPut, load] at h
  cases hd : Document.ofText? {} text with
  | none => rw [hd] at h; cases h
  | some d =>
    simp only [hd, bind, Except.bind] at h
    cases hv : d.store.loadText? value with
    | none => rw [hv] at h; cases h
    | some loaded =>
      obtain ⟨v, s⟩ := loaded
      simp only [hv] at h
      refine ⟨d, v, s, rfl, hv, ?_⟩
      cases hput : s.putIn d.root target (if keep then .keep else .replace) v with
      | mk t failure? =>
        rw [hput] at h
        cases failure? with
        | none => cases h; rfl
        | some e => cases h

/-- The tree of a document from a text does not change when a value is loaded. -/
theorem toTree_loadText {text value : String} {d : Document} {v : Value} {s : Store}
    (hd : Document.ofText? {} text = some d) (hv : d.store.loadText? value = some (v, s)) :
    s.toTree d.root = d.store.toTree d.root := by
  obtain ⟨⟨root, t⟩, hroot, rfl⟩ := Option.map_eq_some_iff.mp hd
  obtain ⟨u, -, hu⟩ := Option.map_eq_some_iff.mp hroot
  obtain ⟨w, -, hw⟩ := Option.map_eq_some_iff.mp hv
  obtain ⟨hclosed, hstored⟩ := Store.closed_load Store.closed_empty u
  rw [hu] at hclosed hstored
  -- the value goes into new containers, and no container of the document is one of these
  have hkeeps := Store.keeps_load t w
  rw [hw] at hkeeps
  exact Store.toTreeFrom_eq (hclosed.agreesBelow hstored hkeeps) (.inl rfl) []

end Command

namespace Edit

/-- Edits lose nothing and move nothing, whether they succeed or not and however containers are
shared.  Every array has its elements in their order and one more for each value that is put into
it before a write fails; every object has the members whose names are not among those of the edit,
with their values and in their order.  In the mode `keep` what a container holds is moreover the
beginning of what it holds afterwards, and so the document that the command shows in that mode is
the one of the input, extended on all levels. -/
theorem edits_lose_nothing :
    (∀ (s : Store) (root : Value) (a : Action) (h : Handle), h.index < s.size →
      let after := (a.outcome s root).store
      Cell.Grown a.names (growth h (a.carriedOut s root)) (s.cell h) (after.cell h) ∧
        (a.mode = .keep → (s.cell h).ExtendedBy (after.cell h))) ∧
      ∀ text target value pretty out,
        Command.runPut (some text) target value pretty true = .ok out →
        ∃ d after, Document.ofText? {} text = some d ∧
          (d.store.toTree d.root).ExtendedBy after ∧
          out = after.text .interchange (Command.style pretty) := by
  refine ⟨fun s root a h hsize => ?_, fun text target value pretty out hrun => ?_⟩
  · exact ⟨a.grown_outcome s root hsize,
      fun hmode => (Action.extendedBy_outcome s root hmode).cell h hsize⟩
  · obtain ⟨d, v, s, hd, hv, rfl⟩ := Command.exists_of_runPut hrun
    have hextended : s.ExtendedBy (s.putIn d.root target .keep v).store :=
      Store.extendedBy_putAll s d.root _ _
    refine ⟨d, _, hd, ?_, rfl⟩
    rw [← Command.toTree_loadText hd hv]
    exact Store.extendedBy_toTree hextended d.root

/-- An array that is found twice, and an object in between that keeps its member and refuses the
second key; and a member that is not taken out. -/
theorem edits_lose_nothing_shared :
    let s : Store := ⟨#[.array [.container ⟨1⟩, .container ⟨2⟩, .container ⟨1⟩],
      .array [.bool true], .object [("a", .integer 1), ("0", .integer 2)]]⟩
    let a : Action := .putAll "[*]" .keep [(.name "0", .integer 5), (.append, .integer 6)]
    let after := a.outcome s (.container ⟨0⟩)
    let text := "\x7b\"a\":[1],\"b\":2\x7d"
    after.failure? = some (.objectKey .append) ∧
      (Cell.Grown ["0"] 2 (.array [.bool true]) (after.store.cell ⟨1⟩) ∧
        (Cell.array [.bool true]).ExtendedBy (after.store.cell ⟨1⟩)) ∧
      Command.runPut (some text) "b" "null" false true = .ok text ∧
      ∃ d after, Document.ofText? {} text = some d ∧
        (d.store.toTree d.root).ExtendedBy after ∧ text = after.text .interchange .compact := by
  intro s a after text
  have hcount : growth ⟨1⟩ (a.carriedOut s (.container ⟨0⟩)) = 2 := by decide +kernel
  obtain ⟨hgrown, hkeep⟩ := edits_lose_nothing.1 s (.container ⟨0⟩) a ⟨1⟩ (by decide)
  rw [hcount] at hgrown
  have hshown : (Command.runPut (some text) "b" "null" false true).toOption = some text := by
    decide +kernel
  have hrun : Command.runPut (some text) "b" "null" false true = .ok text := by
    generalize Command.runPut (some text) "b" "null" false true = shown at hshown
    cases shown with
    | ok out => exact congrArg Except.ok (Option.some.inj hshown)
    | error e => cases hshown
  exact ⟨by decide +kernel, ⟨hgrown, hkeep rfl⟩, hrun,
    edits_lose_nothing.2 text "b" "null" false text hrun⟩

end Edit

end DocQuery
