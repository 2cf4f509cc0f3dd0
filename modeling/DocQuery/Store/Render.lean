import DocQuery.Json.Printer
import DocQuery.Store.Value

/-!
# Values as Text and as Trees

A value can be written as JSON text directly, or first be unfolded into a finite JSON tree.
In both a container that is met again below itself stands as `null`, and so does a
floating-point number that is not finite.

Both descend at most as deep as there are containers, because no container is open twice.

## Main definitions

- `Store.print`: the text of a value
- `Store.toTree`: the finite tree of a value
- `Store.show`: the text of a value where strings stand without quotes
-/

namespace DocQuery

open DocQuery.Json

namespace Store

/-- The text of a value that stands at the given level, when the containers `active` are
being written. -/
def printFrom (s : Store) (sp : Spelling) (style : Style) (active : List Handle) (level : Nat) :
    Value → List Char
  | .null => Spelling.null
  | .bool b => Spelling.bool b
  | .float x => sp.number x
  | .integer n => Spelling.integer n.toInt
  | .string t => sp.string t
  | .container h =>
    if _hc : h.index < s.size ∧ active.contains h = false then
      match s.cell h with
      | .array items =>
        style.block level '[' ']' (items.map (s.printFrom sp style (h :: active) (level + 1)))
      | .object members =>
        style.block level '\x7b' '\x7d' (members.map fun m =>
          sp.string m.1 ++ style.colon ++ s.printFrom sp style (h :: active) (level + 1) m.2)
    else Spelling.null
termination_by s.unvisited active
decreasing_by all_goals exact unvisited_cons_lt _hc.1 _hc.2

/-- The text of a value. -/
def print (s : Store) (sp : Spelling) (style : Style) (v : Value) : String :=
  String.ofList (s.printFrom sp style [] 0 v)

/-- The tree of a value, when the containers `active` are being unfolded. -/
def toTreeFrom (s : Store) (active : List Handle) : Value → Tree
  | .null => .null
  | .bool b => .bool b
  | .float x => if x.isFinite then .number (.float x) else .null
  | .integer n => .number (.integer n.toInt)
  | .string t => .string t
  | .container h =>
    if _hc : h.index < s.size ∧ active.contains h = false then
      match s.cell h with
      | .array items => .array (items.map (s.toTreeFrom (h :: active)))
      | .object members =>
        .object (members.map fun m => (m.1, s.toTreeFrom (h :: active) m.2))
    else .null
termination_by s.unvisited active
decreasing_by all_goals exact unvisited_cons_lt _hc.1 _hc.2

/-- The finite tree of a value. -/
def toTree (s : Store) (v : Value) : Tree := s.toTreeFrom [] v

/-- The text of a value in canonical spelling, on one line. -/
def text (s : Store) (v : Value) : String := s.print .canonical .compact v

/-- The text of a value where a string stands for itself. -/
def display (s : Store) : Value → String
  | .string t => t
  | v => s.text v

/-- The text of a value in interchange spelling. -/
def interchange (s : Store) (style : Style) (v : Value) : String :=
  (s.toTree v).text .interchange style

end Store

end DocQuery
