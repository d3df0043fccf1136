/-
Object operators.  A missing or null value counts as the empty object.
-/
import Amend.Operator.Basic
import Amend.Operator.Operand

namespace Amend
namespace Operator
namespace Object

/-- The stored members. -/
def stored? : Option Value → Except Fault (Members Value)
  | none => .ok []
  | some .null => .ok []
  | some (.obj members) => .ok members
  | some other => .error (.stored other.kind "object")

/-- The keys to omit: one string, or an array of them. -/
def keysToOmit : Value → Except Fault (List String)
  | .str key => .ok [key]
  | .arr items => items.mapM fun item =>
    match item with
    | .str key => .ok key
    | other => .error (.argument "keys" "strings" other.kind)
  | other => .error (.operand other.kind "array of keys")

/-- Removes the members with the given keys. -/
def without (members : Members Value) (keys : List String) : Members Value :=
  keys.foldl Members.erase members

/-- Merges members into others.  Two objects under one key are merged; anything else is
overwritten, and new members are added at the end. -/
def deepMerge (target : Members Value) : List (String × Value) → Members Value
  | [] => target
  | (key, incoming) :: rest => deepMerge (mergeMember target key incoming) rest
where
  /-- Merges one member. -/
  mergeMember (target : Members Value) (key : String) : Value → Members Value
    | .obj nested =>
      match Members.get? target key with
      | some (.obj existing) => Members.set target key (.obj (deepMerge existing nested))
      | _ => Members.set target key (.obj nested)
    | v => Members.set target key v

/-- Renames every member; of members that get one name the last gives the value, and the first
the place. -/
def rename (name : String → String) (members : Members Value) : Members Value :=
  Members.ofList (members.map fun m => (name m.1, m.2))

/-- The new name of a member by a table, the old one where the table has none. -/
def tableName (table : Members Value) (key : String) : Except Fault String :=
  match Members.get? table key with
  | none => .ok key
  | some (.str name) => .ok name
  | some other =>
    .error (.argument s!"rename target for '{key}'" "a string" other.text)

def renamed (members : Members Value) : Operand → Except Fault (Members Value)
  | .keyMapper name => .ok (rename name members)
  | .value (.obj table) => do
    let named ← members.mapM fun m => do .ok ((← tableName table m.1), m.2)
    .ok (Members.ofList named)
  | other => .error (.unexpected "a key mapper or rename table" other.describe)

/-- The text by which a value becomes a key. -/
def keyText? : Value → Option String
  | .str s => some s
  | .num n => some n.text
  | .bool b => some (if b then "true" else "false")
  | _ => none

/-- Swaps keys and values.  Of members with one text the last wins, in its place. -/
def inverted (members : Members Value) : Except Fault (Members Value) :=
  members.foldlM step []
where
  step (swapped : Members Value) (m : String × Value) : Except Fault (Members Value) :=
    match keyText? m.2 with
    | some key => .ok (Members.erase swapped key ++ [(key, .str m.1)])
    | none => .error (.notInvertible m.1 m.2.kind)

/-- The members an object operator stores. -/
def change (op : Object) (members : Members Value) (operand : Operand) :
    Except Fault (Members Value) :=
  match op with
  | .omit => do .ok (without members (← keysToOmit (← operand.json)))
  | .merge => do
    match ← operand.json with
    | .obj additions => .ok (deepMerge members additions)
    | other => .error (.operand other.kind "object")
  | .mapKeys => renamed members operand
  | .mapValues =>
    match operand with
    | .valueMapper f => .ok (members.map fun m => (m.1, f m.2))
    | other => .error (.unexpected "a value mapper" other.describe)
  | .invert => inverted members

/-- The value an object operator stores. -/
def transform (op : Object) (stored : Option Value) (operand : Operand) : Except Fault Value := do
  let members ← stored? stored
  let changed ← change op members operand
  .ok (.obj changed)

end Object
end Operator
end Amend
