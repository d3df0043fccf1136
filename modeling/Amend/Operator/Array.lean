/-
Array operators.  A missing or null value counts as the empty array.
-/
import Amend.Operator.Basic
import Amend.Operator.Operand
import Amend.Json.Order

namespace Amend
namespace Operator
namespace Array

/-- The stored items. -/
def stored? : Option Value → Except Fault (List Value)
  | none => .ok []
  | some .null => .ok []
  | some (.arr items) => .ok items
  | some other => .error (.stored other.kind "array")

/-- The list under `$each` and the modifiers beside it, if the operand has that form. -/
def each? : Value → Except Fault (Option (List Value × Members Value))
  | .obj modifiers =>
    match Members.get? modifiers "$each" with
    | none => .ok none
    | some (.arr items) => .ok (some (items, modifiers))
    | some other => .error (.operand other.kind "array for $each")
  | _ => .ok none

inductive Direction where
  | asGiven
  | ascending
  | descending
deriving DecidableEq

/-- The order that `$sort` asks for. -/
def direction (modifiers : Members Value) : Except Fault Direction :=
  match Members.get? modifiers "$sort" with
  | none => .ok .asGiven
  | some .null => .ok .asGiven
  | some (.bool false) => .ok .asGiven
  | some (.bool true) => .ok .ascending
  | some (.num n) =>
    match n.toSigned? with
    | some 1 => .ok .ascending
    | some (-1) => .ok .descending
    | some 0 => .ok .asGiven
    | _ => .error (.argument "$sort" "1, -1 or a boolean" n.text)
  | some other => .error (.argument "$sort" "1, -1 or a boolean" other.text)

/-- Sorts items; equal ones keep their order in both directions. -/
def Direction.sort : Direction → List Value → List Value
  | .asGiven, items => items
  | .ascending, items => items.mergeSort fun a b => (a.compare b).isLE
  | .descending, items => items.mergeSort fun a b => (b.compare a).isLE

/-- The index at which `$position` inserts, the end when it is missing. -/
def insertionIndex (modifiers : Members Value) (length : Nat) : Except Fault Nat :=
  match Members.get? modifiers "$position" with
  | none => .ok length
  | some .null => .ok length
  | some position =>
    match position.toBinary64? with
    | some n =>
      if n.isIntegral then .ok (Slice.offset n.toInt64 length)
      else .error (.argument "$position" "an integer" position.text)
    | none => .error (.argument "$position" "an integer" position.text)

def pushed (items : List Value) (operand : Value) : Except Fault (List Value) := do
  match ← each? operand with
  | none => .ok (items ++ [operand])
  | some (additions, modifiers) =>
    let order ← direction modifiers
    let index ← insertionIndex modifiers items.length
    .ok (items.take index ++ order.sort additions ++ items.drop index)

/-- Drops the last item for 1 and the first for -1. -/
def popped (items : List Value) (operand : Value) : List Value :=
  match operand.toSigned? with
  | some 1 => items.dropLast
  | some (-1) => items.drop 1
  | _ => items

/-- What `$pull` looks for. -/
inductive Selector where
  | equalTo (v : Value)
  | oneOf (list : List Value)
  | noneOf (list : List Value)
  | at (index : Nat)
  | notEqualTo (v : Value)
  | less (v : Value)
  | greater (v : Value)
  | lessOrEqual (v : Value)
  | greaterOrEqual (v : Value)

/-- The comparators of `$pull`; of several in one operand the first in this order counts. -/
def comparators : List String :=
  ["$in", "$nin", "$position", "$eq", "$ne", "$lt", "$gt", "$lte", "$gte"]

/-- The comparator of an operand and its argument. -/
def comparator? : Value → Option (String × Value)
  | .obj members => comparators.findSome? fun key => (Members.get? members key).map (key, ·)
  | _ => none

def listArgument (key : String) : Value → Except Fault (List Value)
  | .arr items => .ok items
  | other => .error (.argument key "an array" other.text)

/-- What an operand of `$pull` selects; without a comparator, the values equal to it. -/
def selector (operand : Value) : Except Fault Selector :=
  match comparator? operand with
  | none => .ok (.equalTo operand)
  | some ("$in", v) => (listArgument "$in" v).map .oneOf
  | some ("$nin", v) => (listArgument "$nin" v).map .noneOf
  | some ("$position", v) =>
    match v.toUnsigned? with
    | some index => .ok (.at index)
    | none => .error (.argument "$position" "a non-negative integer" v.text)
  | some ("$eq", v) => .ok (.equalTo v)
  | some ("$ne", v) => .ok (.notEqualTo v)
  | some ("$lt", v) => .ok (.less v)
  | some ("$gt", v) => .ok (.greater v)
  | some ("$lte", v) => .ok (.lessOrEqual v)
  | some (_, v) => .ok (.greaterOrEqual v)

/-- The order of two numbers or of two strings; other values have none. -/
def ordered : Value → Value → Option Ordering
  | .num a, .num b => some (Value.compare (.num a) (.num b))
  | .str a, .str b => some (Value.compare (.str a) (.str b))
  | _, _ => none

/-- Whether an item is taken out. -/
def Selector.selects (s : Selector) (item : Value) : Bool :=
  match s with
  | .equalTo v => item.equal v
  | .oneOf list => list.any (·.equal item)
  | .noneOf list => !list.any (·.equal item)
  | .at _ => false
  | .notEqualTo v => !item.equal v
  | .less v => ordered item v == some .lt
  | .greater v => ordered item v == some .gt
  | .lessOrEqual v => (ordered item v).any (·.isLE)
  | .greaterOrEqual v => (ordered item v).any (·.isGE)

/-- Takes out the selected items, or the one at a position. -/
def Selector.remove (s : Selector) (items : List Value) : List Value :=
  match s with
  | .at index => items.eraseIdx index
  | s => items.filter fun item => !s.selects item

def pulled (items : List Value) (operand : Value) : Except Fault (List Value) := do
  .ok ((← selector operand).remove items)

/-- Adds each item that no item before it equals. -/
def unique : List Value → List Value → List Value
  | kept, [] => kept
  | kept, item :: rest =>
    if kept.any (·.equal item) then unique kept rest else unique (kept ++ [item]) rest

def united (items : List Value) (operand : Value) : Except Fault (List Value) := do
  let additions := match ← each? operand with
    | some (list, _) => list
    | none => [operand]
  .ok (unique [] (items ++ additions))

/-- The items an array operator stores. -/
def change (op : Array) (items : List Value) (operand : Value) : Except Fault (List Value) :=
  match op with
  | .push => pushed items operand
  | .pop => .ok (popped items operand)
  | .pull => pulled items operand
  | .addToSet => united items operand
  | .slice => do .ok (Slice.cut items (← Slice.range operand items.length))
  | .concat =>
    match operand with
    | .arr more => .ok (items ++ more)
    | other => .error (.operand other.kind "array")

/-- The value an array operator stores. -/
def transform (op : Array) (stored : Option Value) (operand : Value) : Except Fault Value := do
  let items ← stored? stored
  let changed ← change op items operand
  .ok (.arr changed)

end Array
end Operator
end Amend
