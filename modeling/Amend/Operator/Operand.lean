/-
Operands of update entries: JSON, or a mapping built in code.  The bounds that `$slice` and
`$sliceArray` find in an operand are read here for both, with the part of a sequence between them.
-/
import Amend.Error
import Amend.Json.Order
import Amend.Json.Value

namespace Amend

inductive Operand where
  | value (v : Value)
  /-- Renames the members of an object. -/
  | keyMapper (rename : String → String)
  /-- Replaces the values of an object. -/
  | valueMapper (change : Value → Value)

namespace Operand

/-- The operand as messages show it. -/
def describe : Operand → String
  | .value v => v.text
  | .keyMapper _ => "<key mapper>"
  | .valueMapper _ => "<value mapper>"

/-- The JSON operand; operators that need one refuse a mapping. -/
def json : Operand → Except Operator.Fault Value
  | .value v => .ok v
  | other => .error (.unexpected "a JSON operand" other.describe)

/-- Whether two operands are JSON and written alike. -/
def same : Operand → Operand → Bool
  | .value v, .value w => v.same w
  | _, _ => false

end Operand

namespace Operator
namespace Slice

/-- An optional bound: a number cut off toward zero, held within the signed 64-bit range. -/
def bound (members : Members Value) (name : String) : Except Fault (Option Int) :=
  match Members.get? members name with
  | none => .ok none
  | some .null => .ok none
  | some (.num n) => .ok (some n.toBinary64.toInt64)
  | some other => .error (.argument name "a number" other.text)

/-- A number moved to the nearest end of an interval. -/
def clamp (low high n : Int) : Int := max low (min high n)

/-- The first index of the part and the one after its last, for a sequence of `length` items.
Missing bounds are the ends of the sequence, and bounds given the wrong way round are refused. -/
def range (operand : Value) (length : Nat) : Except Fault (Nat × Nat) :=
  match operand with
  | .obj members => do
    let first ← bound members "$begin"
    let last ← bound members "$end"
    match first, last with
    | some b, some e => if e < b then .error (.crossedBounds b e) else .ok (between first last)
    | _, _ => .ok (between first last)
  | other => .error (.operand other.kind "\x7b$begin, $end\x7d")
where
  between (first last : Option Int) : Nat × Nat :=
    let start := clamp 0 length (first.getD 0)
    let stop := clamp start length (last.getD length)
    (start.toNat, stop.toNat)

/-- The items between two indices. -/
def cut {α : Type} (items : List α) (range : Nat × Nat) : List α :=
  (items.take range.2).drop range.1

/-- An index counted from the start, or from the end when negative, moved into the sequence. -/
def offset (n : Int) (length : Nat) : Nat :=
  if n < 0 then (max 0 (length + n)).toNat else (min n length).toNat

end Slice
end Operator
end Amend
