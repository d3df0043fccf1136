/-
Applying one operator to one path of a record.  The operator's family must fit the declared
kind; then its change is made where the path leads.  The operators for fields of any kind and the
boolean one are short and stand here; every other family has a module of its own.
-/
import Amend.Error
import Amend.Json.Value
import Amend.Operator.Array
import Amend.Operator.Basic
import Amend.Operator.Numeric
import Amend.Operator.Object
import Amend.Operator.Operand
import Amend.Operator.Text
import Amend.Path.Resolver

namespace Amend
namespace Operator

namespace Global

/-- The value a global operator stores; only `$clear` asks for the declared kind. -/
def transform (op : Global) (declared : Option FieldKind) (operand : Value) : Except Fault Value :=
  match op with
  | .set => .ok operand
  | .unset => .ok .null
  | .clear =>
    match declared with
    | some (.object _) => .ok (.obj [])
    | some (.array _) => .ok (.arr [])
    | some kind => .error (.notClearable kind.name)
    | none => .error (.notClearable none)

end Global

/-- The opposite of what the stored value counts as; a missing one counts as false. -/
def toggled (stored : Option Value) : Value := .bool !(stored.map Value.isTruthy).getD false

/-- The name given as the kind of a path without a declaration. -/
def undeclared : String := "undeclared"

/-- The declared kind of the path, if the operator may target it.  Global operators may target
any path; the others need a declaration that their family accepts. -/
def gate (op : Operator) (path : String) (types : TypeMap) :
    Except UpdateError (Option FieldKind) :=
  let declared := TypeMap.resolve? types path
  if op.family = .global then .ok declared
  else match declared with
    | none => .error (.typeMismatch op.name path undeclared)
    | some kind =>
      if op.family.accepts kind then .ok (some kind)
      else .error (.typeMismatch op.name path kind.name)

/-- The value an operator stores in place of the current one. -/
def transform (op : Operator) (declared : Option FieldKind) (stream : Random.Stream)
    (operand : Operand) (current : Option Value) : Except Fault Value :=
  match op with
  | .global op => do op.transform declared (← operand.json)
  | .toggle => do
    let _ ← operand.json
    .ok (toggled current)
  | .numeric op => do op.transform stream current (← operand.json)
  | .text op => do op.transform current (← operand.json)
  | .object op => op.transform current operand
  | .array op => do op.transform current (← operand.json)

/-- Tells a failed update of a path from the operator's side. -/
def errorOf (op : Operator) (path : String) : Path.Failure Fault → UpdateError
  | .walk fault => .path path fault
  | .refused fault => .operator op.name path fault

/-- The record after an attempt to apply an operator, the random stream after it, and the error
if there was one.  A failed attempt may leave objects behind that it made on its way. -/
structure Attempt where
  record : Record
  stream : Random.Stream
  error? : Option UpdateError

/-- Applies an operator to a path of a record. -/
def dispatch (maxDepth : Nat) (types : TypeMap) (record : Record) (stream : Random.Stream)
    (op : Operator) (path : String) (operand : Operand) : Attempt :=
  match gate op path types with
  | .error e => ⟨record, stream, some e⟩
  | .ok declared =>
    let (after, failure) := Path.update maxDepth record path (transform op declared stream operand)
    match failure with
    | some failure => ⟨after, stream, some (errorOf op path failure)⟩
    | none => ⟨after, if op = .numeric .random then stream.tail else stream, none⟩

end Operator
end Amend
