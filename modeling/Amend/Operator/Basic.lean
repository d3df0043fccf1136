/-
The closed set of update operators.  An operator belongs to one family; the family decides which
declared kinds it may target, and the operator which part of its operand it writes.
-/
import Amend.Schema

namespace Amend

namespace Operator

inductive Global where
  | set
  | unset
  | clear
deriving DecidableEq

inductive Numeric where
  | inc
  | dec
  | mul
  | div
  | min
  | max
  | sqrt
  | floor
  | ceil
  | abs
  | round
  | trunc
  | pow
  | mod
  | random
  | toFixed
  | toExponential
  | toPrecision
deriving DecidableEq

inductive Text where
  | append
  | prepend
  | replace
  | trim
  | substr
  | capitalize
  | reverse
  | slice
  | lowercase
  | uppercase
  | camelcase
  | kebabcase
  | snakecase
  | titlecase
deriving DecidableEq

inductive Object where
  | omit
  | merge
  | mapKeys
  | mapValues
  | invert
deriving DecidableEq

inductive Array where
  | push
  | pop
  | pull
  | addToSet
  | slice
  | concat
deriving DecidableEq

inductive Family where
  | global
  | numeric
  | boolean
  | string
  | object
  | array
deriving DecidableEq

end Operator

/-- An update operator, by family. -/
inductive Operator where
  | global (op : Operator.Global)
  | numeric (op : Operator.Numeric)
  | toggle
  | text (op : Operator.Text)
  | object (op : Operator.Object)
  | array (op : Operator.Array)
deriving DecidableEq

namespace Operator

namespace Family

/-- The families in the order in which they are listed. -/
def all : List Family := [.global, .numeric, .boolean, .string, .object, .array]

def name : Family → String
  | .global => "global"
  | .numeric => "numeric"
  | .boolean => "boolean"
  | .string => "string"
  | .object => "object"
  | .array => "array"

/-- Whether operators of the family may target a field of the kind. -/
def accepts : Family → FieldKind → Bool
  | .global, _ => true
  | .numeric, kind => kind.isNumeric
  | .boolean, .bool => true
  | .string, .string => true
  | .object, .object _ => true
  | .array, .array _ => true
  | _, _ => false

end Family

def family : Operator → Family
  | .global _ => .global
  | .numeric _ => .numeric
  | .toggle => .boolean
  | .text _ => .string
  | .object _ => .object
  | .array _ => .array

/-- The operators with the names by which documents call them, in the order in which they are
listed. -/
def table : List (Operator × String) :=
  [(.global .set, "$set"), (.global .unset, "$unset"), (.global .clear, "$clear"),
    (.numeric .inc, "$inc"), (.numeric .dec, "$dec"), (.numeric .mul, "$mul"),
    (.numeric .div, "$div"), (.numeric .min, "$min"), (.numeric .max, "$max"),
    (.numeric .sqrt, "$sqrt"), (.numeric .floor, "$floor"), (.numeric .ceil, "$ceil"),
    (.numeric .abs, "$abs"), (.numeric .round, "$round"), (.numeric .trunc, "$trunc"),
    (.numeric .pow, "$pow"), (.numeric .mod, "$mod"), (.numeric .random, "$random"),
    (.numeric .toFixed, "$toFixed"), (.numeric .toExponential, "$toExponential"),
    (.numeric .toPrecision, "$toPrecision"),
    (.toggle, "$toggle"),
    (.text .append, "$append"), (.text .prepend, "$prepend"), (.text .replace, "$replace"),
    (.text .trim, "$trim"), (.text .substr, "$substr"), (.text .capitalize, "$capitalize"),
    (.text .reverse, "$reverse"), (.text .slice, "$slice"), (.text .lowercase, "$lowercase"),
    (.text .uppercase, "$uppercase"), (.text .camelcase, "$camelcase"),
    (.text .kebabcase, "$kebabcase"), (.text .snakecase, "$snakecase"),
    (.text .titlecase, "$titlecase"),
    (.object .omit, "$omit"), (.object .merge, "$merge"), (.object .mapKeys, "$mapKeys"),
    (.object .mapValues, "$mapValues"), (.object .invert, "$invert"),
    (.array .push, "$push"), (.array .pop, "$pop"), (.array .pull, "$pull"),
    (.array .addToSet, "$addToSet"), (.array .slice, "$sliceArray"), (.array .concat, "$concat")]

def all : List Operator := table.map Prod.fst

/-- The name of an operator in documents. -/
def name (op : Operator) : String := (table.lookup op).getD ""

/-- The operator with a name. -/
def ofName? (name : String) : Option Operator :=
  (table.find? fun row => row.2 = name).map Prod.fst

/-- The part of an operand that ends up in the field. -/
inductive Written where
  /-- The whole operand. -/
  | whole
  /-- One member of an object operand. -/
  | member (name : String)
  /-- The operand only steers the change. -/
  | nothing
deriving DecidableEq

def written : Operator → Written
  | .numeric .inc | .numeric .dec | .numeric .mul | .numeric .div => .whole
  | .numeric .min | .numeric .max | .numeric .pow | .numeric .mod => .whole
  | .text .append | .text .prepend => .whole
  | .text .replace => .member "$replaceValue"
  | _ => .nothing

end Operator
end Amend
