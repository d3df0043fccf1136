/-
Equality and order of values.  Values are equal by what they denote, numbers as doubles whatever
sort they were written in, or by how they are written; the order of members is no part of an
object's value.
-/
import Amend.Json.Value

namespace Amend

/-- Equality of numbers as they are written: the sort counts, the sign of a zero does not. -/
def Number.same : Number → Number → Bool
  | .int a, .int b => a == b
  | .float x, .float y => (Binary64.finite x).eq (.finite y)
  | _, _ => false

namespace Value

mutual

/-- Equality of values by an equality of numbers, objects being sets of members. -/
def equalBy (numbers : Number → Number → Bool) : Value → Value → Bool
  | .null, .null => true
  | .bool a, .bool b => a == b
  | .num a, .num b => numbers a b
  | .str a, .str b => a == b
  | .arr as, .arr bs => equalItems numbers as bs
  | .obj as, .obj bs => as.length == bs.length && equalMembers numbers as bs
  | _, _ => false

/-- Equality of arrays, place by place. -/
def equalItems (numbers : Number → Number → Bool) : List Value → List Value → Bool
  | [], [] => true
  | a :: as, b :: bs => equalBy numbers a b && equalItems numbers as bs
  | _, _ => false

/-- Whether each of the first members has an equal one of its name among the second. -/
def equalMembers (numbers : Number → Number → Bool) :
    List (String × Value) → List (String × Value) → Bool
  | [], _ => true
  | (key, a) :: as, bs =>
    (match Members.get? bs key with
      | some b => equalBy numbers a b
      | none => false) && equalMembers numbers as bs

end

/-- Equality of values, numbers by magnitude. -/
def equal : Value → Value → Bool := equalBy fun a b => a.toBinary64.eq b.toBinary64

/-- Equality of values as they are written, but for the order of members. -/
def same : Value → Value → Bool := equalBy Number.same

/-- The order of doubles; NaN, which no value holds, is equal to everything. -/
def compareNumbers (a b : Binary64) : Ordering :=
  if a.lt b then .lt else if b.lt a then .gt else .eq

/-- The order of values: numbers by magnitude, strings by code points, false before true, and
values of different kinds by kind.  Two arrays, and two objects, are not told apart. -/
def compare : Value → Value → Ordering
  | .num a, .num b => compareNumbers a.toBinary64 b.toBinary64
  | .str a, .str b => Ord.compare a b
  | .bool a, .bool b => Ord.compare a b
  | a, b => Ord.compare a.rank b.rank

end Value
end Amend
