/-
Field paths, and the values they lead to.  A path is split at its dots; a segment names a member of
an object or counts an element of an array.

`get?` walks down and gives nothing where the walk ends early.  `update` walks the same way, makes
the objects that are missing, and replaces the value at the end by a function of the value found
there.
-/
import Amend.Error
import Amend.Json.Value

namespace Amend
namespace Path

/-! ## Paths as text -/

/-- The parts of a text between its dots.  There is always at least one. -/
def splitDots : List Char → List (List Char)
  | [] => [[]]
  | c :: cs =>
    if c = '.' then [] :: splitDots cs
    else match splitDots cs with
      | [] => [[c]]
      | part :: rest => (c :: part) :: rest

/-- The segments of a path. -/
def segments (path : String) : List String := (splitDots path.toList).map String.ofList

/-- Whether the path leads below a top-level field. -/
def isDotted (path : String) : Bool := path.toList.contains '.'

/-- The number spelled by decimal digits, if it fits in 64 bits. -/
def wordOfDigits : List Char → Nat → Option Nat
  | [], n => some n
  | c :: cs, n =>
    if c.isDigit then
      let m := n * 10 + (c.toNat - '0'.toNat)
      if m < 0x10000000000000000 then wordOfDigits cs m else none
    else none

/-- The element a segment counts: decimal digits, perhaps after one plus sign. -/
def index? (segment : String) : Option Nat :=
  match segment.toList with
  | '+' :: c :: cs => wordOfDigits (c :: cs) 0
  | c :: cs => wordOfDigits (c :: cs) 0
  | [] => none

theorem splitDots_ne_nil (cs : List Char) : splitDots cs ≠ [] := by
  induction cs with
  | nil => simp [splitDots]
  | cons c cs ih =>
    unfold splitDots
    split
    · simp
    · split <;> simp

theorem segments_ne_nil (path : String) : segments path ≠ [] := by
  simp [segments, splitDots_ne_nil]

/-! ## Walking -/

/-- The number of segments a path may have unless the configuration says otherwise. -/
def defaultMaxDepth : Nat := 32

/-- One step down. -/
def child? : Value → String → Option Value
  | .obj members, segment => Members.get? members segment
  | .arr items, segment => (index? segment).bind fun i => items[i]?
  | _, _ => none

/-- The value at the end of a walk. -/
def walk? : Value → List String → Option Value
  | v, [] => some v
  | v, segment :: rest => (child? v segment).bind fun w => walk? w rest

/-- The value at a path of a record. -/
def get? (record : Record) (path : String) : Option Value :=
  walk? (.obj record) (segments path)

/-- Splits a path that leads below the top and checks its form. -/
def checkedSegments (maxDepth : Nat) (path : String) : Except Fault (List String) :=
  let parts := segments path
  if parts.any (· = "") then .error .emptySegment
  else if maxDepth < parts.length then .error (.tooDeep parts.length maxDepth)
  else .ok parts

/-- The place of an existing element. -/
def position (segment : String) (length : Nat) : Except Fault Nat :=
  match index? segment with
  | none => .error (.notAnIndex segment)
  | some i => if i < length then .ok i else .error (.outOfBounds i length)

/-- Why an update of a record failed: the walk did not arrive, or the function refused. -/
inductive Failure (ε : Type) where
  | walk (fault : Fault)
  | refused (error : ε)

/-- The container of a missing or null member. -/
def orEmptyObject : Option Value → Value
  | none => .obj []
  | some .null => .obj []
  | some v => v

/-- Replaces the value at the end of a walk by `f` of it.  The result is the container after
the attempt, with the objects that the walk made, and the failure if there was one.  A missing
or null member on the way becomes an empty object; an element of an array is taken as it is. -/
def write {ε : Type} (f : Option Value → Except ε Value) :
    Value → List String → Value × Option (Failure ε)
  | v, [] => (v, none)
  | .obj members, [leaf] =>
    match f (Members.get? members leaf) with
    | .ok new => (.obj (Members.set members leaf new), none)
    | .error e => (.obj members, some (.refused e))
  | .arr items, [leaf] =>
    match position leaf items.length with
    | .error fault => (.arr items, some (.walk fault))
    | .ok i =>
      match f items[i]? with
      | .ok new => (.arr (items.set i new), none)
      | .error e => (.arr items, some (.refused e))
  | v, [leaf] => (v, some (.walk (.parent leaf v.kind)))
  | .obj members, segment :: rest =>
    let (below, failure) := write f (orEmptyObject (Members.get? members segment)) rest
    (.obj (Members.set members segment below), failure)
  | .arr items, segment :: rest =>
    match position segment items.length with
    | .error fault => (.arr items, some (.walk fault))
    | .ok i =>
      let (below, failure) := write f (items[i]?.getD .null) rest
      (.arr (items.set i below), failure)
  | v, segment :: _ => (v, some (.walk (.inside segment v.kind)))
termination_by structural _ segments => segments

/-- The members of an object. -/
def membersOf : Value → Record
  | .obj members => members
  | _ => []

/-- Replaces the value at a path of a record by `f` of it.  A plain field name is never
refused; a dotted path is checked before anything is touched. -/
def update {ε : Type} (maxDepth : Nat) (record : Record) (path : String)
    (f : Option Value → Except ε Value) : Record × Option (Failure ε) :=
  if isDotted path then
    match checkedSegments maxDepth path with
    | .error fault => (record, some (.walk fault))
    | .ok parts =>
      let (after, failure) := write f (.obj record) parts
      (membersOf after, failure)
  else
    let (after, failure) := write f (.obj record) [path]
    (membersOf after, failure)

/-- Assigns a value at a path. -/
def set (maxDepth : Nat) (record : Record) (path : String) (value : Value) :
    Record × Option (Failure Empty) :=
  update maxDepth record path fun _ => .ok value

end Path
end Amend
