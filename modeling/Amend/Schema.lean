/-
Declared kinds of fields, and declarations as JSON.  Kinds are declared by the caller and never
guessed from stored values; a type map declares the fields of one record.

In JSON a kind is an object with its name under `type`; an object kind has its fields under
`fields`, an array kind the kind of its elements under `element_type`.  The same parts may also be
written as an array, the name first.
-/
import Amend.Error
import Amend.Json.Value
import Amend.Path.Resolver

namespace Amend

inductive FieldKind where
  | string
  | int
  | float
  | bool
  | date
  | object (fields : List (String × FieldKind))
  | array (element : FieldKind)

namespace FieldKind

/-- The name of the kind, as declarations and messages write it. -/
def name : FieldKind → String
  | .string => "string"
  | .int => "int"
  | .float => "float"
  | .bool => "bool"
  | .date => "date"
  | .object _ => "object"
  | .array _ => "array"

def isNumeric : FieldKind → Bool
  | .int => true
  | .float => true
  | _ => false

def isContainer : FieldKind → Bool
  | .object _ => true
  | .array _ => true
  | _ => false

/-- The kind one segment further down: a declared field of an object, or any element of an
array. -/
def child? : FieldKind → String → Option FieldKind
  | .object fields, segment => Members.get? fields segment
  | .array element, segment => (Path.index? segment).map fun _ => element
  | _, _ => none

/-- The kind at the end of a walk. -/
def walk? : FieldKind → List String → Option FieldKind
  | kind, [] => some kind
  | kind, segment :: rest => (kind.child? segment).bind fun below => walk? below rest

end FieldKind

/-- The declared kinds of the fields of a record. -/
abbrev TypeMap := Members FieldKind

namespace TypeMap

/-- The declared kind at a path.  A declaration of the whole path comes before a walk through
the declarations of its segments. -/
def resolve? (types : TypeMap) (path : String) : Option FieldKind :=
  match Members.get? types path with
  | some kind => some kind
  | none =>
    match Path.segments path with
    | [] => none
    | first :: rest => (Members.get? types first).bind fun kind => kind.walk? rest

end TypeMap

/-! ## Declarations as JSON -/

namespace FieldKind

/-- What the name of a kind says about the parts that follow. -/
inductive Tag where
  | plain (kind : FieldKind)
  | object
  | array

/-- The kinds by name, in order. -/
def tags : List (String × Tag) :=
  [("string", .plain .string), ("int", .plain .int), ("float", .plain .float),
    ("bool", .plain .bool), ("date", .plain .date), ("object", .object), ("array", .array)]

/-- The tag a value names.  Inside another declaration a kind may also be given by its number
in the order of the kinds. -/
def tag? (nested : Bool) : Value → Option Tag
  | .str name => tags.lookup name
  | .num (.int n) => if nested ∧ 0 ≤ n then (tags[n.toNat]?).map Prod.snd else none
  | _ => none

mutual

/-- The kind a value declares. -/
def ofJson? (nested : Bool) : Value → Option FieldKind
  | .obj members =>
    match (Members.get? members "type").bind (tag? nested) with
    | some (.plain kind) => some kind
    | some .object => (fieldsMember members).map .object
    | some .array => (elementMember members).map .array
    | none => none
  | .arr [tag] =>
    match tag? nested tag with
    | some (.plain kind) => some kind
    | some .object => some (.object [])
    | _ => none
  | .arr [tag, part] =>
    match tag? nested tag with
    | some .object => (fieldsOf part).map .object
    | some .array => (ofJson? true part).map .array
    | _ => none
  | _ => none

/-- The kind under `element_type`, which must be there. -/
def elementMember : List (String × Value) → Option FieldKind
  | [] => none
  | (key, v) :: rest => if key = "element_type" then ofJson? true v else elementMember rest

/-- The declarations under `fields`, none when there is no such member. -/
def fieldsMember : List (String × Value) → Option (List (String × FieldKind))
  | [] => some []
  | (key, v) :: rest => if key = "fields" then fieldsOf v else fieldsMember rest

/-- The declarations that an object holds. -/
def fieldsOf : Value → Option (List (String × FieldKind))
  | .obj members => declarations members
  | _ => none

def declarations : List (String × Value) → Option (List (String × FieldKind))
  | [] => some []
  | (key, v) :: rest =>
    match ofJson? true v, declarations rest with
    | some kind, some more => some ((key, kind) :: more)
    | _, _ => none

end

mutual

/-- The declaration of a kind. -/
def toJson : FieldKind → Value
  | .string => .obj [("type", .str "string")]
  | .int => .obj [("type", .str "int")]
  | .float => .obj [("type", .str "float")]
  | .bool => .obj [("type", .str "bool")]
  | .date => .obj [("type", .str "date")]
  | .object fields => .obj [("type", .str "object"), ("fields", .obj (fieldsToJson fields))]
  | .array element => .obj [("type", .str "array"), ("element_type", toJson element)]

def fieldsToJson : List (String × FieldKind) → List (String × Value)
  | [] => []
  | (key, kind) :: rest => (key, toJson kind) :: fieldsToJson rest

end

end FieldKind

namespace TypeMap

/-- The declarations of all members, or nothing when one is not a declaration. -/
def declared? : List (String × Value) → Option TypeMap
  | [] => some []
  | (key, v) :: rest =>
    match FieldKind.ofJson? false v, declared? rest with
    | some kind, some more => some ((key, kind) :: more)
    | _, _ => none

/-- Reads a type map. -/
def ofJson : Value → Except UpdateError TypeMap
  | .obj members =>
    match declared? members with
    | some types => .ok types
    | none => .error invalid
  | _ => .error invalid
where
  invalid := .config "Invalid field type map: <parse error>"

/-- The type map as JSON. -/
def toJson (types : TypeMap) : Value := .obj (FieldKind.fieldsToJson types)

end TypeMap
end Amend
