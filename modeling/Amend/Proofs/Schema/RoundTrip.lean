/-
Declarations written as JSON and read back.  The name of a kind and the declarations of its fields
are members of different objects, so no name of a field is taken for a part of a declaration,
whatever it is.  The fields of a kind have no order of their own: in whatever order they are
written, what is read back declares the same kind at every path.
-/
import Amend.Proofs.Json.Members
import Amend.Proofs.Outcome
import Amend.Schema

namespace Amend

namespace FieldKind

/-! ## Writing and reading -/

mutual

theorem ofJson?_toJson (nested : Bool) (kind : FieldKind) :
    ofJson? nested kind.toJson = some kind := by
  match kind with
  | .string | .int | .float | .bool | .date => rfl
  | .object fields =>
    show (declarations (fieldsToJson fields)).map FieldKind.object = some (.object fields)
    rw [declarations_fieldsToJson fields]
    rfl
  | .array element =>
    show (ofJson? true element.toJson).map FieldKind.array = some (.array element)
    rw [ofJson?_toJson true element]
    rfl

theorem declarations_fieldsToJson (fields : Members FieldKind) :
    declarations (fieldsToJson fields) = some fields := by
  match fields with
  | [] => rfl
  | (key, kind) :: rest =>
    rw [fieldsToJson, declarations, ofJson?_toJson true kind, declarations_fieldsToJson rest]

end

/-! ## Kinds up to the order of fields -/

/-- Kinds that are the same but for the order in which fields are listed, at any depth. -/
inductive Same : FieldKind → FieldKind → Prop
  | refl (kind : FieldKind) : Same kind kind
  | array {element element' : FieldKind} (h : Same element element') :
    Same (.array element) (.array element')
  | object {fields fields' : Members FieldKind} (hkeys : fields.keys.Perm fields'.keys)
    (h : ∀ (name : String) (kind kind' : FieldKind), fields.get? name = some kind →
      fields'.get? name = some kind' → Same kind kind') :
    Same (.object fields) (.object fields')

variable {kind kind' : FieldKind} {fields fields' : Members FieldKind}

theorem Same.get? (h : Same (.object fields) (.object fields')) (name : String) :
    Option.Rel Same (fields.get? name) (fields'.get? name) := by
  cases h with
  | refl => exact rel_self .refl _
  | object hkeys h => exact Members.rel_get? hkeys h name

/-- The order of fields does not show one segment further down. -/
theorem Same.child? (h : Same kind kind') (segment : String) :
    Option.Rel Same (kind.child? segment) (kind'.child? segment) := by
  cases h with
  | refl => exact rel_self .refl _
  | array h =>
    rw [FieldKind.child?, FieldKind.child?]
    cases Path.index? segment with
    | none => exact .none
    | some i => exact .some h
  | object hkeys h => exact Members.rel_get? hkeys h segment

theorem Same.walk? (h : Same kind kind') (segments : List String) :
    Option.Rel Same (kind.walk? segments) (kind'.walk? segments) := by
  induction segments generalizing kind kind' with
  | nil => exact .some h
  | cons segment rest ih =>
    rw [FieldKind.walk?, FieldKind.walk?]
    exact rel_bind (h.child? segment) fun below below' hbelow => ih hbelow

end FieldKind

namespace TypeMap

/-- Type maps that declare the same, in whatever order. -/
def Same (types types' : TypeMap) : Prop := FieldKind.Same (.object types) (.object types')

variable {types types' : TypeMap}

/-- A whole path and a walk are looked up in both maps alike. -/
theorem Same.resolve? (h : Same types types') (path : String) :
    Option.Rel FieldKind.Same (types.resolve? path) (types'.resolve? path) := by
  have hwhole := FieldKind.Same.get? h path
  unfold TypeMap.resolve?
  generalize Members.get? types path = whole at hwhole ⊢
  generalize Members.get? types' path = whole' at hwhole ⊢
  cases hwhole with
  | some hkind => exact .some hkind
  | none =>
    cases Path.segments path with
    | nil => exact .none
    | cons first rest =>
      exact rel_bind (FieldKind.Same.get? h first) fun kind kind' hkind => hkind.walk? rest

theorem declared?_fieldsToJson (types : TypeMap) :
    declared? (FieldKind.fieldsToJson types) = some types := by
  induction types with
  | nil => rfl
  | cons declaration rest ih =>
    rw [FieldKind.fieldsToJson, declared?, FieldKind.ofJson?_toJson, ih]

/-- A type map is read back from its JSON form as it was written, and declares the same at every
path in whatever order it was written. -/
theorem ofJson_toJson (types : TypeMap) :
    ofJson types.toJson = .ok types ∧
      ∀ listing : TypeMap, types.Same listing → ∃ read : TypeMap, ofJson listing.toJson = .ok read ∧
        types.Same read ∧
          ∀ path, Option.Rel FieldKind.Same (types.resolve? path) (read.resolve? path) := by
  have hread : ∀ types : TypeMap, ofJson types.toJson = .ok types := by
    intro types
    rw [toJson, ofJson, declared?_fieldsToJson]
  exact ⟨hread types, fun listing h => ⟨listing, hread listing, h, h.resolve?⟩⟩

/-- Fields with the names of the parts of a declaration, written in another order. -/
theorem ofJson_toJson_reordered :
    let types : TypeMap := [("type", .object [("fields", .int), ("type", .array .date)]),
      ("element_type.0", .bool)]
    let listing : TypeMap := [("element_type.0", .bool),
      ("type", .object [("type", .array .date), ("fields", .int)])]
    types.Same listing ∧ ofJson types.toJson = .ok types ∧
      ∃ read, ofJson listing.toJson = .ok read ∧ types.Same read ∧
        Option.Rel FieldKind.Same (types.resolve? "type.type.7") (read.resolve? "type.type.7") := by
  intro types listing
  have hfields : FieldKind.Same (.object [("fields", .int), ("type", .array .date)])
      (.object [("type", .array .date), ("fields", .int)]) := by
    refine .object (List.Perm.swap _ _ _) fun name kind kind' hkind hkind' => ?_
    have heq : kind = kind' := by
      simp only [Members.get?] at hkind hkind'
      grind
    exact heq ▸ .refl kind
  have h : types.Same listing := by
    refine .object (List.Perm.swap _ _ _) fun name kind kind' hkind hkind' => ?_
    simp only [types, listing, Members.get?] at hkind hkind'
    by_cases htype : "type" = name
    · subst htype
      simp at hkind hkind'
      exact hkind ▸ hkind' ▸ hfields
    · have heq : kind = kind' := by grind
      exact heq ▸ .refl kind
  obtain ⟨hread, hlisting⟩ := ofJson_toJson types
  obtain ⟨read, hok, hsame, hresolve⟩ := hlisting listing h
  exact ⟨h, hread, read, hok, hsame, hresolve "type.type.7"⟩

/-- A field that is declared without a kind is not read. -/
example : ofJson (.obj [("type", .obj [("fields", .obj [])])]) =
    .error (.config "Invalid field type map: <parse error>") := rfl

end TypeMap
end Amend
