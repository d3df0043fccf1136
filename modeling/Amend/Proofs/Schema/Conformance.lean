/-
Records that conform to their declarations.  The walk through the declarations and the walk
through the values of a record stay in step, so what stands at a path conforms to the kind that is
declared there.
-/
import Amend.Schema
import Amend.Proofs.Path.Slot
import Amend.Proofs.Path.Segments

namespace Amend

namespace FieldKind

/-- The values that may stand in a field of a kind.  A declared field of an object may be missing,
and fields without a declaration may hold anything. -/
inductive Conforms : FieldKind → Value → Prop where
  | null (kind : FieldKind) : Conforms kind .null
  | string (s : String) : Conforms .string (.str s)
  | int (n : Number) : Conforms .int (.num n)
  | float (n : Number) : Conforms .float (.num n)
  | bool (b : Bool) : Conforms .bool (.bool b)
  | date (v : Value) : Conforms .date v
  | object {fields : Members FieldKind} {members : Members Value}
    (h : ∀ (name : String) (kind : FieldKind) (v : Value),
      fields.get? name = some kind → members.get? name = some v → Conforms kind v) :
    Conforms (.object fields) (.obj members)
  | array {element : FieldKind} {items : List Value} (h : ∀ item ∈ items, Conforms element item) :
    Conforms (.array element) (.arr items)

variable {kind below : FieldKind} {v w : Value} {segment : String} {segments : List String}

/-- One segment leads from a conforming value to one that conforms to the kind below. -/
theorem Conforms.child (h : kind.Conforms v) (hkind : kind.child? segment = some below)
    (hv : Path.child? v segment = some w) : below.Conforms w := by
  cases h with
  | null => nomatch hv
  | string | int | float | bool | date => nomatch hkind
  | object h => exact h segment below w hkind hv
  | array h =>
    obtain ⟨_, -, rfl⟩ := Option.map_eq_some_iff.mp hkind
    obtain ⟨i, -, hi⟩ := Option.bind_eq_some_iff.mp hv
    exact h w (List.mem_of_getElem? hi)

theorem Conforms.walk (h : kind.Conforms v) (hkind : kind.walk? segments = some below)
    (hv : Path.walk? v segments = some w) : below.Conforms w := by
  induction segments generalizing kind v with
  | nil =>
    rw [← Option.some.inj hkind, ← Option.some.inj hv]
    exact h
  | cons segment rest ih =>
    obtain ⟨kind', hchild, hrest⟩ := Option.bind_eq_some_iff.mp hkind
    obtain ⟨v', hvalue, hw⟩ := Option.bind_eq_some_iff.mp hv
    exact ih (h.child hchild hvalue) hrest hw

end FieldKind

namespace TypeMap

/-- Whether a record conforms to its declarations: what stands under the name of a declaration, be
it a field or a whole path, conforms to the declared kind. -/
def Describes (types : TypeMap) (record : Record) : Prop :=
  ∀ (name : String) (kind : FieldKind) (v : Value),
    Members.get? types name = some kind → Path.get? record name = some v → kind.Conforms v

variable {types : TypeMap} {record : Record}

/-- What stands at a path conforms to the kind that its declarations give it. -/
theorem Describes.conforms (h : types.Describes record) {path : String} {kind : FieldKind}
    {v : Value} (hkind : types.resolve? path = some kind) (hv : Path.get? record path = some v) :
    kind.Conforms v := by
  unfold resolve? at hkind
  split at hkind
  · next whole hwhole =>
    rw [← Option.some.inj hkind]
    exact h path whole v hwhole hv
  · split at hkind
    · nomatch hkind
    · next first rest hsegments =>
      obtain ⟨top, htop, hwalk⟩ := Option.bind_eq_some_iff.mp hkind
      rw [Path.get?, hsegments] at hv
      obtain ⟨field, hfield, hrest⟩ := Option.bind_eq_some_iff.mp hv
      -- The first segment is the name of a field and has no dot of its own.
      have hfirst : first ∈ Path.segments path := by simp [hsegments]
      have hdot : Path.isDotted first = false := by
        simpa [Path.isDotted] using Path.dot_not_mem_of_mem_segments hfirst
      have hget : Path.get? record first = some field := by
        rw [Path.get?, Path.segments_of_not_dotted hdot, Path.walk?_cons, hfield]
        rfl
      exact (h first top field htop hget).walk hwalk hrest

end TypeMap
end Amend
