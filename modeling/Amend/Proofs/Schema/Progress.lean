/-
Progress in records that conform to their declarations.  What stands at a path is of the kind that
the gate has asked for, so an operator that passes the gate is never refused because of it.
-/
import Amend.Proofs.Operator.Attempt
import Amend.Proofs.Operator.Refusal

namespace Amend

namespace Operator

variable {types : TypeMap} {record : Record} {op : Operator} {path : String}
  {declared : Option FieldKind}

/-- The gate lets an operator through that may target any kind, or one that may target the
declared kind. -/
theorem gate_eq_ok (h : gate op path types = .ok declared) :
    op.family = .global ∨
      ∃ kind, types.resolve? path = some kind ∧ op.family.accepts kind = true := by
  unfold gate at h
  dsimp only at h
  split at h
  · next hglobal => exact .inl hglobal
  · split at h
    · nomatch h
    · next kind hkind =>
      split at h
      · next haccepts => exact .inr ⟨kind, hkind, haccepts⟩
      · nomatch h

/-- In a record that conforms to its declarations, no operator that the gate lets through is
refused because of what stands at its path. -/
theorem sparesStored_of_describes (h : types.Describes record)
    (hgate : gate op path types = .ok declared) (stream : Random.Stream) (operand : Operand) :
    SparesStored (op.transform declared stream operand (Path.get? record path)) := by
  obtain hglobal | ⟨kind, hkind, haccepts⟩ := gate_eq_ok hgate
  · cases op with
    | global op =>
      exact (sparesStored_json operand).bind (sparesStored_transform_global op declared)
    | toggle | numeric | text | object | array => nomatch hglobal
  · exact sparesStored_transform haccepts (fun v hv => h.conforms hkind hv) declared stream operand

end Operator

namespace TypeMap

/-- In a record that conforms to its declarations, what stands at a path conforms to the kind
declared there, and no operator is refused because of what stands at its path. -/
theorem schema_progress {types : TypeMap} {record : Record} (h : types.Describes record) :
    (∀ (path : String) (kind : FieldKind) (v : Value), types.resolve? path = some kind →
      Path.get? record path = some v → kind.Conforms v) ∧
    ∀ (maxDepth : Nat) (stream : Random.Stream) (op : Operator) (path : String)
      (operand : Operand) (name field found expected : String),
      (Operator.dispatch maxDepth types record stream op path operand).error? ≠
        some (.operator name field (.stored found expected)) := by
  refine ⟨fun path kind v => h.conforms, ?_⟩
  intro maxDepth stream op path operand name field found expected herror
  obtain ⟨e, hgate, he⟩ | ⟨declared, fault, -, -, he⟩ | ⟨declared, fault, hgate, -, ht, he⟩ |
      ⟨declared, v, -, -, -, he⟩ :=
    Operator.dispatch_cases maxDepth types record stream op path operand
  · obtain ⟨declared, rfl⟩ := Operator.gate_eq_error hgate
    simp [he] at herror
  · simp [he] at herror
  · have hspares := Operator.sparesStored_of_describes h hgate stream operand
    have hfault : fault = .stored found expected := by
      rw [he] at herror
      simp only [Option.some.injEq, UpdateError.operator.injEq] at herror
      exact herror.2.2
    exact hspares found expected (hfault ▸ ht)
  · simp [he] at herror

/-- A number below an element, and a null where an array is declared by its whole path. -/
theorem schema_progress_below_element :
    let types : TypeMap := [("rows", .array (.object [("n", .int)])), ("meta.tags", .array .string)]
    let record : Record := [("rows", .arr [.null, .obj [("n", .int 7), ("x", .bool true)]]),
      ("meta", .obj [("tags", .null)])]
    types.Describes record ∧ FieldKind.int.Conforms (.int 7) ∧
      (Operator.dispatch 32 types record (.ofSeed 0) (.array .push) "meta.tags"
        (.value (.str "new"))).error? ≠
        some (.operator "$push" "meta.tags" (.stored "null" "array")) := by
  intro types record
  have hrow : (FieldKind.object [("n", .int)]).Conforms
      (.obj [("n", .int 7), ("x", .bool true)]) := by
    refine .object fun name kind v hkind hv => ?_
    by_cases hname : "n" = name
    · subst hname
      rw [Members.get?_cons_self, Option.some.injEq] at hkind hv
      exact hkind ▸ hv ▸ .int _
    · simp [Members.get?, hname] at hkind
  have h : types.Describes record := by
    intro name kind v hkind hv
    by_cases hrows : "rows" = name
    · subst hrows
      rw [Members.get?_cons_self, Option.some.injEq] at hkind
      rw [show Path.get? record "rows" = some _ from rfl, Option.some.injEq] at hv
      rw [← hkind, ← hv]
      exact .array (by simpa using ⟨.null _, hrow⟩)
    · by_cases htags : "meta.tags" = name
      · subst htags
        rw [show Path.get? record "meta.tags" = some .null from rfl, Option.some.injEq] at hv
        exact hv ▸ .null kind
      · simp [types, Members.get?, hrows, htags] at hkind
  have hprogress := schema_progress h
  exact ⟨h, hprogress.1 "rows.+1.n" .int (.int 7) rfl rfl,
    hprogress.2 32 (.ofSeed 0) (.array .push) "meta.tags" (.value (.str "new")) _ _ _ _⟩

/-- A record that does not conform to its declarations is refused. -/
example : (Operator.dispatch 32 [("tags", .array .string)] [("tags", .int 7)] (.ofSeed 0)
    (.array .push) "tags" (.value (.str "new"))).error? =
    some (.operator "$push" "tags" (.stored "int" "array")) := rfl

end TypeMap
end Amend
