/-
What an attempt to apply an operator leads to.  The gate, the walk and the operator can each
refuse it, in this order.  Only a refusal by the operator can leave a trace, and the trace is
what the walk made.
-/
import Amend.Operator.Dispatch
import Amend.Proofs.Path.Growth

namespace Amend
namespace Operator

variable {maxDepth : Nat} {types : TypeMap} {record : Record} {stream : Random.Stream}
  {op : Operator} {path : String} {operand : Operand}

/-- The gate refuses only because of the declared kind. -/
theorem gate_eq_error {e : UpdateError} (h : gate op path types = .error e) :
    ∃ declared, e = .typeMismatch op.name path declared := by
  unfold gate at h
  simp only at h
  split at h
  · nomatch h
  · split at h
    · exact ⟨undeclared, (Except.error.inj h).symm⟩
    · split at h
      · nomatch h
      · exact ⟨_, (Except.error.inj h).symm⟩

theorem gate_of_accepts {kind : FieldKind} (hkind : types.resolve? path = some kind)
    (h : op.family.accepts kind = true) : gate op path types = .ok (some kind) := by
  unfold gate
  simp only [hkind, h, if_true, ite_self]

/-- The four ways in which an attempt can end. -/
theorem dispatch_cases (maxDepth : Nat) (types : TypeMap) (record : Record)
    (stream : Random.Stream) (op : Operator) (path : String) (operand : Operand) :
    (∃ e, gate op path types = .error e ∧
      dispatch maxDepth types record stream op path operand = ⟨record, stream, some e⟩) ∨
    (∃ declared fault, gate op path types = .ok declared ∧
      Path.obstruction? maxDepth record path = some fault ∧
      dispatch maxDepth types record stream op path operand =
        ⟨record, stream, some (.path path fault)⟩) ∨
    (∃ declared fault, gate op path types = .ok declared ∧
      Path.obstruction? maxDepth record path = none ∧
      transform op declared stream operand (Path.get? record path) = .error fault ∧
      dispatch maxDepth types record stream op path operand =
        ⟨Path.prepared record path, stream, some (.operator op.name path fault)⟩) ∨
    (∃ declared v, gate op path types = .ok declared ∧
      Path.obstruction? maxDepth record path = none ∧
      transform op declared stream operand (Path.get? record path) = .ok v ∧
      dispatch maxDepth types record stream op path operand =
        ⟨Path.stored record path v,
          if op = .numeric .random then stream.tail else stream, none⟩) := by
  unfold dispatch
  cases hg : gate op path types with
  | error e => exact Or.inl ⟨e, rfl, rfl⟩
  | ok declared =>
    right
    simp only [Path.update_eq]
    cases ho : Path.obstruction? maxDepth record path with
    | some fault => exact Or.inl ⟨declared, fault, rfl, rfl, rfl⟩
    | none =>
      right
      cases ht : transform op declared stream operand (Path.get? record path) with
      | error fault => exact Or.inl ⟨declared, fault, rfl, rfl, ht, rfl⟩
      | ok v => exact Or.inr ⟨declared, v, rfl, rfl, ht, rfl⟩

/-- An attempt without an error has stored what the operator makes of the value at the path. -/
theorem dispatch_committed
    (h : (dispatch maxDepth types record stream op path operand).error? = none) :
    ∃ declared v, gate op path types = .ok declared ∧
      Path.obstruction? maxDepth record path = none ∧
      transform op declared stream operand (Path.get? record path) = .ok v ∧
      dispatch maxDepth types record stream op path operand =
        ⟨Path.stored record path v,
          if op = .numeric .random then stream.tail else stream, none⟩ := by
  rcases dispatch_cases maxDepth types record stream op path operand with
    ⟨e, -, he⟩ | ⟨declared, fault, -, -, he⟩ | ⟨declared, fault, -, -, -, he⟩ | hok
  · rw [he] at h
    nomatch h
  · rw [he] at h
    nomatch h
  · rw [he] at h
    nomatch h
  · exact hok

theorem dispatch_eq_stored {declared : Option FieldKind} {v : Value}
    (hg : gate op path types = .ok declared)
    (ho : Path.obstruction? maxDepth record path = none)
    (ht : transform op declared stream operand (Path.get? record path) = .ok v) :
    dispatch maxDepth types record stream op path operand =
      ⟨Path.stored record path v,
        if op = .numeric .random then stream.tail else stream, none⟩ := by
  simp only [dispatch, hg, Path.update_eq, ho, ht]

theorem dispatch_eq_refused {declared : Option FieldKind} {fault : Fault}
    (hg : gate op path types = .ok declared)
    (ho : Path.obstruction? maxDepth record path = none)
    (ht : transform op declared stream operand (Path.get? record path) = .error fault) :
    dispatch maxDepth types record stream op path operand =
      ⟨Path.prepared record path, stream, some (.operator op.name path fault)⟩ := by
  simp only [dispatch, hg, Path.update_eq, ho, ht]
  rfl

/-- What a failed attempt leaves of the record.  A mismatch of types or a path that leads nowhere
leaves it as it was.  So does a refusal by the operator where the parent of the path is present;
elsewhere the parent has become an empty object, as if it had been set.  What was there and not
null is still there, in its old order. -/
theorem dispatch_failed {e : UpdateError}
    (h : (dispatch maxDepth types record stream op path operand).error? = some e) :
    let after := (dispatch maxDepth types record stream op path operand).record
    (((∃ declared, e = .typeMismatch op.name path declared) ∧ after = record) ∨
      ((∃ fault, e = .path path fault) ∧ after = record) ∨
      ((∃ fault, e = .operator op.name path fault) ∧
        (Path.ParentPresent record path → after = record) ∧
        (¬ Path.ParentPresent record path →
          Path.set maxDepth record (Path.parent path) (.obj []) = (after, none)))) ∧
    Grows (.obj record) (.obj after) := by
  rcases dispatch_cases maxDepth types record stream op path operand with
    ⟨e', hg, he⟩ | ⟨declared, fault, -, -, he⟩ | ⟨declared, fault, -, ho, -, he⟩ |
      ⟨declared, v, -, -, -, he⟩
  · rw [he] at h ⊢
    rw [Option.some.injEq] at h
    subst h
    exact ⟨Or.inl ⟨gate_eq_error hg, rfl⟩, .refl _⟩
  · rw [he] at h ⊢
    rw [Option.some.injEq] at h
    subst h
    exact ⟨Or.inr (Or.inl ⟨⟨fault, rfl⟩, rfl⟩), .refl _⟩
  · rw [he] at h ⊢
    rw [Option.some.injEq] at h
    subst h
    exact ⟨Or.inr (Or.inr ⟨⟨fault, rfl⟩, Path.prepared_of_parentPresent ho,
      Path.set_parent_of_not_parentPresent ho⟩), Path.grows_prepared ho⟩
  · rw [he] at h
    nomatch h

/-- A refused `$inc` below a null member: the member has become an empty object. -/
theorem dispatch_failed_below_null :
    let attempt := dispatch 32 [("a.b", .int)] [("a", .null), ("n", .int 1)] (.ofSeed 0)
      (.numeric .inc) "a.b" (.value (.str "x"))
    attempt.error? = some (.operator "$inc" "a.b" (.operand "string" "number")) ∧
      Path.set 32 [("a", .null), ("n", .int 1)] "a" (.obj []) = (attempt.record, none) := by
  intro attempt
  have herror : attempt.error? = some (.operator "$inc" "a.b" (.operand "string" "number")) := by
    decide
  have hparent : ¬ Path.ParentPresent [("a", .null), ("n", .int 1)] "a.b" := by
    rintro (hd | ⟨v, hv, hne⟩)
    · exact absurd hd (by decide)
    · exact hne (Option.some.inj hv).symm
  rcases (dispatch_failed herror).1 with ⟨⟨declared, hd⟩, -⟩ | ⟨⟨fault, hf⟩, -⟩ | ⟨-, -, hset⟩
  · nomatch hd
  · nomatch hf
  · exact ⟨herror, hset hparent⟩

end Operator
end Amend
