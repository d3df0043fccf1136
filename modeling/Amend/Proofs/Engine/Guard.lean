/-
What the rules of a path guard.  The rules see every operand that is written through their path
as it is spelled, and nothing that is written to the same place through another spelling.
-/
import Amend.Proofs.Engine.Admission
import Amend.Proofs.Path.Place

namespace Amend
namespace Engine

/-- Whether the rules of `p` have accepted everything that a committed document has written to
their place by an entry with the path `q`. -/
def Guards (p q : String) : Prop :=
  ∀ (engine : Engine) (schema : Schema) (log : Log) (base out : Record) (doc : Document)
    (before after : List Entry) (entry : Entry) (reached : Progress) (rules : FieldRules),
    (engine.apply schema log base doc).result = .ok out →
    doc.entries = before ++ entry :: after →
    run engine.config schema before (outset engine log base doc) = (reached, none) →
    entry.path = q → entry.operator.written ≠ .nothing →
    Path.SamePlace reached.record q p →
    Members.get? schema.rules p = some rules →
    ∃ part normal, entry.writtenPart? = some part ∧
      rules.validate engine.config.validationPolicy part = .ok normal

theorem validate_of_get?_eq {set : RuleSet} {rules : FieldRules} {policy : ValidationPolicy}
    {path : String} {part normal : Value} (hr : Members.get? set path = some rules)
    (h : set.validate policy path part = .ok normal) : rules.validate policy part = .ok normal := by
  simp only [RuleSet.validate, hr] at h
  cases hv : rules.validate policy part with
  | ok value =>
    rw [hv] at h
    exact congrArg Except.ok (Except.ok.inj h)
  | error rejection =>
    rw [hv] at h
    nomatch h

/-- The rules of a path guard what is written through this path. -/
theorem guards_self (p : String) : Guards p p := by
  intro engine schema log base out doc before after entry reached rules hcommit hentries hbefore
    hpath hop _ hrules
  obtain ⟨_, next, -, hstep⟩ := step_of_committed hcommit hentries
  obtain ⟨part, normal, hpart, hv⟩ := accepted_of_step hstep hop
  rw [hpath] at hv
  exact ⟨part, normal, hpart, validate_of_get?_eq hrules hv⟩

/-- Nothing is written through a path with an empty segment, other than the empty field name. -/
theorem guards_of_empty_segment {p q : String} (hq : "" ∈ Path.segments q) : Guards p q := by
  intro engine schema log base out doc before after entry reached rules hcommit hentries hbefore
    hpath hop hsame hrules
  cases hd : Path.isDotted q with
  | false =>
    obtain rfl := Path.eq_of_samePlace_of_not_dotted hsame hd
    exact guards_self p engine schema log base out doc before after entry reached rules hcommit
      hentries hbefore hpath hop hsame hrules
  | true =>
    obtain ⟨_, next, -, hstep⟩ := step_of_committed hcommit hentries
    obtain ⟨operand, declared, v, -, -, ho, -, -⟩ := step_committed hstep
    rw [hpath] at ho
    have hform := Path.formFault?_eq_none_iff.mp (Option.or_eq_none_iff.mp ho).1
    exact absurd hq (hform hd).1

theorem rejected_of_accepted_eq_false {rules : FieldRules} {policy : ValidationPolicy}
    {part normal : Value} (h : Rule.accepted (rules.validate policy part) = false) :
    rules.validate policy part ≠ .ok normal := by
  intro hv
  rw [hv] at h
  exact Bool.noConfusion h

/-- Rules that reject everything at one path let a number at their place be incremented through
an alias of it. -/
theorem not_guards_of_ne {p q : String} (hne : p ≠ q) (hform : "" ∉ Path.segments q)
    (h : Path.Aliases q p) : ¬ Guards p q := by
  intro hguards
  obtain ⟨base, hsame, hget⟩ := h.exists_number
  let config : Config := { maxPathDepth := (Path.segments q).length }
  let engine : Engine := start config (.ofSeed 0)
  let rules : FieldRules := [.check (.oneOf [])]
  let schema : Schema := ⟨[(p, rules)], [(q, .int)]⟩
  let entry : Entry := ⟨.numeric .inc, q, .value (.int 1)⟩
  let doc : Document := ⟨[(.numeric .inc, [(q, .value (.int 1))])]⟩
  let outset := outset engine (.start .info) base doc
  have hentries : doc.entries = [entry] := rfl
  have hop : (Operator.numeric .inc).written ≠ .nothing := by decide
  have hunruled : schema.rules.validate config.validationPolicy q (.int 1) = .ok (.int 1) := by
    have hnone : Members.get? schema.rules q = none := if_neg hne
    rw [RuleSet.validate, hnone]
  have hadmitted : admitted config schema.rules entry = .ok entry.operand := by
    have hn : normalized config.validationPolicy schema.rules entry = .ok entry.operand := by
      show (schema.rules.validate config.validationPolicy q (.int 1) >>= fun v =>
        .ok (Operand.value v)) = _
      rw [hunruled]
      rfl
    rw [admitted_eq, hn]
    rfl
  have hgate : Operator.gate entry.operator entry.path schema.types = .ok (some .int) := by
    have hresolve : TypeMap.resolve? schema.types q = some .int := by
      rw [TypeMap.resolve?, Members.get?_cons_self]
    simp only [Operator.gate, entry, hresolve]
    rfl
  have ho : Path.obstruction? config.maxPathDepth outset.record entry.path = none := by
    rw [Path.obstruction?, Path.formFault?_eq_none_iff.mpr (fun _ => ⟨hform, Nat.le_refl _⟩),
      Option.none_or]
    exact Path.obstacle?_of_walk?_eq hget
  have ht : entry.operator.transform (some .int) outset.stream entry.operand
      (Path.get? outset.record entry.path) = .ok (.int 1) := by
    show entry.operator.transform _ _ _ (Path.get? base q) = _
    rw [hget]
    rfl
  obtain ⟨next, hstep⟩ := step_eq_stored hadmitted hgate ho ht
  have hrun : run config schema doc.entries outset = (next, none) :=
    run_cons_committed.mpr ⟨next, hstep, rfl⟩
  have hcommit : (engine.apply schema (.start .info) base doc).result = .ok next.record :=
    result_eq_ok_iff.mpr ⟨next, hrun, rfl⟩
  obtain ⟨part, normal, hpart, hv⟩ := hguards engine schema (.start .info) base next.record doc
    [] [] entry outset rules hcommit hentries rfl rfl hop hsame (Members.get?_cons_self _ _ _)
  have hone : Value.int 1 = part := Option.some.inj hpart
  exact rejected_of_accepted_eq_false rfl (hone ▸ hv)

/-- Exactly when the rules of a path guard what is written through another path: when both are
spelled alike, or nothing can be written through the other, or the other is no alias. -/
theorem guards_iff (p q : String) :
    Guards p q ↔ p = q ∨ "" ∈ Path.segments q ∨ ¬ Path.Aliases q p := by
  constructor
  · intro hguards
    by_cases hpq : p = q
    · exact Or.inl hpq
    · by_cases hform : "" ∈ Path.segments q
      · exact Or.inr (Or.inl hform)
      · exact Or.inr (Or.inr fun h => not_guards_of_ne hpq hform h hguards)
  · rintro (rfl | hform | hnone)
    · exact guards_self p
    · exact guards_of_empty_segment hform
    · intro engine schema log base out doc before after entry reached rules _ _ _ _ _ hsame
      exact absurd hsame.aliases hnone

/-- The first element of an array has many paths.  Rules at one of them do not see an increment
through another. -/
theorem not_guards_padded_index : ¬ Guards "a.0" "a.00" := by
  intro hguards
  let rules : FieldRules := [.check (.lessThan (.ofInt 5))]
  let schema : Schema := ⟨[("a.0", rules)], [("a", .array .int)]⟩
  let base : Record := [("a", .arr [.int 1])]
  let doc : Document := ⟨[(.numeric .inc, [("a.00", .value (.int 10))])]⟩
  let engine : Engine := start {} (.ofSeed 0)
  have hcommit : (engine.apply schema (.start .info) base doc).result =
      .ok [("a", .arr [.int 11])] := rfl
  have hsame : Path.SamePlace base "a.00" "a.0" := ⟨[.member "a", .element 0], rfl, rfl⟩
  have hrejected : Rule.accepted (rules.validate .skipAbsent (.int 10)) = false := by
    decide +kernel
  obtain ⟨part, normal, hpart, hv⟩ := hguards engine schema (.start .info) base _ doc [] []
    ⟨.numeric .inc, "a.00", .value (.int 10)⟩ (outset engine (.start .info) base doc) rules
    hcommit rfl rfl rfl (by decide) hsame rfl
  have hten : Value.int 10 = part := Option.some.inj hpart
  exact rejected_of_accepted_eq_false hrejected (hten ▸ hv)

end Engine
end Amend
