/-
Validation and mutation one after the other.  The engine validates each entry just before it
applies it; the rules see nothing but the entry.  A document commits under rules exactly when the
rules accept the written part of every entry and the document with the normalized parts commits
without rules, with the same record, the same draws and the same log.
-/
import Amend.Proofs.Engine.Admission

namespace Amend

/-! ## Normalized documents -/

namespace Entry

/-- The operand with another value in the place of the part that the operator writes. -/
def operandWith (entry : Entry) (v : Value) : Operand :=
  match entry.operand, entry.operator.written with
  | .value _, .whole => .value v
  | .value (.obj members), .member name => .value (.obj (Members.set members name v))
  | operand, _ => operand

/-- The rules of the entry's path accept the part that its operator writes, if it writes one. -/
def Accepted (policy : ValidationPolicy) (rules : RuleSet) (entry : Entry) : Prop :=
  ∀ part, entry.writtenPart? = some part → ∃ v, rules.validate policy entry.path part = .ok v

/-- The entry with the written part as validation gives it. -/
def normal (policy : ValidationPolicy) (rules : RuleSet) (entry : Entry) : Entry :=
  { entry with operand :=
      match entry.writtenPart? with
      | none => entry.operand
      | some part =>
        match rules.validate policy entry.path part with
        | .ok v => entry.operandWith v
        | .error _ => entry.operand }

variable {policy : ValidationPolicy} {rules : RuleSet} {entry : Entry} {part v : Value}

theorem normal_of_writtenPart?_eq_none (h : entry.writtenPart? = none) :
    entry.normal policy rules = entry := by
  rw [normal, h]

theorem normal_of_validate (h : entry.writtenPart? = some part)
    (hv : rules.validate policy entry.path part = .ok v) :
    entry.normal policy rules = { entry with operand := entry.operandWith v } := by
  rw [normal, h]
  simp only [hv]

/-- Writing back the part that is there changes nothing. -/
theorem operandWith_writtenPart (h : entry.writtenPart? = some part) :
    entry.operandWith part = entry.operand := by
  unfold writtenPart? at h
  unfold operandWith
  split at h
  · next candidate ho hw =>
    rw [ho, hw, Option.some.inj h]
  · next candidate name ho hw =>
    rw [ho, hw]
    cases candidate with
    | obj members =>
      have hm : Members.get? members name = some part := h
      simp only [Members.set_of_get?_eq hm]
    | null | bool | num | str | arr => nomatch h
  · nomatch h

end Entry

namespace Document

/-- The document with the entries as validation gives them. -/
def normal (policy : ValidationPolicy) (rules : RuleSet) (doc : Document) : Document :=
  ⟨doc.groups.map fun (op, entries) => (op, entries.map fun (path, operand) =>
    (path, (Entry.normal policy rules ⟨op, path, operand⟩).operand))⟩

theorem entries_normal (policy : ValidationPolicy) (rules : RuleSet) (doc : Document) :
    (doc.normal policy rules).entries = doc.entries.map (Entry.normal policy rules) := by
  unfold entries normal
  rw [List.flatMap_map, List.map_flatMap]
  congr 1
  funext ⟨op, entries⟩
  simp only [List.map_map]
  exact List.map_congr_left fun _ _ => rfl

theorem size_normal (policy : ValidationPolicy) (rules : RuleSet) (doc : Document) :
    (doc.normal policy rules).size = doc.size := by
  unfold size normal
  rw [List.foldl_map]
  simp only [List.length_map]

end Document

namespace Engine

variable {config : Config} {policy : ValidationPolicy} {rules rules' : RuleSet} {types : TypeMap}
  {schema schema' : Schema} {entry : Entry} {entries : List Entry} {p : Progress}

/-! ## One entry -/

theorem normalized_of_validate {part v : Value} (h : entry.writtenPart? = some part)
    (hv : rules.validate policy entry.path part = .ok v) :
    normalized policy rules entry = .ok (entry.operandWith v) := by
  unfold Entry.writtenPart? at h
  unfold normalized Entry.operandWith
  split at h
  · next candidate ho hw =>
    rw [← Option.some.inj h] at hv
    simp only [ho, hw, hv]
    rfl
  · next candidate name ho hw =>
    cases candidate with
    | obj members =>
      have hm : Members.get? members name = some part := h
      simp only [ho, hw, hm, hv]
      rfl
    | null | bool | num | str | arr => nomatch h
  · nomatch h

theorem normalized_of_accepted (h : entry.Accepted policy rules) :
    normalized policy rules entry = .ok (entry.normal policy rules).operand := by
  cases hpart : entry.writtenPart? with
  | none =>
    rw [normalized_of_writtenPart?_eq_none policy rules hpart,
      Entry.normal_of_writtenPart?_eq_none hpart]
  | some part =>
    obtain ⟨v, hv⟩ := h part hpart
    rw [normalized_of_validate hpart hv, Entry.normal_of_validate hpart hv]

theorem normalized_without_rules (policy : ValidationPolicy) (entry : Entry) :
    normalized policy [] entry = .ok entry.operand := by
  cases hpart : entry.writtenPart? with
  | none => exact normalized_of_writtenPart?_eq_none policy [] hpart
  | some part =>
    rw [normalized_of_validate hpart rfl, Entry.operandWith_writtenPart hpart]

/-- Rules are looked up by the entry's own path, and only where its operator writes a part. -/
theorem normalized_congr
    (h : entry.writtenPart? = none ∨
      Members.get? rules entry.path = Members.get? rules' entry.path) :
    normalized policy rules entry = normalized policy rules' entry := by
  rcases h with h | h
  · rw [normalized_of_writtenPart?_eq_none policy rules h,
      normalized_of_writtenPart?_eq_none policy rules' h]
  · unfold normalized RuleSet.validate
    rw [h]

/-- The entry as the engine of a configuration applies it. -/
def substituted (config : Config) (rules : RuleSet) (entry : Entry) : Entry :=
  if config.applyNormalizedOperands then entry.normal config.validationPolicy rules else entry

theorem step_of_accepted (h : entry.Accepted config.validationPolicy rules) :
    step config ⟨rules, types⟩ entry p =
      step config ⟨[], types⟩ (substituted config rules entry) p := by
  have hnormal := normalized_of_accepted h
  unfold step substituted
  rw [admitted_eq, admitted_eq, hnormal, normalized_without_rules]
  cases hn : config.applyNormalizedOperands with
  | false => rfl
  | true =>
    simp only [Except.map, if_true]
    rfl

theorem step_congr
    (h : entry.writtenPart? = none ∨
      Members.get? rules entry.path = Members.get? rules' entry.path) :
    step config ⟨rules, types⟩ entry p = step config ⟨rules', types⟩ entry p := by
  unfold step
  rw [admitted_eq, admitted_eq, normalized_congr h]

/-! ## Runs -/

/-- Entries that make the same steps make the same run. -/
theorem run_map {change : Entry → Entry}
    (h : ∀ entry ∈ entries, ∀ p, step config schema entry p = step config schema' (change entry) p)
    (p : Progress) :
    run config schema entries p = run config schema' (entries.map change) p := by
  have hsteps : List.Forall₂ (fun entry entry' => ∀ p q, p = q →
      (step config schema entry p).2 = (step config schema' entry' q).2 ∧
        (step config schema entry p).1 = (step config schema' entry' q).1)
      entries (entries.map change) := by
    rw [List.forall₂_map_right_iff, List.forall₂_same]
    intro entry he p q hpq
    rw [hpq, h entry he q]
    exact ⟨rfl, rfl⟩
  obtain ⟨herror, hprogress⟩ := run_related hsteps (Eq.refl p)
  exact Prod.ext hprogress herror

/-- Documents of one size that make the same run have the same outcome. -/
theorem apply_congr {engine : Engine} {doc doc' : Document} (hsize : doc.size = doc'.size)
    (h : ∀ p, run engine.config schema doc.entries p = run engine.config schema' doc'.entries p)
    (log : Log) (base : Record) :
    engine.apply schema log base doc = engine.apply schema' log base doc' := by
  unfold apply
  simp only [hsize, h]

/-- Where the rules accept every entry, they have no other effect than to normalize. -/
theorem apply_of_accepted {engine : Engine} {doc : Document}
    (h : ∀ entry ∈ doc.entries, entry.Accepted engine.config.validationPolicy rules)
    (log : Log) (base : Record) :
    engine.apply ⟨rules, types⟩ log base doc = engine.apply ⟨[], types⟩ log base
      (if engine.config.applyNormalizedOperands then
        doc.normal engine.config.validationPolicy rules else doc) := by
  have hrun (p : Progress) : run engine.config ⟨rules, types⟩ doc.entries p =
      run engine.config ⟨[], types⟩ (doc.entries.map (substituted engine.config rules)) p :=
    run_map (fun entry he p => step_of_accepted (h entry he)) p
  cases hn : engine.config.applyNormalizedOperands with
  | true =>
    have hchange : substituted engine.config rules =
        Entry.normal engine.config.validationPolicy rules := by
      funext entry
      exact if_pos hn
    rw [if_pos rfl]
    refine apply_congr (Document.size_normal _ _ doc).symm (fun p => ?_) log base
    rw [hrun, hchange, Document.entries_normal]
  | false =>
    have hchange : substituted engine.config rules = id := by
      funext entry
      exact if_neg (hn ▸ Bool.false_ne_true)
    rw [if_neg Bool.false_ne_true]
    refine apply_congr rfl (fun p => ?_) log base
    rw [hrun, hchange, List.map_id]

/-- A document that commits has had every written part accepted. -/
theorem accepted_of_committed {engine : Engine} {log : Log} {base out : Record} {doc : Document}
    (h : (engine.apply ⟨rules, types⟩ log base doc).result = .ok out) :
    ∀ entry ∈ doc.entries, entry.Accepted engine.config.validationPolicy rules := by
  intro entry he part hpart
  obtain ⟨before, after, hentries⟩ := List.append_of_mem he
  obtain ⟨reached, next, -, hstep⟩ := step_of_committed h hentries
  obtain ⟨operand, declared, v, hadmitted, -⟩ := step_committed hstep
  obtain ⟨normal, hnormal, -⟩ := admitted_eq_ok hadmitted
  exact validate_of_normalized_eq_ok hnormal hpart

/-- Validation factors out of mutation.  A document commits under rules when the rules accept what
its entries write, and the document with the normalized parts, or as it is where normalized
operands are not asked for, commits to the same record without rules.  Rules that agree on the
paths of the entries that write a part of their operand have one outcome. -/
theorem apply_factors (engine : Engine) (rules : RuleSet) (types : TypeMap) (log : Log)
    (base : Record) (doc : Document) :
    (∀ out, (engine.apply ⟨rules, types⟩ log base doc).result = .ok out ↔
      (∀ entry ∈ doc.entries, entry.Accepted engine.config.validationPolicy rules) ∧
        (engine.apply ⟨[], types⟩ log base
          (if engine.config.applyNormalizedOperands then
            doc.normal engine.config.validationPolicy rules else doc)).result = .ok out) ∧
    (∀ rules' : RuleSet,
      (∀ entry ∈ doc.entries, entry.writtenPart? = none ∨
        Members.get? rules entry.path = Members.get? rules' entry.path) →
      engine.apply ⟨rules, types⟩ log base doc = engine.apply ⟨rules', types⟩ log base doc) := by
  constructor
  · intro out
    constructor
    · intro h
      have haccepted := accepted_of_committed h
      rw [apply_of_accepted haccepted] at h
      exact ⟨haccepted, h⟩
    · intro ⟨haccepted, h⟩
      rw [apply_of_accepted haccepted]
      exact h
  · intro rules' h
    refine apply_congr rfl (fun p => ?_) log base
    have hrun : run engine.config ⟨rules, types⟩ doc.entries p =
        run engine.config ⟨rules', types⟩ (doc.entries.map id) p :=
      run_map (fun entry he p => step_congr (h entry he)) p
    rw [hrun, List.map_id]

/-- A replacement is trimmed before it is written; rules for a field that is only set have no
influence. -/
theorem apply_factors_trimmed_replacement :
    let engine := start {} (.ofSeed 0)
    let rules : RuleSet := [("s", [.trim, .check (.maxLength 1)])]
    let rules' : RuleSet := [("t", [.check (.oneOf [])]), ("s", [.trim, .check (.maxLength 1)])]
    let types : TypeMap := [("s", .string)]
    let base : Record := [("s", .str "ab")]
    let doc (text : String) : Document :=
      ⟨[(.text .replace, [("s", .value (.obj
        [("$searchValue", .str "b"), ("$replaceValue", .str text)]))]),
        (.global .set, [("t", .value .null)])]⟩
    (engine.apply ⟨rules, types⟩ (.start .info) base (doc " c ")).result =
        .ok [("s", .str "ac"), ("t", .null)] ∧
      (engine.apply ⟨[], types⟩ (.start .info) base (doc "c")).result =
        .ok [("s", .str "ac"), ("t", .null)] ∧
      engine.apply ⟨rules, types⟩ (.start .info) base (doc " c ") =
        engine.apply ⟨rules', types⟩ (.start .info) base (doc " c ") := by
  intro engine rules rules' types base doc
  have hfactors := apply_factors engine rules types (.start .info) base (doc " c ")
  have hcommit : (engine.apply ⟨rules, types⟩ (.start .info) base (doc " c ")).result =
      .ok [("s", .str "ac"), ("t", .null)] := rfl
  refine ⟨hcommit, ((hfactors.1 _).mp hcommit).2, hfactors.2 rules' fun entry he => ?_⟩
  have hentries : (doc " c ").entries = [⟨.text .replace, "s", .value (.obj
      [("$searchValue", .str "b"), ("$replaceValue", .str " c ")])⟩,
      ⟨.global .set, "t", .value .null⟩] := rfl
  rw [hentries] at he
  rcases List.mem_pair.mp he with rfl | rfl
  · exact .inr rfl
  · exact .inl rfl

end Engine
end Amend
