/-
Documents that can be retried.  Where every entry settles and no entry disturbs another, a second
application of a committed document finds under each path what the first has stored there, and
stores it again.
-/
import Amend.Proofs.Engine.Admission
import Amend.Proofs.Engine.Independence
import Amend.Proofs.Operator.Settled

namespace Amend
namespace Engine

variable {config : Config} {schema : Schema} {stream : Random.Stream} {record record' : Record}
  {entry : Entry} {entries : List Entry} {v : Value}

/-- An operator that writes no part of its operand gets the operand as it stands. -/
theorem admitted_of_written_eq_nothing {operand : Operand} {rules : RuleSet}
    (h : admitted config rules entry = .ok operand) (hop : entry.operator.written = .nothing) :
    operand = entry.operand := by
  have hpart : entry.writtenPart? = none := by
    unfold Entry.writtenPart?
    rw [hop]
    cases entry.operand <;> rfl
  obtain ⟨normal, hnormal, rfl⟩ := admitted_eq_ok h
  rw [normalized_of_writtenPart?_eq_none _ _ hpart] at hnormal
  rw [← Except.ok.inj hnormal, ite_self]

/-- Entries whose operators settle and have operands without repeated names. -/
structure Settling (entries : List Entry) : Prop where
  settles : ∀ entry ∈ entries, entry.operator.Settles entry.operand
  wellFormed : ∀ entry ∈ entries, entry.operand.WellFormed

/-- An entry that settles has its effect again on every record that has this effect under the
entry's path. -/
theorem effect?_again (hop : entry.operator.Settles entry.operand)
    (hoperand : entry.operand.WellFormed)
    (h : effect? config schema stream record entry = some v)
    (hget : Path.get? record' entry.path = some v)
    (ho : Path.obstruction? config.maxPathDepth record' entry.path = none) :
    effect? config schema stream record' entry = some v := by
  obtain ⟨operand, declared, hadmitted, hgate, -, ht⟩ := effect?_eq_some_iff.mp h
  refine effect?_eq_some_iff.mpr ⟨operand, declared, hadmitted, hgate, ho, ?_⟩
  rw [hget]
  by_cases hwritten : entry.operator.written = .nothing
  · rw [admitted_of_written_eq_nothing hadmitted hwritten] at ht ⊢
    exact Operator.transform_again hop (fun _ => hoperand) ht stream
  · -- The rules may have changed the operand, but they change it alike both times.
    exact Operator.transform_again (hop.of_written_ne hwritten operand)
      (fun h => absurd h hwritten) ht stream

theorem Settling.independent (h : Settling entries)
    (ha : Path.AllApart (entries.map Entry.path)) : Independent entries :=
  ⟨ha, fun entry he => (h.settles entry he).ne_random⟩

/-- After the writes of settling entries each of them has the effect that it had before. -/
theorem Settling.effect?_storedAll (h : Settling entries)
    (ha : Path.AllApart (entries.map Entry.path))
    (heffects : ∀ entry ∈ entries, ∃ v, effect? config schema stream record entry = some v) :
    ∀ entry ∈ entries, effect? config schema stream
        (Path.storedAll record (writes config schema stream record entries)) entry =
      effect? config schema stream record entry := by
  have hpaths := map_fst_writes config schema stream record entries
  have hopen := obstruction?_of_mem_writes heffects
  rw [← hpaths] at ha
  intro entry he
  obtain ⟨v, hv⟩ := heffects entry he
  have hmem : (entry.path, v) ∈ writes config schema stream record entries :=
    List.mem_map.mpr ⟨entry, he, by rw [hv, Option.getD_some]⟩
  have hpath : entry.path ∈ (writes config schema stream record entries).map Prod.fst :=
    List.mem_map_of_mem hmem
  rw [hv]
  exact effect?_again (h.settles entry he) (h.wellFormed entry he) hv
    (Path.get?_storedAll_of_mem ha hopen hmem)
    (Path.obstruction?_storedAll ha hopen (fun _ => List.mem_map_of_mem) entry.path hpath)

/-- A committed document of settling entries at places apart from one another can be applied to
its own result.  It is committed again and changes nothing, whatever other state the engine is
in. -/
theorem apply_again {engine engine' : Engine} {log log' : Log} {base out : Record}
    {doc : Document} (hconfig : engine.config = engine'.config) (hsettling : Settling doc.entries)
    (ha : Path.AllApart (doc.entries.map Entry.path))
    (h : (engine.apply schema log base doc).result = .ok out) :
    (engine'.apply schema log' out doc).result = .ok out := by
  have hindependent := hsettling.independent ha
  obtain ⟨heffects, rfl⟩ :=
    (hindependent.result_eq_ok_iff hconfig schema log base out engine.stream).mp h
  have hagain := hsettling.effect?_storedAll ha heffects
  refine (hindependent.result_eq_ok_iff (Eq.refl engine'.config) schema log' _ _
    engine.stream).mpr ⟨fun entry he => ?_, ?_⟩
  · rw [hagain entry he]
    exact heffects entry he
  · rw [writes_congr hagain]
    refine (Path.storedAll_of_get?_eq fun write hwrite => ?_).symm
    rw [← map_fst_writes engine'.config schema engine.stream base] at ha
    exact Path.get?_storedAll_of_mem ha (obstruction?_of_mem_writes heffects) hwrite

/-- An extremum below a null and a set that has grown stay what they are. -/
theorem apply_again_below_null :
    let schema : Schema := ⟨[], [("n.low", .int), ("tags", .array .string)]⟩
    let base : Record := [("n", .null), ("tags", .arr [.str "x", .str "y", .str "x"])]
    let out : Record :=
      [("n", .obj [("low", .int 3)]), ("tags", .arr [.str "x", .str "y", .str "z"])]
    let doc : Document := ⟨[(.numeric .min, [("n.low", .value (.int 3))]),
      (.array .addToSet, [("tags", .value (.obj [("$each", .arr [.str "y", .str "z"])]))])]⟩
    let engine := start {} (.ofSeed 0)
    (engine.apply schema (.start .info) base doc).result = .ok out ∧
      (engine.apply schema (.start .info) out doc).result = .ok out := by
  intro schema base out doc engine
  have hout : (engine.apply schema (.start .info) base doc).result = .ok out := rfl
  have hentries : doc.entries = [⟨.numeric .min, "n.low", .value (.int 3)⟩,
      ⟨.array .addToSet, "tags", .value (.obj [("$each", .arr [.str "y", .str "z"])])⟩] := rfl
  have hsettling : Settling doc.entries := by
    rw [hentries]
    have hstrings : (Value.arr [.str "y", .str "z"]).WellFormed := by
      refine .arr ?_
      simpa using ⟨Value.WellFormed.str "y", Value.WellFormed.str "z"⟩
    have heach : (Value.obj [("$each", .arr [.str "y", .str "z"])]).WellFormed :=
      .obj (List.pairwise_singleton _ _) (by simpa using hstrings)
    exact ⟨by simp [Operator.Settles], by simpa using ⟨Value.WellFormed.num (.int 3), heach⟩⟩
  have hapart : Path.AllApart (doc.entries.map Entry.path) := by
    rw [hentries]
    refine List.pairwise_pair.mpr ⟨0, "n", "tags", rfl, rfl, by decide, ?_⟩
    rintro ⟨i, hi, -⟩
    rw [show Path.index? "n" = none from rfl] at hi
    nomatch hi
  exact ⟨hout, apply_again rfl hsettling hapart hout⟩

end Engine
end Amend
