/-
Adding an integer and subtracting it again.  Both always succeed on signed integers.  The second
brings the first number back where the sum is exact; where it overflows, the doubles of the two
decide.
-/
import Amend.Proofs.Engine.Composition
import Amend.Proofs.Engine.Factoring
import Amend.Proofs.Engine.Independence
import Amend.Proofs.Operator.Arithmetic
import Amend.Proofs.Path.Place

namespace Amend

/-! ## Numbers -/

namespace Operator
namespace Numeric

open Binary64 (rounded)
open Number (Signed)

variable {a n s : Int}

/-- What the doubles of two integers add up to. -/
def doubleSum (a n : Int) : Int := rounded (rounded a + rounded n)

/-- Whether subtracting `n` from the sum of `a` and `n` gives `a`: if the sum is exact, or if it
is a double beyond the signed integers from which the doubles lead back. -/
def Restores (a n : Int) : Prop :=
  Signed (a + n) ∨ ¬ Signed (doubleSum a n) ∧ rounded (doubleSum a n - rounded n) = a

instance (a n : Int) : Decidable (Restores a n) := by
  unfold Restores
  infer_instance

theorem natAbs_doubleSum_le (ha : Signed a) (hn : Signed n) :
    (doubleSum a n).natAbs ≤ 0x10000000000000000 := by
  have hrounda := Number.natAbs_rounded_le_of_signed ha
  have hroundn := Number.natAbs_rounded_le_of_signed hn
  have hsum : (rounded a + rounded n).natAbs ≤ 0x10000000000000000 := by omega
  have htop : Binary64.nearestWhole 0x10000000000000000 = 0x10000000000000000 := by decide
  exact htop ▸ Binary64.natAbs_rounded_le hsum

/-- The two integers of an overflow have one sign, and their doubles add up to something of that
sign, so the difference cannot overflow as well. -/
theorem signed_doubleSum_sub (ha : Signed a) (hn : Signed n) (hsum : ¬ Signed (a + n))
    (h : Signed (doubleSum a n)) : Signed (doubleSum a n - n) := by
  unfold Signed Number.minSigned Number.maxSigned at ha hn hsum h ⊢
  by_cases hpos : 0 < n
  · have hrounda : 0 ≤ rounded a := Binary64.le_rounded (by decide) (by omega)
    have hroundn : 0 ≤ rounded n := Binary64.le_rounded (by decide) (by omega)
    have hdouble : 0 ≤ doubleSum a n := Binary64.le_rounded (by decide) (by omega)
    omega
  · have hrounda : rounded a ≤ -1 := Binary64.rounded_le (by decide) (by omega)
    have hroundn : rounded n ≤ -1 := Binary64.rounded_le (by decide) (by omega)
    have hdouble : doubleSum a n ≤ -1 := Binary64.rounded_le (by decide) (by omega)
    omega

theorem transform_inc (ha : Signed a) (hn : Signed n) (stream : Random.Stream) :
    ∃ x, Numeric.inc.transform stream (some (.int a)) (.int n) = .ok (.num x) ∧
      (Signed (a + n) → x = .int (a + n)) ∧ (¬ Signed (a + n) → x.StandsFor (doubleSum a n)) := by
  have hrounda := Number.natAbs_rounded_le_of_signed ha
  have hroundn := Number.natAbs_rounded_le_of_signed hn
  refine combine_of_rounds rounds_add ha hn (log2_le_of_natAbs_le ?_)
  omega

theorem transform_dec_of_signed (hs : Signed s) (hn : Signed n) (h : Signed (s - n))
    (stream : Random.Stream) :
    Numeric.dec.transform stream (some (.int s)) (.int n) = .ok (.int (s - n)) := by
  have hrounds := Number.natAbs_rounded_le_of_signed hs
  have hroundn := Number.natAbs_rounded_le_of_signed hn
  have hbits : (rounded s - rounded n).natAbs ≤ 0x100000000000000000000000000000000 := by omega
  obtain ⟨y, hy, hexact, -⟩ := combine_of_rounds rounds_sub hs hn (log2_le_of_natAbs_le hbits)
  rw [hexact h] at hy
  exact hy

theorem transform_dec_of_float {x : Binary64.Finite} (hx : x.units = s * Binary64.one)
    (hs : s.natAbs ≤ 0x10000000000000000) (hn : Signed n) (stream : Random.Stream) :
    ∃ y, Numeric.dec.transform stream (some (.num (.float x))) (.int n) = .ok (.num y) ∧
      y.StandsFor (rounded (s - rounded n)) := by
  have hroundn := Number.natAbs_rounded_le_of_signed hn
  refine combine_float_of_rounds rounds_sub hx (Number.inRange_of_signed hn)
    (log2_le_of_natAbs_le ?_)
  omega

theorem inc_dec (ha : Signed a) (hn : Signed n) (stream stream' : Random.Stream) :
    ∃ x y, Numeric.inc.transform stream (some (.int a)) (.int n) = .ok (.num x) ∧
      Numeric.dec.transform stream' (some (.num x)) (.int n) = .ok (.num y) ∧
      (y = .int a ↔ Restores a n) := by
  obtain ⟨x, hx, hexact, hdouble⟩ := transform_inc ha hn stream
  by_cases hsum : Signed (a + n)
  · have hback : a + n - n = a := Int.add_sub_cancel a n
    have hy := transform_dec_of_signed hsum hn (hback.symm ▸ ha) stream'
    rw [hback] at hy
    rw [hexact hsum] at hx
    exact ⟨_, .int a, hx, hy, fun _ => .inl hsum, fun _ => rfl⟩
  · cases hdouble hsum with
    | int hs =>
      -- Doubles have led back to a signed integer, from which an exact step cannot reach `a`.
      have hy := transform_dec_of_signed hs hn (signed_doubleSum_sub ha hn hsum hs) stream'
      refine ⟨_, _, hx, hy, fun h => ?_, fun h => ?_⟩
      · have hback := Number.int.inj h
        rw [show doubleSum a n = a + n by omega] at hs
        exact absurd hs hsum
      · exact absurd hs (h.resolve_left hsum).1
    | float hs hunits =>
      obtain ⟨y, hy, hstands⟩ :=
        transform_dec_of_float hunits (natAbs_doubleSum_le ha hn) hn stream'
      refine ⟨_, y, hx, hy, ?_⟩
      rw [hstands.eq_int_iff, Restores, or_iff_right hsum, and_iff_right ha, and_iff_right hs]

end Numeric
end Operator

/-! ## Documents -/

namespace Engine

open Number (Signed)
open Operator.Numeric (Restores)

variable {config : Config} {schema : Schema} {stream : Random.Stream} {record : Record}
  {path : String}

/-- The effect of a numeric operator whose operand the rules leave as it is. -/
theorem effect?_numeric {op : Operator.Numeric} {kind : FieldKind} {v w : Value}
    (hop : (Operator.numeric op).written = .whole)
    (hkind : schema.types.resolve? path = some kind) (hnumeric : kind.isNumeric = true)
    (ho : Path.obstruction? config.maxPathDepth record path = none)
    (hvalid : schema.rules.validate config.validationPolicy path v = .ok v)
    (ht : op.transform stream (Path.get? record path) v = .ok w) :
    effect? config schema stream record ⟨.numeric op, path, .value v⟩ = some w := by
  have hpart : Entry.writtenPart? ⟨.numeric op, path, .value v⟩ = some v := by
    simp only [Entry.writtenPart?, hop]
  have hadmitted : admitted config schema.rules ⟨.numeric op, path, .value v⟩ =
      .ok (.value v) := by
    rw [admitted_eq, normalized_of_validate hpart hvalid, Entry.operandWith_writtenPart hpart]
    exact congrArg Except.ok (ite_self _)
  exact effect?_eq_some_iff.mpr
    ⟨.value v, some kind, hadmitted, Operator.gate_of_accepts hkind hnumeric, ho, ht⟩

/-- The document that applies a numeric operator to a path. -/
def numericDocument (op : Operator.Numeric) (path : String) (v : Value) : Document :=
  Document.empty.push (.numeric op) path (.value v)

variable {engine : Engine} {log : Log} {base : Record} {kind : FieldKind} {a n : Int}

theorem result_numericDocument {op : Operator.Numeric} {v w : Value}
    (hop : (Operator.numeric op).written = .whole)
    (hkind : schema.types.resolve? path = some kind) (hnumeric : kind.isNumeric = true)
    (ho : Path.obstruction? engine.config.maxPathDepth base path = none)
    (hvalid : schema.rules.validate engine.config.validationPolicy path v = .ok v)
    (ht : op.transform engine.stream (Path.get? base path) v = .ok w) :
    (engine.apply schema log base (numericDocument op path v)).result =
      .ok (Path.stored base path w) :=
  (result_of_singleton rfl).mpr ⟨w, effect?_numeric hop hkind hnumeric ho hvalid ht, rfl⟩

theorem result_inc_dec (engine : Engine) (schema : Schema) (log : Log)
    (hkind : schema.types.resolve? path = some kind) (hnumeric : kind.isNumeric = true)
    (ho : Path.obstruction? engine.config.maxPathDepth base path = none)
    (hvalid : schema.rules.validate engine.config.validationPolicy path (.int n) = .ok (.int n))
    (hget : Path.get? base path = some (.int a)) (ha : Signed a) (hn : Signed n) :
    ∃ y : Number, (engine.applyInTurn schema log base (numericDocument .inc path (.int n))
        (numericDocument .dec path (.int n))).result = .ok (Path.stored base path (.num y)) ∧
      (y = .int a ↔ Restores a n) := by
  let once := engine.apply schema log base (numericDocument .inc path (.int n))
  obtain ⟨x, y, hx, hy, hrestores⟩ :=
    Operator.Numeric.inc_dec ha hn engine.stream once.engine.stream
  rw [← hget] at hx
  have hfirst : once.result = .ok (Path.stored base path (.num x)) :=
    result_numericDocument rfl hkind hnumeric ho hvalid hx
  have hconfig : once.engine.config = engine.config := config_apply engine schema log base _
  rw [← Path.get?_stored ho (.num x)] at hy
  have hsecond : (once.engine.apply schema once.log (Path.stored base path (.num x))
      (numericDocument .dec path (.int n))).result =
      .ok (Path.stored (Path.stored base path (.num x)) path (.num y)) := by
    refine result_numericDocument rfl hkind hnumeric ?_ ?_ hy
    · rw [hconfig]
      exact Path.obstruction?_stored ho _
    · rw [hconfig]
      exact hvalid
  rw [Path.stored_stored ho] at hsecond
  refine ⟨y, ?_, hrestores⟩
  unfold applyInTurn
  simp only [once] at hfirst hsecond
  simp only [hfirst]
  exact hsecond

/-- Incrementing and then decrementing a signed integer by another one always commits.  It gives
the old record again exactly where the sum is signed or the doubles lead back. -/
theorem inc_dec_restores (engine : Engine) (schema : Schema) (log : Log)
    (hkind : schema.types.resolve? path = some .int)
    (hform : Path.formFault? engine.config.maxPathDepth path = none)
    (hvalid : schema.rules.validate engine.config.validationPolicy path (.int n) = .ok (.int n))
    (hget : Path.get? base path = some (.int a)) (ha : Signed a) (hn : Signed n) :
    ∃ out, (engine.applyInTurn schema log base (numericDocument .inc path (.int n))
        (numericDocument .dec path (.int n))).result = .ok out ∧
      (Path.get? out path = some (.int a) ↔ Restores a n) ∧ (Restores a n → out = base) := by
  have ho : Path.obstruction? engine.config.maxPathDepth base path = none := by
    rw [Path.obstruction?, hform, Option.none_or]
    exact Path.obstacle?_of_walk?_eq hget
  obtain ⟨y, hresult, hrestores⟩ :=
    result_inc_dec engine schema log hkind rfl ho hvalid hget ha hn
  refine ⟨_, hresult, ?_, fun h => ?_⟩
  · rw [Path.get?_stored ho, ← hrestores]
    constructor
    · intro h
      exact Value.num.inj (Option.some.inj h)
    · rintro rfl
      rfl
  · rw [hrestores.mpr h]
    exact Path.stored_of_get?_eq hget

/-- The sum of two large integers overflows to a double, from which there is a way back. -/
theorem inc_dec_restores_double :
    let base : Record := [("f", .int 0x4000000000000000)]
    ¬ Signed (0x4000000000000000 + 0x4000000000000000) ∧
      ((start {} (.ofSeed 0)).applyInTurn ⟨[], [("f", .int)]⟩ (.start .info) base
        (numericDocument .inc "f" (.int 0x4000000000000000))
        (numericDocument .dec "f" (.int 0x4000000000000000))).result = .ok base := by
  intro base
  have hrestores : Restores 0x4000000000000000 0x4000000000000000 := by decide
  have hget : Path.get? base "f" = some (.int 0x4000000000000000) := rfl
  obtain ⟨out, hresult, -, hout⟩ := inc_dec_restores (n := 0x4000000000000000)
    (start {} (.ofSeed 0)) ⟨[], [("f", .int)]⟩ (.start .info) rfl rfl rfl hget (by decide)
    (by decide)
  rw [hout hrestores] at hresult
  exact ⟨by decide, hresult⟩

/-- From the greatest signed integer one step up and one step down do not lead back. -/
theorem inc_dec_greatest :
    let base : Record := [("f", .int Number.maxSigned)]
    ∃ out, ((start {} (.ofSeed 0)).applyInTurn ⟨[], [("f", .int)]⟩ (.start .info) base
        (numericDocument .inc "f" (.int 1)) (numericDocument .dec "f" (.int 1))).result =
        .ok out ∧
      Path.get? out "f" ≠ some (.int Number.maxSigned) := by
  intro base
  have hget : Path.get? base "f" = some (.int Number.maxSigned) := rfl
  have hnot : ¬ Restores Number.maxSigned 1 := by decide
  have ho : Path.obstruction? 32 base "f" = none := rfl
  obtain ⟨y, hresult, hrestores⟩ := result_inc_dec (n := 1) (start {} (.ofSeed 0))
    ⟨[], [("f", .int)]⟩ (.start .info) rfl rfl ho rfl hget (by decide) (by decide)
  refine ⟨_, hresult, fun h => hnot (hrestores.mp ?_)⟩
  rw [Path.get?_stored ho] at h
  exact Value.num.inj (Option.some.inj h)

end Engine
end Amend
