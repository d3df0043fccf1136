/-
Arithmetic of integers.  Adding, subtracting and multiplying integers never fails.  The result is
exact between signed integers.  Where one of the two is beyond the signed range, both go through
doubles, and an exact result in the signed range is stored only if no rounding changes it.
-/
import Amend.Operator.Numeric
import Amend.Proofs.Json.Integers

namespace Amend
namespace Operator
namespace Numeric

open Binary64 (rounded)
open Number (InRange Signed)

/-- The function on integers that an operator is to compute. -/
inductive Computes : Numeric → (Int → Int → Int) → Prop where
  | inc : Computes .inc fun a b => a + b
  | dec : Computes .dec fun a b => a - b
  | mul : Computes .mul fun a b => a * b

/-- An operation on doubles rounds the result of a function on integers. -/
def Rounds (approx : Binary64 → Binary64 → Binary64) (f : Int → Int → Int) : Prop :=
  ∀ d e m n, Binary64.IsWhole d m → Binary64.IsWhole e n → (f m n).natAbs.log2 ≤ 1022 →
    Binary64.IsWhole (approx d e) (rounded (f m n))

theorem rounds_add : Rounds Binary64.add fun a b => a + b :=
  fun _ _ _ _ hd he h => Binary64.isWhole_add hd he h

theorem rounds_sub : Rounds Binary64.sub fun a b => a - b :=
  fun _ _ _ _ hd he h => Binary64.isWhole_sub hd he h

theorem rounds_mul : Rounds Binary64.mul fun a b => a * b :=
  fun _ _ _ _ hd he h => Binary64.isWhole_mul hd he h

variable {a b : Int}

theorem signed?_eq_some {n : Int} (h : Signed n) : signed? n = some n := if_pos h

theorem signed?_eq_none {n : Int} (h : ¬ Signed n) : signed? n = none := if_neg h

theorem ofResult_of_isWhole {d : Binary64} {n : Int} (h : d.IsWhole n) :
    ∃ number, ofResult d = .ok (.num number) ∧ number.StandsFor n := by
  obtain ⟨number, hnumber, hstands⟩ := Number.ofBinary64?_of_isWhole h
  exact ⟨number, by rw [ofResult, hnumber], hstands⟩

/-- Through doubles both integers are rounded, and then the result. -/
theorem ofResult_of_rounds {approx : Binary64 → Binary64 → Binary64} {f : Int → Int → Int}
    (happrox : Rounds approx f) (ha : InRange a) (hb : InRange b)
    (hf : (f (rounded a) (rounded b)).natAbs.log2 ≤ 1022) :
    ∃ number, ofResult (approx (Number.int a).toBinary64 (Number.int b).toBinary64) =
        .ok (.num number) ∧
      number.StandsFor (rounded (f (rounded a) (rounded b))) :=
  ofResult_of_isWhole (happrox _ _ _ _ (Number.isWhole_toBinary64 ha)
    (Number.isWhole_toBinary64 hb) hf)

section

variable {exact : Int → Int → Option Int} {approx : Binary64 → Binary64 → Except Fault Binary64}

/-- What two numbers combine to. -/
def combined (exact : Int → Int → Option Int)
    (approx : Binary64 → Binary64 → Except Fault Binary64) (a b : Number) : Except Fault Value :=
  match a.toSigned?, b.toSigned? with
  | some m, some n =>
    match exact m n with
    | some r => .ok (.int r)
    | none => approx a.toBinary64 b.toBinary64 >>= ofResult
  | _, _ => approx a.toBinary64 b.toBinary64 >>= ofResult

theorem combine_num (stored : Option Value) (b : Number) :
    combine exact approx stored (.num b) =
      storedOrZero stored >>= fun a => combined exact approx a b := rfl

/-- Numbers of which the first is no signed integer are combined as doubles. -/
theorem combined_of_toSigned?_eq_none {x y : Number} (h : x.toSigned? = none) :
    combined exact approx x y = approx x.toBinary64 y.toBinary64 >>= ofResult := by
  simp only [combined, h]

/-- Two signed integers are combined exactly, if that gives a result. -/
theorem combine_of_signed (ha : Signed a) (hb : Signed b) :
    combine exact approx (some (.int a)) (.int b) =
      match exact a b with
      | some r => .ok (.int r)
      | none => approx (Number.int a).toBinary64 (Number.int b).toBinary64 >>= ofResult := by
  have hsigneda : (Number.int a).toSigned? = some a := if_pos ha
  have hsignedb : (Number.int b).toSigned? = some b := if_pos hb
  show combined exact approx (.int a) (.int b) = _
  simp only [combined, hsigneda, hsignedb]

/-- Integers of which one is not signed are combined as doubles. -/
theorem combine_of_not_signed (h : ¬ (Signed a ∧ Signed b)) :
    combine exact approx (some (.int a)) (.int b) =
      approx (Number.int a).toBinary64 (Number.int b).toBinary64 >>= ofResult := by
  show combined exact approx (.int a) (.int b) = _
  by_cases ha : Signed a
  · have hsigneda : (Number.int a).toSigned? = some a := if_pos ha
    have hsignedb : (Number.int b).toSigned? = none := if_neg fun hb => h ⟨ha, hb⟩
    simp only [combined, hsigneda, hsignedb]
  · exact combined_of_toSigned?_eq_none (if_neg ha)

theorem combine_of_float {x : Binary64.Finite} :
    combine exact approx (some (.num (.float x))) (.int b) =
      approx (Number.float x).toBinary64 (Number.int b).toBinary64 >>= ofResult := by
  show combined exact approx (.float x) (.int b) = _
  rw [combined_of_toSigned?_eq_none rfl]

/-- A quotient of doubles is refused where the divisor is the whole number zero. -/
theorem guarded_of_isWhole {fault : Fault} {op : Binary64 → Binary64 → Binary64} {d e : Binary64}
    {n : Int} (he : e.IsWhole n) :
    guarded fault op d e = if n = 0 then .error fault else .ok (op d e) := by
  rw [guarded, Binary64.eq_of_isWhole he Binary64.isWhole_zero]
  simp only [decide_eq_true_iff]

theorem guarded_bind_of_isWhole {fault : Fault} {op : Binary64 → Binary64 → Binary64}
    {d e : Binary64} {n : Int} (he : e.IsWhole n) :
    (guarded fault op d e >>= ofResult) = if n = 0 then .error fault else ofResult (op d e) := by
  rw [guarded_of_isWhole he]
  split <;> rfl

end

section

variable {approx : Binary64 → Binary64 → Binary64} {f : Int → Int → Int}

/-- Two signed integers combine exactly where the result is signed, and through doubles where it
is not. -/
theorem combine_of_rounds (happrox : Rounds approx f) (ha : Signed a) (hb : Signed b)
    (hf : (f (rounded a) (rounded b)).natAbs.log2 ≤ 1022) :
    ∃ number, combine (fun m n => signed? (f m n)) (fun d e => .ok (approx d e))
        (some (.int a)) (.int b) = .ok (.num number) ∧
      (Signed (f a b) → number = .int (f a b)) ∧
      (¬ Signed (f a b) → number.StandsFor (rounded (f (rounded a) (rounded b)))) := by
  rw [combine_of_signed ha hb]
  by_cases hresult : Signed (f a b)
  · simp only [signed?_eq_some hresult]
    exact ⟨.int (f a b), rfl, fun _ => rfl, fun h => absurd hresult h⟩
  · simp only [signed?_eq_none hresult]
    obtain ⟨number, hnumber, hstands⟩ := ofResult_of_rounds happrox
      (Number.inRange_of_signed ha) (Number.inRange_of_signed hb) hf
    exact ⟨number, hnumber, fun h => absurd h hresult, fun _ => hstands⟩

/-- A float that is a whole number and an integer always combine, through doubles. -/
theorem combine_float_of_rounds (happrox : Rounds approx f) {x : Binary64.Finite}
    (hx : x.units = a * Binary64.one) (hb : InRange b)
    (hf : (f a (rounded b)).natAbs.log2 ≤ 1022) :
    ∃ number, combine (fun m n => signed? (f m n)) (fun d e => .ok (approx d e))
        (some (.num (.float x))) (.int b) = .ok (.num number) ∧
      number.StandsFor (rounded (f a (rounded b))) := by
  rw [combine_of_float]
  exact ofResult_of_isWhole (happrox _ _ _ _ ⟨x, rfl, hx⟩ (Number.isWhole_toBinary64 hb) hf)

/-- Two integers always combine, and exactly where both are signed or no rounding matters. -/
theorem combine_integers (happrox : Rounds approx f) (ha : InRange a) (hb : InRange b)
    (hf : (f (rounded a) (rounded b)).natAbs.log2 ≤ 1022) :
    ∃ number, combine (fun m n => signed? (f m n)) (fun d e => .ok (approx d e))
        (some (.int a)) (.int b) = .ok (.num number) ∧
      (Signed (f a b) → (number = .int (f a b) ↔
        Signed a ∧ Signed b ∨ rounded (f (rounded a) (rounded b)) = f a b)) := by
  by_cases hsigned : Signed a ∧ Signed b
  · obtain ⟨number, hnumber, hexact, -⟩ := combine_of_rounds happrox hsigned.1 hsigned.2 hf
    exact ⟨number, hnumber, fun h => ⟨fun _ => .inl hsigned, fun _ => hexact h⟩⟩
  · rw [combine_of_not_signed hsigned]
    obtain ⟨number, hnumber, hstands⟩ := ofResult_of_rounds happrox ha hb hf
    refine ⟨number, hnumber, fun hresult => ?_⟩
    rw [hstands.eq_int_iff, and_iff_right hresult, or_iff_right hsigned]

end

/-! ## The three operators -/

theorem log2_le_of_natAbs_le {n : Int} (h : n.natAbs ≤ 0x100000000000000000000000000000000) :
    n.natAbs.log2 ≤ 1022 := by
  have htop : Nat.log2 0x100000000000000000000000000000000 ≤ 1022 := by decide
  exact Nat.le_trans (Binary64.log2_mono h) htop

/-- Adding to, subtracting from and multiplying a stored integer never fails.  An exact result in
the signed range is stored exactly when both integers are in that range, or when it is what the
doubles of the two give, rounded. -/
theorem transform_integers {op : Numeric} {f : Int → Int → Int} (hop : Computes op f)
    (ha : InRange a) (hb : InRange b) (stream : Random.Stream) :
    ∃ number, op.transform stream (some (.int a)) (.int b) = .ok (.num number) ∧
      (Signed (f a b) → (number = .int (f a b) ↔
        Signed a ∧ Signed b ∨ rounded (f (rounded a) (rounded b)) = f a b)) := by
  have hrounda := Number.natAbs_rounded_le ha
  have hroundb := Number.natAbs_rounded_le hb
  cases hop with
  | inc =>
    refine combine_integers rounds_add ha hb (log2_le_of_natAbs_le ?_)
    omega
  | dec =>
    refine combine_integers rounds_sub ha hb (log2_le_of_natAbs_le ?_)
    omega
  | mul =>
    refine combine_integers rounds_mul ha hb (log2_le_of_natAbs_le ?_)
    rw [Int.natAbs_mul]
    exact Nat.mul_le_mul hrounda hroundb

/-- An unsigned integer that is a double loses nothing. -/
theorem transform_integers_double :
    Numeric.inc.transform (.ofSeed 0) (some (.int 0x8000000000000800))
      (.int (-0x8000000000000000)) = .ok (.int 0x800) := by
  obtain ⟨number, hnumber, hexact⟩ := transform_integers .inc (a := 0x8000000000000800)
    (b := -0x8000000000000000) (by decide) (by decide) (.ofSeed 0)
  have hstored := (hexact (by decide)).mpr (.inr (by decide))
  rw [hnumber, hstored]
  rfl

/-- The next integer after `2 ^ 63`, brought back into the signed range, is lost. -/
theorem inc_integers_inexact :
    InRange 0x8000000000000001 ∧ InRange (-0x8000000000000000) ∧
      Signed (0x8000000000000001 + -0x8000000000000000) ∧
      Numeric.inc.transform (.ofSeed 0) (some (.int 0x8000000000000001))
        (.int (-0x8000000000000000)) ≠ .ok (.int (0x8000000000000001 + -0x8000000000000000)) := by
  have hsigned : Signed (0x8000000000000001 + -0x8000000000000000) := by decide
  refine ⟨by decide, by decide, hsigned, fun h => ?_⟩
  obtain ⟨number, hnumber, hexact⟩ := combine_integers rounds_add (a := 0x8000000000000001)
    (b := -0x8000000000000000) (by decide) (by decide) (by decide)
  have hstored : number = .int (0x8000000000000001 + -0x8000000000000000) :=
    Value.num.inj (Except.ok.inj (hnumber.symm.trans h))
  have hrounded := (hexact hsigned).mp hstored
  exact absurd hrounded (by decide)

end Numeric
end Operator
end Amend
