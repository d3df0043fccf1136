/-
The remainder of signed integers.  `$mod` computes it exactly, but for a divisor of zero and for
the least integer by minus one, which it leaves to doubles.  These refuse the zero, and the other
remainder is zero for them as well, so that an integer is stored wherever there is a remainder.
-/
import Amend.Proofs.Operator.Arithmetic
import Amend.Proofs.Operator.Attempt

namespace Amend
namespace Operator

open Number (Signed)

variable {a b : Int}

namespace Numeric

/-- A missing and a null value are combined as zero is. -/
theorem combine_of_absent {exact : Int → Int → Option Int}
    {approx : Binary64 → Binary64 → Except Fault Binary64} {stored : Option Value}
    (h : stored = none ∨ stored = some .null) (operand : Value) :
    combine exact approx stored operand = combine exact approx (some (.int 0)) operand := by
  rcases h with rfl | rfl
  · rfl
  · rfl

theorem transform_mod_int (ha : Signed a) (hb : Signed b) (stream : Random.Stream) :
    Numeric.mod.transform stream (some (.int a)) (.int b) =
      if b = 0 then .error .moduloByZero else .ok (.int (a.tmod b)) := by
  have hwholea := Number.isWhole_toBinary64 (Number.inRange_of_signed ha)
  have hwholeb := Number.isWhole_toBinary64 (Number.inRange_of_signed hb)
  show combine exactRem (guarded .moduloByZero Binary64.rem) _ _ = _
  rw [combine_of_signed ha hb]
  by_cases hzero : b = 0
  · subst hzero
    have hrounded : Binary64.rounded 0 = 0 := by decide
    show guarded .moduloByZero Binary64.rem _ _ >>= ofResult = _
    rw [guarded_bind_of_isWhole hwholeb, if_pos hrounded, if_pos rfl]
  · rw [if_neg hzero]
    by_cases hleast : a = Number.minSigned ∧ b = -1
    · obtain ⟨rfl, rfl⟩ := hleast
      have hrounded : Binary64.rounded (-1) ≠ 0 := by decide
      obtain ⟨number, hnumber, hstands⟩ :=
        ofResult_of_isWhole (Binary64.isWhole_rem hwholea hwholeb hrounded (by decide))
      have hstored : number = .int 0 := hstands.eq_int_iff.mpr ⟨by decide, by decide⟩
      show guarded .moduloByZero Binary64.rem _ _ >>= ofResult = _
      rw [guarded_bind_of_isWhole hwholeb, if_neg hrounded, hnumber, hstored]
      rfl
    · have hexact : exactRem a b = some (a.tmod b) := by
        rw [exactRem, if_neg hzero, if_neg hleast]
      simp only [hexact]

/-- What is stored for zero also stands for nothing stored. -/
theorem transform_mod {stored : Option Value} (ha : Signed a) (hb : Signed b)
    (hstored : stored = some (.int a) ∨ a = 0 ∧ (stored = none ∨ stored = some .null))
    (stream : Random.Stream) :
    Numeric.mod.transform stream stored (.int b) =
      if b = 0 then .error .moduloByZero else .ok (.int (a.tmod b)) := by
  rw [← transform_mod_int ha hb stream]
  rcases hstored with rfl | ⟨rfl, habsent⟩
  · rfl
  · exact combine_of_absent habsent (.int b)

end Numeric

variable {maxDepth : Nat} {types : TypeMap} {record : Record} {path : String} {kind : FieldKind}

/-- The remainder by a signed integer of a stored one, or of zero where none is stored.  A divisor
of zero is refused; every other one leaves an integer that is smaller than the divisor and has the
sign of the dividend. -/
theorem dispatch_mod (ha : Signed a) (hb : Signed b) (hkind : types.resolve? path = some kind)
    (hnumeric : kind.isNumeric = true) (hpath : Path.obstruction? maxDepth record path = none)
    (hstored : Path.get? record path = some (.int a) ∨
      a = 0 ∧ (Path.get? record path = none ∨ Path.get? record path = some .null))
    (stream : Random.Stream) :
    let attempt := dispatch maxDepth types record stream (.numeric .mod) path (.value (.int b))
    (b = 0 → attempt.error? = some (.operator "$mod" path .moduloByZero)) ∧
    (b ≠ 0 → attempt.error? = none ∧
      ∃ q r : Int, Path.get? attempt.record path = some (.int r) ∧ a = b * q + r ∧
        r.natAbs < b.natAbs ∧ (r = 0 ∨ r.sign = a.sign)) := by
  intro attempt
  have hgate : gate (.numeric .mod) path types = .ok (some kind) := gate_of_accepts hkind hnumeric
  have htransform : transform (.numeric .mod) (some kind) stream (.value (.int b))
      (Path.get? record path) = if b = 0 then .error .moduloByZero else .ok (.int (a.tmod b)) :=
    Numeric.transform_mod ha hb hstored stream
  constructor
  · intro hzero
    rw [if_pos hzero] at htransform
    exact congrArg Attempt.error? (dispatch_eq_refused hgate hpath htransform)
  · intro hzero
    rw [if_neg hzero] at htransform
    have hattempt : attempt = ⟨Path.stored record path (.int (a.tmod b)), stream, none⟩ :=
      dispatch_eq_stored hgate hpath htransform
    rw [hattempt]
    refine ⟨rfl, a.tdiv b, a.tmod b, Path.get?_stored hpath _, (Int.mul_tdiv_add_tmod a b).symm,
      ?_, ?_⟩
    · rw [Int.natAbs_tmod]
      exact Nat.mod_lt _ (Int.natAbs_pos.mpr hzero)
    · rw [Int.sign_tmod]
      by_cases hdvd : b ∣ a
      · exact .inl (Int.tmod_eq_zero_of_dvd hdvd)
      · exact .inr (if_neg hdvd)

/-- The least integer has no exact remainder by minus one, and leaves zero as the doubles do. -/
theorem dispatch_mod_least :
    let attempt := dispatch 32 [("n", .int)] [("n", .int Number.minSigned)] (.ofSeed 0)
      (.numeric .mod) "n" (.value (.int (-1)))
    attempt.error? = none ∧ Path.get? attempt.record "n" = some (.int 0) := by
  intro attempt
  have hkind : TypeMap.resolve? [("n", .int)] "n" = some .int := rfl
  have hpath : Path.obstruction? 32 [("n", .int Number.minSigned)] "n" = none := rfl
  obtain ⟨hnone, q, r, hget, -, hlt, -⟩ := (dispatch_mod (a := Number.minSigned) (b := -1)
    (by decide) (by decide) hkind rfl hpath (.inl rfl) (.ofSeed 0)).2 (by decide)
  have hzero : r = 0 := by omega
  exact ⟨hnone, hget.trans (congrArg (fun n : Int => some (Value.int n)) hzero)⟩

end Operator
end Amend
