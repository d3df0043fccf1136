/-
An operand whose integers are written as floats does what the operand does.  Both attempts
succeed or both fail, and the records they leave are equal.  Exact arithmetic is the exception by
design: an integer that is no double is combined with a float as its double, rounded.
-/
import Amend.Proofs.Operator.Agreement
import Amend.Proofs.Operator.Arithmetic
import Amend.Proofs.Operator.Attempt
import Amend.Proofs.Path.Related

namespace Amend

open Binary64 (IsWhole rounded)
open Number (Coincide InRange Respelled Signed)
open Value (Related RelatedItems)

namespace Number

/-- The number of a finite double has its value. -/
theorem units_of_ofBinary64? {x : Binary64.Finite} {a : Number}
    (h : ofBinary64? (.finite x) = some a) : a.units = x.units := by
  unfold ofBinary64? at h
  simp only at h
  split at h
  · next hint =>
    have hintegral : x.isIntegral = true := by
      rw [Bool.and_eq_true, Bool.and_eq_true] at hint
      exact hint.1.1
    have hdvd : (Binary64.one : Int) ∣ x.units := by
      have hmagnitude : Binary64.one ∣ x.magnitude :=
        Nat.dvd_of_mod_eq_zero (eq_of_beq hintegral)
      rw [← Binary64.Finite.natAbs_units] at hmagnitude
      exact Int.ofNat_dvd_left.mpr hmagnitude
    rw [← Option.some.inj h, units, Binary64.Finite.toInt]
    exact Int.tdiv_mul_cancel hdvd
  · rw [← Option.some.inj h, units]

/-- The number of a double that an integer rounds to has the double of the integer. -/
theorem exists_coincide {n : Int} {d : Binary64} (hn : InRange n) (h : d.IsWhole (rounded n)) :
    ∃ a, ofBinary64? d = some a ∧ Coincide (.int n) a := by
  obtain ⟨a, ha, -⟩ := ofBinary64?_of_isWhole h
  refine ⟨a, ha, ?_⟩
  obtain ⟨x, rfl, hx⟩ := h
  obtain ⟨y, hy, hunits⟩ := isWhole_toBinary64 hn
  have hplace := (Number.int n).position_toBinary64
  rw [hy, Binary64.position, hunits] at hplace
  rw [coincide_iff, units_of_ofBinary64? ha, Binary64.place_units, hx]
  exact (Option.some.inj hplace).symm

end Number

namespace Operator

variable {operand operand' : Value} {stored : Option Value}

/-! ## Numbers -/

namespace Numeric

variable {exact : Int → Int → Option Int} {approx : Binary64 → Binary64 → Except Fault Binary64}
  {a b b' : Number}

/-- An exact result, rounded, is what the doubles of two integers give. -/
def Tracks (exact : Int → Int → Option Int)
    (approx : Binary64 → Binary64 → Except Fault Binary64) : Prop :=
  ∀ {d e : Binary64} {m n r : Int}, d.IsWhole m → e.IsWhole n → Signed m →
    n.natAbs ≤ 0x20000000000000 → exact m n = some r →
    InRange r ∧ ∃ c, approx d e = .ok c ∧ c.IsWhole (rounded r)

/-- No signed integer is stored that is no double. -/
def StoresDouble (stored : Option Value) : Prop :=
  ∀ n : Int, stored = some (.int n) → Signed n → rounded n = n

theorem agree_ofResult (d : Binary64) :
    Agree (Related Coincide) (ofResult d) (ofResult d) := by
  unfold ofResult
  cases Number.ofBinary64? d with
  | none => exact .error _ _
  | some a => exact .ok (.num (Coincide.refl a))

/-- An operation on doubles that rounds the result of a function on integers. -/
theorem tracks_of_rounds {operation : Binary64 → Binary64 → Binary64} {f : Int → Int → Int}
    (hrounds : Rounds operation f)
    (hbound : ∀ {m n : Int}, Signed m → n.natAbs ≤ 0x20000000000000 →
      (f m n).natAbs ≤ 0x100000000000000000000000000000000) :
    Tracks (fun m n => signed? (f m n)) (fun d e => .ok (operation d e)) := by
  intro d e m n r hd he hm hn hexact
  have hresult : f m n = r ∧ Signed (f m n) := by
    simp only [signed?] at hexact
    split at hexact
    · next hsigned => exact ⟨Option.some.inj hexact, hsigned⟩
    · nomatch hexact
  obtain ⟨rfl, hsigned⟩ := hresult
  exact ⟨Number.inRange_of_signed hsigned, _, rfl,
    hrounds d e m n hd he (log2_le_of_natAbs_le (hbound hm hn))⟩

section

variable {m n : Int}

theorem natAbs_add_le (hm : Signed m) (hn : n.natAbs ≤ 0x20000000000000) :
    (m + n).natAbs ≤ 0x100000000000000000000000000000000 := by
  have hbound := Number.natAbs_le_of_signed hm
  omega

theorem natAbs_sub_le (hm : Signed m) (hn : n.natAbs ≤ 0x20000000000000) :
    (m - n).natAbs ≤ 0x100000000000000000000000000000000 := by
  have hbound := Number.natAbs_le_of_signed hm
  omega

theorem natAbs_mul_le (hm : Signed m) (hn : n.natAbs ≤ 0x20000000000000) :
    (m * n).natAbs ≤ 0x100000000000000000000000000000000 := by
  rw [Int.natAbs_mul]
  exact Nat.le_trans (Nat.mul_le_mul (Number.natAbs_le_of_signed hm) hn) (by decide)

end

theorem tracks_rem (fault : Fault) : Tracks exactRem (guarded fault Binary64.rem) := by
  intro d e m n r hd he hm hn hexact
  have hresult : n ≠ 0 ∧ m.tmod n = r := by
    unfold exactRem at hexact
    split at hexact
    · nomatch hexact
    · next hzero =>
      split at hexact
      · nomatch hexact
      · exact ⟨hzero, Option.some.inj hexact⟩
  obtain ⟨hzero, rfl⟩ := hresult
  have hbits : (m.tmod n).natAbs ≤ 0x20000000000000 := by
    rw [Int.natAbs_tmod]
    exact Nat.le_trans (Nat.le_of_lt (Nat.mod_lt _ (by omega))) hn
  have hrange : InRange (m.tmod n) := by
    unfold InRange Number.minSigned Number.maxUnsigned
    omega
  refine ⟨hrange, d.rem e, ?_, Binary64.isWhole_rem hd he hzero (log2_le_of_natAbs_le (by omega))⟩
  rw [guarded_of_isWhole he, if_neg hzero]

/-- The stored number, where none is stored that is no double. -/
theorem agree_storedOrZero (h : StoresDouble stored) :
    Agree (fun a a' => a = a' ∧ ∀ n : Int, a = .int n → Signed n → rounded n = n)
      (storedOrZero stored) (storedOrZero stored) := by
  have hzero : ∀ n : Int, Number.int 0 = .int n → Signed n → rounded n = n := by
    intro n hn _
    rw [← Number.int.inj hn]
    exact Binary64.rounded_of_le (by decide)
  cases stored with
  | none => exact .ok ⟨rfl, hzero⟩
  | some v =>
    cases v with
    | null => exact .ok ⟨rfl, hzero⟩
    | num a => exact .ok ⟨rfl, fun n hn => h n (congrArg (fun a => some (Value.num a)) hn)⟩
    | bool | str | arr | obj => exact .error _ _

theorem agree_combined_self (a b : Number) :
    Agree (Related Coincide) (combined exact approx a b) (combined exact approx a b) := by
  have hdoubles : Agree (Related Coincide) (approx a.toBinary64 b.toBinary64 >>= ofResult)
      (approx a.toBinary64 b.toBinary64 >>= ofResult) :=
    (Agree.refl (fun _ => rfl) _).bind_eq agree_ofResult
  unfold combined
  split
  · split
    · exact .ok (.num (Coincide.refl _))
    · exact hdoubles
  · exact hdoubles

/-- An integer with at most 53 bits is its own double. -/
theorem isWhole_of_bits {n : Int} (hbits : n.natAbs ≤ 0x20000000000000) :
    (Number.int n).toBinary64.IsWhole n := by
  have hrange : InRange n := by
    unfold InRange Number.minSigned Number.maxUnsigned
    omega
  have hround := Number.isWhole_toBinary64 hrange
  rwa [Binary64.rounded_of_le hbits] at hround

/-- With a small integer an exact result may take the place of the one on doubles. -/
theorem agree_combined (htracks : Tracks exact approx)
    (ha : ∀ n : Int, a = .int n → Signed n → rounded n = n) (h : Respelled b b') :
    Agree (Related Coincide) (combined exact approx a b) (combined exact approx a b') := by
  cases h with
  | refl => exact agree_combined_self a b
  | @float n x hbits hx =>
    have hdoubles : Agree (Related Coincide)
        (approx a.toBinary64 (Number.int n).toBinary64 >>= ofResult)
        (approx a.toBinary64 (Number.float x).toBinary64 >>= ofResult) := by
      rw [(Respelled.float hbits hx).toBinary64]
      exact (Agree.refl (fun _ => rfl) _).bind_eq agree_ofResult
    have hfloat : combined exact approx a (.float x) =
        approx a.toBinary64 (Number.float x).toBinary64 >>= ofResult := by
      unfold combined
      split
      · next h => nomatch h
      · rfl
    rw [hfloat]
    unfold combined
    split
    · next m k hm hk =>
      split
      · next r hr =>
        obtain ⟨rfl, hsigned⟩ := Number.toSigned?_eq_some_iff.mp hm
        obtain ⟨heq, -⟩ := Number.toSigned?_eq_some_iff.mp hk
        rw [← Number.int.inj heq] at hr
        have hwhole : (Number.int m).toBinary64.IsWhole m := by
          have hround := Number.isWhole_toBinary64 (Number.inRange_of_signed hsigned)
          rwa [ha m rfl hsigned] at hround
        obtain ⟨hrange, c, happrox, hc⟩ :=
          htracks hwhole (isWhole_of_bits hbits) hsigned hbits hr
        obtain ⟨number, hnumber, hcoincide⟩ := Number.exists_coincide hrange hc
        rw [← (Respelled.float hbits hx).toBinary64, happrox]
        show Agree _ _ (ofResult c)
        rw [ofResult, hnumber]
        exact .ok (.num hcoincide)
      · exact hdoubles
    · exact hdoubles

theorem agree_combine (htracks : Tracks exact approx)
    (hstored : operand' = operand ∨ StoresDouble stored)
    (h : Related Respelled operand operand') :
    Agree (Related Coincide) (combine exact approx stored operand)
      (combine exact approx stored operand') := by
  cases h with
  | @num b b' h =>
    rw [combine_num, combine_num]
    rcases hstored with heq | hstored
    · rw [Value.num.inj heq]
      exact (Agree.refl (fun _ => rfl) _).bind_eq fun a => agree_combined_self a b
    · refine (agree_storedOrZero hstored).bind ?_
      rintro a _ ⟨rfl, ha⟩
      exact agree_combined htracks ha h
  | null | bool | str | arr | obj => exact .error _ _

/-- Without exact results only the doubles of the operand count. -/
theorem agree_combine_noExact (approx : Binary64 → Binary64 → Except Fault Binary64)
    (stored : Option Value) (h : Related Respelled operand operand') :
    Agree (Related Coincide) (combine noExact approx stored operand)
      (combine noExact approx stored operand') := by
  have hdoubles : ∀ a b : Number, combined noExact approx a b =
      approx a.toBinary64 b.toBinary64 >>= ofResult := by
    intro a b
    unfold combined noExact
    split <;> rfl
  cases h with
  | num h =>
    rw [combine_num, combine_num]
    refine (Agree.refl (fun _ => rfl) _).bind_eq fun a => ?_
    rw [hdoubles, hdoubles, h.toBinary64]
    exact (Agree.refl (fun _ => rfl) _).bind_eq agree_ofResult
  | null | bool | str | arr | obj => exact .error _ _

theorem agree_extremum (keeps : Binary64 → Binary64 → Bool) (stored : Option Value)
    (h : Related Respelled operand operand') :
    Agree (Related Coincide) (extremum keeps stored operand)
      (extremum keeps stored operand') := by
  have hcoincide := h.coincide
  cases h with
  | @num b b' h =>
    cases stored with
    | none => exact .ok hcoincide
    | some v =>
      cases v with
      | null => exact .ok hcoincide
      | num a =>
        have hkeeps : keeps a.toBinary64 b.toBinary64 = keeps a.toBinary64 b'.toBinary64 := by
          rw [h.toBinary64]
        simp only [extremum, operandNumber, bind, Except.bind, hkeeps]
        split
        · exact .ok (.num (Coincide.refl a))
        · exact .ok hcoincide
      | bool | str | arr | obj => exact .error _ _
  | null | bool | str | arr | obj => exact .error _ _

theorem agree_numeric_change (op : Binary64 → Binary64) (stored : Option Value) :
    Agree (Related Coincide) (change op stored) (change op stored) :=
  (Agree.refl (fun _ => rfl) _).bind_eq fun _ => agree_ofResult _

/-- The decimals that are to be kept, if they are a small positive integer, are spelled as an
integer. -/
def RoundAlike (operand operand' : Value) : Prop :=
  ∀ d : Int, operand = .int d → 1 ≤ d → d ≤ maxRoundDigits → operand' = operand

theorem roundDigits_eq (h : Related Respelled operand operand')
    (hround : RoundAlike operand operand') : roundDigits operand = roundDigits operand' := by
  cases h with
  | num hn =>
    cases hn with
    | refl a => rfl
    | @float n x hbits hx =>
      have hother : ¬(1 ≤ n ∧ n ≤ maxRoundDigits) := fun hn => nomatch hround n rfl hn.1 hn.2
      have hsigned : (Value.num (.int n)).toSigned? = some n := Number.toSigned?_of_bits hbits
      have hfloat : roundDigits (.num (.float x)) = 0 := rfl
      rw [hfloat, roundDigits, hsigned]
      dsimp only
      split
      · omega
      · rfl
  | null | bool | str | arr | obj => rfl

theorem agree_formatDigits (least : Int) (h : Related Respelled operand operand') :
    Agree Eq (formatDigits operand least) (formatDigits operand' least) := by
  unfold formatDigits
  rw [h.toBinary64?]
  cases operand'.toBinary64? with
  | none => exact .error _ _
  | some x =>
    dsimp only
    split
    · exact .error _ _
    · exact .refl (fun _ => rfl) _

theorem agree_formatted (write : Binary64 → Nat → String) (least : Int) (stored : Option Value)
    (h : Related Respelled operand operand') :
    Agree (Related Coincide) (formatted write least stored operand)
      (formatted write least stored operand') := by
  refine (Agree.refl (fun _ => rfl) _).bind_eq fun a => ?_
  exact (agree_formatDigits least h).bind_eq fun digits => .ok (.str _)

/-- Where a numeric operator asks for the sort of its operand, the operand is spelled alike, or
an exact result differs from the one on doubles by no more than its rounding. -/
def SpelledAlike (op : Numeric) (stored : Option Value) (operand operand' : Value) : Prop :=
  match op with
  | .inc | .dec | .mul | .mod => operand' = operand ∨ StoresDouble stored
  | .round => RoundAlike operand operand'
  | _ => True

theorem agree_transform (op : Numeric) (stream : Random.Stream)
    (h : Related Respelled operand operand') (halike : op.SpelledAlike stored operand operand') :
    Agree (Related Coincide) (transform op stream stored operand)
      (transform op stream stored operand') := by
  unfold transform
  cases op with
  | inc => exact agree_combine (tracks_of_rounds rounds_add natAbs_add_le) halike h
  | dec => exact agree_combine (tracks_of_rounds rounds_sub natAbs_sub_le) halike h
  | mul => exact agree_combine (tracks_of_rounds rounds_mul natAbs_mul_le) halike h
  | mod => exact agree_combine (tracks_rem _) halike h
  | div | pow => exact agree_combine_noExact _ stored h
  | min | max => exact agree_extremum _ stored h
  | sqrt | floor | ceil | abs | trunc => exact agree_numeric_change _ stored
  | round =>
    rw [roundDigits_eq h halike]
    exact agree_numeric_change _ stored
  | random => exact agree_ofResult _
  | toFixed | toExponential | toPrecision => exact agree_formatted _ _ stored h

end Numeric

/-! ## Every family -/

/-- Where an operator looks at how a number of its operand is written, the number is written
alike. -/
def SpelledAlike (op : Operator) (stored : Option Value) (operand operand' : Value) : Prop :=
  match op with
  | .numeric op => op.SpelledAlike stored operand operand'
  | .array op => op.SpelledAlike operand operand'
  | _ => True

theorem agree_transform_global (op : Global) (declared : Option FieldKind)
    (h : Related Respelled operand operand') :
    Agree (Related Coincide) (op.transform declared operand) (op.transform declared operand') := by
  cases op with
  | set => exact .ok h.coincide
  | unset => exact .ok .null
  | clear =>
    cases declared with
    | none => exact .error _ _
    | some kind =>
      cases kind with
      | object fields => exact .ok (Value.related_obj_iff.mpr ⟨.nil, .nil⟩)
      | array element => exact .ok (Value.related_arr_iff.mpr .nil)
      | string | int | float | bool | date => exact .error _ _

/-- What an operator makes of a stored value and two spellings of an operand. -/
theorem agree_transform (op : Operator) (declared : Option FieldKind) (stream : Random.Stream)
    (hstored : ∀ v, stored = some v → v.WellFormed) (h : Related Respelled operand operand')
    (halike : op.SpelledAlike stored operand operand') :
    Agree (Related Coincide) (op.transform declared stream (.value operand) stored)
      (op.transform declared stream (.value operand') stored) := by
  cases op with
  | global op => exact agree_transform_global op declared h
  | toggle => exact .ok (.bool _)
  | numeric op => exact Numeric.agree_transform op stream h halike
  | text op => exact Text.agree_transform op stored h
  | object op => exact Object.agree_transform op hstored h
  | array op => exact Array.agree_transform op hstored h halike

variable {record : Record} {op : Operator} {path : String}

/-- Two spellings of an operand, applied to one path of a record, succeed both or fail both, and
leave equal records. -/
theorem dispatch_respelled (maxDepth : Nat) (types : TypeMap) (stream : Random.Stream)
    (hrecord : (Value.obj record).WellFormed) (h : Related Respelled operand operand')
    (halike : op.SpelledAlike (Path.get? record path) operand operand') :
    let attempt := dispatch maxDepth types record stream op path (.value operand)
    let attempt' := dispatch maxDepth types record stream op path (.value operand')
    (attempt.error? = none ↔ attempt'.error? = none) ∧
      (Value.obj attempt.record).equal (.obj attempt'.record) = true ∧
      attempt.stream = attempt'.stream := by
  have hself := hrecord.equal_self
  have hstored : ∀ v, Path.get? record path = some v → v.WellFormed :=
    fun v => Path.wellFormed_walk? hrecord
  unfold dispatch
  cases gate op path types with
  | error e => exact ⟨Iff.rfl, hself, rfl⟩
  | ok declared =>
    have hagree := agree_transform op declared stream hstored h halike
    simp only [Path.update_eq]
    cases Path.obstruction? maxDepth record path with
    | some fault => exact ⟨Iff.rfl, hself, rfl⟩
    | none =>
      dsimp only
      generalize op.transform declared stream (.value operand) _ = made,
        op.transform declared stream (.value operand') _ = made' at hagree ⊢
      cases hagree with
      | error fault fault' =>
        exact ⟨⟨nofun, nofun⟩, (Path.wellFormed_prepared path hrecord).equal_self, rfl⟩
      | ok hvalues =>
        have hrecords := Path.related_stored path Coincide.refl hrecord hvalues
        exact ⟨Iff.rfl, hrecords.equal, rfl⟩

/-- One as a float. -/
def floatOne : Number := .float ⟨false, 0x10000000000000, 1022, by decide⟩

/-- Three as a float. -/
def floatThree : Number := .float ⟨false, 0x18000000000000, 1023, by decide⟩

theorem respelled_one : Respelled (.int 1) floatOne := .float (by decide) (by decide +kernel)

theorem respelled_three : Respelled (.int 3) floatThree := .float (by decide) (by decide +kernel)

theorem respelled_zero : Respelled (.int 0) (.float .zero) := .float (by decide) (by decide +kernel)

/-- Adding one to 41 in both spellings. -/
theorem dispatch_respelled_inc :
    let attempt := dispatch 32 [("n", .int)] [("n", .int 41)] (.ofSeed 0) (.numeric .inc) "n"
      (.value (.int 1))
    let attempt' := dispatch 32 [("n", .int)] [("n", .int 41)] (.ofSeed 0) (.numeric .inc) "n"
      (.value (.num floatOne))
    attempt.error? = none ∧ attempt'.error? = none ∧
      (Value.obj attempt.record).equal (.obj attempt'.record) = true := by
  have hrecord : (Value.obj [("n", .int 41)]).WellFormed := by
    refine .obj ?_ (List.forall_mem_singleton.mpr (.num _))
    unfold Members.Distinct
    decide
  have hdouble : Numeric.StoresDouble (Path.get? [("n", .int 41)] "n") := by
    intro n hn _
    rw [← Number.int.inj (Value.num.inj (Option.some.inj hn))]
    exact Binary64.rounded_of_le (by decide)
  have halike : SpelledAlike (.numeric .inc) (Path.get? [("n", .int 41)] "n") (.int 1)
      (.num floatOne) := .inr hdouble
  have hboth := dispatch_respelled 32 [("n", .int)] (.ofSeed 0) hrecord (.num respelled_one) halike
  have hnone : (dispatch 32 [("n", .int)] [("n", .int 41)] (.ofSeed 0) (.numeric .inc) "n"
      (.value (.int 1))).error? = none := by decide
  exact ⟨hnone, hboth.1.mp hnone, hboth.2.1⟩

/-- Whether two operands for one field lead to different outcomes. -/
def differ (kind : FieldKind) (stored : Value) (op : Operator) (operand operand' : Value) : Bool :=
  let attempt := dispatch 32 [("f", kind)] [("f", stored)] (.ofSeed 0) op "f" (.value operand)
  let attempt' := dispatch 32 [("f", kind)] [("f", stored)] (.ofSeed 0) op "f" (.value operand')
  attempt.error?.isSome != attempt'.error?.isSome ||
    !(Value.obj attempt.record).equal (.obj attempt'.record)

/-- One and a half. -/
def oneAndHalf : Number := .float ⟨false, 0x18000000000000, 1022, by decide⟩

/-- A stored integer that is no double, and the numbers that are looked at as integers. -/
theorem differ_respelled :
    Respelled (.int 1) floatOne ∧ Respelled (.int 3) floatThree ∧
      Respelled (.int 0) (.float .zero) ∧
      differ .int (.int 0x20000000000001) (.numeric .inc) (.int 1) (.num floatOne) = true ∧
      differ .int (.int 0x20000000000001) (.numeric .dec) (.int 1) (.num floatOne) = true ∧
      differ .int (.int 0x20000000000001) (.numeric .mul) (.int 3) (.num floatThree) = true ∧
      differ .int (.int 0x20000000000001) (.numeric .mod) (.int 3) (.num floatThree) = true ∧
      differ .float (.num oneAndHalf) (.numeric .round) (.int 1) (.num floatOne) = true ∧
      differ (.array .int) (.arr [.int 7]) (.array .pop) (.int 1) (.num floatOne) = true ∧
      differ (.array .int) (.arr [.int 7]) (.array .pull) (.obj [("$position", .int 0)])
        (.obj [("$position", .num (.float .zero))]) = true ∧
      differ (.array .int) (.arr [.int 7]) (.array .push)
        (.obj [("$each", .arr []), ("$sort", .int 1)])
        (.obj [("$each", .arr []), ("$sort", .num floatOne)]) = true := by
  refine ⟨respelled_one, respelled_three, respelled_zero, ?_⟩
  decide +kernel

end Operator
end Amend
