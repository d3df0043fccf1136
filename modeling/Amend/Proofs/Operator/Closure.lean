/-
Runs of one family at one path.  Each attempt, whether it succeeds or fails, leaves something at
the path that the family can work on, so no later attempt is refused because of it.  Arithmetic
gives every number in one form, whether it has been computed on integers or on doubles.
-/
import Amend.Proofs.Operator.Arithmetic
import Amend.Proofs.Operator.Attempt
import Amend.Proofs.Operator.Refusal
import Amend.Proofs.Outcome

namespace Amend

/-! ## Canonical numbers -/

namespace Number

/-- The form in which arithmetic gives a number: a signed integer, or a float that stands at none.
Neither a float that is a whole number in the signed range nor the negative zero has it. -/
def Canonical : Number → Prop
  | .int n => Signed n
  | .float x => ∀ n : Int, x.units = n * Binary64.one → ¬ Signed n

theorem StandsFor.canonical {a : Number} {m : Int} (h : StandsFor a m) : a.Canonical := by
  cases h with
  | int hsigned => exact hsigned
  | float hsigned hunits =>
    intro n hn
    obtain rfl : n = m := Int.eq_of_mul_eq_mul_right Binary64.one_ne_zero (hn.symm.trans hunits)
    exact hsigned

theorem canonical_of_ofBinary64? {d : Binary64} {a : Number} (h : ofBinary64? d = some a) :
    a.Canonical := by
  cases d with
  | nan | infinite => nomatch h
  | finite x =>
    by_cases hwhole : ∃ n : Int, x.units = n * Binary64.one
    · obtain ⟨n, hn⟩ := hwhole
      obtain ⟨number, hnumber, hstands⟩ := ofBinary64?_of_isWhole ⟨x, rfl, hn⟩
      obtain rfl : number = a := Option.some.inj (hnumber.symm.trans h)
      exact hstands.canonical
    · have hintegral : x.isIntegral = false := by
        rw [← Bool.not_eq_true, Binary64.Finite.isIntegral_iff]
        exact hwhole
      simp only [ofBinary64?, hintegral, Bool.false_and, Bool.false_eq_true, if_false] at h
      obtain rfl : .float x = a := Option.some.inj h
      exact fun n hn => absurd ⟨n, hn⟩ hwhole

end Number

namespace Operator

namespace Numeric

open Number (Signed Canonical)

/-- A result is a canonical number, if it is one at all. -/
def GivesCanonical (result : Except Fault Value) : Prop :=
  ∀ v, result = .ok v → ∃ n : Number, v = .num n ∧ n.Canonical

theorem givesCanonical_ofResult (d : Binary64) : GivesCanonical (ofResult d) := by
  intro v h
  unfold ofResult at h
  cases hn : Number.ofBinary64? d with
  | none =>
    rw [hn] at h
    nomatch h
  | some n =>
    rw [hn] at h
    exact ⟨n, (Except.ok.inj h).symm, Number.canonical_of_ofBinary64? hn⟩

theorem GivesCanonical.bind {α : Type} (step : Except Fault α) {next : α → Except Fault Value}
    (h : ∀ a, GivesCanonical (next a)) : GivesCanonical (step >>= next) := by
  intro v hv
  obtain ⟨a, -, ha⟩ := bind_eq_ok_iff.mp hv
  exact h a v ha

/-- Exact results are canonical where they are signed, and the others come from doubles. -/
theorem givesCanonical_combine {exact' : Int → Int → Option Int}
    (hexact : ∀ a b r, Signed a → exact' a b = some r → Signed r)
    (approx : Binary64 → Binary64 → Except Fault Binary64) (stored : Option Value)
    (operand : Value) : GivesCanonical (combine exact' approx stored operand) := by
  refine .bind _ fun b => .bind _ fun a => ?_
  have hdoubles : GivesCanonical (approx a.toBinary64 b.toBinary64 >>= ofResult) :=
    .bind _ givesCanonical_ofResult
  dsimp only
  split
  · next m n hm hn =>
    split
    · next r hr =>
      intro v hv
      obtain ⟨-, hsigned⟩ := Number.toSigned?_eq_some_iff.mp hm
      exact ⟨.int r, (Except.ok.inj hv).symm, hexact m n r hsigned hr⟩
    · exact hdoubles
  · exact hdoubles

theorem givesCanonical_change (op : Binary64 → Binary64) (stored : Option Value) :
    GivesCanonical (change op stored) :=
  .bind _ fun _ => givesCanonical_ofResult _

theorem signed_of_signed?_eq_some {n r : Int} (h : signed? n = some r) : Signed r := by
  by_cases hsigned : Signed n
  · rw [signed?_eq_some hsigned, Option.some.injEq] at h
    exact h ▸ hsigned
  · rw [signed?_eq_none hsigned] at h
    nomatch h

theorem signed_of_exactRem_eq_some {a b r : Int} (ha : Signed a) (h : exactRem a b = some r) :
    Signed r := by
  unfold exactRem at h
  split at h
  · nomatch h
  · split at h
    · nomatch h
    · obtain rfl : a.tmod b = r := Option.some.inj h
      have hnonneg : 0 ≤ a → 0 ≤ a.tmod b := Int.tmod_nonneg b
      have hnonpos : a ≤ 0 → a.tmod b ≤ 0 := Binary64.tmod_nonpos b
      have hle : (a.tmod b).natAbs ≤ a.natAbs := by
        rw [Int.natAbs_tmod]
        exact Nat.mod_le _ _
      unfold Signed Number.minSigned Number.maxSigned at ha ⊢
      omega

/-- The operators that write a number as text. -/
def formatting : List Numeric := [.toFixed, .toExponential, .toPrecision]

/-- Arithmetic gives canonical numbers.  `$min` and `$max` keep a number in the form it has. -/
theorem givesCanonical_transform {op : Numeric} (hformat : op ∉ formatting)
    (hkept : op ≠ .min ∧ op ≠ .max) (stream : Random.Stream) (stored : Option Value)
    (operand : Value) :
    GivesCanonical (op.transform stream stored operand) := by
  have hsigned (f : Int → Int → Int) (a b r : Int) (_ : Signed a) (h : signed? (f a b) = some r) :
      Signed r := signed_of_signed?_eq_some h
  have hnone (a b r : Int) (_ : Signed a) (h : noExact a b = some r) : Signed r := nomatch h
  unfold Numeric.transform
  cases op with
  | inc => exact givesCanonical_combine (hsigned _) _ stored operand
  | dec => exact givesCanonical_combine (hsigned _) _ stored operand
  | mul => exact givesCanonical_combine (hsigned _) _ stored operand
  | div | pow => exact givesCanonical_combine hnone _ stored operand
  | mod =>
    exact givesCanonical_combine (fun a b r ha h => signed_of_exactRem_eq_some ha h) _ stored
      operand
  | min => exact absurd rfl hkept.1
  | max => exact absurd rfl hkept.2
  | sqrt | floor | ceil | abs | round | trunc => exact givesCanonical_change _ stored
  | random => exact givesCanonical_ofResult _
  | toFixed | toExponential | toPrecision => simp [formatting] at hformat

theorem number_of_extremum_eq_ok {keeps : Binary64 → Binary64 → Bool} {stored : Option Value}
    {operand v : Value} (h : extremum keeps stored operand = .ok v) : ∃ n : Number, v = .num n := by
  obtain ⟨b, hb, hv⟩ := bind_eq_ok_iff.mp h
  have hoperand : ∃ n : Number, operand = .num n := by
    cases operand with
    | num n => exact ⟨n, rfl⟩
    | null | bool | str | arr | obj => nomatch hb
  cases stored with
  | none => exact Except.ok.inj hv ▸ hoperand
  | some a =>
    cases a with
    | null => exact Except.ok.inj hv ▸ hoperand
    | num a => exact ⟨_, (Except.ok.inj hv).symm⟩
    | bool | str | arr | obj => nomatch hv

theorem number_of_transform_eq_ok {op : Numeric} (hformat : op ∉ formatting)
    {stream : Random.Stream} {stored : Option Value} {operand v : Value}
    (h : op.transform stream stored operand = .ok v) : ∃ n : Number, v = .num n := by
  by_cases hkept : op ≠ .min ∧ op ≠ .max
  · obtain ⟨n, hn, -⟩ := givesCanonical_transform hformat hkept stream stored operand v h
    exact ⟨n, hn⟩
  · simp only [ne_eq, not_and_or, not_not] at hkept
    rcases hkept with rfl | rfl
    · exact number_of_extremum_eq_ok h
    · have hmax : extremum (fun a b => b.le a) stored operand = .ok v := h
      exact number_of_extremum_eq_ok hmax

end Numeric

/-! ## Attempts -/

variable {maxDepth : Nat} {types : TypeMap} {record : Record} {stream : Random.Stream}
  {op : Operator} {path : String} {operand : Operand} {family : Family}

/-- What an operator stores is a value that its family works on. -/
theorem handles_of_transform {declared : Option FieldKind} {current : Option Value} {v : Value}
    (hop : op.family ≠ .global) (hformat : op ∉ Numeric.formatting.map .numeric)
    (h : op.transform declared stream operand current = .ok v) : op.family.Handles v := by
  cases op with
  | global op => exact absurd rfl hop
  | toggle =>
    obtain ⟨w, -, hv⟩ := bind_eq_ok_iff.mp h
    exact Except.ok.inj hv ▸ .bool _
  | numeric op =>
    obtain ⟨w, -, hv⟩ := bind_eq_ok_iff.mp h
    have hformat : op ∉ Numeric.formatting := fun hmem => hformat (List.mem_map_of_mem hmem)
    obtain ⟨n, rfl⟩ := Numeric.number_of_transform_eq_ok hformat hv
    exact .num n
  | text op =>
    obtain ⟨w, -, hw⟩ := bind_eq_ok_iff.mp h
    obtain ⟨text, -, htext⟩ := bind_eq_ok_iff.mp hw
    obtain ⟨changed, -, hv⟩ := bind_eq_ok_iff.mp htext
    exact Except.ok.inj hv ▸ .str _
  | object op =>
    obtain ⟨members, -, hmembers⟩ := bind_eq_ok_iff.mp h
    obtain ⟨changed, -, hv⟩ := bind_eq_ok_iff.mp hmembers
    exact Except.ok.inj hv ▸ .obj _
  | array op =>
    obtain ⟨w, -, hw⟩ := bind_eq_ok_iff.mp h
    obtain ⟨items, -, hitems⟩ := bind_eq_ok_iff.mp hw
    obtain ⟨changed, -, hv⟩ := bind_eq_ok_iff.mp hitems
    exact Except.ok.inj hv ▸ .arr _

/-- What an attempt of a family leaves at its path: something that the family can work on, and a
canonical number where arithmetic has succeeded.  The attempt was not refused because of what stood
there before. -/
structure Closed (family : Family) (path : String) (step : Operator × Operand)
    (attempt : Attempt) : Prop where
  fits : family.Fits (Path.get? attempt.record path)
  spares : ∀ name field found expected : String,
    attempt.error? ≠ some (.operator name field (.stored found expected))
  canonical : ∀ op : Numeric, step.1 = .numeric op → op ≠ .min ∧ op ≠ .max →
    attempt.error? = none →
      ∃ n : Number, Path.get? attempt.record path = some (.num n) ∧ n.Canonical

theorem closed_of_error {step : Operator × Operand} {attempt : Attempt} {e : UpdateError}
    (hfits : family.Fits (Path.get? attempt.record path)) (he : attempt.error? = some e)
    (hspares : ∀ name field found expected : String,
      e ≠ .operator name field (.stored found expected)) : Closed family path step attempt where
  fits := hfits
  spares name field found expected h :=
    hspares name field found expected (Option.some.inj (he.symm.trans h))
  canonical _ _ _ hnone := nomatch he.symm.trans hnone

theorem closed_dispatch (hop : op.family ≠ .global)
    (hformat : op ∉ Numeric.formatting.map .numeric)
    (h : op.family.Fits (Path.get? record path)) :
    Closed op.family path (op, operand)
      (dispatch maxDepth types record stream op path operand) := by
  rcases dispatch_cases maxDepth types record stream op path operand with
    ⟨e, hgate, he⟩ | ⟨declared, fault, -, -, he⟩ | ⟨declared, fault, -, ho, ht, he⟩ |
      ⟨declared, v, -, ho, ht, he⟩
  · obtain ⟨declared, rfl⟩ := gate_eq_error hgate
    rw [he]
    exact closed_of_error h rfl nofun
  · rw [he]
    exact closed_of_error h rfl nofun
  · have hspares := sparesStored_of_fits hop h declared stream operand
    rw [he]
    refine closed_of_error ?_ rfl fun name field found expected herror => ?_
    · rw [Path.get?_prepared ho]
      exact h
    · obtain ⟨-, -, rfl⟩ := UpdateError.operator.inj herror
      exact hspares found expected ht
  · have hget : Path.get? (Path.stored record path v) path = some v := Path.get?_stored ho v
    rw [he]
    refine ⟨fun w hw => ?_, nofun, fun numeric hnumeric hkept _ => ?_⟩
    · obtain rfl : v = w := Option.some.inj (hget.symm.trans hw)
      exact .inr (handles_of_transform hop hformat ht)
    · obtain rfl : op = .numeric numeric := hnumeric
      obtain ⟨w, -, hv⟩ := bind_eq_ok_iff.mp ht
      have hformat : numeric ∉ Numeric.formatting :=
        fun hmem => hformat (List.mem_map_of_mem hmem)
      obtain ⟨n, rfl, hn⟩ := Numeric.givesCanonical_transform hformat hkept _ _ _ v hv
      exact ⟨n, hget, hn⟩

/-- Attempts to apply operators to one path, each on what the one before has left, whether it has
succeeded or failed. -/
def attempts (maxDepth : Nat) (types : TypeMap) (path : String) :
    Record → Random.Stream → List (Operator × Operand) → List Attempt
  | _, _, [] => []
  | record, stream, (op, operand) :: rest =>
    let attempt := dispatch maxDepth types record stream op path operand
    attempt :: attempts maxDepth types path attempt.record attempt.stream rest

/-- A family that can work on what stands at a path goes on to do so, whatever its operators get as
operands.  All attempts are closed, but for those of the operators that write numbers as text. -/
theorem attempts_closed (hfamily : family ≠ .global) {steps : List (Operator × Operand)}
    (hsteps : ∀ step ∈ steps,
      step.1.family = family ∧ step.1 ∉ Numeric.formatting.map .numeric)
    (h : family.Fits (Path.get? record path)) (maxDepth : Nat) (types : TypeMap)
    (stream : Random.Stream) :
    List.Forall₂ (Closed family path) steps
      (attempts maxDepth types path record stream steps) := by
  induction steps generalizing record stream with
  | nil => exact .nil
  | cons step rest ih =>
    obtain ⟨op, operand⟩ := step
    obtain ⟨rfl, hformat⟩ := hsteps (op, operand) List.mem_cons_self
    have hclosed : Closed op.family path (op, operand)
        (dispatch maxDepth types record stream op path operand) :=
      closed_dispatch hfamily hformat h
    exact .cons hclosed
      (ih (fun step hstep => hsteps step (List.mem_cons_of_mem _ hstep)) hclosed.fits _)

/-- An operand that is no number, an exact sum, and a sum beyond the signed range. -/
theorem attempts_closed_sums :
    let steps : List (Operator × Operand) := [(.numeric .inc, .value (.str "x")),
      (.numeric .inc, .value (.int Number.maxSigned)), (.numeric .inc, .value (.int 1))]
    let all := attempts 32 [("a.n", .int)] "a.n" [("a", .null)] (.ofSeed 0) steps
    all.map Attempt.error? =
      [some (.operator "$inc" "a.n" (.operand "string" "number")), none, none]
      ∧ List.Forall₂ (Closed .numeric "a.n") steps all := by
  intro steps all
  have hnone : Path.get? [("a", .null)] "a.n" = none := rfl
  have hfits : Family.numeric.Fits (Path.get? [("a", .null)] "a.n") := by
    rw [hnone]
    nofun
  exact ⟨by decide +kernel, attempts_closed (by decide) (by decide) hfits 32 [("a.n", .int)]
    (.ofSeed 0)⟩

end Operator
end Amend
