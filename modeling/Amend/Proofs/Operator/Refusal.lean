/-
What operators are refused for.  The only refusals that blame the stored value come from reading
it, and the reading succeeds on null and on every value of the operator's family, and so on what
conforms to a kind that the family accepts.
-/
import Amend.Operator.Dispatch
import Amend.Proofs.Schema.Conformance

namespace Amend
namespace Operator

namespace Family

/-- The values that the operators of a family work on. -/
inductive Handles : Family → Value → Prop where
  | num (n : Number) : Handles .numeric (.num n)
  | bool (b : Bool) : Handles .boolean (.bool b)
  | str (s : String) : Handles .string (.str s)
  | obj (members : Members Value) : Handles .object (.obj members)
  | arr (items : List Value) : Handles .array (.arr items)

/-- Whether what is stored suits a family: nothing, null or a value that its operators work on. -/
def Fits (family : Family) (stored : Option Value) : Prop :=
  ∀ v, stored = some v → v = .null ∨ family.Handles v

theorem fits_of_conforms {family : Family} {kind : FieldKind} {stored : Option Value}
    (hfamily : family ≠ .global) (haccepts : family.accepts kind = true)
    (h : ∀ v, stored = some v → kind.Conforms v) : family.Fits stored := by
  intro v hv
  cases family with
  | global => exact absurd rfl hfamily
  | numeric =>
    cases h v hv with
    | null => exact .inl rfl
    | int n | float n => exact .inr (.num n)
    | string | bool | date | object | array => nomatch haccepts
  | boolean =>
    cases h v hv with
    | null => exact .inl rfl
    | bool b => exact .inr (.bool b)
    | string | int | float | date | object | array => nomatch haccepts
  | string =>
    cases h v hv with
    | null => exact .inl rfl
    | string s => exact .inr (.str s)
    | int | float | bool | date | object | array => nomatch haccepts
  | object =>
    cases h v hv with
    | null => exact .inl rfl
    | object => exact .inr (.obj _)
    | string | int | float | bool | date | array => nomatch haccepts
  | array =>
    cases h v hv with
    | null => exact .inl rfl
    | array => exact .inr (.arr _)
    | string | int | float | bool | date | object => nomatch haccepts

end Family

/-- Whether a result is something else than a refusal of the stored value. -/
def SparesStored {α : Type} (result : Except Fault α) : Prop :=
  ∀ found expected : String, result ≠ .error (.stored found expected)

section

variable {α β : Type}

@[simp] theorem sparesStored_ok (a : α) : SparesStored (.ok a) := by
  intro found expected h
  nomatch h

@[simp] theorem sparesStored_error {fault : Fault} :
    SparesStored (.error fault : Except Fault α) ↔
      ∀ found expected : String, fault ≠ .stored found expected := by
  simp [SparesStored]

theorem SparesStored.bind {result : Except Fault α} {f : α → Except Fault β}
    (h : SparesStored result) (hf : ∀ a, SparesStored (f a)) : SparesStored (result >>= f) := by
  cases result with
  | ok a => exact hf a
  | error fault => simpa [Bind.bind, Except.bind] using h

theorem SparesStored.map {result : Except Fault α} {f : α → β} (h : SparesStored result) :
    SparesStored (result.map f) := by
  cases result with
  | ok a => simp [Except.map]
  | error fault => simpa [Except.map] using h

theorem sparesStored_mapM {f : α → Except Fault β} (hf : ∀ a, SparesStored (f a))
    (items : List α) : SparesStored (items.mapM f) := by
  induction items with
  | nil => simp [pure, Except.pure]
  | cons item rest ih =>
    rw [List.mapM_cons]
    exact (hf item).bind fun b => ih.bind fun bs => sparesStored_ok _

theorem sparesStored_foldlM {f : β → α → Except Fault β} (hf : ∀ b a, SparesStored (f b a))
    (items : List α) (b : β) : SparesStored (items.foldlM f b) := by
  induction items generalizing b with
  | nil => simp [pure, Except.pure]
  | cons item rest ih =>
    rw [List.foldlM_cons]
    exact (hf b item).bind ih

end

theorem sparesStored_json (operand : Operand) : SparesStored operand.json := by
  cases operand <;> simp [Operand.json]

namespace Slice

theorem sparesStored_bound (members : Members Value) (name : String) :
    SparesStored (bound members name) := by
  unfold bound
  split <;> simp

theorem sparesStored_range (operand : Value) (length : Nat) :
    SparesStored (range operand length) := by
  cases operand with
  | obj members =>
    refine (sparesStored_bound members _).bind fun first =>
      (sparesStored_bound members _).bind fun last => ?_
    split
    · split <;> simp
    · simp
  | null | bool | num | str | arr => simp [range]

end Slice

namespace Text

theorem sparesStored_requiredText (members : Members Value) (name : String) :
    SparesStored (requiredText members name) := by
  unfold requiredText
  split <;> simp

theorem sparesStored_operandText (operand : Value) : SparesStored (operandText operand) := by
  cases operand <;> simp [operandText]

theorem sparesStored_change (op : Text) (text : List Char) (operand : Value) :
    SparesStored (change op text operand) := by
  cases op with
  | append | prepend => exact (sparesStored_operandText operand).bind fun _ => sparesStored_ok _
  | replace =>
    cases operand with
    | obj members =>
      exact (sparesStored_requiredText members _).bind fun _ =>
        (sparesStored_requiredText members _).bind fun _ => sparesStored_ok _
    | null | bool | num | str | arr => simp [change, replaced]
  | substr =>
    rw [change, fromOffset]
    split
    · split <;> simp
    · simp
  | slice => exact (Slice.sparesStored_range operand _).bind fun _ => sparesStored_ok _
  | trim | capitalize | reverse | lowercase | uppercase | camelcase | kebabcase | snakecase
  | titlecase => exact sparesStored_ok _

theorem sparesStored_transform {stored : Option Value} (h : Family.string.Fits stored) (op : Text)
    (operand : Value) : SparesStored (transform op stored operand) := by
  have hstored : SparesStored (stored? stored) := by
    cases stored with
    | none => exact sparesStored_ok _
    | some v =>
      rcases h v rfl with rfl | hv
      · exact sparesStored_ok _
      · cases hv
        exact sparesStored_ok _
  exact hstored.bind fun text => (sparesStored_change op text operand).bind fun _ =>
    sparesStored_ok _

end Text

namespace Array

theorem sparesStored_each? (operand : Value) : SparesStored (each? operand) := by
  cases operand with
  | obj modifiers =>
    rw [each?]
    split <;> simp
  | null | bool | num | str | arr => simp [each?]

theorem sparesStored_direction (modifiers : Members Value) :
    SparesStored (direction modifiers) := by
  unfold direction
  split
  · simp
  · simp
  · simp
  · simp
  · split <;> simp
  · simp

theorem sparesStored_insertionIndex (modifiers : Members Value) (length : Nat) :
    SparesStored (insertionIndex modifiers length) := by
  unfold insertionIndex
  split
  · simp
  · simp
  · split
    · split <;> simp
    · simp

theorem sparesStored_selector (operand : Value) : SparesStored (selector operand) := by
  have hlist : ∀ (key : String) (v : Value), SparesStored (listArgument key v) := by
    intro key v
    cases v <;> simp [listArgument]
  unfold selector
  split
  · simp
  · exact (hlist _ _).map
  · exact (hlist _ _).map
  · split <;> simp
  all_goals simp

theorem sparesStored_change (op : Array) (items : List Value) (operand : Value) :
    SparesStored (change op items operand) := by
  cases op with
  | push =>
    refine (sparesStored_each? operand).bind fun form => ?_
    cases form with
    | none => simp
    | some form =>
      exact (sparesStored_direction form.2).bind fun _ =>
        (sparesStored_insertionIndex form.2 _).bind fun _ => sparesStored_ok _
  | pop => exact sparesStored_ok _
  | pull => exact (sparesStored_selector operand).bind fun _ => sparesStored_ok _
  | addToSet =>
    refine (sparesStored_each? operand).bind fun form => ?_
    cases form <;> exact sparesStored_ok _
  | slice => exact (Slice.sparesStored_range operand _).bind fun _ => sparesStored_ok _
  | concat => cases operand <;> simp [change]

theorem sparesStored_transform {stored : Option Value} (h : Family.array.Fits stored) (op : Array)
    (operand : Value) : SparesStored (transform op stored operand) := by
  have hstored : SparesStored (stored? stored) := by
    cases stored with
    | none => exact sparesStored_ok _
    | some v =>
      rcases h v rfl with rfl | hv
      · exact sparesStored_ok _
      · cases hv
        exact sparesStored_ok _
  exact hstored.bind fun items => (sparesStored_change op items operand).bind fun _ =>
    sparesStored_ok _

end Array

namespace Object

theorem sparesStored_keysToOmit (operand : Value) : SparesStored (keysToOmit operand) := by
  cases operand with
  | arr items =>
    refine sparesStored_mapM (fun item => ?_) items
    cases item <;> simp
  | null | bool | num | str | obj => simp [keysToOmit]

theorem sparesStored_renamed (members : Members Value) (operand : Operand) :
    SparesStored (renamed members operand) := by
  cases operand with
  | value v =>
    cases v with
    | obj table =>
      have hname : ∀ key, SparesStored (tableName table key) := by
        intro key
        unfold tableName
        split <;> simp
      refine (sparesStored_mapM (fun m => ?_) members).bind fun _ => sparesStored_ok _
      exact (hname m.1).bind fun _ => sparesStored_ok _
    | null | bool | num | str | arr => simp [renamed]
  | keyMapper rename => simp [renamed]
  | valueMapper change => simp [renamed]

theorem sparesStored_change (op : Object) (members : Members Value) (operand : Operand) :
    SparesStored (change op members operand) := by
  cases op with
  | «omit» =>
    exact (sparesStored_json operand).bind fun v => (sparesStored_keysToOmit v).bind fun _ =>
      sparesStored_ok _
  | merge =>
    refine (sparesStored_json operand).bind fun v => ?_
    cases v <;> simp
  | mapKeys => exact sparesStored_renamed members operand
  | mapValues => cases operand <;> simp [change]
  | invert =>
    refine sparesStored_foldlM (fun swapped m => ?_) members []
    unfold inverted.step
    split <;> simp

theorem sparesStored_transform {stored : Option Value} (h : Family.object.Fits stored)
    (op : Object) (operand : Operand) : SparesStored (transform op stored operand) := by
  have hstored : SparesStored (stored? stored) := by
    cases stored with
    | none => exact sparesStored_ok _
    | some v =>
      rcases h v rfl with rfl | hv
      · exact sparesStored_ok _
      · cases hv
        exact sparesStored_ok _
  exact hstored.bind fun members => (sparesStored_change op members operand).bind fun _ =>
    sparesStored_ok _

end Object

namespace Numeric

theorem sparesStored_ofResult (x : Binary64) : SparesStored (ofResult x) := by
  unfold ofResult
  split <;> simp

theorem sparesStored_operandNumber (operand : Value) : SparesStored (operandNumber operand) := by
  cases operand <;> simp [operandNumber]

theorem sparesStored_formatDigits (operand : Value) (least : Int) :
    SparesStored (formatDigits operand least) := by
  unfold formatDigits
  split
  · simp
  · split
    · simp
    · dsimp only
      split <;> simp

theorem sparesStored_guarded {fault : Fault} (op : Binary64 → Binary64 → Binary64)
    (a b : Binary64) (h : ∀ found expected : String, fault ≠ .stored found expected) :
    SparesStored (guarded fault op a b) := by
  unfold guarded
  split
  · simpa using h
  · simp

/-- Whether a numeric operator can use a stored value: there is none, or null, or a number. -/
def Usable (stored : Option Value) : Prop :=
  stored = none ∨ stored = some .null ∨ ∃ n, stored = some (.num n)

variable {stored : Option Value}

theorem Usable.storedOrZero (h : Usable stored) : SparesStored (storedOrZero stored) := by
  obtain rfl | rfl | ⟨n, rfl⟩ := h <;> exact sparesStored_ok _

theorem Usable.storedNumber (h : Usable stored) : SparesStored (storedNumber stored) := by
  obtain rfl | rfl | ⟨n, rfl⟩ := h <;> simp [Numeric.storedNumber]

theorem Usable.combine (h : Usable stored) {exact' : Int → Int → Option Int}
    {approx : Binary64 → Binary64 → Except Fault Binary64}
    (happrox : ∀ a b, SparesStored (approx a b)) (operand : Value) :
    SparesStored (combine exact' approx stored operand) := by
  refine (sparesStored_operandNumber operand).bind fun b => h.storedOrZero.bind fun a => ?_
  have hdoubles := (happrox a.toBinary64 b.toBinary64).bind sparesStored_ofResult
  dsimp only
  split
  · split
    · exact sparesStored_ok _
    · exact hdoubles
  · exact hdoubles

theorem Usable.extremum (h : Usable stored) (keeps : Binary64 → Binary64 → Bool)
    (operand : Value) : SparesStored (extremum keeps stored operand) := by
  refine (sparesStored_operandNumber operand).bind fun b => ?_
  obtain rfl | rfl | ⟨n, rfl⟩ := h <;> exact sparesStored_ok _

theorem Usable.change (h : Usable stored) (op : Binary64 → Binary64) :
    SparesStored (change op stored) :=
  h.storedNumber.bind fun _ => sparesStored_ofResult _

theorem Usable.formatted (h : Usable stored) (write : Binary64 → Nat → String) (least : Int)
    (operand : Value) : SparesStored (formatted write least stored operand) :=
  h.storedNumber.bind fun _ => (sparesStored_formatDigits operand least).bind fun _ =>
    sparesStored_ok _

theorem Usable.transform (h : Usable stored) (op : Numeric) (stream : Random.Stream)
    (operand : Value) : SparesStored (transform op stream stored operand) := by
  have hok (f : Binary64 → Binary64 → Binary64) (a b : Binary64) :
      SparesStored (.ok (f a b) : Except Fault Binary64) := sparesStored_ok _
  unfold Numeric.transform
  cases op with
  | inc => exact h.combine (hok Binary64.add) operand
  | dec => exact h.combine (hok Binary64.sub) operand
  | mul => exact h.combine (hok Binary64.mul) operand
  | pow => exact h.combine (hok Binary64.pow) operand
  | div => exact h.combine (fun a b => sparesStored_guarded _ a b (by simp)) operand
  | mod => exact h.combine (fun a b => sparesStored_guarded _ a b (by simp)) operand
  | min => exact h.extremum _ operand
  | max => exact h.extremum _ operand
  | sqrt | floor | ceil | abs | trunc | round => exact h.change _
  | random => exact sparesStored_ofResult _
  | toFixed | toExponential | toPrecision => exact h.formatted _ _ operand

theorem usable_of_fits (h : Family.numeric.Fits stored) : Usable stored := by
  cases stored with
  | none => exact .inl rfl
  | some v =>
    rcases h v rfl with rfl | hv
    · exact .inr (.inl rfl)
    · cases hv with
      | num n => exact .inr (.inr ⟨n, rfl⟩)

end Numeric

/-! ## Every family -/

theorem sparesStored_transform_global (op : Global) (declared : Option FieldKind)
    (operand : Value) : SparesStored (op.transform declared operand) := by
  cases op with
  | set | unset => exact sparesStored_ok _
  | clear =>
    rw [Global.transform.eq_def]
    dsimp only
    split <;> simp

/-- An operator can use what suits its family. -/
theorem sparesStored_of_fits {op : Operator} {current : Option Value}
    (hop : op.family ≠ .global) (h : op.family.Fits current) (declared : Option FieldKind)
    (stream : Random.Stream) (operand : Operand) :
    SparesStored (op.transform declared stream operand current) := by
  have hjson := sparesStored_json operand
  cases op with
  | global op => exact absurd rfl hop
  | toggle => exact hjson.bind fun _ => sparesStored_ok _
  | numeric op => exact hjson.bind ((Numeric.usable_of_fits h).transform op stream)
  | text op => exact hjson.bind (Text.sparesStored_transform h op)
  | object op => exact Object.sparesStored_transform h op operand
  | array op => exact hjson.bind (Array.sparesStored_transform h op)

/-- An operator whose family accepts a kind can use what conforms to the kind. -/
theorem sparesStored_transform {op : Operator} {kind : FieldKind} {current : Option Value}
    (hop : op.family.accepts kind = true) (h : ∀ v, current = some v → kind.Conforms v)
    (declared : Option FieldKind) (stream : Random.Stream) (operand : Operand) :
    SparesStored (op.transform declared stream operand current) := by
  by_cases hglobal : op.family = .global
  · cases op with
    | global op =>
      exact (sparesStored_json operand).bind (sparesStored_transform_global op declared)
    | toggle | numeric | text | object | array => nomatch hglobal
  · exact sparesStored_of_fits hglobal (Family.fits_of_conforms hglobal hop h) declared stream
      operand

end Operator
end Amend
