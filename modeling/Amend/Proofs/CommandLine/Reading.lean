/-
Reading the inputs of a command.  Two readings are compared step by step: they give the same value
or fail with the same code.  A relation of the inputs says what the two have in common before each
step, so that a text may come from a file in one reading and from the standard input in the other.
-/
import Amend.CommandLine.Run

namespace Amend
namespace CommandLine

variable {α β : Type} {R S T : Inputs → Inputs → Prop}

/-! ## Two readings -/

/-- Two results of reading: one value, with inputs left that are related, or one code of failure. -/
inductive Alike {α : Type} (S : Inputs → Inputs → Prop) :
    Except Failure (α × Inputs) → Except Failure (α × Inputs) → Prop where
  | ok (a : α) {i j : Inputs} (h : S i j) : Alike S (.ok (a, i)) (.ok (a, j))
  | error {f g : Failure} (h : f.code = g.code) : Alike S (.error f) (.error g)

/-- From inputs in the first relation two readings come to alike results, in the second. -/
def Simulates (R S : Inputs → Inputs → Prop) (m m' : Read α) : Prop :=
  ∀ i j, R i j → Alike S (m i) (m' j)

namespace Simulates

theorem bind {m m' : Read α} {k k' : α → Read β} (h : Simulates R S m m')
    (hk : ∀ a, Simulates S T (k a) (k' a)) : Simulates R T (m >>= k) (m' >>= k') := by
  intro i j hij
  have hm := h i j hij
  show Alike T ((m i).bind fun p => k p.1 p.2) ((m' j).bind fun p => k' p.1 p.2)
  generalize m i = r at hm ⊢
  generalize m' j = r' at hm ⊢
  cases hm with
  | ok a hS => exact hk a _ _ hS
  | error hcode => exact .error hcode

theorem pure (a : α) : Simulates R R (Pure.pure a) (Pure.pure a) := fun _ _ hij => .ok a hij

theorem fail {f g : Failure} (h : f.code = g.code) :
    Simulates R S (fail f : Read α) (CommandLine.fail g) := fun _ _ _ => .error h

theorem ofUpdate (result : Except UpdateError α) :
    Simulates R R (ofUpdate result) (CommandLine.ofUpdate result) := by
  cases result with
  | ok a => exact .pure a
  | error e => exact .fail rfl

end Simulates

/-! ## One text -/

/-- Inputs with the same files. -/
def SameFiles (i j : Inputs) : Prop := i.file = j.file

/-- Inputs with the same files, where a text that the first ones have in a file is what the second
ones have on the standard input. -/
def Waiting (path text : String) (i j : Inputs) : Prop :=
  SameFiles i j ∧ i.file path = .ok text ∧ j.standard = .ok text

theorem Waiting.sameFiles {path text : String} {i j : Inputs} (h : Waiting path text i j) :
    SameFiles i j := h.1

/-- A file is read alike from inputs with the same files, and nothing is used up. -/
theorem readText_file {path : String} (hR : ∀ {i j}, R i j → SameFiles i j)
    (hpath : isStandard path = false) : Simulates R R (readText path) (readText path) := by
  intro i j hij
  have hfile : i.file = j.file := hR hij
  unfold readText
  simp only [hpath, Bool.false_eq_true, if_false, hfile]
  cases j.file path with
  | ok text => exact .ok text hij
  | error reason => exact .error rfl

/-- The text of a file, and the same text on the standard input, which is then at its end. -/
theorem readText_dash {path text : String} (hpath : isStandard path = false) :
    Simulates (Waiting path text) SameFiles (readText path) (readText "-") := by
  rintro i j ⟨hfiles, hfile, hstandard⟩
  have hdash : isStandard "-" = true := by decide
  unfold readText
  simp only [hpath, hdash, Bool.false_eq_true, if_false, if_true, hfile, hstandard]
  exact .ok text hfiles

/-! ## Documents -/

variable {path path' : String}

theorem readJson_simulates (h : Simulates R S (readText path) (readText path')) :
    Simulates R S (readJson path) (readJson path') := by
  unfold readJson
  refine h.bind fun text => ?_
  by_cases hempty : (Unicode.trim text.toList).isEmpty = true
  · rw [if_pos hempty, if_pos hempty]
    exact .fail rfl
  · rw [if_neg hempty, if_neg hempty]
    cases Json.parse? text with
    | some value => exact .pure value
    | none => exact .fail rfl

theorem readObject_simulates (h : Simulates R S (readText path) (readText path')) :
    Simulates R S (readObject path) (readObject path') := by
  unfold readObject
  refine (readJson_simulates h).bind fun value => ?_
  cases value with
  | obj members => exact .pure members
  | _ => exact .fail rfl

theorem readRules_simulates (h : Simulates R S (readText path) (readText path')) :
    Simulates R S (readRules (some path)) (readRules (some path')) :=
  (readJson_simulates h).bind fun _ => .ofUpdate _

theorem readTypes_simulates (h : Simulates R S (readText path) (readText path')) :
    Simulates R S (readTypes (some path)) (readTypes (some path')) :=
  (readJson_simulates h).bind fun _ => .ofUpdate _

theorem readRules_files {rules : Option String} (hR : ∀ {i j}, R i j → SameFiles i j)
    (h : rules.any isStandard = false) : Simulates R R (readRules rules) (readRules rules) := by
  cases rules with
  | none => exact .pure []
  | some path => exact readRules_simulates (readText_file hR h)

theorem readTypes_files {types : Option String} (hR : ∀ {i j}, R i j → SameFiles i j)
    (h : types.any isStandard = false) : Simulates R R (readTypes types) (readTypes types) := by
  cases types with
  | none => exact .pure []
  | some path => exact readTypes_simulates (readText_file hR h)

/-! ## Requests -/

theorem readRequest_simulates {R₀ R₁ R₂ R₃ R₄ : Inputs → Inputs → Prop}
    {record record' update update' : String} {rules rules' types types' : Option String}
    (hrecord : Simulates R₀ R₁ (readText record) (readText record'))
    (hupdate : Simulates R₁ R₂ (readText update) (readText update'))
    (hrules : Simulates R₂ R₃ (readRules rules) (readRules rules'))
    (htypes : Simulates R₃ R₄ (readTypes types) (readTypes types')) :
    Simulates R₀ R₄ (readRequest record update rules types)
      (readRequest record' update' rules' types') := by
  unfold readRequest
  refine (readObject_simulates hrecord).bind fun base => ?_
  refine (readJson_simulates hupdate).bind fun value => ?_
  refine (Simulates.ofUpdate _).bind fun doc => ?_
  exact hrules.bind fun rules => htypes.bind fun types => .pure _

theorem validate_simulates (config : Config) (field value : String)
    (h : Simulates R S (readText path) (readText path')) :
    Simulates R S (validate config field value path) (validate config field value path') := by
  unfold validate
  cases Json.parse? value with
  | none => exact .fail rfl
  | some candidate =>
    refine (readJson_simulates h).bind fun json => ?_
    refine (Simulates.ofUpdate _).bind fun rules => ?_
    exact (Simulates.ofUpdate _).bind fun normalized => .pure _

end CommandLine
end Amend
