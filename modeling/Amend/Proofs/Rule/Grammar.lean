/-
The grammar of rules.  The keywords are a closed set, each asks for one shape of parameter, and
lists of rules nest inside others without bound.  Which texts make patterns is left to `build`, and
what the unit of an angle may be is left open as well: a demand on units that is two demands makes a
grammar that is two grammars.
-/
import Amend.Pattern.Basic
import Amend.Proofs.Json.Magnitude
import Amend.Proofs.Json.WellFormed

namespace Amend
namespace Rule

/-! ## Shapes of parameters -/

/-- What the parameter of a rule that holds no other rules has to be. -/
inductive Shape where
  | anything
  | flag
  | number
  | range
  | divisor
  | base
  | angle
  | length
  | string
  | strings
  | pattern
  | array
deriving DecidableEq

/-- The keywords of the rules that are on or off. -/
def flagNames : List String :=
  ["$required", "$trim", "$positive", "$negative", "$integer", "$float", "$even", "$odd",
    "$prime", "$perfect", "$fibonacci", "$powerOfTwo", "$powerOfTen", "$finite", "$infinite",
    "$palindrome", "$harshad", "$epochTime", "$alphaNumeric", "$noWhitespace",
    "$onlySpecialChars", "$noSpecialChars", "$alpha", "$numeric", "$validEmail", "$validURL",
    "$validIP", "$validIPv4", "$validIPv6", "$validCreditCard", "$mustBeTrue", "$mustBeFalse"]

/-- The other keywords, each with what it asks for. -/
def shapes : Members Shape :=
  [("$default", .anything), ("$lessThan", .number), ("$greaterThan", .number),
    ("$lessThanOrEqual", .number), ("$greaterThanOrEqual", .number), ("$range", .range),
    ("$multipleOf", .divisor), ("$powerOf", .base), ("$angle", .angle), ("$exactLength", .length),
    ("$minLength", .length), ("$maxLength", .length), ("$contains", .string),
    ("$startsWith", .string), ("$endsWith", .string), ("$exclude", .strings),
    ("$match", .pattern), ("$enum", .array), ("$unique", .anything)]

/-- Whether a keyword asks for a shape. -/
inductive Asks : String → Shape → Prop where
  | flag {name : String} (h : name ∈ flagNames) : Asks name .flag
  | other {name : String} {shape : Shape} (h : (name, shape) ∈ shapes) : Asks name shape

/-- Two bounds in order, as numbers or as the doubles nearest to them. -/
def InOrder (min max : Number) : Prop :=
  min.units ≤ max.units ∨ min.toBinary64.eq max.toBinary64 = true

/-- Members `$min` and `$max` that are bounds in order. -/
def HasBounds (members : Members Value) : Prop :=
  ∃ min max, members.get? "$min" = some (.num min) ∧ members.get? "$max" = some (.num max) ∧
    InOrder min max

/-- The bounds of an angle: none, by name, or a pair. -/
def IsTurn : Option Value → Prop
  | none => True
  | some (.obj members) => HasBounds members
  | some (.arr bounds) => ∃ min max, bounds = [.num min, .num max] ∧ InOrder min max
  | some _ => False

section

variable (build : String → Option Pattern) (unit : Option Value → Prop)

/-- Whether a value is of a shape, where `unit` says what the unit of an angle may be. -/
def Shape.Fits : Shape → Value → Prop
  | .anything, _ => True
  | .flag, v => ∃ b, v = .bool b
  | .number, v => ∃ n, v = .num n
  | .range, v => ∃ members, v = .obj members ∧ HasBounds members
  | .divisor, v => ∃ n, v = .num n ∧ n.units ≠ 0
  | .base, v => ∃ n, v = .num n ∧ 0 < n.units ∧ n.units ≠ Binary64.one
  | .angle, v => ∃ members, v = .obj members ∧ unit (Members.get? members "$unit") ∧
      IsTurn (Members.get? members "$range")
  | .length, v => ∃ n : Int, v = .int n ∧ 0 ≤ n ∧ n ≤ Number.maxUnsigned
  | .string, v => ∃ s, v = .str s
  | .strings, v => (∃ s, v = .str s) ∨ ∃ items, v = .arr items ∧ ∀ item ∈ items, ∃ s, item = .str s
  | .pattern, v => ∃ s, v = .str s ∧ ∃ pattern, build s = some pattern
  | .array, v => ∃ items, v = .arr items

/-! ## Rules -/

mutual

/-- A keyword with a parameter that make a rule. -/
inductive IsRule : String → Value → Prop where
  | leaf {name : String} {shape : Shape} {param : Value} (hname : Asks name shape)
    (hparam : shape.Fits build unit param) : IsRule name param
  | anyOf {items : List Value} (hne : items ≠ [])
    (h : ∀ item ∈ items, IsRuleObject item) : IsRule "$logicalOr" (.arr items)
  | noneOf {inner : Value} (h : IsRuleObject inner) : IsRule "$logicalNot" inner

/-- An object whose members are all rules. -/
inductive IsRuleObject : Value → Prop where
  | intro {members : Members Value} (h : ∀ m ∈ members, IsRule m.1 m.2) :
    IsRuleObject (.obj members)

end

/-- An object whose members are all objects of rules. -/
def IsRuleSet (v : Value) : Prop :=
  ∃ fields : Members Value, v = .obj fields ∧
    ∀ field ∈ fields, IsRuleObject build unit field.2

end

/-- The units of an angle: none, which means degrees, or one of two names. -/
def NamesUnit (unit : Option Value) : Prop :=
  unit = none ∨ unit = some (.str "degrees") ∨ unit = some (.str "radians")

/-- What the reader takes for a unit: all but a string that names none. -/
def PassesAsUnit (unit : Option Value) : Prop :=
  ∀ s, unit = some (.str s) → s = "degrees" ∨ s = "radians"

/-- No unit, or a string. -/
def IsWord (unit : Option Value) : Prop := unit = none ∨ ∃ s, unit = some (.str s)

/-! ## Keywords -/

/-- The keywords of flags are none of the others. -/
theorem not_mem_flagNames : ∀ entry ∈ shapes, entry.1 ∉ flagNames := by
  decide

/-- No keyword asks for two shapes. -/
theorem Asks.unique {name : String} {shape shape' : Shape} (h : Asks name shape)
    (h' : Asks name shape') : shape = shape' := by
  have hdistinct : shapes.Distinct := by
    unfold Members.Distinct
    decide
  cases h with
  | flag hname =>
    cases h' with
    | flag => rfl
    | other hmem => exact absurd hname (not_mem_flagNames _ hmem)
  | other hmem =>
    cases h' with
    | flag hname => exact absurd hname (not_mem_flagNames _ hmem)
    | other hmem' =>
      have hget := Members.get?_of_mem hdistinct hmem
      rw [Members.get?_of_mem hdistinct hmem'] at hget
      exact (Option.some.inj hget).symm

/-- The keywords of lists of rules ask for no shape. -/
theorem not_asks {name : String} (h : name = "$logicalOr" ∨ name = "$logicalNot")
    (shape : Shape) : ¬Asks name shape := by
  intro hasks
  have hmem : name ∈ flagNames ++ shapes.map Prod.fst := by
    cases hasks with
    | flag hname => exact List.mem_append_left _ hname
    | other hmem => exact List.mem_append_right _ (List.mem_map_of_mem (f := Prod.fst) hmem)
  rcases h with rfl | rfl
  · revert hmem
    decide
  · revert hmem
    decide

/-! ## The ways to make a rule -/

variable {build : String → Option Pattern}

/-- The three ways to make a rule. -/
theorem isRule_iff {unit : Option Value → Prop} {name : String} {param : Value} :
    IsRule build unit name param ↔
      (∃ shape, Asks name shape ∧ shape.Fits build unit param) ∨
      (name = "$logicalOr" ∧
        ∃ items, param = .arr items ∧ items ≠ [] ∧ ∀ item ∈ items, IsRuleObject build unit item) ∨
      (name = "$logicalNot" ∧ IsRuleObject build unit param) := by
  constructor
  · intro h
    cases h with
    | leaf hasks hfits => exact .inl ⟨_, hasks, hfits⟩
    | anyOf hne h => exact .inr (.inl ⟨rfl, _, rfl, hne, h⟩)
    | noneOf h => exact .inr (.inr ⟨rfl, h⟩)
  · rintro (⟨shape, hasks, hfits⟩ | ⟨rfl, items, rfl, hne, h⟩ | ⟨rfl, h⟩)
    · exact .leaf hasks hfits
    · exact .anyOf hne h
    · exact .noneOf h

theorem isRule_anyOf_iff {unit : Option Value → Prop} {param : Value} :
    IsRule build unit "$logicalOr" param ↔
      ∃ items, param = .arr items ∧ items ≠ [] ∧ ∀ item ∈ items, IsRuleObject build unit item := by
  rw [isRule_iff]
  constructor
  · rintro (⟨shape, hasks, -⟩ | ⟨-, h⟩ | ⟨hname, -⟩)
    · exact absurd hasks (not_asks (.inl rfl) shape)
    · exact h
    · exact absurd hname (by decide)
  · exact fun h => .inr (.inl ⟨rfl, h⟩)

theorem isRule_noneOf_iff {unit : Option Value → Prop} {inner : Value} :
    IsRule build unit "$logicalNot" inner ↔ IsRuleObject build unit inner := by
  rw [isRule_iff]
  constructor
  · rintro (⟨shape, hasks, -⟩ | ⟨hname, -⟩ | ⟨-, h⟩)
    · exact absurd hasks (not_asks (.inr rfl) shape)
    · exact absurd hname (by decide)
    · exact h
  · exact fun h => .inr (.inr ⟨rfl, h⟩)

theorem isRule_leaf_iff {unit : Option Value → Prop} {name : String} {param : Value}
    (hor : name ≠ "$logicalOr") (hnot : name ≠ "$logicalNot") :
    IsRule build unit name param ↔ ∃ shape, Asks name shape ∧ shape.Fits build unit param := by
  rw [isRule_iff]
  constructor
  · rintro (h | ⟨hname, -⟩ | ⟨hname, -⟩)
    · exact h
    · exact absurd hname hor
    · exact absurd hname hnot
  · exact .inl

theorem isRule_anyOf_arr_iff {unit : Option Value → Prop} {items : List Value} :
    IsRule build unit "$logicalOr" (.arr items) ↔
      items ≠ [] ∧ ∀ item ∈ items, IsRuleObject build unit item := by
  rw [isRule_anyOf_iff]
  constructor
  · rintro ⟨_, heq, h⟩
    rwa [Value.arr.inj heq]
  · exact fun h => ⟨items, rfl, h⟩

theorem isRuleObject_obj_iff {unit : Option Value → Prop} {members : Members Value} :
    IsRuleObject build unit (.obj members) ↔ ∀ m ∈ members, IsRule build unit m.1 m.2 :=
  ⟨fun | .intro h => h, .intro⟩

theorem not_isRuleObject {unit : Option Value → Prop} {v : Value}
    (h : ∀ members, v ≠ .obj members) : ¬IsRuleObject build unit v := by
  intro hobject
  cases hobject
  exact h _ rfl

theorem isRuleSet_obj_iff {unit : Option Value → Prop} {fields : Members Value} :
    IsRuleSet build unit (.obj fields) ↔ ∀ field ∈ fields, IsRuleObject build unit field.2 := by
  constructor
  · rintro ⟨_, heq, h⟩
    rwa [Value.obj.inj heq]
  · exact fun h => ⟨fields, rfl, h⟩

theorem not_isRuleSet {unit : Option Value → Prop} {v : Value}
    (h : ∀ fields, v ≠ .obj fields) : ¬IsRuleSet build unit v := by
  rintro ⟨fields, hfields, -⟩
  exact h fields hfields

/-- Induction on an object of rules and on a parameter of a rule at once: the one holds members,
the other is an object or holds branches. -/
theorem grammar_induction (object : Value → Prop) (rule : String → Value → Prop)
    (other : ∀ v, (∀ members, v ≠ .obj members) → object v)
    (obj : ∀ members, (∀ m ∈ members, rule m.1 m.2) → object (.obj members))
    (param : ∀ name v, object v → (∀ items, v = .arr items → ∀ item ∈ items, object item) →
      rule name v) (v : Value) : object v ∧ ∀ name, rule name v := by
  have hleaf : ∀ v, (∀ members, v ≠ .obj members) →
      (∀ items, v = .arr items → ∀ item ∈ items, object item) → object v ∧ ∀ name, rule name v :=
    fun v hv hitems => ⟨other v hv, fun name => param name v (other v hv) hitems⟩
  induction v using Value.nested_induction with
  | null | bool | num | str => exact hleaf _ nofun nofun
  | arr items ih =>
    refine hleaf _ nofun fun items' heq item hitem => ?_
    rw [← Value.arr.inj heq] at hitem
    exact (ih item hitem).1
  | obj members ih =>
    have hobject := obj members fun m hm => (ih m hm).2 m.1
    exact ⟨hobject, fun name => param name _ hobject nofun⟩

/-! ## Units -/

theorem namesUnit_iff {unit : Option Value} :
    NamesUnit unit ↔ PassesAsUnit unit ∧ IsWord unit := by
  constructor
  · rintro (rfl | rfl | rfl)
    · exact ⟨nofun, .inl rfl⟩
    · exact ⟨fun s hs => .inl (Value.str.inj (Option.some.inj hs)).symm, .inr ⟨_, rfl⟩⟩
    · exact ⟨fun s hs => .inr (Value.str.inj (Option.some.inj hs)).symm, .inr ⟨_, rfl⟩⟩
  · rintro ⟨hpasses, rfl | ⟨s, rfl⟩⟩
    · exact .inl rfl
    · rcases hpasses s rfl with rfl | rfl
      · exact .inr (.inl rfl)
      · exact .inr (.inr rfl)

section

variable {unit first second : Option Value → Prop}

theorem forall_mem_and_iff {α : Type} {items : List α} {p q r : α → Prop}
    (h : ∀ item ∈ items, (p item ↔ q item ∧ r item)) :
    (∀ item ∈ items, p item) ↔ (∀ item ∈ items, q item) ∧ ∀ item ∈ items, r item := by
  constructor
  · intro hp
    exact ⟨fun item hitem => ((h item hitem).mp (hp item hitem)).1,
      fun item hitem => ((h item hitem).mp (hp item hitem)).2⟩
  · intro hqr item hitem
    exact (h item hitem).mpr ⟨hqr.1 item hitem, hqr.2 item hitem⟩

theorem fits_and_iff (hunit : ∀ u, unit u ↔ first u ∧ second u) (shape : Shape) (v : Value) :
    shape.Fits build unit v ↔ shape.Fits build first v ∧ shape.Fits build second v := by
  cases shape with
  | angle =>
    constructor
    · rintro ⟨members, rfl, hu, hturn⟩
      have hu := (hunit _).mp hu
      exact ⟨⟨members, rfl, hu.1, hturn⟩, members, rfl, hu.2, hturn⟩
    · rintro ⟨⟨members, rfl, hu, hturn⟩, _, heq, hu', -⟩
      rw [← Value.obj.inj heq] at hu'
      exact ⟨members, rfl, (hunit _).mpr ⟨hu, hu'⟩, hturn⟩
  | _ => exact (and_self_iff).symm

theorem isRule_and_iff (hunit : ∀ u, unit u ↔ first u ∧ second u) {v : Value}
    (hobject : IsRuleObject build unit v ↔ IsRuleObject build first v ∧ IsRuleObject build second v)
    (hitems : ∀ items, v = .arr items → ∀ item ∈ items,
      (IsRuleObject build unit item ↔
        IsRuleObject build first item ∧ IsRuleObject build second item))
    (name : String) :
    IsRule build unit name v ↔ IsRule build first name v ∧ IsRule build second name v := by
  by_cases hor : name = "$logicalOr"
  · subst hor
    cases v with
    | arr items =>
      rw [isRule_anyOf_arr_iff, isRule_anyOf_arr_iff, isRule_anyOf_arr_iff,
        forall_mem_and_iff (hitems items rfl)]
      exact and_and_left
    | null | bool | num | str | obj =>
      simp only [isRule_anyOf_iff, reduceCtorEq, false_and, exists_false]
  · by_cases hnot : name = "$logicalNot"
    · subst hnot
      rw [isRule_noneOf_iff, isRule_noneOf_iff, isRule_noneOf_iff, hobject]
    · rw [isRule_leaf_iff hor hnot, isRule_leaf_iff hor hnot, isRule_leaf_iff hor hnot]
      constructor
      · rintro ⟨shape, hasks, hfits⟩
        have hfits := (fits_and_iff hunit shape v).mp hfits
        exact ⟨⟨shape, hasks, hfits.1⟩, shape, hasks, hfits.2⟩
      · rintro ⟨⟨shape, hasks, hfits⟩, shape', hasks', hfits'⟩
        rw [← hasks.unique hasks'] at hfits'
        exact ⟨shape, hasks, (fits_and_iff hunit shape v).mpr ⟨hfits, hfits'⟩⟩

/-- Two demands on units, made together, are made of every rule together. -/
theorem isRuleObject_and_iff (hunit : ∀ u, unit u ↔ first u ∧ second u) (v : Value) :
    IsRuleObject build unit v ↔ IsRuleObject build first v ∧ IsRuleObject build second v := by
  refine (grammar_induction
    (fun v => IsRuleObject build unit v ↔ IsRuleObject build first v ∧ IsRuleObject build second v)
    (fun name v =>
      IsRule build unit name v ↔ IsRule build first name v ∧ IsRule build second name v)
    ?other ?obj ?param v).1
  case other =>
    intro v hv
    exact iff_of_false (not_isRuleObject hv) fun h => not_isRuleObject hv h.1
  case obj =>
    intro members hmembers
    rw [isRuleObject_obj_iff, isRuleObject_obj_iff, isRuleObject_obj_iff]
    exact forall_mem_and_iff hmembers
  case param => exact fun name v hobject hitems => isRule_and_iff hunit hobject hitems name

theorem isRuleSet_and_iff (hunit : ∀ u, unit u ↔ first u ∧ second u) {v : Value} :
    IsRuleSet build unit v ↔ IsRuleSet build first v ∧ IsRuleSet build second v := by
  cases v with
  | obj fields =>
    rw [isRuleSet_obj_iff, isRuleSet_obj_iff, isRuleSet_obj_iff]
    exact forall_mem_and_iff fun field _ => isRuleObject_and_iff hunit field.2
  | null | bool | num | str | arr =>
    exact iff_of_false (not_isRuleSet nofun) fun h => absurd h.1 (not_isRuleSet nofun)

end

end Rule
end Amend
