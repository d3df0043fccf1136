/-
Reading rules.  The reader accepts exactly the rules of the grammar in which the unit of an angle,
if it is a string, is a known one.  Each reader of a parameter is shown to accept one shape, and
the readers of members, branches and objects follow the grammar by one induction on the JSON.
-/
import Amend.Proofs.Outcome
import Amend.Proofs.Rule.Grammar
import Amend.Rule.Json

namespace Amend
namespace Rule

variable {build : String → Option Pattern}

/-! ## Readers of parameters -/

theorem toBinary64?_eq_some_iff {v : Value} {x : Binary64} :
    v.toBinary64? = some x ↔ ∃ n, v = .num n ∧ n.toBinary64 = x := by
  cases v with
  | num n =>
    constructor
    · exact fun h => ⟨n, rfl, Option.some.inj h⟩
    · rintro ⟨m, hm, rfl⟩
      rw [Value.num.inj hm]
      rfl
  | null | bool | str | arr | obj =>
    constructor
    · intro h
      nomatch h
    · rintro ⟨n, hn, -⟩
      nomatch hn

theorem readNumber_eq_ok_iff {param : Value} {x : Binary64} :
    readNumber param = .ok x ↔ ∃ n, param = .num n ∧ n.toBinary64 = x := by
  rw [← toBinary64?_eq_some_iff]
  unfold readNumber
  cases param.toBinary64? with
  | none => exact ⟨nofun, nofun⟩
  | some y =>
    exact ⟨fun h => congrArg some (Except.ok.inj h), fun h => congrArg _ (Option.some.inj h)⟩

theorem readObject_eq_ok_iff {param : Value} {members : Members Value} :
    readObject param = .ok members ↔ param = .obj members := by
  cases param with
  | obj ms => exact ⟨fun h => congrArg _ (Except.ok.inj h), fun h => congrArg _ (Value.obj.inj h)⟩
  | null | bool | num | str | arr => exact ⟨nofun, nofun⟩

theorem readString_eq_ok_iff {param : Value} {s : String} :
    readString param = .ok s ↔ param = .str s := by
  cases param with
  | str t => exact ⟨fun h => congrArg _ (Except.ok.inj h), fun h => congrArg _ (Value.str.inj h)⟩
  | null | bool | num | arr | obj => exact ⟨nofun, nofun⟩

theorem succeeds_readStrings_iff {items : List Value} :
    Succeeds (readStrings items) ↔ ∀ item ∈ items, ∃ s, item = .str s := by
  induction items with
  | nil => exact ⟨fun _ => nofun, fun _ => ⟨[], rfl⟩⟩
  | cons item rest ih =>
    rw [List.forall_mem_cons, ← ih]
    cases item with
    | str s =>
      rw [readStrings, succeeds_bind_iff]
      constructor
      · rintro ⟨strings, hrest, -⟩
        exact ⟨⟨s, rfl⟩, strings, hrest⟩
      · rintro ⟨-, strings, hrest⟩
        exact ⟨strings, hrest, succeeds_ok _⟩
    | null | bool | num | arr | obj =>
      exact iff_of_false (not_succeeds_error _) fun h => nomatch h.1

theorem readBound_eq_ok_iff {members : Members Value} {name : String} {x : Binary64} :
    readBound members name = .ok x ↔
      ∃ n, members.get? name = some (.num n) ∧ n.toBinary64 = x := by
  unfold readBound
  cases hget : members.get? name with
  | none => exact ⟨nofun, nofun⟩
  | some v =>
    rw [Option.bind_some]
    cases hv : v.toBinary64? with
    | none =>
      constructor
      · intro h
        nomatch h
      · rintro ⟨n, hn, -⟩
        rw [Option.some.inj hn] at hv
        nomatch hv
    | some y =>
      obtain ⟨m, rfl, rfl⟩ := toBinary64?_eq_some_iff.mp hv
      constructor
      · exact fun h => ⟨m, rfl, Except.ok.inj h⟩
      · rintro ⟨n, hn, rfl⟩
        rw [Value.num.inj (Option.some.inj hn)]

/-- Two bounds are read as their doubles. -/
theorem readBounds_eq_ok_iff {members : Members Value} {bounds : Binary64 × Binary64} :
    readBounds members = .ok bounds ↔
      ∃ min max, members.get? "$min" = some (.num min) ∧ members.get? "$max" = some (.num max) ∧
        bounds = (min.toBinary64, max.toBinary64) := by
  unfold readBounds
  constructor
  · intro h
    obtain ⟨x, hmin, h⟩ := bind_eq_ok_iff.mp h
    obtain ⟨y, hmax, h⟩ := bind_eq_ok_iff.mp h
    obtain ⟨min, hgetmin, rfl⟩ := readBound_eq_ok_iff.mp hmin
    obtain ⟨max, hgetmax, rfl⟩ := readBound_eq_ok_iff.mp hmax
    exact ⟨min, max, hgetmin, hgetmax, (Except.ok.inj h).symm⟩
  · rintro ⟨min, max, hmin, hmax, rfl⟩
    refine bind_eq_ok_iff.mpr ⟨_, readBound_eq_ok_iff.mpr ⟨min, hmin, rfl⟩, ?_⟩
    exact bind_eq_ok_iff.mpr ⟨_, readBound_eq_ok_iff.mpr ⟨max, hmax, rfl⟩, rfl⟩

theorem inOrder_iff {min max : Number} :
    InOrder min max ↔ max.toBinary64.lt min.toBinary64 = false :=
  Number.lt_toBinary64_eq_false_iff.symm

/-- A choice between a refusal and a result. -/
theorem succeeds_ite_iff {ε α : Type} {refused : Bool} {e : ε} {a : α} :
    Succeeds (if refused then .error e else .ok a : Except ε α) ↔ refused = false := by
  cases refused with
  | true => exact ⟨fun h => absurd h (not_succeeds_error e), nofun⟩
  | false => exact ⟨fun _ => rfl, fun _ => succeeds_ok a⟩

theorem succeeds_readRange_iff {param : Value} {unit : Option Value → Prop} :
    Succeeds (readRange param) ↔ Shape.range.Fits build unit param := by
  unfold readRange
  constructor
  · intro h
    obtain ⟨members, hmembers, h⟩ := succeeds_bind_iff.mp h
    obtain ⟨bounds, hbounds, h⟩ := succeeds_bind_iff.mp h
    obtain ⟨min, max, hmin, hmax, rfl⟩ := readBounds_eq_ok_iff.mp hbounds
    exact ⟨members, readObject_eq_ok_iff.mp hmembers, min, max, hmin, hmax,
      inOrder_iff.mpr (succeeds_ite_iff.mp h)⟩
  · rintro ⟨members, rfl, min, max, hmin, hmax, horder⟩
    refine succeeds_bind_iff.mpr ⟨members, rfl, ?_⟩
    refine succeeds_bind_iff.mpr ⟨_, readBounds_eq_ok_iff.mpr ⟨min, max, hmin, hmax, rfl⟩, ?_⟩
    exact succeeds_ite_iff.mpr (inOrder_iff.mp horder)

theorem ofInt_zero : Binary64.ofInt 0 = .zero := by decide +kernel

theorem divisor_eq_zero {n : Number} : n.toBinary64.eq .zero = decide (n.units = 0) := by
  rw [← ofInt_zero, Number.eq_ofInt n (by decide), Int.zero_mul]

theorem succeeds_readDivisor_iff {param : Value} {unit : Option Value → Prop} :
    Succeeds (readDivisor param) ↔ Shape.divisor.Fits build unit param := by
  unfold readDivisor
  constructor
  · intro h
    obtain ⟨x, hx, h⟩ := succeeds_bind_iff.mp h
    obtain ⟨n, rfl, rfl⟩ := readNumber_eq_ok_iff.mp hx
    have hne := succeeds_ite_iff.mp h
    rw [divisor_eq_zero, decide_eq_false_iff_not] at hne
    exact ⟨n, rfl, hne⟩
  · rintro ⟨n, rfl, hne⟩
    refine succeeds_bind_iff.mpr ⟨_, rfl, succeeds_ite_iff.mpr ?_⟩
    rw [divisor_eq_zero, decide_eq_false_iff_not]
    exact hne

theorem badBase_eq_false_iff {n : Number} :
    (n.toBinary64.le .zero || n.toBinary64.eq (.ofInt 1)) = false ↔
      0 < n.units ∧ n.units ≠ Binary64.one := by
  rw [← ofInt_zero, Number.le_ofInt n (by decide), Number.eq_ofInt n (by decide), Int.zero_mul,
    Int.one_mul, Bool.or_eq_false_iff, decide_eq_false_iff_not, decide_eq_false_iff_not,
    Int.not_le]

theorem succeeds_readBase_iff {param : Value} {unit : Option Value → Prop} :
    Succeeds (readBase param) ↔ Shape.base.Fits build unit param := by
  unfold readBase
  constructor
  · intro h
    obtain ⟨x, hx, h⟩ := succeeds_bind_iff.mp h
    obtain ⟨n, rfl, rfl⟩ := readNumber_eq_ok_iff.mp hx
    exact ⟨n, rfl, badBase_eq_false_iff.mp (succeeds_ite_iff.mp h)⟩
  · rintro ⟨n, rfl, hbase⟩
    refine succeeds_bind_iff.mpr ⟨_, rfl, ?_⟩
    exact succeeds_ite_iff.mpr (badBase_eq_false_iff.mpr hbase)

theorem succeeds_readUnit_iff {members : Members Value} :
    Succeeds (readUnit members) ↔ PassesAsUnit (members.get? "$unit") := by
  unfold readUnit
  split
  · next s hs =>
    rw [hs]
    by_cases hdegrees : s = "degrees"
    · rw [if_pos hdegrees]
      exact ⟨fun _ t ht => .inl (Value.str.inj (Option.some.inj ht) ▸ hdegrees),
        fun _ => succeeds_ok _⟩
    · rw [if_neg hdegrees]
      by_cases hradians : s = "radians"
      · rw [if_pos hradians]
        exact ⟨fun _ t ht => .inr (Value.str.inj (Option.some.inj ht) ▸ hradians),
          fun _ => succeeds_ok _⟩
      · rw [if_neg hradians]
        exact ⟨fun h => absurd h (not_succeeds_error _),
          fun h => absurd (h s rfl) (not_or.mpr ⟨hdegrees, hradians⟩)⟩
  · next hs => exact ⟨fun _ s hget => absurd hget (hs s), fun _ => succeeds_ok _⟩

/-- A full turn does not cross. -/
theorem lt_fullTurn (unit : AngleUnit) : unit.fullTurn.lt .zero = false := by
  cases unit <;> decide +kernel

theorem readTurn_pair_iff {unit : AngleUnit} {members : Members Value} {items : List Value}
    (h : members.get? "$range" = some (.arr items)) {bounds : Binary64 × Binary64} :
    readTurn unit members = .ok bounds ↔
      ∃ min max, items = [.num min, .num max] ∧ bounds = (min.toBinary64, max.toBinary64) := by
  constructor
  · intro hturn
    unfold readTurn at hturn
    rw [h] at hturn
    split at hturn
    · next heq => nomatch heq
    · next heq => nomatch heq
    · next first last heq =>
      cases Value.arr.inj (Option.some.inj heq)
      split at hturn
      · next x y hx hy =>
        obtain ⟨min, rfl, rfl⟩ := toBinary64?_eq_some_iff.mp hx
        obtain ⟨max, rfl, rfl⟩ := toBinary64?_eq_some_iff.mp hy
        exact ⟨min, max, rfl, (Except.ok.inj hturn).symm⟩
      · nomatch hturn
    · nomatch hturn
  · rintro ⟨min, max, rfl, rfl⟩
    unfold readTurn
    rw [h]
    rfl

/-- The bounds that are read for an angle do not cross exactly if they are a turn. -/
theorem exists_readTurn_iff (unit : AngleUnit) {members : Members Value} :
    (∃ bounds, readTurn unit members = .ok bounds ∧ bounds.2.lt bounds.1 = false) ↔
      IsTurn (members.get? "$range") := by
  cases hget : members.get? "$range" with
  | none =>
    refine ⟨fun _ => trivial, fun _ => ⟨(.zero, unit.fullTurn), ?_, lt_fullTurn unit⟩⟩
    unfold readTurn
    rw [hget]
  | some range =>
    cases range with
    | obj inner =>
      have hread : readTurn unit members = readBounds inner := by
        unfold readTurn
        rw [hget]
      rw [hread]
      constructor
      · rintro ⟨bounds, hbounds, horder⟩
        obtain ⟨min, max, hmin, hmax, rfl⟩ := readBounds_eq_ok_iff.mp hbounds
        exact ⟨min, max, hmin, hmax, inOrder_iff.mpr horder⟩
      · rintro ⟨min, max, hmin, hmax, horder⟩
        exact ⟨_, readBounds_eq_ok_iff.mpr ⟨min, max, hmin, hmax, rfl⟩, inOrder_iff.mp horder⟩
    | arr items =>
      constructor
      · rintro ⟨bounds, hbounds, horder⟩
        obtain ⟨min, max, hitems, rfl⟩ := (readTurn_pair_iff hget).mp hbounds
        exact ⟨min, max, hitems, inOrder_iff.mpr horder⟩
      · rintro ⟨min, max, hitems, horder⟩
        exact ⟨_, (readTurn_pair_iff hget).mpr ⟨min, max, hitems, rfl⟩, inOrder_iff.mp horder⟩
    | null | bool | num | str =>
      have hread : readTurn unit members = .error .badRange := by
        unfold readTurn
        rw [hget]
      rw [hread]
      refine ⟨?_, False.elim⟩
      rintro ⟨bounds, hbounds, -⟩
      nomatch hbounds

theorem succeeds_readAngle_iff {param : Value} :
    Succeeds (readAngle param) ↔ Shape.angle.Fits build PassesAsUnit param := by
  unfold readAngle
  constructor
  · intro h
    obtain ⟨members, hmembers, h⟩ := succeeds_bind_iff.mp h
    obtain ⟨unit, hunit, h⟩ := succeeds_bind_iff.mp h
    obtain ⟨bounds, hbounds, h⟩ := succeeds_bind_iff.mp h
    exact ⟨members, readObject_eq_ok_iff.mp hmembers, succeeds_readUnit_iff.mp ⟨unit, hunit⟩,
      (exists_readTurn_iff unit).mp ⟨bounds, hbounds, succeeds_ite_iff.mp h⟩⟩
  · rintro ⟨members, rfl, hunit, hturn⟩
    obtain ⟨unit, hunit⟩ := succeeds_readUnit_iff.mpr hunit
    obtain ⟨bounds, hbounds, horder⟩ := (exists_readTurn_iff unit).mpr hturn
    refine succeeds_bind_iff.mpr ⟨members, rfl, ?_⟩
    refine succeeds_bind_iff.mpr ⟨unit, hunit, ?_⟩
    exact succeeds_bind_iff.mpr ⟨bounds, hbounds, succeeds_ite_iff.mpr horder⟩

theorem succeeds_readNumber_iff {param : Value} {unit : Option Value → Prop} :
    Succeeds (readNumber param) ↔ Shape.number.Fits build unit param := by
  constructor
  · rintro ⟨x, hx⟩
    obtain ⟨n, rfl, -⟩ := readNumber_eq_ok_iff.mp hx
    exact ⟨n, rfl⟩
  · rintro ⟨n, rfl⟩
    exact succeeds_ok _

theorem toUnsigned?_isSome_iff {v : Value} :
    v.toUnsigned?.isSome = true ↔ ∃ n : Int, v = .int n ∧ 0 ≤ n ∧ n ≤ Number.maxUnsigned := by
  constructor
  · intro h
    cases v with
    | num m =>
      cases m with
      | int n =>
        refine ⟨n, rfl, Decidable.byContradiction fun hrange => ?_⟩
        have hnone : (Value.num (.int n)).toUnsigned? = none := if_neg hrange
        rw [hnone] at h
        nomatch h
      | float x => nomatch h
    | null | bool | str | arr | obj => nomatch h
  · rintro ⟨n, rfl, hrange⟩
    have hsome : (Value.int n).toUnsigned? = some n.toNat := if_pos hrange
    rw [hsome]
    rfl

theorem succeeds_readLength_iff {param : Value} {unit : Option Value → Prop} :
    Succeeds (readLength param) ↔ Shape.length.Fits build unit param := by
  rw [Shape.Fits, ← toUnsigned?_isSome_iff, readLength]
  cases param.toUnsigned? with
  | none => exact iff_of_false (not_succeeds_error _) nofun
  | some n => exact ⟨fun _ => rfl, fun _ => succeeds_ok _⟩

theorem succeeds_readString_iff {param : Value} {unit : Option Value → Prop} :
    Succeeds (readString param) ↔ Shape.string.Fits build unit param := by
  constructor
  · rintro ⟨s, hs⟩
    exact ⟨s, readString_eq_ok_iff.mp hs⟩
  · rintro ⟨s, rfl⟩
    exact succeeds_ok _

theorem succeeds_readStringOrStrings_iff {param : Value} {unit : Option Value → Prop} :
    Succeeds (readStringOrStrings param) ↔ Shape.strings.Fits build unit param := by
  cases param with
  | str s => exact ⟨fun _ => .inl ⟨s, rfl⟩, fun _ => succeeds_ok _⟩
  | arr items =>
    rw [readStringOrStrings, succeeds_readStrings_iff]
    constructor
    · exact fun h => .inr ⟨items, rfl, h⟩
    · rintro (⟨s, hs⟩ | ⟨_, hitems, h⟩)
      · nomatch hs
      · rwa [Value.arr.inj hitems]
  | null | bool | num | obj =>
    refine iff_of_false (not_succeeds_error _) ?_
    rintro (⟨s, hs⟩ | ⟨_, hitems, -⟩)
    · nomatch hs
    · nomatch hitems

theorem succeeds_readArray_iff {param : Value} {unit : Option Value → Prop} :
    Succeeds (readArray param) ↔ Shape.array.Fits build unit param := by
  cases param with
  | arr items => exact ⟨fun _ => ⟨items, rfl⟩, fun _ => succeeds_ok _⟩
  | null | bool | num | str | obj =>
    refine iff_of_false (not_succeeds_error _) ?_
    rintro ⟨items, hitems⟩
    nomatch hitems

theorem succeeds_readPattern_iff {param : Value} {unit : Option Value → Prop} :
    Succeeds (readPattern build param) ↔ Shape.pattern.Fits build unit param := by
  unfold readPattern
  constructor
  · intro h
    obtain ⟨s, hs, h⟩ := succeeds_bind_iff.mp h
    refine ⟨s, readString_eq_ok_iff.mp hs, ?_⟩
    split at h
    · next pattern hpattern => exact ⟨pattern, hpattern⟩
    · exact absurd h (not_succeeds_error _)
  · rintro ⟨s, rfl, pattern, hpattern⟩
    refine succeeds_bind_iff.mpr ⟨s, rfl, ?_⟩
    rw [hpattern]
    exact succeeds_ok _

/-! ## Readers of rules -/

/-- A check is read where its parameter is of the shape that its keyword asks for. -/
theorem succeeds_readCheck_iff {name : String} {shape : Shape} {param : Value}
    (h : (name, shape) ∈ shapes) (hname : name ≠ "$default") :
    Succeeds (readCheck build name param) ↔ shape.Fits build PassesAsUnit param := by
  simp only [shapes, List.mem_cons, List.not_mem_nil, or_false, Prod.mk.injEq] at h
  rcases h with ⟨rfl, rfl⟩ | ⟨rfl, rfl⟩ | ⟨rfl, rfl⟩ | ⟨rfl, rfl⟩ | ⟨rfl, rfl⟩ | ⟨rfl, rfl⟩ |
    ⟨rfl, rfl⟩ | ⟨rfl, rfl⟩ | ⟨rfl, rfl⟩ | ⟨rfl, rfl⟩ | ⟨rfl, rfl⟩ | ⟨rfl, rfl⟩ | ⟨rfl, rfl⟩ |
    ⟨rfl, rfl⟩ | ⟨rfl, rfl⟩ | ⟨rfl, rfl⟩ | ⟨rfl, rfl⟩ | ⟨rfl, rfl⟩ | ⟨rfl, rfl⟩
  · exact absurd rfl hname
  iterate 4 exact succeeds_map_iff.trans succeeds_readNumber_iff
  · exact succeeds_readRange_iff
  · exact succeeds_readDivisor_iff
  · exact succeeds_readBase_iff
  · exact succeeds_readAngle_iff
  iterate 3 exact succeeds_map_iff.trans succeeds_readLength_iff
  iterate 3 exact succeeds_map_iff.trans succeeds_readString_iff
  · exact succeeds_map_iff.trans succeeds_readStringOrStrings_iff
  · exact succeeds_readPattern_iff
  · exact succeeds_map_iff.trans succeeds_readArray_iff
  · exact ⟨fun _ => trivial, fun _ => succeeds_ok _⟩

/-- No other keywords are read as checks. -/
theorem mem_shapes_of_readCheck {name : String} {param : Value}
    (h : Succeeds (readCheck build name param)) : ∃ shape, (name, shape) ∈ shapes := by
  have hname : name ∈ shapes.map Prod.fst := by
    unfold readCheck at h
    split at h
    case h_19 => exact absurd h (not_succeeds_error _)
    case h_20 => exact absurd h (not_succeeds_error _)
    all_goals decide
  obtain ⟨⟨_, shape⟩, hmem, rfl⟩ := List.mem_map.mp hname
  exact ⟨shape, hmem⟩

theorem flagNames_eq : flagNames = "$required" :: "$trim" :: Trait.all.map Trait.name := by
  decide

/-- A keyword is that of a trait if it is the name of one. -/
theorem isSome_ofName?_iff {name : String} :
    (Trait.ofName? name).isSome = true ↔ name ∈ Trait.all.map Trait.name := by
  rw [Trait.ofName?, List.find?_isSome, List.mem_map]
  constructor
  · rintro ⟨t, ht, hname⟩
    exact ⟨t, ht, of_decide_eq_true hname⟩
  · rintro ⟨t, ht, hname⟩
    exact ⟨t, ht, decide_eq_true hname⟩

theorem isSome_flag?_iff {name : String} :
    (flag? name).isSome = true ↔ name ∈ flagNames := by
  rw [flagNames_eq, List.mem_cons, List.mem_cons, ← isSome_ofName?_iff, flag?]
  by_cases hrequired : name = "$required"
  · rw [if_pos hrequired]
    exact ⟨fun _ => .inl hrequired, fun _ => rfl⟩
  · rw [if_neg hrequired]
    by_cases htrim : name = "$trim"
    · rw [if_pos htrim]
      exact ⟨fun _ => .inr (.inl htrim), fun _ => rfl⟩
    · rw [if_neg htrim, Option.isSome_map]
      exact ⟨fun h => .inr (.inr h),
        fun h => (h.resolve_left hrequired).resolve_left htrim⟩

theorem succeeds_readFlag_iff {rule : Rule} {param : Value} (unit : Option Value → Prop) :
    Succeeds (readFlag rule param) ↔ Shape.flag.Fits build unit param := by
  cases param with
  | bool b =>
    refine ⟨fun _ => ⟨b, rfl⟩, fun _ => ?_⟩
    cases b <;> exact succeeds_ok _
  | null | num | str | arr | obj =>
    refine iff_of_false (not_succeeds_error _) ?_
    rintro ⟨b, hb⟩
    nomatch hb

theorem succeeds_readLeaf_iff {name : String} {param : Value} :
    Succeeds (readLeaf build name param) ↔
      ∃ shape, Asks name shape ∧ shape.Fits build PassesAsUnit param := by
  unfold readLeaf
  have hflag : (flag? name).isSome = true ↔ name ∈ flagNames := isSome_flag?_iff
  cases hrule : flag? name with
  | some rule =>
    have hname : name ∈ flagNames := hflag.mp (by rw [hrule]; rfl)
    rw [succeeds_readFlag_iff PassesAsUnit]
    constructor
    · exact fun h => ⟨.flag, .flag hname, h⟩
    · rintro ⟨shape, hasks, hfits⟩
      rwa [hasks.unique (.flag hname)] at hfits
  | none =>
    have hname : name ∉ flagNames := fun h => by
      rw [hrule] at hflag
      nomatch hflag.mpr h
    by_cases hfallback : name = "$default"
    · subst hfallback
      exact ⟨fun _ => ⟨.anything, .other List.mem_cons_self, trivial⟩, fun _ => succeeds_ok _⟩
    · simp only [if_neg hfallback]
      rw [succeeds_map_iff]
      constructor
      · intro h
        obtain ⟨shape, hmem⟩ := mem_shapes_of_readCheck h
        exact ⟨shape, .other hmem, (succeeds_readCheck_iff hmem hfallback).mp h⟩
      · rintro ⟨shape, hasks, hfits⟩
        cases hasks with
        | flag h => exact absurd h hname
        | other hmem => exact (succeeds_readCheck_iff hmem hfallback).mpr hfits

/-! ## Rules inside rules -/

theorem succeeds_named_iff {α : Type} {name : String} {step : Except Fault α} :
    Succeeds (named name step) ↔ Succeeds step := by
  cases step with
  | ok a => exact ⟨fun _ => succeeds_ok a, fun _ => succeeds_ok a⟩
  | error fault =>
    exact iff_of_false (not_succeeds_error _) (not_succeeds_error _)

theorem succeeds_ofMember_leaf_iff {name : String} {param : Value} (hor : name ≠ "$logicalOr")
    (hnot : name ≠ "$logicalNot") :
    Succeeds (ofMember build name param) ↔ IsRule build PassesAsUnit name param := by
  rw [ofMember.eq_def, if_neg hor, if_neg hnot, succeeds_named_iff, succeeds_readLeaf_iff,
    isRule_leaf_iff hor hnot]

theorem succeeds_ofMembers_iff {members : List (String × Value)}
    (h : ∀ m ∈ members, (Succeeds (ofMember build m.1 m.2) ↔ IsRule build PassesAsUnit m.1 m.2))
    (rules : FieldRules) :
    Succeeds (ofMembers build rules members) ↔
      ∀ m ∈ members, IsRule build PassesAsUnit m.1 m.2 := by
  induction members generalizing rules with
  | nil => exact ⟨fun _ => nofun, fun _ => succeeds_ok rules⟩
  | cons m rest ih =>
    obtain ⟨name, param⟩ := m
    have hrest := ih fun m hm => h m (List.mem_cons_of_mem _ hm)
    rw [List.forall_mem_cons, ← h _ List.mem_cons_self, ofMembers, succeeds_bind_iff]
    constructor
    · rintro ⟨rule, hrule, hnext⟩
      refine ⟨⟨rule, hrule⟩, ?_⟩
      cases rule with
      | some rule => exact (hrest _).mp hnext
      | none => exact (hrest _).mp hnext
    · rintro ⟨⟨rule, hrule⟩, hall⟩
      refine ⟨rule, hrule, ?_⟩
      cases rule with
      | some rule => exact (hrest _).mpr hall
      | none => exact (hrest _).mpr hall

theorem succeeds_ofBranches_iff {items : List Value}
    (h : ∀ item ∈ items,
      (Succeeds (FieldRules.ofJsonWith build item) ↔ IsRuleObject build PassesAsUnit item)) :
    Succeeds (ofBranches build items) ↔ ∀ item ∈ items, IsRuleObject build PassesAsUnit item := by
  induction items with
  | nil => exact ⟨fun _ => nofun, fun _ => succeeds_ok []⟩
  | cons item rest ih =>
    have hrest := ih fun item hitem => h item (List.mem_cons_of_mem _ hitem)
    rw [List.forall_mem_cons, ← h _ List.mem_cons_self]
    cases item with
    | obj members =>
      rw [ofBranches, succeeds_bind_iff]
      constructor
      · rintro ⟨branch, hbranch, hnext⟩
        obtain ⟨branches, hbranches, -⟩ := succeeds_bind_iff.mp hnext
        exact ⟨⟨branch, hbranch⟩, hrest.mp ⟨branches, hbranches⟩⟩
      · rintro ⟨⟨branch, hbranch⟩, hall⟩
        obtain ⟨branches, hbranches⟩ := hrest.mpr hall
        exact ⟨branch, hbranch, succeeds_bind_iff.mpr ⟨branches, hbranches, succeeds_ok _⟩⟩
    | null | bool | num | str | arr =>
      exact iff_of_false (not_succeeds_error _) fun h => not_succeeds_error _ h.1

/-- Every branch makes one list of rules. -/
theorem length_of_ofBranches {items : List Value} {branches : List FieldRules}
    (h : ofBranches build items = .ok branches) : branches.length = items.length := by
  induction items generalizing branches with
  | nil =>
    rw [← Except.ok.inj h]
    rfl
  | cons item rest ih =>
    cases item with
    | obj members =>
      rw [ofBranches] at h
      obtain ⟨branch, -, h⟩ := bind_eq_ok_iff.mp h
      obtain ⟨others, hothers, h⟩ := bind_eq_ok_iff.mp h
      rw [← Except.ok.inj h, List.length_cons, List.length_cons, ih hothers]
    | null | bool | num | str | arr => nomatch h

theorem succeeds_ofMember_anyOf_iff {items : List Value} :
    Succeeds (ofMember build "$logicalOr" (.arr items)) ↔
      items ≠ [] ∧ Succeeds (ofBranches build items) := by
  rw [ofMember.eq_def, if_pos rfl]
  simp only
  rw [succeeds_bind_iff]
  constructor
  · rintro ⟨branches, hbranches, h⟩
    refine ⟨?_, branches, hbranches⟩
    rintro rfl
    rw [List.length_eq_zero_iff.mp (length_of_ofBranches hbranches)] at h
    exact not_succeeds_error _ h
  · rintro ⟨hne, branches, hbranches⟩
    refine ⟨branches, hbranches, ?_⟩
    cases branches with
    | nil => exact absurd (List.length_eq_zero_iff.mp (length_of_ofBranches hbranches).symm) hne
    | cons branch rest => exact succeeds_ok _

theorem succeeds_ofMember_noneOf_iff {inner : Value} :
    Succeeds (ofMember build "$logicalNot" inner) ↔
      Succeeds (FieldRules.ofJsonWith build inner) := by
  rw [ofMember.eq_def, if_neg (by decide), if_pos rfl]
  cases inner with
  | obj members => exact succeeds_map_iff
  | null | bool | num | str | arr =>
    exact iff_of_false (not_succeeds_error _) (not_succeeds_error _)

/-- A member is read where it is a rule, if that holds of what its parameter holds. -/
theorem succeeds_ofMember_iff {name : String} {param : Value}
    (hobject : Succeeds (FieldRules.ofJsonWith build param) ↔
      IsRuleObject build PassesAsUnit param)
    (hitems : ∀ items, param = .arr items → ∀ item ∈ items,
      (Succeeds (FieldRules.ofJsonWith build item) ↔ IsRuleObject build PassesAsUnit item)) :
    Succeeds (ofMember build name param) ↔ IsRule build PassesAsUnit name param := by
  by_cases hor : name = "$logicalOr"
  · subst hor
    cases param with
    | arr items =>
      rw [succeeds_ofMember_anyOf_iff, succeeds_ofBranches_iff (hitems items rfl),
        isRule_anyOf_arr_iff]
    | null | bool | num | str | obj =>
      rw [ofMember.eq_def, if_pos rfl, isRule_anyOf_iff]
      refine iff_of_false (not_succeeds_error _) ?_
      rintro ⟨items, heq, -⟩
      nomatch heq
  · by_cases hnot : name = "$logicalNot"
    · subst hnot
      rw [succeeds_ofMember_noneOf_iff, isRule_noneOf_iff, hobject]
    · exact succeeds_ofMember_leaf_iff hor hnot

/-- The rules of a field are read where they are rules of the grammar. -/
theorem succeeds_fieldRules_iff (v : Value) :
    Succeeds (FieldRules.ofJsonWith build v) ↔ IsRuleObject build PassesAsUnit v := by
  refine (grammar_induction
    (fun v => Succeeds (FieldRules.ofJsonWith build v) ↔ IsRuleObject build PassesAsUnit v)
    (fun name v => Succeeds (ofMember build name v) ↔ IsRule build PassesAsUnit name v)
    ?other ?obj ?param v).1
  case other =>
    intro v hv
    refine ⟨fun h => ?_, fun h => absurd h (not_isRuleObject hv)⟩
    cases v with
    | obj members => exact absurd rfl (hv members)
    | null | bool | num | str | arr => exact absurd h (not_succeeds_error _)
  case obj =>
    intro members hmembers
    rw [isRuleObject_obj_iff]
    exact succeeds_ofMembers_iff hmembers []
  case param => exact fun name v hobject hitems => succeeds_ofMember_iff hobject hitems

end Rule

/-! ## Rules of all fields -/

namespace RuleSet

open Rule (IsRuleObject IsRuleSet IsWord NamesUnit PassesAsUnit)

variable {build : String → Option Pattern}

theorem succeeds_ofMembers_iff {fields : List (String × Value)} (set : RuleSet) :
    Succeeds (ofMembers build set fields) ↔
      ∀ field ∈ fields, IsRuleObject build PassesAsUnit field.2 := by
  induction fields generalizing set with
  | nil => exact ⟨fun _ => nofun, fun _ => succeeds_ok set⟩
  | cons field rest ih =>
    obtain ⟨name, rules⟩ := field
    rw [List.forall_mem_cons, ← Rule.succeeds_fieldRules_iff rules, ofMembers]
    cases hrules : FieldRules.ofJsonWith build rules with
    | ok rules =>
      rw [ih]
      exact ⟨fun h => ⟨succeeds_ok rules, h⟩, And.right⟩
    | error defect =>
      exact iff_of_false (not_succeeds_error _) fun h => not_succeeds_error _ h.1

theorem succeeds_ofJson_iff (v : Value) :
    Succeeds (ofJsonWith build v) ↔ IsRuleSet build PassesAsUnit v := by
  cases v with
  | obj fields =>
    rw [ofJsonWith, succeeds_ofMembers_iff, Rule.isRuleSet_obj_iff]
  | null | bool | num | str | arr =>
    exact iff_of_false (not_succeeds_error _) (Rule.not_isRuleSet nofun)

/-- Rules that are refused are refused as rules of a field, with a keyword and a cause. -/
theorem ofMembers_error {set : RuleSet} {fields : List (String × Value)} {e : UpdateError}
    (h : ofMembers build set fields = .error e) :
    ∃ field rule fault, e = .invalidRule field rule fault := by
  induction fields generalizing set with
  | nil => nomatch h
  | cons field rest ih =>
    obtain ⟨name, rules⟩ := field
    rw [ofMembers] at h
    split at h
    · exact ih h
    · exact ⟨_, _, _, (Except.error.inj h).symm⟩

theorem ofJson_error {v : Value} {e : UpdateError} (h : ofJsonWith build v = .error e) :
    ∃ field rule fault, e = .invalidRule field rule fault := by
  cases v with
  | obj fields => exact ofMembers_error h
  | null | bool | num | str | arr => exact ⟨_, _, _, (Except.error.inj h).symm⟩

/-- With any engine for patterns, the reader accepts the rules of the grammar in which a unit that
is no string passes, and refuses all else as rules of a field.  The rules of the grammar in which a
unit names degrees or radians are those that it accepts and whose units are strings. -/
theorem ofJson_grammar (build : String → Option Pattern) (v : Value) :
    ((∃ set, ofJsonWith build v = .ok set) ↔ IsRuleSet build PassesAsUnit v) ∧
      (IsRuleSet build NamesUnit v ↔
        (∃ set, ofJsonWith build v = .ok set) ∧ IsRuleSet build IsWord v) ∧
      ∀ e, ofJsonWith build v = .error e →
        ∃ field rule fault, e = .invalidRule field rule fault := by
  have haccepts : (∃ set, ofJsonWith build v = .ok set) ↔ IsRuleSet build PassesAsUnit v :=
    succeeds_ofJson_iff v
  refine ⟨haccepts, ?_, fun e => ofJson_error⟩
  rw [haccepts]
  exact Rule.isRuleSet_and_iff fun u => Rule.namesUnit_iff

/-- Rules for an angle whose unit is a number. -/
def numericUnit : Value := .obj [("a", .obj [("$angle", .obj [("$unit", .int 5)])])]

/-- A number passes as the unit of an angle, though it names none. -/
theorem ofJson_numericUnit :
    (∃ set, ofJson numericUnit = .ok set) ∧ ¬IsRuleSet Pattern.ofText? NamesUnit numericUnit := by
  have hangle : Rule.Asks "$angle" .angle := .other (by decide)
  constructor
  · refine (succeeds_ofJson_iff numericUnit).mpr ⟨_, rfl, ?_⟩
    refine List.forall_mem_singleton.mpr (.intro (List.forall_mem_singleton.mpr ?_))
    exact .leaf hangle ⟨_, rfl, nofun, trivial⟩
  · rintro ⟨fields, hfields, h⟩
    cases Value.obj.inj hfields
    have hrule := Rule.isRuleObject_obj_iff.mp (h _ List.mem_cons_self) _ List.mem_cons_self
    obtain ⟨shape, hasks, hfits⟩ := (Rule.isRule_leaf_iff (by decide) (by decide)).mp hrule
    rw [hasks.unique hangle] at hfits
    obtain ⟨members, heq, hunit, -⟩ := hfits
    cases Value.obj.inj heq
    rcases hunit with hunit | hunit | hunit
    · nomatch hunit
    · nomatch hunit
    · nomatch hunit

end RuleSet
end Amend
