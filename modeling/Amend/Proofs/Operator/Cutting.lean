/-
Cutting a sequence.  `$slice` cuts the characters of a text and `$sliceArray` the items of an array
in one way: what is left are the items at the indices from the first bound on and before the second.
`$substr` cuts at a first bound alone.  Bounds are read as doubles, so two that are in the wrong
order are refused unless they are read as one integer.
-/
import Amend.Proofs.Json.Truncation
import Amend.Proofs.Operator.Settled

namespace Amend
namespace Operator

namespace Slice

variable {α β : Type} {members : Members Value} {first last : Option Int}

/-- The number that a member gives as a bound: none where it is missing or null. -/
inductive Gives (members : Members Value) (name : String) : Option Number → Prop where
  | missing (h : members.get? name = none) : Gives members name none
  | null (h : members.get? name = some .null) : Gives members name none
  | number {a : Number} (h : members.get? name = some (.num a)) : Gives members name (some a)

theorem Gives.bound_eq {name : String} {given : Option Number} (h : Gives members name given) :
    bound members name = .ok (given.map Number.asInt64) := by
  unfold bound
  cases h with
  | missing h => rw [h]; rfl
  | null h => rw [h]; rfl
  | number h => rw [h]; rfl

/-- Both bounds are given, and the first is beyond the second. -/
def Crossed (first last : Option Int) : Prop := ∃ b e, first = some b ∧ last = some e ∧ e < b

theorem crossed_some_iff {b e : Int} : Crossed (some b) (some e) ↔ e < b := by
  constructor
  · rintro ⟨_, _, hb, he, hlt⟩
    rwa [Option.some.inj hb, Option.some.inj he]
  · exact fun hlt => ⟨b, e, rfl, rfl, hlt⟩

/-- Whether an index is one from the first bound on and before the second. -/
def covers (first last : Option Int) (i : Int) : Bool :=
  first.all (fun b => decide (b ≤ i)) && last.all (fun e => decide (i < e))

/-- The items at the indices from the first bound on and before the second. -/
def within (first last : Option Int) (items : List α) : List α :=
  (items.zipIdx.filter fun place => covers first last place.2).map Prod.fst

/-! ## The range -/

theorem range_of_crossed (hfirst : bound members "$begin" = .ok first)
    (hlast : bound members "$end" = .ok last) {b e : Int} (hb : first = some b)
    (he : last = some e) (h : e < b) (length : Nat) :
    range (.obj members) length = .error (.crossedBounds b e) := by
  subst hb he
  simp only [range, hfirst, hlast, bind, Except.bind, h, if_true]

theorem range_of_not_crossed (hfirst : bound members "$begin" = .ok first)
    (hlast : bound members "$end" = .ok last) (h : ¬ Crossed first last) (length : Nat) :
    range (.obj members) length = .ok (range.between length first last) := by
  simp only [range, hfirst, hlast, bind, Except.bind]
  cases first with
  | none => rfl
  | some b =>
    cases last with
    | none => rfl
    | some e => exact if_neg (mt crossed_some_iff.mpr h)

/-- The clamps stay between zero and the length, and the second does not pass the first. -/
theorem between_spec (length : Nat) (first last : Option Int) :
    let range := range.between length first last
    (range.1 : Int) = clamp 0 length (first.getD 0) ∧
      (range.2 : Int) = clamp range.1 length (last.getD length) ∧
      range.1 ≤ range.2 ∧ range.2 ≤ length := by
  intro range
  have hstart : (range.1 : Int) = clamp 0 length (first.getD 0) := by
    refine Int.toNat_of_nonneg ?_
    unfold clamp
    omega
  have hstop : (range.2 : Int) = clamp range.1 length (last.getD length) := by
    rw [hstart]
    refine Int.toNat_of_nonneg ?_
    unfold clamp
    omega
  unfold clamp at hstart hstop
  refine ⟨hstart, hstop, ?_, ?_⟩
  · omega
  · omega

/-! ## The items of a range -/

/-- The indices are counted from any number, so that the induction on the items goes through. -/
theorem drop_take_eq_filter (items : List α) (start stop n : Nat) :
    (items.take stop).drop start = ((items.zipIdx n).filter fun place =>
      decide (n + start ≤ place.2) && decide (place.2 < n + stop)).map Prod.fst := by
  induction items generalizing start stop n with
  | nil => simp
  | cons item rest ih =>
    cases stop with
    | zero =>
      have hnone : ((item :: rest).zipIdx n).filter (fun place =>
          decide (n + start ≤ place.2) && decide (place.2 < n + 0)) = [] := by
        refine List.filter_eq_nil_iff.mpr fun place hplace => ?_
        have hle := List.le_snd_of_mem_zipIdx hplace
        simp only [Bool.and_eq_true, decide_eq_true_eq]
        omega
      rw [hnone, List.take_zero, List.drop_nil, List.map_nil]
    | succ stop =>
      cases start with
      | zero =>
        have hrest := ih 0 stop (n + 1)
        rw [List.drop_zero] at hrest ⊢
        have hcongr : (rest.zipIdx (n + 1)).filter (fun place =>
              decide (n + 1 + 0 ≤ place.2) && decide (place.2 < n + 1 + stop)) =
            (rest.zipIdx (n + 1)).filter fun place =>
              decide (n + 0 ≤ place.2) && decide (place.2 < n + (stop + 1)) := by
          refine List.filter_congr fun place hplace => ?_
          have hle := List.le_snd_of_mem_zipIdx hplace
          rw [← Bool.decide_and, ← Bool.decide_and]
          exact decide_eq_decide.mpr (by omega)
        rw [List.take_succ_cons, hrest, hcongr, List.zipIdx_cons, List.filter_cons, if_pos,
          List.map_cons]
        simp
      | succ start =>
        have hskip : ¬ n + (start + 1) ≤ n := by omega
        rw [List.take_succ_cons, List.drop_succ_cons, ih start stop (n + 1), List.zipIdx_cons,
          List.filter_cons, if_neg (by simp), Nat.add_right_comm n 1 start,
          Nat.add_right_comm n 1 stop]
        rfl

theorem between_iff (h : ¬ Crossed first last) {length i : Nat} (hi : i < length) :
    (range.between length first last).1 ≤ i ∧ i < (range.between length first last).2 ↔
      (∀ b, first = some b → b ≤ i) ∧ (∀ e, last = some e → i < e) := by
  obtain ⟨hstart, hstop, -, -⟩ := between_spec length first last
  unfold clamp at hstart hstop
  generalize range.between length first last = range at *
  cases first <;> cases last <;>
    simp only [Option.getD_none, Option.getD_some, Option.some.injEq, reduceCtorEq,
      false_implies, implies_true, forall_eq', and_true, true_and, iff_true, crossed_some_iff]
      at h hstart hstop ⊢ <;>
    omega

theorem cut_between (h : ¬ Crossed first last) (items : List α) :
    cut items (range.between items.length first last) = within first last items := by
  rw [cut, drop_take_eq_filter _ _ _ 0, within]
  refine congrArg (List.map Prod.fst) (List.filter_congr fun place hplace => ?_)
  have hlt := List.snd_lt_of_mem_zipIdx hplace
  rw [Nat.add_zero] at hlt
  rw [Nat.zero_add, Nat.zero_add, ← Bool.decide_and, Bool.eq_iff_iff, decide_eq_true_iff,
    between_iff h hlt]
  cases first <;> cases last <;> simp [covers]

theorem cut_map (f : α → β) (items : List α) (range : Nat × Nat) :
    cut (items.map f) range = (cut items range).map f := by
  rw [cut, cut, List.map_drop, List.map_take]

/-- What is left of a sequence that is cut. -/
def part (operand : Value) (items : List α) : Except Fault (List α) := do
  .ok (cut items (← range operand items.length))

theorem part_map (f : α → β) (operand : Value) (items : List α) :
    part operand (items.map f) = (part operand items).map (List.map f) := by
  unfold part
  rw [List.length_map]
  cases range operand items.length with
  | error fault => rfl
  | ok range => exact congrArg Except.ok (cut_map f items range)

theorem part_of_not_crossed (hfirst : bound members "$begin" = .ok first)
    (hlast : bound members "$end" = .ok last) (h : ¬ Crossed first last) (items : List α) :
    part (.obj members) items = .ok (within first last items) := by
  rw [part, range_of_not_crossed hfirst hlast h, ← cut_between h]
  rfl

theorem part_of_crossed (hfirst : bound members "$begin" = .ok first)
    (hlast : bound members "$end" = .ok last) (h : Crossed first last) (items : List α) :
    ∃ fault, part (.obj members) items = .error fault := by
  obtain ⟨b, e, hb, he, hlt⟩ := h
  refine ⟨.crossedBounds b e, ?_⟩
  rw [part, range_of_crossed hfirst hlast hb he hlt]
  rfl

/-! ## Bounds as they are read -/

/-- The bounds are in the wrong order and are not read as one integer. -/
def Refused (first last : Option Number) : Prop :=
  Crossed (first.map Number.truncated) (last.map Number.truncated) ∧
    first.map Number.asInt64 ≠ last.map Number.asInt64

section

variable {first last : Option Number}

theorem crossed_asInt64_iff (hfirst : ∀ a, first = some a → a.Ranged)
    (hlast : ∀ a, last = some a → a.Ranged) :
    Crossed (first.map Number.asInt64) (last.map Number.asInt64) ↔ Refused first last := by
  unfold Refused
  cases first with
  | none => simp [Crossed]
  | some a =>
    cases last with
    | none => simp [Crossed]
    | some b =>
      simp only [Option.map_some, crossed_some_iff, ne_eq, Option.some.injEq]
      rw [Number.asInt64_lt_iff (hlast b rfl) (hfirst a rfl), ne_eq, eq_comm]

/-- Below `2 ^ 53` a second bound is not taken for a first one beyond it. -/
theorem refused_iff_of_bits (hfirst : ∀ a, first = some a → a.Ranged) {b : Number}
    (hb : b.Ranged) (h : b.truncated.natAbs < 0x20000000000000) :
    Refused first (some b) ↔ Crossed (first.map Number.truncated) (some b.truncated) := by
  refine ⟨And.left, fun hcrossed => ⟨hcrossed, ?_⟩⟩
  cases first with
  | none => exact Option.some_ne_none _ ∘ Eq.symm
  | some a =>
    have hread : b.truncated + 1 ≤ a.asInt64 :=
      (Number.le_asInt64_iff (hfirst a rfl) (by omega) (by omega)).mpr
        (crossed_some_iff.mp hcrossed)
    rw [Option.map_some, Option.map_some, Number.asInt64_of_bits hb (Nat.le_of_lt h), ne_eq,
      Option.some.injEq]
    omega

/-- Up to `2 ^ 53` items are cut where the bounds stand. -/
theorem within_truncated (hfirst : ∀ a, first = some a → a.Ranged)
    (hlast : ∀ a, last = some a → a.Ranged) {items : List α}
    (hlength : items.length ≤ 0x20000000000000) :
    within (first.map Number.asInt64) (last.map Number.asInt64) items =
      within (first.map Number.truncated) (last.map Number.truncated) items := by
  have hbound : ∀ a : Number, a.Ranged → ∀ i : Nat, i < items.length →
      (a.asInt64 ≤ i ↔ a.truncated ≤ i) := by
    intro a ha i hi
    have hnext := Number.le_asInt64_iff ha (k := i + 1) (by omega) (by omega)
    omega
  refine congrArg (List.map Prod.fst) (List.filter_congr fun place hplace => ?_)
  have hlt := List.snd_lt_of_mem_zipIdx hplace
  rw [Nat.add_zero] at hlt
  refine congrArg₂ and ?_ ?_
  · cases first with
    | none => rfl
    | some a => exact decide_eq_decide.mpr (hbound a (hfirst a rfl) _ hlt)
  · cases last with
    | none => rfl
    | some a =>
      have hiff := hbound a (hlast a rfl) _ hlt
      exact decide_eq_decide.mpr (by omega)

/-- What is left where bounds are read as doubles. -/
theorem part_of_gives {members : Members Value} (hfirst : Gives members "$begin" first)
    (hlast : Gives members "$end" last) (hfirstRanged : ∀ a, first = some a → a.Ranged)
    (hlastRanged : ∀ a, last = some a → a.Ranged) (items : List α) :
    (Refused first last → ∃ fault, part (.obj members) items = .error fault) ∧
    (¬ Refused first last → part (.obj members) items =
      .ok (within (first.map Number.asInt64) (last.map Number.asInt64) items)) := by
  rw [← crossed_asInt64_iff hfirstRanged hlastRanged]
  exact ⟨fun h => part_of_crossed hfirst.bound_eq hlast.bound_eq h items,
    fun h => part_of_not_crossed hfirst.bound_eq hlast.bound_eq h items⟩

end

/-! ## One bound -/

theorem drop_offset (items : List α) (p : Int) :
    items.drop (offset p items.length) =
      cut items (range.between items.length
        (some (if p < 0 then max 0 (items.length + p) else p)) none) := by
  obtain ⟨hstart, hstop, -, -⟩ := between_spec items.length
    (some (if p < 0 then max 0 (items.length + p) else p)) none
  generalize range.between items.length _ none = range at *
  simp only [Option.getD_some, Option.getD_none, clamp] at hstart hstop
  have hwhole : range.2 = items.length := by omega
  have hsame : offset p items.length = range.1 := by
    unfold offset
    by_cases hp : p < 0
    · rw [if_pos hp] at hstart ⊢
      omega
    · rw [if_neg hp] at hstart ⊢
      omega
  rw [cut, hwhole, List.take_length, hsame]

end Slice

/-! ## The operators -/

namespace Text

/-- A whole number as an offset is a bound, counted from the end where it is negative. -/
theorem fromOffset_eq {a m : Number} (ha : a.Ranged) {n : Int} (hn : a.units = n * Binary64.one)
    {text : List Char}
    (hm : m.asInt64 = if n < 0 then max 0 (text.length + a.asInt64) else a.asInt64) :
    fromOffset text (.num a) = Slice.part (.obj [("$begin", .num m)]) text := by
  have hbegin : Slice.Gives [("$begin", .num m)] "$begin" (some m) := .number rfl
  have hend : Slice.Gives [("$begin", .num m)] "$end" none := .missing rfl
  have hnone : ¬ Slice.Crossed ((some m).map Number.asInt64) (none.map Number.asInt64) := by
    rintro ⟨_, _, -, h, -⟩
    nomatch h
  have hoffset : fromOffset text (.num a) =
      .ok (text.drop (Slice.offset a.asInt64 text.length)) :=
    if_pos ((Number.isIntegral_toBinary64 ha).mpr ⟨n, hn⟩)
  rw [Slice.part, Slice.range_of_not_crossed hbegin.bound_eq hend.bound_eq hnone, hoffset,
    Slice.drop_offset, Option.map_some, hm]
  simp only [Number.asInt64_neg_iff ha hn]
  rfl

end Text

namespace Slice

/-- The items of the array of a text's characters. -/
def characters (s : String) : List Value := s.toList.map fun c => .str (String.singleton c)

/-- A text is cut as the array of its characters is. -/
theorem slice_characters (s : String) (operand : Value) :
    ∃ result : Except Fault String,
      Text.slice.transform (some (.str s)) operand = result.map .str ∧
      Array.slice.transform (some (.arr (characters s))) operand =
        result.map fun cut => .arr (characters cut) := by
  refine ⟨(part operand s.toList).map String.ofList, ?_, ?_⟩
  · rw [Text.transform_of_stored rfl]
    show (part operand s.toList).map _ = _
    cases part operand s.toList with
    | error fault => rfl
    | ok cut => rfl
  · rw [Array.transform_of_stored rfl]
    show (part operand (characters s)).map Value.arr = _
    rw [characters, part_map]
    cases part operand s.toList with
    | error fault => rfl
    | ok cut =>
      show Except.ok (Value.arr _) = Except.ok (Value.arr (characters (String.ofList cut)))
      rw [characters, String.toList_ofList]

/-- `$substr` of a whole number cuts like `$slice` with one bound. -/
theorem substr_eq_slice {a m : Number} (ha : a.Ranged) {n : Int}
    (hn : a.units = n * Binary64.one) {stored : Option Value} {text : List Char}
    (hstored : Text.stored? stored = .ok text)
    (hm : m.asInt64 = if n < 0 then max 0 (text.length + a.asInt64) else a.asInt64) :
    Text.substr.transform stored (.num a) =
      Text.slice.transform stored (.obj [("$begin", .num m)]) := by
  rw [Text.transform_of_stored hstored, Text.transform_of_stored hstored]
  exact congrArg _ (Text.fromOffset_eq ha hn hm)

/-- A length below `2 ^ 53` and a negative offset are added exactly. -/
theorem asInt64_from_end {a : Number} (ha : a.Ranged) {n : Int} (hn : a.units = n * Binary64.one)
    (hneg : n < 0) {length : Nat} (hlength : length ≤ 0x20000000000000) :
    (Number.int (max 0 (length + n))).asInt64 = max 0 (length + a.asInt64) := by
  have hsign := Number.asInt64_neg_iff ha hn
  have hclamped := Number.clamped_asInt64 ha hn (-length) 0 (by omega) (by decide)
  rw [Number.asInt64_int (by omega)]
  omega

/-- Where `$begin` and `$end` are missing, null or numbers, a text and an array are cut alike.  The
range is within the sequence.  Bounds in the wrong order are refused, unless they are read as one
integer; otherwise the items at the indices from the first bound on and before the second are left.
Bounds are read as doubles, which nothing shows up to `2 ^ 53` items. -/
theorem transform_cuts {members : Members Value} {first last : Option Number}
    (hfirst : Gives members "$begin" first) (hlast : Gives members "$end" last)
    (hfirstRanged : ∀ a, first = some a → a.Ranged) (hlastRanged : ∀ a, last = some a → a.Ranged) :
    (∀ length, ¬ Refused first last → ∃ start stop,
      range (.obj members) length = .ok (start, stop) ∧ start ≤ stop ∧ stop ≤ length) ∧
    (∀ stored text, Text.stored? stored = .ok text →
      (Refused first last → ∃ fault,
        Text.slice.transform stored (.obj members) = .error fault) ∧
      (¬ Refused first last → Text.slice.transform stored (.obj members) =
        .ok (.str (String.ofList
          (within (first.map Number.asInt64) (last.map Number.asInt64) text))))) ∧
    (∀ stored items, Array.stored? stored = .ok items →
      (Refused first last → ∃ fault,
        Array.slice.transform stored (.obj members) = .error fault) ∧
      (¬ Refused first last → Array.slice.transform stored (.obj members) =
        .ok (.arr (within (first.map Number.asInt64) (last.map Number.asInt64) items)))) ∧
    (∀ b, last = some b → b.truncated.natAbs < 0x20000000000000 →
      (Refused first last ↔
        Crossed (first.map Number.truncated) (last.map Number.truncated))) ∧
    (∀ {α : Type} (items : List α), items.length ≤ 0x20000000000000 →
      within (first.map Number.asInt64) (last.map Number.asInt64) items =
        within (first.map Number.truncated) (last.map Number.truncated) items) ∧
    (∀ (s : String) (operand : Value), ∃ result : Except Fault String,
      Text.slice.transform (some (.str s)) operand = result.map .str ∧
      Array.slice.transform (some (.arr (characters s))) operand =
        result.map fun cut => .arr (characters cut)) ∧
    (∀ (a : Number) (n : Int), a.Ranged → a.units = n * Binary64.one →
      ∀ stored text, Text.stored? stored = .ok text →
        (0 ≤ n → Text.substr.transform stored (.num a) =
          Text.slice.transform stored (.obj [("$begin", .num a)])) ∧
        (n < 0 → ∀ m : Number, m.asInt64 = max 0 (text.length + a.asInt64) →
          Text.substr.transform stored (.num a) =
            Text.slice.transform stored (.obj [("$begin", .num m)])) ∧
        (n < 0 → text.length ≤ 0x20000000000000 → Text.substr.transform stored (.num a) =
          Text.slice.transform stored (.obj [("$begin", .int (max 0 (text.length + n)))]))) := by
  refine ⟨?_, ?_, ?_, ?_, fun items => within_truncated hfirstRanged hlastRanged,
    slice_characters, ?_⟩
  · intro length hr
    obtain ⟨-, -, hle, hlength⟩ :=
      between_spec length (first.map Number.asInt64) (last.map Number.asInt64)
    rw [← crossed_asInt64_iff hfirstRanged hlastRanged] at hr
    exact ⟨_, _, range_of_not_crossed hfirst.bound_eq hlast.bound_eq hr length, hle, hlength⟩
  · intro stored text hstored
    obtain ⟨hrefused, hcut⟩ := part_of_gives hfirst hlast hfirstRanged hlastRanged text
    rw [Text.transform_of_stored hstored]
    refine ⟨fun hr => ?_, fun hr => congrArg _ (hcut hr)⟩
    obtain ⟨fault, hfault⟩ := hrefused hr
    exact ⟨fault, congrArg _ hfault⟩
  · intro stored items hstored
    obtain ⟨hrefused, hcut⟩ := part_of_gives hfirst hlast hfirstRanged hlastRanged items
    rw [Array.transform_of_stored hstored]
    refine ⟨fun hr => ?_, fun hr => congrArg _ (hcut hr)⟩
    obtain ⟨fault, hfault⟩ := hrefused hr
    exact ⟨fault, congrArg _ hfault⟩
  · rintro b rfl hbits
    exact refused_iff_of_bits hfirstRanged (hlastRanged b rfl) hbits
  · intro a n ha hn stored text hstored
    refine ⟨fun hpos => ?_, fun hneg m hm => ?_, fun hneg hlength => ?_⟩
    · exact substr_eq_slice ha hn hstored (if_neg (by omega)).symm
    · exact substr_eq_slice ha hn hstored (hm.trans (if_pos hneg).symm)
    · exact substr_eq_slice ha hn hstored
        ((asInt64_from_end ha hn hneg hlength).trans (if_pos hneg).symm)

def twoAndHalf : Number := .float ⟨false, 0x14000000000000, 1023, by decide⟩

/-- A negative bound and one with a fraction. -/
theorem transform_cuts_fraction :
    let members : Members Value := [("$begin", .int (-4)), ("$end", .num twoAndHalf)]
    Text.slice.transform (some (.str "aßbc")) (.obj members) = .ok (.str "aß") ∧
      Array.slice.transform (some (.arr [.null, .int 7])) (.obj members) =
        .ok (.arr [.null, .int 7]) ∧
      Text.substr.transform (some (.str "aßbc")) (.int (-3)) =
        Text.slice.transform (some (.str "aßbc")) (.obj [("$begin", .int 1)]) := by
  intro members
  have hfour : Number.Ranged (.int (-4)) := Number.ranged_int (by decide)
  have hthree : Number.Ranged (.int (-3)) := Number.ranged_int (by decide)
  have hread : (Number.int (-4)).asInt64 = -4 ∧ twoAndHalf.asInt64 = 2 := by decide +kernel
  have hfirst : Gives members "$begin" (some (.int (-4))) := .number rfl
  have hlast : Gives members "$end" (some twoAndHalf) := .number rfl
  obtain ⟨-, htext, harray, hbits, -, -, hsubstr⟩ := transform_cuts hfirst hlast
    (fun a ha => Option.some.inj ha ▸ hfour)
    (fun a ha => Option.some.inj ha ▸ Number.ranged_float _)
  have hallowed : ¬ Refused (some (.int (-4))) (some twoAndHalf) := by
    rw [hbits twoAndHalf rfl (by decide +kernel), Option.map_some, Option.map_some,
      crossed_some_iff]
    decide +kernel
  have hcut := (htext (some (.str "aßbc")) "aßbc".toList rfl).2 hallowed
  have hall := (harray (some (.arr [.null, .int 7])) [.null, .int 7] rfl).2 hallowed
  rw [Option.map_some, Option.map_some, hread.1, hread.2] at hcut hall
  have htail := hsubstr (.int (-3)) (-3) hthree rfl (some (.str "aßbc")) "aßbc".toList rfl
  exact ⟨hcut, hall, htail.2.2 (by decide) (by decide)⟩

/-- Bounds in the wrong order that are read as one integer are not refused. -/
theorem slice_crossed_accepted :
    let first : Number := .int 9007199254740993
    let last : Number := .int 9007199254740992
    last.truncated < first.truncated ∧
      Text.slice.transform (some (.str "abc"))
        (.obj [("$begin", .num first), ("$end", .num last)]) = .ok (.str "") ∧
      Array.slice.transform (some (.arr [.int 1]))
        (.obj [("$begin", .num first), ("$end", .num last)]) = .ok (.arr []) := by
  intro first last
  have hread : first.asInt64 = 9007199254740992 ∧ last.asInt64 = 9007199254740992 := by
    decide +kernel
  have hbegin : bound [("$begin", .num first), ("$end", .num last)] "$begin" =
      .ok (some 9007199254740992) :=
    (Gives.number rfl).bound_eq.trans (by rw [Option.map_some, hread.1])
  have hend : bound [("$begin", .num first), ("$end", .num last)] "$end" =
      .ok (some 9007199254740992) :=
    (Gives.number rfl).bound_eq.trans (by rw [Option.map_some, hread.2])
  have hallowed : ¬ Crossed (some 9007199254740992) (some 9007199254740992) :=
    mt crossed_some_iff.mp (Int.lt_irrefl _)
  have htext := part_of_not_crossed hbegin hend hallowed "abc".toList
  have harray := part_of_not_crossed hbegin hend hallowed [Value.int 1]
  refine ⟨by decide +kernel, ?_, ?_⟩
  · rw [Text.transform_of_stored rfl]
    exact congrArg _ htext
  · rw [Array.transform_of_stored rfl]
    exact congrArg _ harray

end Slice

end Operator
end Amend
