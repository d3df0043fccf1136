/-
What is read from JSON text is well-formed: of members with one name in one object, at any depth,
the reader keeps one.
-/
import Amend.Json.Reader
import Amend.Proofs.Json.WellFormed

namespace Amend

theorem Value.WellFormed.ofList {members : List (String × Value)}
    (h : ∀ m ∈ members, m.2.WellFormed) : (Value.obj (Members.ofList members)).WellFormed :=
  List.foldlRecOn (motive := fun made => (Value.obj made).WellFormed) members _
    (.obj .nil fun _ hm => absurd hm List.not_mem_nil)
    fun _ hmade m hm => hmade.set m.1 (h m hm)

namespace Json

/-- Everything that is read within some steps is well-formed.  A list under construction comes
from the items or members read before. -/
structure ReadsWellFormed (fuel : Nat) : Prop where
  value : ∀ {form depth cs v rest}, readValue form fuel depth cs = some (v, rest) → v.WellFormed
  items : ∀ {form depth acc cs items rest}, (∀ item ∈ acc, item.WellFormed) →
    readItems form fuel depth acc cs = some (items, rest) → ∀ item ∈ items, item.WellFormed
  members : ∀ {form depth cs members rest},
    readMembers form fuel depth cs = some (members, rest) → ∀ m ∈ members, m.2.WellFormed
  moreMembers : ∀ {form depth acc cs members rest}, (∀ m ∈ acc, m.2.WellFormed) →
    readMoreMembers form fuel depth acc cs = some (members, rest) → ∀ m ∈ members, m.2.WellFormed

variable {fuel depth : Nat} {form : Bool} {formOf : String → Bool} {cs rest : List Char}

theorem ReadsWellFormed.value_succ {v : Value} (h : ReadsWellFormed fuel)
    (hread : readValue form (fuel + 1) depth cs = some (v, rest)) : v.WellFormed := by
  rw [readValue] at hread
  split at hread
  · cases hread
    exact .null
  · cases hread
    exact .bool true
  · cases hread
    exact .bool false
  · obtain ⟨_, -, hread⟩ := Option.map_eq_some_iff.mp hread
    cases hread
    exact .str _
  · split at hread
    · nomatch hread
    · split at hread
      · cases hread
        exact .arr fun _ hitem => absurd hitem List.not_mem_nil
      · obtain ⟨_, hitems, hread⟩ := Option.map_eq_some_iff.mp hread
        cases hread
        exact .arr (h.items (fun _ hitem => absurd hitem List.not_mem_nil) hitems)
  · split at hread
    · nomatch hread
    · obtain ⟨_, hmembers, hread⟩ := Option.map_eq_some_iff.mp hread
      cases hread
      exact .ofList (h.members hmembers)
  · obtain ⟨⟨literal, left⟩, -, hread⟩ := Option.bind_eq_some_iff.mp hread
    cases form with
    | true =>
      cases hread
      exact .null
    | false =>
      obtain ⟨n, -, hread⟩ := Option.map_eq_some_iff.mp hread
      cases hread
      exact .num n

theorem ReadsWellFormed.items_succ {acc items : List Value} (h : ReadsWellFormed fuel)
    (hacc : ∀ item ∈ acc, item.WellFormed)
    (hread : readItems form (fuel + 1) depth acc cs = some (items, rest)) :
    ∀ item ∈ items, item.WellFormed := by
  rw [readItems] at hread
  split at hread
  · nomatch hread
  · next hvalue =>
    have hacc := List.forall_mem_cons.mpr ⟨h.value hvalue, hacc⟩
    split at hread
    · exact h.items hacc hread
    · cases hread
      exact fun item hitem => hacc item (List.mem_reverse.mp hitem)
    · nomatch hread

theorem ReadsWellFormed.moreMembers_succ {acc members : List (String × Value)}
    (h : ReadsWellFormed fuel) (hacc : ∀ m ∈ acc, m.2.WellFormed)
    (hread : readMoreMembers formOf (fuel + 1) depth acc cs = some (members, rest)) :
    ∀ m ∈ members, m.2.WellFormed := by
  rw [readMoreMembers] at hread
  split at hread
  · split at hread
    · nomatch hread
    · next key _ _ =>
      split at hread
      · split at hread
        · nomatch hread
        · next v _ hvalue =>
          have hacc : ∀ m ∈ (String.ofList key, v) :: acc, m.2.WellFormed :=
            List.forall_mem_cons.mpr ⟨h.value hvalue, hacc⟩
          split at hread
          · exact h.moreMembers hacc hread
          · cases hread
            exact fun m hm => hacc m (List.mem_reverse.mp hm)
          · nomatch hread
      · nomatch hread
  · nomatch hread

theorem readsWellFormed (fuel : Nat) : ReadsWellFormed fuel := by
  induction fuel with
  | zero =>
    constructor
    · exact fun h => nomatch h
    · exact fun _ h => nomatch h
    · exact fun h => nomatch h
    · exact fun _ h => nomatch h
  | succ fuel ih =>
    constructor
    · exact ih.value_succ
    · exact ih.items_succ
    · intro form depth cs members rest hread
      rw [readMembers] at hread
      split at hread
      · cases hread
        exact fun _ hm => absurd hm List.not_mem_nil
      · exact ih.moreMembers (fun _ hm => absurd hm List.not_mem_nil) hread
    · exact ih.moreMembers_succ

theorem wellFormed_of_parse? {text : String} {v : Value} (h : parse? text = some v) :
    v.WellFormed := by
  simp only [parse?] at h
  split at h
  · next hread =>
    split at h
    · cases h
      exact (readsWellFormed _).value hread
    · nomatch h
  · nomatch h

end Json
end Amend
