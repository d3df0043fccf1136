/-
Objects whose values are texts, written without blanks.  Such an object is read as its members, so
no text is the text of two of them.
-/
import Amend.Proofs.Json.Literal
import Mathlib.Data.List.TakeWhile
import Mathlib.Logic.Function.Basic

namespace Amend
namespace Json

/-- The text of a member whose value is a text. -/
inductive SpellsMember : List Char → String × String → Prop
  | mk {name value : List Char} {m : String × String} (hname : Spells name m.1.toList)
    (hvalue : Spells value m.2.toList) :
    SpellsMember ('"' :: (name ++ '"' :: ':' :: '"' :: (value ++ ['"']))) m

/-- What stands after the opening brace of an object with members. -/
inductive SpellsMembers : List Char → List (String × String) → Prop
  | last {text : List Char} {m : String × String} (h : SpellsMember text m) :
    SpellsMembers (text ++ ['\x7d']) [m]
  | more {text texts : List Char} {m : String × String} {members : List (String × String)}
    (h : SpellsMember text m) (hmore : SpellsMembers texts members) :
    SpellsMembers (text ++ ',' :: texts) (m :: members)

/-- The text of an object whose values are texts, without blanks. -/
inductive SpellsObject : List Char → List (String × String) → Prop
  | empty : SpellsObject ['\x7b', '\x7d'] []
  | members {texts : List Char} {members : List (String × String)}
    (h : SpellsMembers texts members) : SpellsObject ('\x7b' :: texts) members

/-- A text as the value of a member. -/
def textMember (m : String × String) : String × Value := (m.1, .str m.2)

theorem textMember_injective : Function.Injective textMember := by
  intro m m' h
  simp only [textMember, Prod.mk.injEq, Value.str.injEq] at h
  exact Prod.ext h.1 h.2

theorem skipBlank_cons (c : Char) (cs : List Char) (hc : isBlank c = false) :
    skipBlank (c :: cs) = c :: cs := by
  simp [skipBlank, hc]

variable {body text texts : List Char} {m : String × String} {members : List (String × String)}
  {form : String → Bool}

theorem readValue_of_spells (h : Spells body text) (fuel depth : Nat) (rest : List Char) :
    readValue false (fuel + 1) depth ('"' :: (body ++ '"' :: rest)) =
      some (.str (String.ofList text), rest) := by
  rw [readValue, skipBlank_cons '"' _ rfl]
  simp [readString_of_spells h]

/-- Reading a member leaves the comma or the brace after it to be looked at. -/
theorem readMoreMembers_of_spells (hform : ∀ name, form name = false) (h : SpellsMember text m)
    (fuel depth : Nat) (acc : List (String × Value)) (rest : List Char) :
    readMoreMembers form (fuel + 2) depth acc (text ++ rest) =
      match skipBlank rest with
      | ',' :: rest => readMoreMembers form (fuel + 1) depth (textMember m :: acc) rest
      | '\x7d' :: rest => some ((textMember m :: acc).reverse, rest)
      | _ => none := by
  obtain ⟨hname, hvalue⟩ := h
  rename_i name value
  have htext : ('"' :: (name ++ '"' :: ':' :: '"' :: (value ++ ['"']))) ++ rest =
      '"' :: (name ++ '"' :: ':' :: '"' :: (value ++ '"' :: rest)) := by simp
  rw [htext, readMoreMembers, skipBlank_cons '"' _ rfl]
  simp only [readString_of_spells hname, skipBlank_cons ':' _ rfl, hform,
    readValue_of_spells hvalue, List.reverse_nil, List.nil_append, String.ofList_toList]
  rfl

theorem readMoreMembers_of_spellsMembers (hform : ∀ name, form name = false)
    (h : SpellsMembers texts members) (depth : Nat) (rest : List Char) {fuel : Nat}
    (hfuel : members.length < fuel) (acc : List (String × Value)) :
    readMoreMembers form fuel depth acc (texts ++ rest) =
      some (acc.reverse ++ members.map textMember, rest) := by
  -- A member takes one step, and one more is left for its value.
  induction h generalizing fuel acc with
  | last h =>
    obtain ⟨fuel, rfl⟩ : ∃ k, fuel = k + 2 := ⟨fuel - 2, by grind⟩
    rw [List.append_assoc, readMoreMembers_of_spells hform h]
    simp [skipBlank, isBlank]
  | @more _ texts m members h hmore ih =>
    obtain ⟨fuel, rfl⟩ : ∃ k, fuel = k + 2 := ⟨fuel - 2, by grind⟩
    have hlength : members.length < fuel + 1 := by simpa using hfuel
    rw [List.append_assoc, readMoreMembers_of_spells hform h]
    show readMoreMembers form (fuel + 1) depth (textMember m :: acc) (texts ++ rest) = _
    rw [ih hlength]
    simp

theorem SpellsMembers.head? (h : SpellsMembers texts members) : texts.head? = some '"' := by
  cases h with
  | last h =>
    cases h
    rfl
  | more h _ =>
    cases h
    rfl

theorem SpellsMember.length_pos (h : SpellsMember text m) : 0 < text.length := by
  cases h
  exact Nat.succ_pos _

theorem SpellsMembers.length_lt (h : SpellsMembers texts members) :
    members.length < texts.length := by
  induction h with
  | last h =>
    simp only [List.length_append, List.length_singleton]
    have hpos := h.length_pos
    omega
  | more h _ ih =>
    simp only [List.length_append, List.length_cons]
    omega

theorem readMembers_of_spells (hform : ∀ name, form name = false)
    (h : SpellsMembers texts members) (depth : Nat) (rest : List Char) {fuel : Nat}
    (hfuel : members.length < fuel) :
    readMembers form (fuel + 1) depth (texts ++ rest) = some (members.map textMember, rest) := by
  have hread := readMoreMembers_of_spellsMembers hform h depth rest hfuel []
  obtain ⟨texts, rfl⟩ := List.head?_eq_some_iff.mp h.head?
  exact hread

/-- An object is read as its members, with blanks after it or without. -/
theorem parseMembers?_of_spells {object blanks : List Char} (hform : ∀ name, form name = false)
    (h : SpellsObject object members) (hblanks : ∀ c ∈ blanks, isBlank c = true) :
    parseMembers? form (String.ofList (object ++ blanks)) = some (members.map textMember) := by
  have hend : skipBlank blanks = [] := List.dropWhile_eq_nil_iff.mpr hblanks
  cases h with
  | empty =>
    have hread : readMembers form (stepsFor ('\x7b' :: '\x7d' :: blanks)) (maxNesting - 1)
        ('\x7d' :: blanks) = some ([], blanks) := rfl
    simp only [parseMembers?, String.toList_ofList, List.cons_append, List.nil_append,
      skipBlank_cons '\x7b' _ rfl, hread, hend]
    rfl
  | @members texts _ h =>
    have hlength := h.length_lt
    have hsteps : members.length < 3 * (texts.length + blanks.length) + 5 := by omega
    have hread := readMembers_of_spells hform h (maxNesting - 1) blanks hsteps
    have hfuel : stepsFor ('\x7b' :: (texts ++ blanks)) =
        3 * (texts.length + blanks.length) + 5 + 1 := by
      simp [stepsFor]
      omega
    simp only [parseMembers?, String.toList_ofList, List.cons_append,
      skipBlank_cons '\x7b' _ rfl, hfuel, hread, hend]
    rfl

theorem SpellsObject.unique {object : List Char} {members' : List (String × String)}
    (h : SpellsObject object members) (h' : SpellsObject object members') : members = members' := by
  have hform : ∀ name : String, (fun _ => false) name = false := fun _ => rfl
  have hblanks : ∀ c ∈ ([] : List Char), isBlank c = true := by simp
  have hread := parseMembers?_of_spells hform h hblanks
  rw [parseMembers?_of_spells hform h' hblanks] at hread
  exact textMember_injective.list_map (Option.some.inj hread).symm

end Json
end Amend
