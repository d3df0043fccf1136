/-
Where the words of a text are divided.  Two neighbouring characters stay in one word if both are
letters or numbers, unless the first is lowercase or a number and the second uppercase.  What the
reader knows is tied to the character it has read last, so that one more character either is no part
of a word, or goes on with the last word, or begins another one.  The number of words begun is then
the place of a character's word, and two characters of a text are in one word exactly if every two
neighbours from the one to the other stay together.
-/
import Amend.Proofs.Operator.Words
import Amend.Proofs.Unicode.Ranges
import Mathlib.Data.List.Chain
import Mathlib.Data.List.Infix

namespace Amend
namespace Words

open Unicode (isAlphanumeric isUpper isLower isNumeric)

/-- Neighbours that stay in one word. -/
def Joined (a b : Char) : Prop :=
  isAlphanumeric a = true ∧ isAlphanumeric b = true ∧
    ¬((isLower a = true ∨ isNumeric a = true) ∧ isUpper b = true)

instance (a b : Char) : Decidable (Joined a b) := by
  unfold Joined
  infer_instance

/-- The character of a text that comes after `before` stands in the `i`-th word: what the words have
before it are the letters and numbers that the text has before it. -/
def Holds (words : List (List Char)) (i : Nat) (before : List Char) (c : Char) : Prop :=
  ∃ front back, words[i]? = some (front ++ c :: back) ∧
    (words.take i).flatten ++ front = before.filter isAlphanumeric

/-- Two characters of a text, with `between` from the one to the other, stand in one word. -/
def SameWord (words : List (List Char)) (before : List Char) (a : Char) (between : List Char)
    (b : Char) : Prop :=
  ∃ i, Holds words i before a ∧ Holds words i (before ++ a :: between) b

/-- The reader's state after its last character: the current word ends in that if it is a letter or
number, and otherwise there is no current word. -/
inductive State : Option Char → Bool → List Char → Prop
  | outside {last : Option Char} {low : Bool} (h : ∀ a ∈ last, isAlphanumeric a = false) :
      State last low []
  | inside {a : Char} (h : isAlphanumeric a = true) (word : List Char) :
      State (some a) (isLower a || isNumeric a) (word ++ [a])

/-- The reader has finished some words of a text and goes on from a state, whatever comes next. -/
structure Reading (text : List Char) (words : List (List Char)) (low : Bool)
    (current : List Char) : Prop where
  state : State text.getLast? low current
  split_append : ∀ rest, split (text ++ rest) = words ++ splitFrom low current rest

variable {text current rest before between after : List Char} {words : List (List Char)}
  {low : Bool} {last : Option Char} {a b c d : Char} {i j : Nat}

/-! ## Reading one more character -/

theorem flush_of_ne_nil (h : current ≠ []) : flush current = [current] :=
  if_neg fun hempty => h (List.isEmpty_iff.mp hempty)

theorem State.exists_word (h : State (some a) low current) (ha : isAlphanumeric a = true) :
    low = (isLower a || isNumeric a) ∧ ∃ word, current = word ++ [a] := by
  cases h with
  | outside h => exact absurd ha (by rw [h a rfl]; exact Bool.false_ne_true)
  | inside _ word => exact ⟨rfl, word, rfl⟩

theorem splitFrom_of_joined (h : State (some a) low current) (hjoined : Joined a c) :
    splitFrom low current (c :: rest) =
      splitFrom (isLower c || isNumeric c) (current ++ [c]) rest := by
  obtain ⟨ha, hc, hstays⟩ := hjoined
  obtain ⟨rfl, -⟩ := h.exists_word ha
  have hgoes : ¬(isUpper c && (isLower a || isNumeric a) && !current.isEmpty) = true := by
    intro h
    simp only [Bool.and_eq_true, Bool.or_eq_true] at h
    exact hstays ⟨h.1.2, h.1.1⟩
  rw [splitFrom, hc, if_neg hgoes]
  rfl

/-- A letter or number that does not go on with the current word begins another one. -/
theorem splitFrom_of_begins (h : State last low current) (hc : isAlphanumeric c = true)
    (hbegins : ∀ a ∈ last, ¬Joined a c) :
    splitFrom low current (c :: rest) =
      flush current ++ splitFrom (isLower c || isNumeric c) [c] rest := by
  cases h with
  | outside h =>
    rw [splitFrom, hc]
    simp only [List.isEmpty_nil, Bool.not_true, Bool.and_false, Bool.false_eq_true, if_false]
    rfl
  | @inside a ha word =>
    have hdivided : (isLower a = true ∨ isNumeric a = true) ∧ isUpper c = true :=
      Decidable.not_not.mp fun hstays => hbegins a rfl ⟨ha, hc, hstays⟩
    have hnew : (isUpper c && (isLower a || isNumeric a) && !(word ++ [a]).isEmpty) = true := by
      simp only [Bool.and_eq_true, Bool.or_eq_true]
      exact ⟨⟨hdivided.2, hdivided.1⟩, by simp⟩
    rw [splitFrom, hc, if_pos hnew, flush_of_ne_nil (List.concat_ne_nil a word)]
    rfl

theorem exists_reading (text : List Char) :
    ∃ words low current, Reading text words low current := by
  induction text using List.reverseRecOn with
  | nil => exact ⟨[], false, [], .outside nofun, fun _ => rfl⟩
  | append_singleton text c ih =>
    obtain ⟨words, low, current, hstate, hsplit⟩ := ih
    have hlast : (text ++ [c]).getLast? = some c := List.getLast?_concat
    have hread : ∀ rest, split (text ++ [c] ++ rest) = words ++ splitFrom low current (c :: rest) :=
      fun rest => by rw [List.append_assoc]; exact hsplit (c :: rest)
    cases hc : isAlphanumeric c with
    | false =>
      have houtside : ∀ a ∈ some c, isAlphanumeric a = false :=
        fun a ha => Option.mem_some.mp ha ▸ hc
      refine ⟨words ++ flush current, false, [], hlast ▸ .outside houtside, fun rest => ?_⟩
      rw [hread, splitFrom_of_separator hc, ← List.append_assoc, split]
    | true =>
      by_cases hjoined : ∃ a ∈ text.getLast?, Joined a c
      · obtain ⟨a, ha, hjoined⟩ := hjoined
        rw [ha] at hstate
        refine ⟨words, isLower c || isNumeric c, current ++ [c], hlast ▸ .inside hc current,
          fun rest => ?_⟩
        rw [hread, splitFrom_of_joined hstate hjoined]
      · have hbegins : ∀ a ∈ text.getLast?, ¬Joined a c := fun a ha h => hjoined ⟨a, ha, h⟩
        refine ⟨words ++ flush current, isLower c || isNumeric c, [c], hlast ▸ .inside hc [],
          fun rest => ?_⟩
        rw [hread, splitFrom_of_begins hstate hc hbegins, List.append_assoc]

theorem Reading.split_eq (h : Reading text words low current) :
    split text = words ++ flush current := by
  have hsplit := h.split_append []
  rw [List.append_nil, splitFrom] at hsplit
  exact hsplit

theorem Reading.state_concat (h : Reading (before ++ [a]) words low current) :
    State (some a) low current := by
  have hstate := h.state
  rw [List.getLast?_concat] at hstate
  exact hstate

/-- The current word is the beginning of the next one that is finished. -/
theorem exists_splitFrom_eq_cons (h : current ≠ []) (low : Bool) (text : List Char) :
    ∃ back words, splitFrom low current text = (current ++ back) :: words := by
  induction text generalizing low current with
  | nil => exact ⟨[], [], by rw [splitFrom, flush_of_ne_nil h, List.append_nil]⟩
  | cons c cs ih =>
    rw [splitFrom]
    split
    · exact ⟨[], _, by rw [flush_of_ne_nil h, List.append_nil]; rfl⟩
    · split
      · exact ⟨[], _, by rw [List.append_nil]⟩
      · obtain ⟨back, words, hwords⟩ :=
          ih (List.concat_ne_nil c current) (isLower c || isNumeric c)
        exact ⟨c :: back, words, by rw [hwords, List.append_assoc]; rfl⟩

/-! ## The number of words -/

theorem length_split_le (text rest : List Char) :
    (split text).length ≤ (split (text ++ rest)).length := by
  obtain ⟨words, low, current, hreading⟩ := exists_reading text
  rw [hreading.split_eq, hreading.split_append, List.length_append, List.length_append]
  refine Nat.add_le_add_left ?_ words.length
  by_cases hcurrent : current = []
  · rw [hcurrent]
    exact Nat.zero_le _
  · obtain ⟨back, later, hlater⟩ := exists_splitFrom_eq_cons hcurrent low rest
    rw [flush_of_ne_nil hcurrent, hlater]
    exact Nat.succ_le_succ (Nat.zero_le _)

/-- A letter or number begins another word exactly if it is not joined to the character before. -/
theorem length_split_concat (hlast : text.getLast? = some a) (hb : isAlphanumeric b = true) :
    (split (text ++ [b])).length = (split text).length + if Joined a b then 0 else 1 := by
  obtain ⟨words, low, current, hreading⟩ := exists_reading text
  have hstate := hreading.state
  rw [hlast] at hstate
  rw [hreading.split_eq, hreading.split_append]
  by_cases hjoined : Joined a b
  · obtain ⟨-, word, rfl⟩ := hstate.exists_word hjoined.1
    rw [if_pos hjoined, splitFrom_of_joined hstate hjoined, splitFrom,
      flush_of_ne_nil (List.concat_ne_nil a word),
      flush_of_ne_nil (List.concat_ne_nil b (word ++ [a])), List.length_append, List.length_append]
    rfl
  · have hbegins : ∀ d ∈ some a, ¬Joined d b := fun d hd => Option.mem_some.mp hd ▸ hjoined
    rw [if_neg hjoined, splitFrom_of_begins hstate hb hbegins, ← List.append_assoc,
      List.length_append]
    rfl

/-- No word begins behind `a`, and the last character is in the word that `a` is in, exactly if all
neighbours from `a` on are joined. -/
theorem isChain_joined_iff (before : List Char) (a : Char) (way : List Char) :
    (a :: way).IsChain Joined ↔
      (∀ b ∈ way.getLast?, isAlphanumeric b = true) ∧
        (split (before ++ a :: way)).length = (split (before ++ [a])).length := by
  -- From the end: the number of words never falls, so it is the same at the end exactly if it was
  -- before the last character and that one begins no word.
  induction way using List.reverseRecOn with
  | nil => exact iff_of_true (List.isChain_singleton a) ⟨nofun, rfl⟩
  | append_singleton way b ih =>
    obtain ⟨d, hd⟩ : ∃ d, (a :: way).getLast? = some d :=
      ⟨_, List.getLast?_eq_some_getLast (List.cons_ne_nil a way)⟩
    have hchain : (a :: (way ++ [b])).IsChain Joined ↔ (a :: way).IsChain Joined ∧ Joined d b := by
      rw [← List.cons_append, List.isChain_append, hd]
      simp
    have hstep (hb : isAlphanumeric b = true) : (split (before ++ a :: (way ++ [b]))).length =
        (split (before ++ a :: way)).length + if Joined d b then 0 else 1 := by
      have hlast : (before ++ a :: way).getLast? = some d := by
        rw [List.getLast?_append, hd]
        rfl
      rw [← length_split_concat hlast hb, List.append_assoc, List.cons_append]
    have hbegun : (split (before ++ [a])).length ≤ (split (before ++ a :: way)).length := by
      have hle := length_split_le (before ++ [a]) way
      rw [List.append_assoc] at hle
      exact hle
    rw [hchain, ih, List.getLast?_concat]
    constructor
    · rintro ⟨⟨-, hlength⟩, hjoined⟩
      refine ⟨fun c hc => Option.mem_some.mp hc ▸ hjoined.2.1, ?_⟩
      rw [hstep hjoined.2.1, if_pos hjoined]
      exact hlength
    · rintro ⟨hb, hlength⟩
      rw [hstep (hb b rfl)] at hlength
      by_cases hjoined : Joined d b
      · rw [if_pos hjoined] at hlength
        refine ⟨⟨fun c hc => ?_, hlength⟩, hjoined⟩
        rw [List.getLast?_cons, Option.mem_def.mp hc] at hd
        have hlast : c = d := Option.some.inj hd
        exact hlast ▸ hjoined.1
      · rw [if_neg hjoined] at hlength
        omega

/-! ## The word of a character -/

theorem Holds.bounds (h : Holds words i before c) :
    (words.take i).flatten.length ≤ (before.filter isAlphanumeric).length ∧
      (before.filter isAlphanumeric).length < (words.take (i + 1)).flatten.length := by
  obtain ⟨front, back, hword, hfront⟩ := h
  have hnext : (words.take (i + 1)).flatten = (words.take i).flatten ++ (front ++ c :: back) := by
    rw [List.take_add_one, hword, List.flatten_append]
    exact congrArg _ (List.append_nil _)
  rw [hnext, ← hfront]
  simp only [List.length_append, List.length_cons]
  omega

/-- A place in a text belongs to one word at most. -/
theorem Holds.index_le (hi : Holds words i before c) (hj : Holds words j before d) : i ≤ j := by
  by_contra hlt
  have hprefix : words.take (j + 1) <+: words.take i :=
    List.take_prefix_take_left (Nat.not_le.mp hlt)
  have hlength := (List.IsPrefix.flatten hprefix).length_le
  have hfirst := hi.bounds.1
  have hsecond := hj.bounds.2
  omega

theorem isAlphanumeric_of_holds (h : Holds (split text) i before c) : isAlphanumeric c = true := by
  obtain ⟨front, back, hword, -⟩ := h
  have hmem : c ∈ front ++ c :: back := List.mem_append_right front List.mem_cons_self
  exact (mem_of_mem_split (List.mem_of_getElem? hword) hmem).2

/-- A letter or number stands in the last word that is begun when it is read. -/
theorem exists_holds (before after : List Char) (hc : isAlphanumeric c = true) :
    ∃ i, (split (before ++ [c])).length = i + 1 ∧
      Holds (split (before ++ c :: after)) i before c := by
  obtain ⟨words, low, current, hreading⟩ := exists_reading (before ++ [c])
  obtain ⟨-, word, rfl⟩ := hreading.state_concat.exists_word hc
  have hhere := hreading.split_eq
  rw [flush_of_ne_nil (List.concat_ne_nil c word)] at hhere
  have hfront : words.flatten ++ word = before.filter isAlphanumeric := by
    have hflat := flatten_split (before ++ [c])
    rw [hhere, List.flatten_append, List.filter_append, List.filter_cons_of_pos hc,
      List.flatten_singleton, ← List.append_assoc] at hflat
    exact List.append_cancel_right hflat
  obtain ⟨back, later, hlater⟩ := exists_splitFrom_eq_cons (List.concat_ne_nil c word) low after
  have hthere := hreading.split_append after
  rw [List.append_assoc, hlater, List.append_assoc word, List.singleton_append] at hthere
  refine ⟨words.length, by rw [hhere, List.length_append]; rfl, word, back, ?_, ?_⟩
  · rw [hthere, List.getElem?_append_right (Nat.le_refl _), Nat.sub_self]
    rfl
  · rw [hthere, List.take_left]
    exact hfront

theorem holds_iff (before : List Char) (c : Char) (after : List Char) (i : Nat) :
    Holds (split (before ++ c :: after)) i before c ↔
      isAlphanumeric c = true ∧ (split (before ++ [c])).length = i + 1 := by
  constructor
  · intro h
    have hc := isAlphanumeric_of_holds h
    obtain ⟨j, hlength, hj⟩ := exists_holds before after hc
    rw [Nat.le_antisymm (h.index_le hj) (hj.index_le h)]
    exact ⟨hc, hlength⟩
  · rintro ⟨hc, hlength⟩
    obtain ⟨j, hj, hholds⟩ := exists_holds before after hc
    rw [Nat.succ_inj.mp (hlength.symm.trans hj)]
    exact hholds

theorem sameWord_split_iff (before : List Char) (a : Char) (between : List Char) (b : Char)
    (after : List Char) :
    SameWord (split (before ++ a :: (between ++ b :: after))) before a between b ↔
      (a :: (between ++ [b])).IsChain Joined := by
  have hplace {i : Nat} : Holds (split (before ++ a :: (between ++ b :: after))) i
      (before ++ a :: between) b ↔ isAlphanumeric b = true ∧
        (split (before ++ a :: (between ++ [b]))).length = i + 1 := by
    have hholds := holds_iff (before ++ a :: between) b after i
    rw [List.append_assoc, List.append_assoc] at hholds
    exact hholds
  have hway : (a :: (between ++ [b])).IsChain Joined ↔ isAlphanumeric b = true ∧
      (split (before ++ a :: (between ++ [b]))).length = (split (before ++ [a])).length := by
    rw [isChain_joined_iff before, List.getLast?_concat]
    simp only [Option.mem_some, forall_eq']
  constructor
  · rintro ⟨i, hi, hj⟩
    obtain ⟨-, hbegun⟩ := (holds_iff _ _ _ i).mp hi
    obtain ⟨hb, hlength⟩ := hplace.mp hj
    exact hway.mpr ⟨hb, hlength.trans hbegun.symm⟩
  · intro hchain
    obtain ⟨hb, hlength⟩ := hway.mp hchain
    have ha : isAlphanumeric a = true := by
      cases between with
      | nil => exact (hchain.rel_head? rfl).1
      | cons d ds => exact (hchain.rel_head? rfl).1
    obtain ⟨i, hbegun, hi⟩ := exists_holds before (between ++ b :: after) ha
    exact ⟨i, hi, hplace.mpr ⟨hb, hlength.trans hbegun⟩⟩

/-- The words are not empty and hold the letters and numbers of the text in their order.  Neighbours
in the text stay in one word exactly if they are joined, and any two characters exactly if all
neighbours from the one to the other are. -/
theorem split_boundaries (text : List Char) :
    (∀ word ∈ split text, word ≠ [] ∧ ∀ c ∈ word, isAlphanumeric c = true) ∧
      (split text).flatten = text.filter isAlphanumeric ∧
      (∀ before a b after, text = before ++ a :: b :: after →
        (SameWord (split text) before a [] b ↔ Joined a b)) ∧
      ∀ before a between b after, text = before ++ a :: (between ++ b :: after) →
        (SameWord (split text) before a between b ↔ (a :: (between ++ [b])).IsChain Joined) := by
  refine ⟨fun word hword => ⟨ne_nil_of_mem_splitFrom hword, fun c hc => ?_⟩, flatten_split text,
    ?_, ?_⟩
  · exact (mem_of_mem_split hword hc).2
  · rintro before a b after rfl
    exact (sameWord_split_iff before a [] b after).trans List.isChain_pair
  · rintro before a between b after rfl
    exact sameWord_split_iff before a between b after

/-- Roman numerals are uppercase and numbers at once, so that one after another begins a word.  What
comes after one goes on with its word in lowercase, and does not behind a space. -/
theorem split_boundaries_romanNumerals :
    let text := ['Ⅷ', 'Ⅸ', 'a', ' ', 'b']
    ¬SameWord (split text) [] 'Ⅷ' [] 'Ⅸ' ∧ SameWord (split text) ['Ⅷ'] 'Ⅸ' [] 'a' ∧
      ¬SameWord (split text) ['Ⅷ', 'Ⅸ'] 'a' [' '] 'b' := by
  intro text
  obtain ⟨-, -, hneighbours, hways⟩ := split_boundaries text
  have height : isNumeric 'Ⅷ' = true :=
    (Unicode.isNumeric_and_isUpper_of_romanNumeral (by decide) (by decide)).1
  obtain ⟨hnine, hupper⟩ : isNumeric 'Ⅸ' = true ∧ isUpper 'Ⅸ' = true :=
    Unicode.isNumeric_and_isUpper_of_romanNumeral (by decide) (by decide)
  have hletter : isAlphanumeric 'Ⅸ' = true := by rw [isAlphanumeric, hnine, Bool.or_true]
  refine ⟨fun h => ?_, ?_, fun h => ?_⟩
  · have hjoined := (hneighbours [] 'Ⅷ' 'Ⅸ' ['a', ' ', 'b'] rfl).mp h
    exact hjoined.2.2 ⟨.inr height, hupper⟩
  · refine (hneighbours ['Ⅷ'] 'Ⅸ' 'a' [' ', 'b'] rfl).mpr ⟨hletter, by decide, fun h => ?_⟩
    exact absurd h.2 (by decide)
  · have hchain := (hways ['Ⅷ', 'Ⅸ'] 'a' [' '] 'b' [] rfl).mp h
    exact absurd (List.isChain_cons_cons.mp hchain).1 (by decide)

end Words
end Amend
