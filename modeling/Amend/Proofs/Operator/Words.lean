/-
Words of a text, split and joined again.  A word that begins with a letter or number and goes on
with such characters, none of them uppercase, is not divided, and a separator divides it from the
next.  So splitting takes apart what joining has put together, and the words of a text in kebab,
snake or title case are the words of the text up to case: every letter case of the one is that of
the other.
-/
import Amend.Operator.Text
import Amend.Proofs.Operator.Settled
import Amend.Proofs.Unicode.Text

namespace Amend

namespace Words

open Unicode (isAlphanumeric isUpper isLower isNumeric Ascii)

variable {text word current rest : List Char} {words : List (List Char)} {low : Bool} {c : Char}

/-! ## The words of a text -/

theorem flatten_flush (word : List Char) : (flush word).flatten = word := by
  unfold flush
  split
  · next h => rw [List.isEmpty_iff.mp h]; rfl
  · exact List.append_nil word

theorem splitFrom_of_separator (hc : isAlphanumeric c = false) :
    splitFrom low current (c :: rest) = flush current ++ split rest := by
  rw [splitFrom, hc]
  rfl

/-- The words hold the letters and numbers of the text, in their order. -/
theorem flatten_splitFrom (low : Bool) (current text : List Char) :
    (splitFrom low current text).flatten = current ++ text.filter isAlphanumeric := by
  induction text generalizing low current with
  | nil => rw [splitFrom, flatten_flush]; exact (List.append_nil current).symm
  | cons c cs ih =>
    cases hc : isAlphanumeric c with
    | false =>
      rw [splitFrom_of_separator hc, List.flatten_append, flatten_flush, split, ih,
        List.filter_cons_of_neg (by simp [hc])]
      rfl
    | true =>
      rw [splitFrom, hc, List.filter_cons_of_pos hc]
      split
      · next h => nomatch h
      · split
        · rw [List.flatten_cons, ih]
          rfl
        · rw [ih, List.append_assoc]
          rfl

theorem flatten_split (text : List Char) : (split text).flatten = text.filter isAlphanumeric :=
  flatten_splitFrom false [] text

theorem ne_nil_of_mem_flush (h : word ∈ flush current) : word ≠ [] := by
  unfold flush at h
  split at h
  · nomatch h
  · next hne =>
    rw [List.mem_singleton.mp h]
    exact fun hnil => hne (List.isEmpty_iff.mpr hnil)

theorem ne_nil_of_mem_splitFrom (h : word ∈ splitFrom low current text) : word ≠ [] := by
  induction text generalizing low current with
  | nil => exact ne_nil_of_mem_flush h
  | cons c cs ih =>
    rw [splitFrom] at h
    split at h
    · rcases List.mem_append.mp h with h | h
      · exact ne_nil_of_mem_flush h
      · exact ih h
    · split at h
      · next hdivides =>
        rcases List.mem_cons.mp h with rfl | h
        · simp only [Bool.and_eq_true, Bool.not_eq_true'] at hdivides
          rintro rfl
          exact nomatch hdivides.2
        · exact ih h
      · exact ih h

theorem mem_of_mem_split (h : word ∈ split text) (hc : c ∈ word) :
    c ∈ text ∧ isAlphanumeric c = true := by
  have hmem : c ∈ (split text).flatten := List.mem_flatten.mpr ⟨word, h, hc⟩
  rw [flatten_split] at hmem
  exact List.mem_filter.mp hmem

/-! ## Words that are not divided -/

/-- A letter or number that is not uppercase. -/
def Inner (c : Char) : Prop := isAlphanumeric c = true ∧ isUpper c = false

/-- A word that is not divided: nothing but letters and numbers, with at most the first in
uppercase. -/
def Whole : List Char → Prop
  | [] => False
  | c :: cs => isAlphanumeric c = true ∧ ∀ d ∈ cs, Inner d

theorem splitFrom_append_of_inner (h : ∀ c ∈ word, Inner c) (low : Bool)
    (current rest : List Char) :
    ∃ low', splitFrom low current (word ++ rest) = splitFrom low' (current ++ word) rest := by
  induction word generalizing low current with
  | nil => exact ⟨low, by rw [List.append_nil, List.nil_append]⟩
  | cons c cs ih =>
    obtain ⟨⟨hc, hupper⟩, hcs⟩ := List.forall_mem_cons.mp h
    -- No character is uppercase, so that none begins another word, whatever stands before it.
    obtain ⟨low', hlow⟩ := ih hcs (isLower c || isNumeric c) (current ++ [c])
    refine ⟨low', ?_⟩
    rw [List.append_assoc] at hlow
    rw [List.cons_append, splitFrom, hc, hupper]
    exact hlow

theorem split_append_of_whole (h : Whole word) (rest : List Char) :
    ∃ low, split (word ++ rest) = splitFrom low word rest := by
  cases word with
  | nil => nomatch h
  | cons c cs =>
    -- The first character may be uppercase: there is no word yet that it would divide.
    obtain ⟨low, hlow⟩ :=
      splitFrom_append_of_inner h.2 (isLower c || isNumeric c) [c] rest
    refine ⟨low, ?_⟩
    rw [split, List.cons_append, splitFrom, h.1]
    simp only [List.isEmpty_nil, Bool.not_true, Bool.and_false, Bool.false_eq_true, if_false]
    exact hlow

theorem flush_of_whole (h : Whole word) : flush word = [word] := by
  cases word with
  | nil => nomatch h
  | cons c cs => rfl

theorem split_of_whole (h : Whole word) : split word = [word] := by
  obtain ⟨low, hlow⟩ := split_append_of_whole h []
  rw [List.append_nil] at hlow
  rw [hlow, splitFrom, flush_of_whole h]

theorem split_append_separator (h : Whole word) (hc : isAlphanumeric c = false)
    (rest : List Char) : split (word ++ c :: rest) = word :: split rest := by
  obtain ⟨low, hlow⟩ := split_append_of_whole h (c :: rest)
  rw [hlow, splitFrom_of_separator hc, flush_of_whole h]
  rfl

theorem split_intercalate (hc : isAlphanumeric c = false) (h : ∀ word ∈ words, Whole word) :
    split ([c].intercalate words) = words := by
  induction words with
  | nil => rfl
  | cons word rest ih =>
    obtain ⟨hword, hrest⟩ := List.forall_mem_cons.mp h
    cases rest with
    | nil => rw [List.intercalate_singleton, split_of_whole hword]
    | cons next rest =>
      rw [List.intercalate_cons_cons, List.append_assoc, List.singleton_append,
        split_append_separator hword hc, ih hrest]

/-! ## Words of ASCII -/

theorem ascii_of_mem_split (htext : Ascii text) (h : word ∈ split text) : Ascii word :=
  fun c hc => htext c (mem_of_mem_split h hc).1

theorem capitalize_of_ascii {cs : List Char} (h : c.toNat < 128) :
    capitalize (c :: cs) = c.toUpper :: cs := by
  rw [capitalize, Unicode.upper_of_ascii h]
  rfl

/-- A word of a text is not divided when it is in lowercase, without a capital or with one. -/
theorem whole_lowered (htext : Ascii text) (h : word ∈ split text) :
    Whole (Unicode.toLower word) ∧ Whole (capitalize (Unicode.toLower word)) := by
  have hascii := ascii_of_mem_split htext h
  rw [Unicode.toLower_of_ascii hascii]
  cases word with
  | nil => exact absurd rfl (ne_nil_of_mem_splitFrom h)
  | cons c cs =>
    have hall : ∀ d ∈ c :: cs, Inner d.toLower := by
      intro d hd
      have hsame := Unicode.sameLetter_of_ascii (hascii d hd)
      refine ⟨?_, hsame.isUpper_lower⟩
      rw [hsame.isAlphanumeric_lower]
      exact (mem_of_mem_split h hd).2
    obtain ⟨hc, hcs⟩ := List.forall_mem_cons.mp hall
    have hrest : ∀ d ∈ cs.map Char.toLower, Inner d := List.forall_mem_map.mpr hcs
    have hlt := (Unicode.sameLetter_of_ascii (hascii c List.mem_cons_self)).lower_lt
    refine ⟨⟨hc.1, hrest⟩, ?_⟩
    rw [List.map_cons, capitalize_of_ascii hlt]
    refine ⟨?_, hrest⟩
    rw [(Unicode.sameLetter_of_ascii hlt).isAlphanumeric_upper]
    exact hc.1

/-- Lowering changes no lowered word and takes a capital back. -/
theorem toLower_lowered (h : Ascii word) :
    Unicode.toLower (Unicode.toLower word) = Unicode.toLower word ∧
      Unicode.toLower (capitalize (Unicode.toLower word)) = Unicode.toLower word := by
  have hlower : Ascii (word.map Char.toLower) := List.forall_mem_map.mpr fun c hc =>
    (Unicode.sameLetter_of_ascii (h c hc)).lower_lt
  have htwice : (word.map Char.toLower).map Char.toLower = word.map Char.toLower := by
    rw [List.map_map]
    exact List.map_congr_left fun c hc => (Unicode.sameLetter_of_ascii (h c hc)).lower_lower
  rw [Unicode.toLower_of_ascii h, Unicode.toLower_of_ascii hlower]
  refine ⟨htwice, ?_⟩
  cases word with
  | nil => rfl
  | cons c cs =>
    obtain ⟨hc, hcs⟩ := List.forall_mem_cons.mp hlower
    have hsame := Unicode.sameLetter_of_ascii hc
    have hraised : Ascii (c.toLower.toUpper :: cs.map Char.toLower) :=
      List.forall_mem_cons.mpr ⟨hsame.upper_lt, hcs⟩
    rw [List.map_cons, capitalize_of_ascii hc, Unicode.toLower_of_ascii hraised, List.map_cons,
      hsame.lower_upper]
    exact htwice

theorem split_join (htext : Ascii text) (hc : isAlphanumeric c = false) :
    split (join [c] text) = lowered text :=
  split_intercalate hc (List.forall_mem_map.mpr fun _ hword => (whole_lowered htext hword).1)

theorem lowered_join (htext : Ascii text) (hc : isAlphanumeric c = false) :
    lowered (join [c] text) = lowered text := by
  rw [lowered, split_join htext hc, lowered, List.map_map]
  exact List.map_congr_left fun _ hword => (toLower_lowered (ascii_of_mem_split htext hword)).1

theorem lowered_titleCase (htext : Ascii text) : lowered (titleCase text) = lowered text := by
  have hsplit : split (titleCase text) = (lowered text).map capitalize := by
    refine split_intercalate (by decide) ?_
    rw [lowered, List.map_map]
    exact List.forall_mem_map.mpr fun _ hword => (whole_lowered htext hword).2
  rw [lowered, hsplit, lowered, List.map_map, List.map_map]
  exact List.map_congr_left fun _ hword => (toLower_lowered (ascii_of_mem_split htext hword)).2

end Words

/-! ## The operators -/

namespace Operator
namespace Text

variable {f g : Text} {text changed : List Char}

/-- A letter case depends on the words up to case alone. -/
theorem change_of_lowered_eq (hf : f ∈ [camelcase, kebabcase, snakecase, titlecase])
    (h : Words.lowered changed = Words.lowered text) (operand again : Value) :
    ∃ result, change f text operand = .ok result ∧ change f changed again = .ok result := by
  simp only [List.mem_cons, List.not_mem_nil, or_false] at hf
  rcases hf with rfl | rfl | rfl | rfl
  · refine ⟨_, rfl, congrArg Except.ok ?_⟩
    rw [Words.camelCase, h, Words.camelCase]
  · refine ⟨_, rfl, congrArg Except.ok ?_⟩
    rw [Words.kebabCase, Words.join, h, Words.kebabCase, Words.join]
  · refine ⟨_, rfl, congrArg Except.ok ?_⟩
    rw [Words.snakeCase, Words.join, h, Words.snakeCase, Words.join]
  · refine ⟨_, rfl, congrArg Except.ok ?_⟩
    rw [Words.titleCase, h, Words.titleCase]

/-- A case with separators between its words keeps them up to case. -/
theorem exists_change_lowered (hg : g ∈ [kebabcase, snakecase, titlecase])
    (htext : Unicode.Ascii text) (operand : Value) :
    ∃ changed, change g text operand = .ok changed ∧
      Words.lowered changed = Words.lowered text := by
  simp only [List.mem_cons, List.not_mem_nil, or_false] at hg
  rcases hg with rfl | rfl | rfl
  · exact ⟨_, rfl, Words.lowered_join htext (by decide)⟩
  · exact ⟨_, rfl, Words.lowered_join htext (by decide)⟩
  · exact ⟨_, rfl, Words.lowered_titleCase htext⟩

/-- Kebab, snake and title case keep the words of an ASCII text up to case, and every letter case of
what they make of it is that of the text itself. -/
theorem transform_letterCases {stored : Option Value} (hstored : stored? stored = .ok text)
    (htext : Unicode.Ascii text) (hf : f ∈ [camelcase, kebabcase, snakecase, titlecase])
    (hg : g ∈ [kebabcase, snakecase, titlecase]) (first operand again : Value) :
    ∃ changed result : List Char,
      g.transform stored first = .ok (.str (String.ofList changed)) ∧
      (Words.split changed).map Unicode.toLower = (Words.split text).map Unicode.toLower ∧
      f.transform stored operand = .ok (.str (String.ofList result)) ∧
      f.transform (some (.str (String.ofList changed))) again =
        .ok (.str (String.ofList result)) := by
  obtain ⟨changed, hchanged, hwords⟩ := exists_change_lowered hg htext first
  obtain ⟨result, hresult, hagain⟩ := change_of_lowered_eq hf hwords operand again
  refine ⟨changed, result, ?_, hwords, ?_, ?_⟩
  · rw [transform_of_stored hstored, hchanged]
    rfl
  · rw [transform_of_stored hstored, hresult]
    rfl
  · have hthere : stored? (some (.str (String.ofList changed))) = .ok changed :=
      congrArg Except.ok String.toList_ofList
    rw [transform_of_stored hthere, hagain]
    rfl

/-- A capital after a number begins a word, one after a capital does not. -/
theorem transform_letterCases_camelcase :
    let title : Value := .str (String.ofList "User Id2 Name Http X".toList)
    titlecase.transform (some (.str "userId2Name HTTP_x")) .null = .ok title ∧
      camelcase.transform (some title) .null =
        .ok (.str (String.ofList "userId2NameHttpX".toList)) := by
  intro title
  have hstored : stored? (some (.str "userId2Name HTTP_x")) = .ok "userId2Name HTTP_x".toList := rfl
  have hall : "userId2Name HTTP_x".toList.all (fun c => decide (c.toNat < 128)) = true := rfl
  have htext : Unicode.Ascii "userId2Name HTTP_x".toList := fun c hc =>
    of_decide_eq_true (List.all_eq_true.mp hall c hc)
  have htitle : Words.titleCase "userId2Name HTTP_x".toList = "User Id2 Name Http X".toList := by
    decide +kernel
  have hcamel : Words.camelCase "userId2Name HTTP_x".toList = "userId2NameHttpX".toList := by
    decide +kernel
  obtain ⟨changed, result, hchanged, -, hresult, hagain⟩ :=
    transform_letterCases (f := camelcase) (g := titlecase) hstored htext List.mem_cons_self
      (List.mem_cons_of_mem _ (List.mem_cons_of_mem _ List.mem_cons_self)) .null .null .null
  have hfirst : titlecase.transform (some (.str "userId2Name HTTP_x")) .null = .ok title :=
    congrArg (fun text => Except.ok (Value.str (String.ofList text))) htitle
  have hdirect : camelcase.transform (some (.str "userId2Name HTTP_x")) .null =
      .ok (.str (String.ofList "userId2NameHttpX".toList)) :=
    congrArg (fun text => Except.ok (Value.str (String.ofList text))) hcamel
  rw [← Except.ok.inj (hfirst.symm.trans hchanged)] at hagain
  rw [← Except.ok.inj (hdirect.symm.trans hresult)] at hagain
  exact ⟨hfirst, hagain⟩

end Text
end Operator
end Amend
