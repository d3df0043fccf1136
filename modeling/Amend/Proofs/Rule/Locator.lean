/-
What the patterns of mail addresses and of locators accept.  A mail address is read from its at sign
and from the labels of its domain, a locator from its scheme and from the point inside its
authority.  A port needs no part of its own, for its colon and its digits are characters of the
host.
-/
import Amend.Proofs.Pattern.Word
import Amend.Proofs.Unicode.Ranges
import Amend.Proofs.Rule.Spelling

namespace Amend
namespace Format
namespace Locator

open Pattern
open Unicode (Ranges isWhiteSpace)

/-! ## Addresses and locators -/

def isNameChar (c : Char) : Bool :=
  c.isAlphanum || c == '.' || c == '_' || c == '%' || c == '+' || c == '-'

def isLabelChar (c : Char) : Bool := c.isAlphanum || c == '-'

def IsLabel (label : List Char) : Prop := label ≠ [] ∧ ∀ c ∈ label, isLabelChar c = true

/-- Two labels or more with points between them, of which the last has two letters or more and
nothing else. -/
def IsDomain (domain : List Char) : Prop :=
  ∃ labels last, domain.splitOn '.' = labels ++ [last] ∧ labels ≠ [] ∧
    (∀ label ∈ labels ++ [last], IsLabel label) ∧ 2 ≤ last.length ∧ ∀ c ∈ last, c.isAlpha = true

/-- A name and a domain around the only at sign. -/
def IsAddress (text : List Char) : Prop :=
  ∃ name domain, text = name ++ '@' :: domain ∧ '@' ∉ name ∧ '@' ∉ domain ∧
    name ≠ [] ∧ (∀ c ∈ name, isNameChar c = true) ∧ IsDomain domain

def schemes : List String := ["http://", "https://", "ftp://"]

def endsAuthority (c : Char) : Bool := c == '/' || c == '?' || c == '#'

/-- A scheme and a rest without white space.  What stands before the first slash, question mark or
hash of the rest has a point inside. -/
def IsLocator (text : List Char) : Prop :=
  ∃ scheme ∈ schemes, ∃ rest, text = scheme.toList ++ rest ∧
    (∀ c ∈ rest, isWhiteSpace c = false) ∧
    ∃ before after, rest.takeWhile (!endsAuthority ·) = before ++ '.' :: after ∧
      before ≠ [] ∧ after ≠ []

/-! ## Characters -/

theorem isAlpha_iff {c : Char} :
    c.isAlpha = true ↔ 65 ≤ c.toNat ∧ c.toNat ≤ 90 ∨ 97 ≤ c.toNat ∧ c.toNat ≤ 122 := by
  have hread : c.isAlpha = (decide (65 ≤ c.toNat ∧ c.toNat ≤ 90) ||
      decide (97 ≤ c.toNat) && decide (c.toNat ≤ 122)) := rfl
  rw [hread]
  simp only [Bool.or_eq_true, Bool.and_eq_true, decide_eq_true_iff]

theorem isAlphanum_iff {c : Char} :
    c.isAlphanum = true ↔ c.isAlpha = true ∨ 48 ≤ c.toNat ∧ c.toNat ≤ 57 :=
  Bool.or_eq_true_iff.trans (or_congr_right Char.isDigit_iff_toNat)

theorem isLabelChar_of_isAlpha {c : Char} (h : c.isAlpha = true) : isLabelChar c = true :=
  Bool.or_eq_true_iff.mpr (.inl (isAlphanum_iff.mpr (.inl h)))

theorem contains_letters (c : Char) : letters.contains c.toNat = c.isAlpha := by
  have hread : letters = [(65, 90), (97, 122)] := (Ranges.ofText_ofList _).trans rfl
  rw [hread, Bool.eq_iff_iff, isAlpha_iff]
  simp only [Ranges.contains_cons_iff, Ranges.not_contains_nil, or_false]

theorem contains_labelChars (c : Char) : labelChars.contains c.toNat = isLabelChar c := by
  have hread : labelChars = [(45, 45), (48, 57), (65, 90), (97, 122)] :=
    (Ranges.ofText_ofList _).trans rfl
  rw [hread, Bool.eq_iff_iff]
  simp only [Ranges.contains_cons_iff, Ranges.not_contains_nil, or_false, isLabelChar,
    Bool.or_eq_true, beq_iff_eq, isAlphanum_iff, isAlpha_iff, ← Char.toNat_inj, Char.reduceToNat]
  omega

theorem contains_localChars (c : Char) : localChars.contains c.toNat = isNameChar c := by
  have hread : localChars =
      [(37, 37), (43, 43), (45, 45), (46, 46), (48, 57), (65, 90), (95, 95), (97, 122)] :=
    (Ranges.ofText_ofList _).trans rfl
  rw [hread, Bool.eq_iff_iff]
  simp only [Ranges.contains_cons_iff, Ranges.not_contains_nil, or_false, isNameChar,
    Bool.or_eq_true, beq_iff_eq, isAlphanum_iff, isAlpha_iff, ← Char.toNat_inj, Char.reduceToNat]
  omega

theorem tailStart_eq : tailStart = [(35, 35), (47, 47), (63, 63)] :=
  (Ranges.ofText_ofList _).trans rfl

theorem contains_tailStart (c : Char) : tailStart.contains c.toNat = endsAuthority c := by
  rw [tailStart_eq, Bool.eq_iff_iff]
  simp only [Ranges.contains_cons_iff, Ranges.not_contains_nil, or_false, endsAuthority,
    Bool.or_eq_true, beq_iff_eq, ← Char.toNat_inj, Char.reduceToNat]
  omega

theorem toNat_le_lastCode (c : Char) : c.toNat ≤ Ranges.lastCode := by
  have h := c.valid
  simp only [UInt32.isValidChar, Nat.isValidChar] at h
  show c.val.toNat ≤ 0x10FFFF
  omega

theorem proper_whiteSpace : Ranges.Proper Unicode.whiteSpace := by
  rw [Unicode.whiteSpace_eq]
  decide

theorem proper_tailStart : Ranges.Proper tailStart := by
  rw [tailStart_eq]
  decide

theorem contains_visibleChars_iff {c : Char} :
    visibleChars.contains c.toNat = true ↔ isWhiteSpace c = false := by
  rw [visibleChars, Ranges.contains_complement proper_whiteSpace (toNat_le_lastCode c),
    ← Unicode.isWhiteSpace_eq_contains, Bool.not_eq_true]

theorem contains_hostChars_iff {c : Char} :
    hostChars.contains c.toNat = true ↔ isWhiteSpace c = false ∧ endsAuthority c = false := by
  have hproper : Ranges.Proper (.union Unicode.whiteSpace tailStart) :=
    proper_whiteSpace.union proper_tailStart
  rw [hostChars, ← tailStart, Ranges.contains_complement hproper (toNat_le_lastCode c),
    Ranges.contains_union, ← Unicode.isWhiteSpace_eq_contains, contains_tailStart, not_or,
    Bool.not_eq_true, Bool.not_eq_true]

set_option maxRecDepth 20000 in
/-- The digits of every script are visible, and none of them is behind an authority. -/
theorem contains_hostChars_of_decimalNumber {c : Char}
    (h : Unicode.Category.decimalNumber.contains c.toNat = true) :
    hostChars.contains c.toNat = true := by
  have hread : Unicode.Category.decimalNumber = _ := Ranges.ofText_ofList _
  have hapart : ∀ r ∈ Unicode.Category.decimalNumber, ∀ s ∈ Unicode.whiteSpace ++ tailStart,
      r.2 < s.1 ∨ s.2 < r.1 := by
    rw [hread, Unicode.whiteSpace_eq, tailStart_eq]
    decide
  have hneither := Ranges.not_contains_of_apart hapart h
  rw [Ranges.contains_append_iff, not_or, ← Unicode.isWhiteSpace_eq_contains, contains_tailStart,
    Bool.not_eq_true, Bool.not_eq_true] at hneither
  exact contains_hostChars_iff.mpr hneither

/-! ## Mail addresses -/

theorem intercalate_cons (x : Char) (first : List Char) (labels : List (List Char)) :
    [x].intercalate (first :: labels) = first ++ (labels.map (x :: ·)).flatten := by
  induction labels generalizing first with
  | nil => rw [List.intercalate_singleton, List.map_nil, List.flatten_nil, List.append_nil]
  | cons label labels ih =>
    rw [List.intercalate_cons_cons, ih, List.map_cons, List.flatten_cons, List.append_assoc]
    rfl

variable {text domain w : List Char}

theorem spells_label_iff : Spells (some1 (.one labelChars)) w ↔ IsLabel w := by
  rw [spells_some1_one_iff]
  simp only [contains_labelChars]
  exact Iff.rfl

theorem spells_labels_iff :
    Spells (many (seqAll [char '.', some1 (.one labelChars)])) w ↔
      ∃ labels : List (List Char), w = (labels.map ('.' :: ·)).flatten ∧
        ∀ label ∈ labels, IsLabel label := by
  have hpart : ∀ u, Spells (seqAll [char '.', some1 (.one labelChars)]) u ↔
      ∃ label, u = '.' :: label ∧ IsLabel label := by
    intro u
    rw [spells_char_cons_iff]
    exact exists_congr fun label => and_congr_right fun _ => spells_label_iff
  rw [spells_many_iff]
  simp only [hpart]
  constructor
  · rintro ⟨parts, rfl, hparts⟩
    induction parts with
    | nil => exact ⟨[], rfl, nofun⟩
    | cons u parts ih =>
      obtain ⟨⟨label, rfl, hlabel⟩, hrest⟩ := List.forall_mem_cons.mp hparts
      obtain ⟨labels, hflat, hlabels⟩ := ih hrest
      exact ⟨label :: labels, by rw [List.flatten_cons, hflat, List.map_cons, List.flatten_cons],
        List.forall_mem_cons.mpr ⟨hlabel, hlabels⟩⟩
  · rintro ⟨labels, rfl, hlabels⟩
    exact ⟨labels.map ('.' :: ·), rfl,
      List.forall_mem_map.mpr fun label hlabel => ⟨label, rfl, hlabels label hlabel⟩⟩

theorem point_notMem_of_isLabel {label : List Char} (h : IsLabel label) : '.' ∉ label :=
  fun hmem => absurd (h.2 '.' hmem) (by decide)

/-- A domain is its labels with a point before each but the first. -/
theorem isDomain_iff :
    IsDomain domain ↔ ∃ first, ∃ middle : List (List Char), ∃ last, domain =
        first ++ ((middle.map ('.' :: ·)).flatten ++ '.' :: last) ∧
      IsLabel first ∧ (∀ label ∈ middle, IsLabel label) ∧ 2 ≤ last.length ∧
      ∀ c ∈ last, c.isAlpha = true := by
  have hjoin (first last : List Char) (middle : List (List Char)) :
      ['.'].intercalate (first :: (middle ++ [last])) =
        first ++ ((middle.map ('.' :: ·)).flatten ++ '.' :: last) := by
    rw [intercalate_cons, List.map_append, List.flatten_append, List.map_singleton,
      List.flatten_singleton]
  constructor
  · rintro ⟨labels, last, hsplit, hne, hlabels, hlength, halpha⟩
    cases labels with
    | nil => exact absurd rfl hne
    | cons first middle =>
      have hdomain : ['.'].intercalate (domain.splitOn '.') = domain :=
        List.intercalate_splitOn '.'
      rw [hsplit, List.cons_append, hjoin] at hdomain
      rw [List.cons_append] at hlabels
      obtain ⟨hfirst, hrest⟩ := List.forall_mem_cons.mp hlabels
      exact ⟨first, middle, last, hdomain.symm, hfirst, (List.forall_mem_append.mp hrest).1,
        hlength, halpha⟩
  · rintro ⟨first, middle, last, rfl, hfirst, hmiddle, hlength, halpha⟩
    have hlast : IsLabel last :=
      ⟨List.ne_nil_of_length_pos (by omega), fun c hc => isLabelChar_of_isAlpha (halpha c hc)⟩
    have hlabels : ∀ label ∈ first :: (middle ++ [last]), IsLabel label :=
      List.forall_mem_cons.mpr
        ⟨hfirst, List.forall_mem_append.mpr ⟨hmiddle, List.forall_mem_singleton.mpr hlast⟩⟩
    refine ⟨first :: middle, last, ?_, List.cons_ne_nil _ _, hlabels, hlength, halpha⟩
    rw [← hjoin]
    exact List.splitOn_intercalate '.'
      (fun label hlabel => point_notMem_of_isLabel (hlabels label hlabel)) (List.cons_ne_nil _ _)

theorem spells_domain_iff :
    Spells (seqAll [some1 (.one labelChars), many (seqAll [char '.', some1 (.one labelChars)]),
      char '.', .rep (.one letters) 2 none true]) domain ↔ IsDomain domain := by
  have hlast (last : List Char) : Spells (seqAll [.rep (.one letters) 2 none true]) last ↔
      2 ≤ last.length ∧ ∀ c ∈ last, c.isAlpha = true := by
    rw [seqAll_singleton, spells_rep_one_iff]
    simp only [contains_letters]
    exact ⟨fun h => ⟨h.2.1, h.1⟩, fun h => ⟨h.2, h.1, nofun⟩⟩
  rw [isDomain_iff, spells_seqAll_cons_iff]
  simp only [spells_seqAll_cons_iff (many _), spells_char_cons_iff, hlast,
    spells_label_iff, spells_labels_iff]
  constructor
  · rintro ⟨first, _, rfl, hfirst, _, _, rfl, ⟨middle, rfl, hmiddle⟩, last, rfl, hlast⟩
    exact ⟨first, middle, last, rfl, hfirst, hmiddle, hlast⟩
  · rintro ⟨first, middle, last, rfl, hfirst, hmiddle, hlast⟩
    exact ⟨first, _, rfl, hfirst, _, _, rfl, ⟨middle, rfl, hmiddle⟩, last, rfl, hlast⟩

theorem isLabelChar_or_eq_of_mem_domain (h : IsDomain domain) {c : Char} (hc : c ∈ domain) :
    isLabelChar c = true ∨ c = '.' := by
  obtain ⟨first, middle, last, rfl, hfirst, hmiddle, -, halpha⟩ := isDomain_iff.mp h
  simp only [List.mem_append, List.mem_cons, List.mem_flatten, List.mem_map] at hc
  rcases hc with hc | ⟨_, ⟨label, hlabel, rfl⟩, hc⟩ | hc | hc
  · exact .inl (hfirst.2 c hc)
  · exact (List.mem_cons.mp hc).elim .inr fun hc => .inl ((hmiddle label hlabel).2 c hc)
  · exact .inr hc
  · exact .inl (isLabelChar_of_isAlpha (halpha c hc))

theorem isEmail_iff : email.isMatch text = true ↔ IsAddress text := by
  have hname (name : List Char) : Spells (some1 (.one localChars)) name ↔
      name ≠ [] ∧ ∀ c ∈ name, isNameChar c = true := by
    rw [spells_some1_one_iff]
    simp only [contains_localChars]
  refine (isMatch_between_ends_iff [some1 (.one localChars), char '@',
    some1 (.one labelChars), many (seqAll [char '.', some1 (.one labelChars)]), char '.',
    .rep (.one letters) 2 none true] (by decide)).trans ?_
  rw [spells_seqAll_cons_iff]
  simp only [spells_char_cons_iff, hname, spells_domain_iff]
  constructor
  · rintro ⟨name, _, rfl, ⟨hne, hall⟩, domain, rfl, hdomain⟩
    have hat : '@' ∉ name := fun hmem => absurd (hall '@' hmem) (by decide)
    have hat' : '@' ∉ domain := fun hmem =>
      (isLabelChar_or_eq_of_mem_domain hdomain hmem).elim (absurd · (by decide))
        (absurd · (by decide))
    exact ⟨name, domain, rfl, hat, hat', hne, hall, hdomain⟩
  · rintro ⟨name, domain, rfl, -, -, hne, hall, hdomain⟩
    exact ⟨name, _, rfl, ⟨hne, hall⟩, domain, rfl, hdomain⟩

/-! ## Locators -/

theorem spells_scheme_iff {rest : List Pattern} :
    Spells (seqAll (altAll [literal "http", literal "https", literal "ftp"] :: literal "://" ::
        rest)) text ↔
      ∃ scheme ∈ schemes, ∃ w, text = scheme.toList ++ w ∧ Spells (seqAll rest) w := by
  have hscheme (u : List Char) :
      Spells (altAll [literal "http", literal "https", literal "ftp"]) u ↔
        u = "http".toList ∨ u = "https".toList ∨ u = "ftp".toList :=
    or_congr spells_literal_iff (or_congr spells_literal_iff spells_literal_iff)
  rw [spells_seqAll_cons_iff]
  simp only [spells_seqAll_cons_iff (literal _), spells_literal_iff, hscheme, schemes,
    List.mem_cons, List.not_mem_nil, or_false, exists_eq_or_imp, exists_eq_left]
  constructor
  · rintro ⟨_, _, rfl, rfl | rfl | rfl, _, w, rfl, rfl, hw⟩
    · exact .inl ⟨w, rfl, hw⟩
    · exact .inr (.inl ⟨w, rfl, hw⟩)
    · exact .inr (.inr ⟨w, rfl, hw⟩)
  · rintro (⟨w, rfl, hw⟩ | ⟨w, rfl, hw⟩ | ⟨w, rfl, hw⟩)
    · exact ⟨"http".toList, _, rfl, .inl rfl, "://".toList, w, rfl, rfl, hw⟩
    · exact ⟨"https".toList, _, rfl, .inr (.inl rfl), "://".toList, w, rfl, rfl, hw⟩
    · exact ⟨"ftp".toList, _, rfl, .inr (.inr rfl), "://".toList, w, rfl, rfl, hw⟩

theorem contains_hostChars_of_spells_port
    (h : Spells (optional (seqAll [char ':', some1 (.one Unicode.Category.decimalNumber)])) w) :
    ∀ c ∈ w, hostChars.contains c.toNat = true := by
  rcases spells_optional_iff.mp h with rfl | h
  · exact nofun
  · obtain ⟨digits, rfl, hdigits⟩ := spells_char_cons_iff.mp h
    exact List.forall_mem_cons.mpr ⟨contains_hostChars_iff.mpr (by decide), fun c hc =>
      contains_hostChars_of_decimalNumber ((spells_some1_one_iff.mp hdigits).2 c hc)⟩

/-- A path, a query or a fragment, or nothing. -/
theorem spells_tail_iff :
    Spells (optional (seqAll [.one tailStart, many (.one visibleChars)])) w ↔
      (∀ c ∈ w, isWhiteSpace c = false) ∧ ∀ c ∈ w.head?, endsAuthority c = true := by
  have hvisible : ∀ c, endsAuthority c = true → isWhiteSpace c = false := by
    intro c hc
    simp only [endsAuthority, Bool.or_eq_true, beq_iff_eq, or_assoc] at hc
    rcases hc with rfl | rfl | rfl <;> decide
  rw [spells_optional_iff, spells_seqAll_cons_iff]
  constructor
  · rintro (rfl | ⟨_, rest, rfl, ⟨c, rfl, hc⟩, hrest⟩)
    · exact ⟨nofun, nofun⟩
    · rw [contains_tailStart] at hc
      refine ⟨List.forall_mem_cons.mpr ⟨hvisible c hc, fun d hd => ?_⟩, ?_⟩
      · exact contains_visibleChars_iff.mp (spells_many_one_iff.mp hrest d hd)
      · rintro d hd
        exact Option.some.inj hd ▸ hc
  · rintro ⟨hall, hhead⟩
    cases w with
    | nil => exact .inl rfl
    | cons c rest =>
      obtain ⟨-, hrest⟩ := List.forall_mem_cons.mp hall
      exact .inr ⟨[c], rest, rfl, ⟨c, rfl, (contains_tailStart c).trans (hhead c rfl)⟩,
        spells_many_one_iff.mpr fun d hd => contains_visibleChars_iff.mpr (hrest d hd)⟩

theorem takeWhile_append_tail {authority tail : List Char}
    (h : ∀ c ∈ authority, endsAuthority c = false)
    (htail : ∀ c ∈ tail.head?, endsAuthority c = true) :
    (authority ++ tail).takeWhile (!endsAuthority ·) = authority := by
  rw [List.takeWhile_append_of_pos fun c hc => by rw [h c hc]; rfl]
  cases tail with
  | nil => exact List.append_nil authority
  | cons c rest =>
    rw [List.takeWhile_cons_of_neg (by rw [htail c rfl]; exact Bool.false_ne_true), List.append_nil]

theorem contains_hostChars_of_mem_takeWhile {rest : List Char}
    (h : ∀ c ∈ rest, isWhiteSpace c = false) :
    ∀ c ∈ rest.takeWhile (!endsAuthority ·), hostChars.contains c.toNat = true :=
  fun c hc => contains_hostChars_iff.mpr ⟨h c ((List.takeWhile_sublist _).mem hc),
    Bool.not_eq_eq_eq_not.mp (List.all_eq_true.mp List.all_takeWhile c hc)⟩

theorem endsAuthority_of_head?_dropWhile (rest : List Char) :
    ∀ c ∈ (rest.dropWhile (!endsAuthority ·)).head?, endsAuthority c = true := by
  intro c hc
  have h := List.head?_dropWhile_not (!endsAuthority ·) rest
  rw [hc] at h
  exact Bool.not_eq_eq_eq_not.mp h

/-- The pattern cuts an authority at any of its points that has characters before and behind it. -/
theorem spells_rest_iff {rest : List Char} :
    Spells (seqAll [some1 (.one hostChars), char '.', some1 (.one hostChars),
        optional (seqAll [char ':', some1 (.one Unicode.Category.decimalNumber)]),
        optional (seqAll [.one tailStart, many (.one visibleChars)])]) rest ↔
      (∀ c ∈ rest, isWhiteSpace c = false) ∧
        ∃ before after, rest.takeWhile (!endsAuthority ·) = before ++ '.' :: after ∧
          before ≠ [] ∧ after ≠ [] := by
  rw [spells_seqAll_cons_iff]
  simp only [spells_char_cons_iff, spells_seqAll_cons_iff (some1 _),
    spells_seqAll_cons_iff (optional (seqAll [char ':', _])),
    seqAll_singleton (optional (seqAll [.one tailStart, _])), spells_tail_iff, spells_some1_one_iff]
  constructor
  · rintro ⟨before, _, rfl, ⟨hne, hbefore⟩, _, rfl, after, _, rfl, ⟨hne', hafter⟩, port, tail, rfl,
      hport, hvisible, hhead⟩
    have hport := contains_hostChars_of_spells_port hport
    have hhost : ∀ c ∈ before ++ '.' :: (after ++ port), hostChars.contains c.toNat = true :=
      List.forall_mem_append.mpr ⟨hbefore, List.forall_mem_cons.mpr
        ⟨contains_hostChars_iff.mpr (by decide), List.forall_mem_append.mpr ⟨hafter, hport⟩⟩⟩
    have hsplit : before ++ '.' :: (after ++ (port ++ tail)) =
        before ++ '.' :: (after ++ port) ++ tail := by
      rw [List.append_assoc, List.cons_append, List.append_assoc]
    rw [hsplit]
    refine ⟨List.forall_mem_append.mpr ⟨fun c hc => ?_, hvisible⟩, before, after ++ port, ?_, hne,
      List.append_ne_nil_of_left_ne_nil hne' port⟩
    · exact (contains_hostChars_iff.mp (hhost c hc)).1
    · exact takeWhile_append_tail (fun c hc => (contains_hostChars_iff.mp (hhost c hc)).2) hhead
  · rintro ⟨hvisible, before, after, hauthority, hne, hne'⟩
    have hhost := contains_hostChars_of_mem_takeWhile hvisible
    have hsplit := List.takeWhile_append_dropWhile (p := (!endsAuthority ·)) (l := rest)
    rw [hauthority] at hhost hsplit
    rw [List.append_assoc, List.cons_append] at hsplit
    obtain ⟨hbefore, hafter⟩ := List.forall_mem_append.mp hhost
    obtain ⟨-, hafter⟩ := List.forall_mem_cons.mp hafter
    exact ⟨before, _, hsplit.symm, ⟨hne, hbefore⟩, _, rfl, after, _, rfl, ⟨hne', hafter⟩, [], _,
      rfl, spells_optional_iff.mpr (.inl rfl),
      fun c hc => hvisible c ((List.dropWhile_sublist _).mem hc),
      endsAuthority_of_head?_dropWhile rest⟩

theorem isUrl_iff : url.isMatch text = true ↔ IsLocator text := by
  refine (isMatch_between_ends_iff [altAll [literal "http", literal "https",
    literal "ftp"], literal "://", some1 (.one hostChars), char '.', some1 (.one hostChars),
    optional (seqAll [char ':', some1 (.one Unicode.Category.decimalNumber)]),
    optional (seqAll [.one tailStart, many (.one visibleChars)])] (by decide)).trans ?_
  simp only [spells_scheme_iff, spells_rest_iff]
  exact Iff.rfl

end Locator
end Format

namespace Rule

open Format.Locator

/-- The rules for mail addresses and for locators accept what is one, whatever way there is to match
it. -/
theorem evaluate_locators (text : String) :
    (evaluate (.trait .validEmail) (.str text) = .ok () ↔ IsAddress text.toList) ∧
      (evaluate (.trait .validUrl) (.str text) = .ok () ↔ IsLocator text.toList) :=
  ⟨ofFormat_eq_ok_iff.trans isEmail_iff, ofFormat_eq_ok_iff.trans isUrl_iff⟩

end Rule
end Amend
