/-
Paths as text and as segments.  Splitting at the dots and joining with dots undo each other, so
a path is determined by its segments; the parent of a path has all of its segments but the last.
-/
import Amend.Path.Resolver

namespace Amend
namespace Path

theorem splitDots_of_not_mem {cs : List Char} (h : '.' ∉ cs) : splitDots cs = [cs] := by
  induction cs with
  | nil => rfl
  | cons c cs ih =>
    simp only [List.mem_cons, not_or] at h
    rw [splitDots, if_neg (Ne.symm h.1), ih h.2]

theorem splitDots_append_dot {part : List Char} (rest : List Char) (h : '.' ∉ part) :
    splitDots (part ++ '.' :: rest) = part :: splitDots rest := by
  induction part with
  | nil => rfl
  | cons c cs ih =>
    simp only [List.mem_cons, not_or] at h
    rw [List.cons_append, splitDots, if_neg (Ne.symm h.1), ih h.2]

theorem intercalate_splitDots (cs : List Char) : ['.'].intercalate (splitDots cs) = cs := by
  induction cs with
  | nil => rfl
  | cons c cs ih =>
    rw [splitDots]
    by_cases h : c = '.'
    · rw [if_pos h, List.intercalate_cons_of_ne_nil (splitDots_ne_nil cs), ih, h]
      rfl
    · rw [if_neg h]
      cases hs : splitDots cs with
      | nil => exact absurd hs (splitDots_ne_nil cs)
      | cons part rest =>
        rw [hs] at ih
        rw [List.intercalate_cons_cons_left, ih]

theorem not_mem_of_mem_splitDots {cs part : List Char} (h : part ∈ splitDots cs) :
    '.' ∉ part := by
  induction cs generalizing part with
  | nil =>
    rw [splitDots, List.mem_singleton] at h
    subst h
    exact List.not_mem_nil
  | cons c cs ih =>
    rw [splitDots] at h
    by_cases hc : c = '.'
    · rw [if_pos hc] at h
      rcases List.mem_cons.mp h with rfl | h
      · exact List.not_mem_nil
      · exact ih h
    · rw [if_neg hc] at h
      cases hs : splitDots cs with
      | nil => exact absurd hs (splitDots_ne_nil cs)
      | cons first rest =>
        rw [hs] at h ih
        rcases List.mem_cons.mp h with rfl | h
        · simp only [List.mem_cons, not_or]
          exact ⟨Ne.symm hc, ih List.mem_cons_self⟩
        · exact ih (List.mem_cons_of_mem _ h)

theorem splitDots_intercalate {parts : List (List Char)} (hne : parts ≠ [])
    (h : ∀ part ∈ parts, '.' ∉ part) : splitDots (['.'].intercalate parts) = parts := by
  induction parts with
  | nil => exact absurd rfl hne
  | cons part rest ih =>
    cases rest with
    | nil =>
      rw [List.intercalate_singleton]
      exact splitDots_of_not_mem (h part List.mem_cons_self)
    | cons second rest =>
      rw [List.intercalate_cons_cons, List.append_assoc, List.singleton_append,
        splitDots_append_dot _ (h part List.mem_cons_self),
        ih (List.cons_ne_nil _ _) (fun q hq => h q (List.mem_cons_of_mem _ hq))]

/-- The path with given segments. -/
def join (parts : List String) : String := ".".intercalate parts

/-- The path without its last segment. -/
def parent (path : String) : String := join (segments path).dropLast

theorem toList_join (parts : List String) :
    (join parts).toList = ['.'].intercalate (parts.map String.toList) :=
  String.toList_intercalate

theorem join_segments (path : String) : join (segments path) = path := by
  have hmap : (segments path).map String.toList = splitDots path.toList := by
    rw [segments, List.map_map]
    exact List.map_id'' (fun cs => String.toList_ofList) _
  apply String.toList_injective
  rw [toList_join, hmap, intercalate_splitDots]

/-- A path is determined by its segments. -/
theorem segments_injective {p q : String} (h : segments p = segments q) : p = q := by
  rw [← join_segments p, h, join_segments q]

theorem dot_not_mem_of_mem_segments {path part : String} (h : part ∈ segments path) :
    '.' ∉ part.toList := by
  obtain ⟨cs, hcs, rfl⟩ := List.mem_map.mp h
  rw [String.toList_ofList]
  exact not_mem_of_mem_splitDots hcs

theorem segments_join {parts : List String} (hne : parts ≠ [])
    (h : ∀ part ∈ parts, '.' ∉ part.toList) : segments (join parts) = parts := by
  have hdot : ∀ cs ∈ parts.map String.toList, '.' ∉ cs := by
    intro cs hcs
    obtain ⟨part, hpart, rfl⟩ := List.mem_map.mp hcs
    exact h part hpart
  rw [segments, toList_join, splitDots_intercalate (by simpa using hne) hdot, List.map_map]
  exact List.map_id'' (fun part => String.ofList_toList) _

theorem segments_of_not_dotted {path : String} (h : isDotted path = false) :
    segments path = [path] := by
  have hdot : '.' ∉ path.toList := by
    simpa [isDotted] using h
  rw [segments, splitDots_of_not_mem hdot, List.map_singleton, String.ofList_toList]

theorem dropLast_segments_ne_nil {path : String} (h : isDotted path = true) :
    (segments path).dropLast ≠ [] := by
  intro hnil
  cases hs : segments path with
  | nil => exact segments_ne_nil path hs
  | cons first rest =>
    cases rest with
    | nil =>
      have hfirst : first = path := by
        rw [← join_segments path, hs]
        rfl
      have hmem : first ∈ segments path := by
        rw [hs]
        exact List.mem_cons_self
      have hdot := dot_not_mem_of_mem_segments hmem
      rw [hfirst] at hdot
      exact hdot (by simpa [isDotted] using h)
    | cons second rest =>
      rw [hs, List.dropLast_cons_cons] at hnil
      exact List.cons_ne_nil _ _ hnil

theorem segments_parent {path : String} (h : isDotted path = true) :
    segments (parent path) = (segments path).dropLast :=
  segments_join (dropLast_segments_ne_nil h)
    (fun _ hpart => dot_not_mem_of_mem_segments (List.dropLast_subset _ hpart))

end Path
end Amend
