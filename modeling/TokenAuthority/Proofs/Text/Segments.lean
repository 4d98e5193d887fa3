import Mathlib.Data.List.Basic
import TokenAuthority.Text.Segments

/-!
# Segments and the text they make

Cutting a text at its separators and putting the segments together with separators between them undo
each other, as long as no segment has a separator in it.
-/

namespace TokenAuthority.Text

variable {separator : Char} {text : List Char} {parts : List (List Char)}

theorem flatMap_segments (separator : Char) (text : List Char) :
    (segments separator text).flatMap (separator :: ·) = separator :: text := by
  induction text with
  | nil => rfl
  | cons value rest induction =>
      simp only [segments]
      split
      · rename_i isSeparator
        simp only [List.flatMap_cons, induction, List.cons_append, List.nil_append, isSeparator]
      · cases parts : segments separator rest with
        | nil => exact absurd parts (segments_ne_nil separator rest)
        | cons first others =>
            simp only [parts, List.flatMap_cons, List.cons_append, List.cons.injEq,
              true_and] at induction ⊢
            exact induction

theorem flatMap_eq_intercalate (separator : Char) (first : List Char) (rest : List (List Char)) :
    (first :: rest).flatMap (separator :: ·) =
      separator :: [separator].intercalate (first :: rest) := by
  induction rest generalizing first with
  | nil => simp
  | cons second others induction =>
      rw [List.flatMap_cons, induction second, List.intercalate_cons_cons]
      simp

theorem intercalate_segments (separator : Char) (text : List Char) :
    [separator].intercalate (segments separator text) = text := by
  have whole := flatMap_segments separator text
  cases parts : segments separator text with
  | nil => exact absurd parts (segments_ne_nil separator text)
  | cons first rest =>
      rw [parts, flatMap_eq_intercalate] at whole
      exact List.tail_eq_of_cons_eq whole

theorem not_mem_of_mem_segments {part : List Char} (member : part ∈ segments separator text) :
    separator ∉ part := by
  induction text generalizing part with
  | nil => simp_all [segments]
  | cons value rest induction =>
      simp only [segments] at member
      split at member
      · rcases List.mem_cons.mp member with rfl | member
        · exact List.not_mem_nil
        · exact induction member
      · rename_i differs
        cases parts : segments separator rest with
        | nil => exact absurd parts (segments_ne_nil separator rest)
        | cons first others =>
            rw [parts] at member induction
            rcases List.mem_cons.mp member with rfl | member
            · rw [List.mem_cons, not_or]
              exact ⟨Ne.symm differs, induction List.mem_cons_self⟩
            · exact induction (List.mem_cons_of_mem _ member)

theorem segments_intercalate (nonempty : parts ≠ [])
    (inside : ∀ part ∈ parts, separator ∉ part) :
    segments separator ([separator].intercalate parts) = parts := by
  induction parts with
  | nil => exact absurd rfl nonempty
  | cons first rest induction =>
      have firstAlone := segments_of_not_mem (inside first List.mem_cons_self)
      cases rest with
      | nil => rw [List.intercalate_singleton, firstAlone]
      | cons second others =>
          have further := induction (List.cons_ne_nil _ _) fun part member =>
            inside part (List.mem_cons_of_mem _ member)
          rw [List.intercalate_cons_cons, List.append_assoc, List.singleton_append,
            segments_append, firstAlone, further, List.singleton_append]

theorem exists_segment_of_mem {value : Char} (member : value ∈ text) (differs : value ≠ separator) :
    ∃ part ∈ segments separator text, value ∈ part := by
  have among : value ∈ (segments separator text).flatMap (separator :: ·) := by
    rw [flatMap_segments]
    exact List.mem_cons_of_mem separator member
  rcases List.mem_flatMap.mp among with ⟨part, isPart, inPart⟩
  exact ⟨part, isPart, (List.mem_cons.mp inPart).resolve_left differs⟩

end TokenAuthority.Text
