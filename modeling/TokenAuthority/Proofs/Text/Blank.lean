import Mathlib.Data.List.Basic
import TokenAuthority.Text.Blank

/-!
# Texts between blanks

Trimming takes off the blanks at both ends and nothing else, so a text without blanks is what is
left of it with blanks around it.
-/

namespace TokenAuthority.Text

variable {before chars after : List Char}

theorem exists_blanks_trimChars (chars : List Char) :
    ∃ before after, chars = before ++ trimChars chars ++ after ∧
      (∀ value ∈ before, isBlank value = true) ∧ ∀ value ∈ after, isBlank value = true := by
  let front := chars.dropWhile isBlank
  refine ⟨chars.takeWhile isBlank, (front.reverse.takeWhile isBlank).reverse, ?_, ?_, ?_⟩
  · have back : trimEndChars front ++ (front.reverse.takeWhile isBlank).reverse = front := by
      rw [trimEndChars, ← List.reverse_append, List.takeWhile_append_dropWhile,
        List.reverse_reverse]
    change chars = chars.takeWhile isBlank ++ trimEndChars front ++ _
    rw [List.append_assoc, back]
    exact List.takeWhile_append_dropWhile.symm
  · intro value member
    exact List.all_eq_true.mp List.all_takeWhile value member
  · intro value member
    exact List.all_eq_true.mp List.all_takeWhile value (List.mem_reverse.mp member)

theorem dropWhile_isBlank_append (beforeBlank : ∀ value ∈ before, isBlank value = true)
    (stops : ∀ value ∈ chars.head?, isBlank value = false) :
    (before ++ chars).dropWhile isBlank = chars := by
  rw [List.dropWhile_append_of_pos beforeBlank]
  cases chars with
  | nil => rfl
  | cons first rest => rw [List.dropWhile_cons_of_neg (by simp [stops first rfl])]

theorem trimChars_append (beforeBlank : ∀ value ∈ before, isBlank value = true)
    (noBlank : ∀ value ∈ chars, isBlank value = false)
    (afterBlank : ∀ value ∈ after, isBlank value = true) :
    trimChars (before ++ chars ++ after) = chars := by
  by_cases nothing : chars = []
  · have blank : ∀ value ∈ before ++ after, isBlank value = true :=
      List.forall_mem_append.mpr ⟨beforeBlank, afterBlank⟩
    have gone := @dropWhile_isBlank_append (before ++ after) [] blank nofun
    rw [List.append_nil] at gone
    rw [nothing, List.append_nil, trimChars, gone]
    rfl
  · have stopsInFront : ∀ value ∈ (chars ++ after).head?, isBlank value = false := by
      rw [List.head?_append_of_ne_nil chars nothing]
      exact fun value isFirst => noBlank value (List.mem_of_mem_head? isFirst)
    have stopsBehind : ∀ value ∈ chars.reverse.head?, isBlank value = false :=
      fun value isLast => noBlank value (List.mem_reverse.mp (List.mem_of_mem_head? isLast))
    have afterReversed : ∀ value ∈ after.reverse, isBlank value = true :=
      fun value member => afterBlank value (List.mem_reverse.mp member)
    rw [trimChars, List.append_assoc, dropWhile_isBlank_append beforeBlank stopsInFront,
      trimEndChars, List.reverse_append, dropWhile_isBlank_append afterReversed stopsBehind,
      List.reverse_reverse]

theorem trimChars_eq_self (noBlank : ∀ value ∈ chars, isBlank value = false) :
    trimChars chars = chars := by
  have kept := @trimChars_append [] chars [] nofun noBlank nofun
  rwa [List.nil_append, List.append_nil] at kept

end TokenAuthority.Text
