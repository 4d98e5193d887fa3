/-!
# Segments

A text cut at every place where a separator stands. There is always one segment more than there are
separators, and segments may be empty.
-/

namespace TokenAuthority.Text

def segments (separator : Char) : List Char → List (List Char)
  | [] => [[]]
  | value :: rest =>
      if value = separator then [] :: segments separator rest
      else
        match segments separator rest with
        | first :: others => (value :: first) :: others
        | [] => [[value]]

theorem segments_ne_nil (separator : Char) (text : List Char) : segments separator text ≠ [] := by
  induction text with
  | nil => simp [segments]
  | cons value rest hypothesis =>
      simp only [segments]
      split
      · simp
      · split <;> simp

theorem segments_append (separator : Char) (left right : List Char) :
    segments separator (left ++ separator :: right) =
      segments separator left ++ segments separator right := by
  induction left with
  | nil => simp [segments]
  | cons value rest hypothesis =>
      simp only [List.cons_append, segments, hypothesis]
      split
      · rfl
      · cases parts : segments separator rest with
        | nil => exact absurd parts (segments_ne_nil separator rest)
        | cons first others => rfl

theorem segments_of_not_mem {separator : Char} {text : List Char} (absent : separator ∉ text) :
    segments separator text = [text] := by
  induction text with
  | nil => rfl
  | cons value rest hypothesis =>
      rw [List.mem_cons, not_or] at absent
      simp only [segments, if_neg (Ne.symm absent.1), hypothesis absent.2]

example : segments '.' "a..b".toList = ["a".toList, [], "b".toList] := by decide

end TokenAuthority.Text
