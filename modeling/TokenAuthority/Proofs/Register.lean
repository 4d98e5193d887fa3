import Mathlib.Data.List.Sort
import TokenAuthority.Register

/-!
# What registers hold

A register is known by what it holds under each name. It holds of a list of things the last of each
name, so that the order of the list does not matter where no two things have one name.
-/

namespace TokenAuthority

variable {Thing : Type}

namespace Entries

variable {entries left right : Entries Thing} {name : String} {thing : Thing}

theorem get?_eq_some_iff_first :
    entries.get? name = some thing ↔ ∃ before after, entries = before ++ (name, thing) :: after ∧
      ∀ entry ∈ before, entry.1 ≠ name := by
  induction entries with
  | nil => simp [get?]
  | cons first rest induction =>
      rw [get?]
      constructor
      · intro found
        split at found
        · rename_i same
          cases found
          exact ⟨[], rest, by rw [← same, List.nil_append], by simp⟩
        · rename_i differ
          rcases induction.mp found with ⟨before, after, rfl, others⟩
          exact ⟨first :: before, after, rfl, List.forall_mem_cons.mpr ⟨differ, others⟩⟩
      · rintro ⟨before, after, whole, others⟩
        cases before with
        | nil =>
            cases whole
            rw [if_pos rfl]
        | cons head before =>
            cases whole
            rw [List.forall_mem_cons] at others
            rw [if_neg others.1]
            exact induction.mpr ⟨before, after, rfl, others.2⟩

theorem Ordered.get?_eq_some_iff (ordered : entries.Ordered) :
    entries.get? name = some thing ↔ (name, thing) ∈ entries := by
  refine ⟨mem_of_get?, ?_⟩
  intro member
  induction entries with
  | nil => cases member
  | cons first rest induction =>
      rcases List.pairwise_cons.mp ordered with ⟨above, others⟩
      rcases List.mem_cons.mp member with rfl | member
      · rw [get?, if_pos rfl]
      · have differ : first.1 ≠ name := Std.ne_of_lt (above _ member)
        rw [get?, if_neg differ]
        exact induction others member

theorem Ordered.eq_of_get? (leftOrdered : left.Ordered) (rightOrdered : right.Ordered)
    (same : ∀ name, left.get? name = right.get? name) : left = right := by
  have asymmetric : Std.Antisymm fun one other : String × Thing => one.1 < other.1 :=
    ⟨fun _ _ below above => absurd (String.lt_trans below above) (String.lt_irrefl _)⟩
  have irreflexive : Std.Irrefl fun one other : String × Thing => one.1 < other.1 :=
    ⟨fun _ => Std.lt_irrefl⟩
  apply List.Pairwise.eq_of_mem_iff leftOrdered rightOrdered
  rintro ⟨name, thing⟩
  rw [← leftOrdered.get?_eq_some_iff, ← rightOrdered.get?_eq_some_iff, same]

end Entries

namespace Register

variable {register left right : Register Thing}

theorem get?_eq_some_iff {name : String} {thing : Thing} :
    register.get? name = some thing ↔ (name, thing) ∈ register.entries :=
  register.ordered.get?_eq_some_iff

theorem ext_get? (same : ∀ name, left.get? name = right.get? name) : left = right :=
  ext (left.ordered.eq_of_get? right.ordered same)

theorem nodup_names (register : Register Thing) : register.names.Nodup := by
  refine List.pairwise_map.mpr (register.ordered.imp ?_)
  intro one other below
  exact Std.ne_of_lt below

theorem mem_names_iff {name : String} :
    name ∈ register.names ↔ ∃ thing, register.get? name = some thing := by
  simp only [names, List.mem_map, get?_eq_some_iff, Prod.exists, exists_and_right, exists_eq_right]

end Register

end TokenAuthority
