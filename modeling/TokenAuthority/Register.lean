/-!
# Registers

Things under names, in the order of the names and each name once. Setting a name that is there
replaces its thing. Two registers hold the same things under the same names only if they are equal.
-/

namespace TokenAuthority

abbrev Entries (Thing : Type) := List (String × Thing)

namespace Entries

variable {Thing : Type}

def set (name : String) (thing : Thing) : Entries Thing → Entries Thing
  | [] => [(name, thing)]
  | (first, held) :: rest =>
      if name < first then (name, thing) :: (first, held) :: rest
      else if name = first then (name, thing) :: rest
      else (first, held) :: set name thing rest

def get? (name : String) : Entries Thing → Option Thing
  | [] => none
  | (first, thing) :: rest => if first = name then some thing else get? name rest

theorem get?_set_self (name : String) (thing : Thing) (entries : Entries Thing) :
    (set name thing entries).get? name = some thing := by
  induction entries with
  | nil => simp [set, get?]
  | cons entry rest hypothesis =>
      simp only [set]
      split
      · simp [get?]
      · split
        · simp [get?]
        · rename_i differ
          rw [get?, if_neg (Ne.symm differ)]
          exact hypothesis

theorem get?_set_of_ne {name other : String} (differ : other ≠ name) (thing : Thing)
    (entries : Entries Thing) : (set name thing entries).get? other = entries.get? other := by
  induction entries with
  | nil => simp [set, get?, differ.symm]
  | cons entry rest hypothesis =>
      simp only [set]
      split
      · simp [get?, differ.symm]
      · split
        · rename_i same
          rw [get?, get?, if_neg differ.symm, if_neg (same ▸ differ.symm)]
        · simp only [get?, hypothesis]

theorem mem_of_get? {name : String} {thing : Thing} {entries : Entries Thing}
    (found : entries.get? name = some thing) : (name, thing) ∈ entries := by
  induction entries with
  | nil => cases found
  | cons entry rest hypothesis =>
      rw [get?] at found
      split at found
      · rename_i same
        cases found
        exact same ▸ List.mem_cons_self
      · exact List.mem_cons_of_mem entry (hypothesis found)

/-- In the order of the names, each once. -/
def Ordered (entries : Entries Thing) : Prop :=
  entries.Pairwise fun left right => left.1 < right.1

theorem mem_set {name : String} {thing : Thing} {entries : Entries Thing}
    {entry : String × Thing} (member : entry ∈ set name thing entries) :
    entry = (name, thing) ∨ entry ∈ entries := by
  induction entries with
  | nil => simp_all [set]
  | cons first rest hypothesis =>
      simp only [set] at member
      split at member
      · simpa using member
      · split at member
        · simp only [List.mem_cons] at member ⊢
          rcases member with rfl | held
          · exact .inl rfl
          · exact .inr (.inr held)
        · simp only [List.mem_cons] at member ⊢
          rcases member with rfl | held
          · exact .inr (.inl rfl)
          · rcases hypothesis held with same | held
            · exact .inl same
            · exact .inr (.inr held)

theorem Ordered.set {entries : Entries Thing} (ordered : Ordered entries) (name : String)
    (thing : Thing) : Ordered (entries.set name thing) := by
  induction entries with
  | nil => simp [Entries.set, Ordered]
  | cons first rest hypothesis =>
      have ⟨above, others⟩ := List.pairwise_cons.mp ordered
      simp only [Entries.set]
      split
      · rename_i below
        refine List.pairwise_cons.mpr ⟨?_, ordered⟩
        intro entry member
        rcases List.mem_cons.mp member with rfl | member
        · exact below
        · exact String.lt_trans below (above entry member)
      · split
        · rename_i same
          exact List.pairwise_cons.mpr ⟨fun entry member => same ▸ above entry member, others⟩
        · rename_i notBelow differ
          refine List.pairwise_cons.mpr ⟨?_, hypothesis others⟩
          intro entry member
          rcases mem_set member with rfl | member
          · have reached : first.1 ≤ name := String.not_lt.mp notBelow
            exact Std.lt_of_le_of_ne reached (Ne.symm differ)
          · exact above entry member

end Entries

structure Register (Thing : Type) where
  entries : Entries Thing
  ordered : entries.Ordered

namespace Register

variable {Thing : Type}

def empty : Register Thing where
  entries := []
  ordered := List.Pairwise.nil

def set (register : Register Thing) (name : String) (thing : Thing) : Register Thing where
  entries := register.entries.set name thing
  ordered := register.ordered.set name thing

def get? (register : Register Thing) (name : String) : Option Thing :=
  register.entries.get? name

def names (register : Register Thing) : List String :=
  register.entries.map (·.1)

def ofList (things : List (String × Thing)) : Register Thing :=
  things.foldl (fun register thing => register.set thing.1 thing.2) empty

@[ext]
theorem ext {left right : Register Thing} (same : left.entries = right.entries) : left = right := by
  cases left
  cases right
  cases same
  rfl

@[simp]
theorem get?_set_self (register : Register Thing) (name : String) (thing : Thing) :
    (register.set name thing).get? name = some thing :=
  Entries.get?_set_self name thing register.entries

theorem get?_set_of_ne (register : Register Thing) {name other : String} (differ : other ≠ name)
    (thing : Thing) : (register.set name thing).get? other = register.get? other :=
  Entries.get?_set_of_ne differ thing register.entries

end Register

end TokenAuthority
