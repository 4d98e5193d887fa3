import TokenAuthority.Json.Record

/-!
# Fields of objects

Which document stands under a name of an object depends on the object alone, not on the other names
that a reader asks for. Two readers of one object therefore find the same under every name that both
know.
-/

namespace TokenAuthority.Json

def memberNamed? (name : String) (members : List (List Piece × Document)) : Option Document :=
  (members.find? fun member => Piece.text? member.1 == some name).map (·.2)

namespace Fields

theorem get?_cons_self (name : String) (value : Document) (fields : Fields) :
    get? name ((name, value) :: fields) = some value := by
  simp [get?]

theorem get?_cons_of_ne {key name : String} (differ : key ≠ name) (value : Document)
    (fields : Fields) : get? name ((key, value) :: fields) = get? name fields := by
  simp [get?, differ]

theorem memberNamed?_cons {key : List Piece} {text : String} (spelled : Piece.text? key = some text)
    (name : String) (value : Document) (rest : List (List Piece × Document)) :
    memberNamed? name ((key, value) :: rest) =
      if text = name then some value else memberNamed? name rest := by
  by_cases same : text = name
  · simp [memberNamed?, spelled, same]
  · simp [memberNamed?, spelled, same]

theorem get?_ofMembers? {names : List String} {strict : Bool} {name : String}
    (known : name ∈ names) {members : List (List Piece × Document)} {found fields : Fields}
    (read : ofMembers? names strict found members = some fields) :
    fields.get? name = (found.get? name).or (memberNamed? name members) := by
  induction members generalizing found with
  | nil =>
      cases read
      simp [memberNamed?]
  | cons member rest induction =>
      rcases member with ⟨key, value⟩
      cases spelled : Piece.text? key with
      | none => simp [ofMembers?, spelled] at read
      | some text =>
          rw [memberNamed?_cons spelled]
          simp only [ofMembers?, spelled] at read
          by_cases wanted : names.contains text = true
          · rw [if_pos wanted] at read
            -- A name that comes twice leaves nothing to be read.
            by_cases again : (found.get? text).isSome = true
            · rw [if_pos again] at read
              cases read
            · rw [if_neg again] at read
              rw [induction read]
              by_cases same : text = name
              · subst same
                have fresh : found.get? text = none := by simpa using again
                rw [get?_cons_self, fresh, if_pos rfl]
                rfl
              · rw [get?_cons_of_ne same, if_neg same]
          · rw [if_neg wanted] at read
            have differ : text ≠ name := by
              intro same
              exact wanted (by simpa [same] using known)
            rw [if_neg differ]
            cases strict with
            | true => cases read
            | false => exact induction read

theorem get?_ofDocument?_object {names : List String} {strict : Bool} {name : String}
    (known : name ∈ names) {members : List (List Piece × Document)} {fields : Fields}
    (read : ofDocument? names strict (.object members) = some fields) :
    fields.get? name = memberNamed? name members := by
  rw [get?_ofMembers? known read]
  rfl

theorem ofDocument?_array {names : List String} {strict : Bool} {items : List Document}
    {fields : Fields} (read : ofDocument? names strict (.array items) = some fields) :
    items.length ≤ names.length ∧ fields = names.zip items := by
  simp only [ofDocument?] at read
  split at read
  · rename_i fits
    exact ⟨fits, (Option.some.inj read).symm⟩
  · cases read

end Fields

end TokenAuthority.Json
