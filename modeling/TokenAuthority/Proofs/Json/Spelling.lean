import TokenAuthority.Proofs.Json.Numbers
import TokenAuthority.Proofs.Text.Utf8

/-!
# Spelled documents

A text spells a document if the reader, whatever containers are open, supplies that document when it
is through with the text. Written strings and written integers spell documents.
-/

namespace TokenAuthority.Json

open Text (Glyph)

namespace Reader

def takeAll (reader : Reader) (chars : List Char) : Option Reader :=
  chars.foldlM take reader

theorem takeAll_cons (reader : Reader) (first : Char) (rest : List Char) :
    reader.takeAll (first :: rest) = (reader.take first).bind (·.takeAll rest) :=
  List.foldlM_cons

theorem takeAll_append (reader : Reader) (front rest : List Char) :
    reader.takeAll (front ++ rest) = (reader.takeAll front).bind (·.takeAll rest) :=
  List.foldlM_append

theorem takeAll_singleton (reader : Reader) (only : Char) :
    reader.takeAll [only] = reader.take only := by
  rw [takeAll_cons]
  cases reader.take only <;> rfl

def closings : List Char := [',', ']', '\x7d']

theorem expected_supply {stack : List Frame} {value : Document} {after : Reader}
    (supplied : supply stack value = some after) :
    after.expected = .delimiter ∨ after.expected = .nothing value := by
  unfold supply at supplied
  split at supplied
  · cases supplied
    exact .inr rfl
  · cases supplied
    exact .inl rfl
  · cases supplied
    exact .inl rfl
  · cases supplied

end Reader

open Reader

/-- Whether a text, wherever a value may stand, is read as a certain document. The text shows what
it is with its first character, and does not begin like the end of an array. -/
structure Spells (chars : List Char) (document : Document) : Prop where
  first : ∃ first rest, chars = first :: rest ∧ isBlank first = false ∧ first ≠ ']'
  inside : ∀ stack, ∀ closing ∈ closings,
    Reader.takeAll { stack, expected := .value } (chars ++ [closing]) =
      (supply stack document).bind (·.take closing)
  whole : (start.takeAll chars).bind finish = some document

theorem spells_of_supplies {chars : List Char} {document : Document}
    (first : ∃ first rest, chars = first :: rest ∧ isBlank first = false ∧ first ≠ ']')
    (supplies : ∀ stack,
      Reader.takeAll { stack, expected := .value } chars = supply stack document) :
    Spells chars document where
  first := first
  inside := by
    intro stack closing _
    rw [takeAll_append, supplies]
    simp only [takeAll_singleton]
  whole := by
    rw [show start = { stack := [], expected := .value } from rfl, supplies]
    rfl

/-! ## Strings -/

/-- How a character is read again once it is written: with a short escape or bare as itself, and
with a long escape as a unit. -/
def Piece.ofChar (value : Char) : Piece :=
  if value ∈ ['\n', '\r', '\t'] ∨ value.toNat = 8 ∨ value.toNat = 12 ∨ 0x20 ≤ value.toNat then
    .char value
  else .unit value.toNat

def pieces (text : String) : List Piece :=
  text.toList.map Piece.ofChar

theorem Piece.textBehind?_unit (read : List Char) {unit : Nat} (control : unit < 0x20)
    (rest : List Piece) :
    textBehind? read (.unit unit :: rest) = textBehind? (Char.ofNat unit :: read) rest := by
  have notLeading : isLeading unit = false := by
    simp only [isLeading, Bool.and_eq_false_iff, decide_eq_false_iff_not]
    omega
  have notTrailing : isTrailing unit = false := by
    simp only [isTrailing, Bool.and_eq_false_iff, decide_eq_false_iff_not]
    omega
  cases rest with
  | nil => simp [textBehind?, notLeading, notTrailing]
  | cons next others => cases next <;> simp [textBehind?, notLeading, notTrailing]

theorem Piece.textBehind?_ofChar (read : List Char) (value : Char) (rest : List Piece) :
    textBehind? read (ofChar value :: rest) = textBehind? (value :: read) rest := by
  unfold ofChar
  split
  · rw [textBehind?]
  · rename_i control
    have small : value.toNat < 0x20 := by
      simp only [not_or] at control
      omega
    rw [textBehind?_unit _ small, Char.ofNat_toNat]

theorem text?_pieces (text : String) : Piece.text? (pieces text) = some text := by
  have behind : ∀ (chars read : List Char), Piece.textBehind? read (chars.map Piece.ofChar) =
      some (String.ofList (read.reverse ++ chars)) := by
    intro chars
    induction chars with
    | nil =>
        intro read
        simp [Piece.textBehind?]
    | cons value rest induction =>
        intro read
        rw [List.map_cons, Piece.textBehind?_ofChar, induction]
        simp
  rw [Piece.text?, pieces, behind, List.reverse_nil, List.nil_append, String.ofList_toList]

theorem hexValue?_lowerHexDigit :
    ∀ value < 16, Text.hexValue? (lowerHexDigit value) = some value := by
  decide

theorem take_unit (stack : List Frame) (isKey : Bool) (read : List Piece) (missing value : Nat)
    {glyph : Char} {digit : Nat} (isDigit : Text.hexValue? glyph = some digit) :
    Reader.take { stack, expected := .unit isKey read missing value } glyph =
      if missing ≤ 1 then
        some { stack, expected := .text isKey (.unit (value * 16 + digit) :: read) }
      else some { stack, expected := .unit isKey read (missing - 1) (value * 16 + digit) } := by
  simp only [take, isDigit, Option.bind_some]

theorem takeAll_longEscape (stack : List Frame) (isKey : Bool) (read : List Piece) {unit : Nat}
    (small : unit < 256) :
    Reader.takeAll { stack, expected := .text isKey read }
        ['\\', 'u', '0', '0', lowerHexDigit (unit / 16), lowerHexDigit (unit % 16)] =
      some { stack, expected := .text isKey (.unit unit :: read) } := by
  have zero : Text.hexValue? '0' = some 0 := rfl
  have high := hexValue?_lowerHexDigit (unit / 16) (by omega)
  have low := hexValue?_lowerHexDigit (unit % 16) (by omega)
  have opened : Reader.takeAll { stack, expected := .text isKey read } ['\\', 'u'] =
      some { stack, expected := .unit isKey read 4 0 } := rfl
  have same : (0 * 16 + unit / 16) * 16 + unit % 16 = unit := by omega
  rw [show ['\\', 'u', '0', '0', lowerHexDigit (unit / 16), lowerHexDigit (unit % 16)] =
      ['\\', 'u'] ++ ['0', '0', lowerHexDigit (unit / 16), lowerHexDigit (unit % 16)] from rfl,
    takeAll_append, opened, Option.bind_some]
  rw [takeAll_cons, take_unit _ _ _ _ _ zero, if_neg (by decide), Option.bind_some,
    takeAll_cons, take_unit _ _ _ _ _ zero, if_neg (by decide), Option.bind_some,
    takeAll_cons, take_unit _ _ _ _ _ high, if_neg (by decide), Option.bind_some,
    takeAll_singleton, take_unit _ _ _ _ _ low, if_pos (by decide)]
  simp only [Nat.zero_mul, Nat.add_zero, Nat.zero_add] at same ⊢
  rw [same]

theorem takeAll_writeChar (stack : List Frame) (isKey : Bool) (read : List Piece) (value : Char) :
    Reader.takeAll { stack, expected := .text isKey read } (writeChar value) =
      some { stack, expected := .text isKey (Piece.ofChar value :: read) } := by
  unfold writeChar
  split
  · rename_i quote
    subst quote
    rfl
  split
  · rename_i backslash
    subst backslash
    rfl
  split
  · rename_i lineFeed
    subst lineFeed
    rfl
  split
  · rename_i carriageReturn
    subst carriageReturn
    rfl
  split
  · rename_i tab
    subst tab
    rfl
  split
  · rename_i backspace
    have same : value = Char.ofNat 8 := by rw [← backspace, Char.ofNat_toNat]
    subst same
    rfl
  split
  · rename_i formFeed
    have same : value = Char.ofNat 12 := by rw [← formFeed, Char.ofNat_toNat]
    subst same
    rfl
  split
  · rename_i noLineFeed noReturn noTab noBackspace noFormFeed control
    -- Characters below the blank without a short escape are written by their numbers.
    have piece : Piece.ofChar value = .unit value.toNat := by
      unfold Piece.ofChar
      rw [if_neg]
      simp only [List.mem_cons, List.not_mem_nil, noLineFeed, noReturn, noTab, noBackspace,
        noFormFeed, false_or, Nat.not_le]
      exact control
    rw [piece, takeAll_longEscape _ _ _ (by omega)]
  · rename_i noQuote noBackslash noLineFeed noReturn noTab noBackspace noFormFeed noControl
    have piece : Piece.ofChar value = .char value := by
      unfold Piece.ofChar
      rw [if_pos]
      simp only [Nat.not_lt] at noControl
      exact .inr (.inr (.inr noControl))
    rw [takeAll_singleton, piece]
    simp only [take, noQuote, noBackslash, noControl, if_false]

theorem takeAll_behindQuote (stack : List Frame) (isKey : Bool) (text : String) :
    Reader.takeAll { stack, expected := .text isKey [] }
        (text.toList.flatMap writeChar ++ ['"']) =
      endText stack isKey (pieces text).reverse := by
  have behind : ∀ (chars : List Char) (read : List Piece),
      Reader.takeAll { stack, expected := .text isKey read } (chars.flatMap writeChar) =
        some { stack, expected := .text isKey ((chars.map Piece.ofChar).reverse ++ read) } := by
    intro chars
    induction chars with
    | nil =>
        intro read
        rfl
    | cons value rest induction =>
        intro read
        rw [List.flatMap_cons, takeAll_append, takeAll_writeChar, Option.bind_some, induction]
        simp
  rw [takeAll_append, behind, Option.bind_some, takeAll_singleton, List.append_nil]
  rfl

theorem toList_writeString (text : String) :
    (writeString text).toList = '"' :: (text.toList.flatMap writeChar ++ ['"']) := by
  simp [writeString]

theorem spells_writeString (text : String) :
    Spells (writeString text).toList (.text (pieces text)) := by
  apply spells_of_supplies
  · rw [toList_writeString]
    exact ⟨'"', _, rfl, by decide, by decide⟩
  · intro stack
    have quote : take { stack, expected := .value } '"' =
        some { stack, expected := .text false [] } := rfl
    have ended (read : List Piece) : endText stack false read = supply stack (.text read.reverse) :=
      rfl
    rw [toList_writeString, takeAll_cons, quote, Option.bind_some, takeAll_behindQuote, ended,
      List.reverse_reverse]

/-! ## Integers -/

def behindDigits (stack : List Frame) (negative : Bool) (whole : List Nat) : Reader where
  stack := stack
  expected := .number .whole (.ofWhole negative whole)

theorem takeAll_digits (stack : List Frame) (negative : Bool) (whole : List Nat)
    {digits : List Char} (areDigits : ∀ digit ∈ digits, digit.isDigit = true) :
    (behindDigits stack negative whole).takeAll digits =
      some (behindDigits stack negative ((digits.map digitOf).reverse ++ whole)) := by
  induction digits generalizing whole with
  | nil => rfl
  | cons first rest induction =>
      rcases List.forall_mem_cons.mp areDigits with ⟨isDigit, others⟩
      have extended : extend .whole (.ofWhole negative whole) first =
          some (.whole, .ofWhole negative (digitOf first :: whole)) := by
        simp only [extend, isDigit, if_true]
        rfl
      have taken : (behindDigits stack negative whole).take first =
          some (behindDigits stack negative (digitOf first :: whole)) := by
        simp only [take, behindDigits, extended]
      rw [takeAll_cons, taken, Option.bind_some, induction _ others]
      simp

theorem openValue_digit (stack : List Frame) {first : Char} (nonzero : first ≠ '0')
    (isDigit : first.isDigit = true) :
    openValue stack first = some (behindDigits stack false [digitOf first]) := by
  have differs (other : Char) : other.isDigit = false → first ≠ other := ne_of_isDigit isDigit
  simp only [openValue, differs '"' rfl, differs '[' rfl, differs '\x7b' rfl, differs 't' rfl,
    differs 'f' rfl, differs 'n' rfl, differs '-' rfl, nonzero, isDigit, if_true, if_false]
  rfl

theorem isBlank_of_isDigit {value : Char} (isDigit : value.isDigit = true) :
    isBlank value = false := by
  have differs (other : Char) : other.isDigit = false → value ≠ other := ne_of_isDigit isDigit
  simp [isBlank, differs ' ' rfl, differs '\t' rfl, differs '\n' rfl, differs '\r' rfl]

theorem takeAll_writeInt (stack : List Frame) (value : Int) :
    ∃ digits read, Digits.complete digits = true ∧ inOrder read = Numeral.ofInt value ∧
      Reader.takeAll { stack, expected := .value } (writeInt value).toList =
        some { stack, expected := .number digits read } := by
  rcases Nat.eq_zero_or_pos value.natAbs with zero | positive
  · have same : value = 0 := by omega
    subst same
    exact ⟨.zero, .ofWhole false [0], rfl, rfl, rfl⟩
  rcases toDigits_eq_cons positive with ⟨first, rest, same, nonzero, isDigit⟩
  have others : ∀ digit ∈ rest, digit.isDigit = true := by
    intro digit member
    have among : digit ∈ Nat.toDigits 10 value.natAbs := by
      rw [same]
      exact List.mem_cons_of_mem first member
    exact Nat.isDigit_of_mem_toDigits (by decide) (by decide) among
  have ordered : inOrder (.ofWhole (value < 0) ((rest.map digitOf).reverse ++ [digitOf first])) =
      Numeral.ofInt value := by
    simp [inOrder, Numeral.ofInt, Numeral.ofWhole, same]
  refine ⟨.whole, _, rfl, ordered, ?_⟩
  by_cases negative : value < 0
  · have text : (writeInt value).toList = ['-'] ++ first :: rest := by
      simp [writeInt, negative, same]
    have sign : Reader.takeAll { stack, expected := .value } ['-'] =
        some { stack, expected := .number .sign (.ofWhole true []) } := rfl
    have extended : extend .sign (.ofWhole true []) first =
        some (.whole, .ofWhole true [digitOf first]) := by
      simp only [extend, nonzero, isDigit, if_true, if_false]
      rfl
    rw [text, takeAll_append, sign, Option.bind_some, takeAll_cons, decide_eq_true negative]
    simp only [take, extended, Option.bind_some]
    exact takeAll_digits stack true _ others
  · have text : (writeInt value).toList = first :: rest := by
      simp [writeInt, negative, same]
    have opened : take { stack, expected := .value } first = openValue stack first := by
      simp only [take, isBlank_of_isDigit isDigit, Bool.false_eq_true, if_false]
    rw [text, takeAll_cons, opened, openValue_digit stack nonzero isDigit, Option.bind_some,
      decide_eq_false negative]
    exact takeAll_digits stack false _ others

theorem take_number {digits : Digits} (complete : digits.complete = true) (stack : List Frame)
    (read : Numeral) {closing : Char} (closes : closing ∈ closings) :
    Reader.take { stack, expected := .number digits read } closing =
      (supply stack (.number (inOrder read))).bind (·.take closing) := by
  have ends : extend digits read closing = none := by
    simp only [closings, List.mem_cons, List.not_mem_nil, or_false] at closes
    rcases closes with rfl | rfl | rfl
    · cases digits <;> rfl
    · cases digits <;> rfl
    · cases digits <;> rfl
  simp only [take, ends, complete, if_true, Option.bind_eq_bind]
  cases supplied : supply stack (.number (inOrder read)) with
  | none => rfl
  | some after =>
      rcases expected_supply supplied with expecting | expecting
      · simp only [Option.bind_some, expecting]
      · simp only [Option.bind_some, expecting]

theorem spells_writeInt (value : Int) :
    Spells (writeInt value).toList (.number (Numeral.ofInt value)) where
  first := by
    by_cases negative : value < 0
    · have text : (writeInt value).toList = '-' :: Nat.toDigits 10 value.natAbs := by
        simp [writeInt, negative]
      exact ⟨'-', _, text, by decide, by decide⟩
    · have text : (writeInt value).toList = Nat.toDigits 10 value.natAbs := by
        simp [writeInt, negative]
      cases digits : Nat.toDigits 10 value.natAbs with
      | nil => exact absurd digits Nat.toDigits_ne_nil
      | cons first rest =>
          have among : first ∈ Nat.toDigits 10 value.natAbs := by
            rw [digits]
            exact List.mem_cons_self
          have isDigit : first.isDigit = true :=
            Nat.isDigit_of_mem_toDigits (by decide) (by decide) among
          exact ⟨first, rest, text.trans digits, isBlank_of_isDigit isDigit,
            ne_of_isDigit isDigit rfl⟩
  inside := by
    intro stack closing closes
    rcases takeAll_writeInt stack value with ⟨digits, read, complete, same, taken⟩
    rw [takeAll_append, taken, Option.bind_some, takeAll_singleton,
      take_number complete stack read closes, same]
  whole := by
    rcases takeAll_writeInt [] value with ⟨digits, read, complete, same, taken⟩
    rw [start, taken, Option.bind_some, ← same]
    simp only [finish, complete, if_true]

end TokenAuthority.Json
