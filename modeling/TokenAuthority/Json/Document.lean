import TokenAuthority.Json.Binary64
import TokenAuthority.Word

/-!
# JSON as written

A document keeps what the text says before anything is made of it: numbers as spelled, strings
piece by piece, members in order and repeated as often as they stand there. What a document means
is up to the reader of it: a member that nobody asks for may hold a number without bounds or half a
surrogate pair.
-/

namespace TokenAuthority.Json

/-- A number as spelled. `fraction` is empty if and only if no point is written. -/
structure Numeral where
  negative : Bool
  whole : List Nat
  fraction : List Nat
  /-- Whether a minus sign precedes the digits of the exponent, and the digits. -/
  exponent : Option (Bool × List Nat)
  deriving DecidableEq, Repr

/-- A part of a string: a character, a sixteen-bit unit from an escape, or bytes without meaning. -/
inductive Piece where
  | char (value : Char)
  | unit (value : Nat)
  | broken
  deriving DecidableEq, Repr

inductive Document where
  | null
  | bool (value : Bool)
  | number (spelling : Numeral)
  | text (pieces : List Piece)
  | array (items : List Document)
  | object (members : List (List Piece × Document))

/-! ## Strings -/

def isLeading (unit : Nat) : Bool := 0xD800 ≤ unit && unit < 0xDC00

def isTrailing (unit : Nat) : Bool := 0xDC00 ≤ unit && unit < 0xE000

/-- The text of the pieces behind `read`, latest first: the units of a pair make one character, and
half a pair or a broken piece makes no text at all. -/
def Piece.textBehind? (read : List Char) : List Piece → Option String
  | [] => some (String.ofList read.reverse)
  | .char value :: rest => textBehind? (value :: read) rest
  | .unit first :: .unit second :: rest =>
      if isLeading first && isTrailing second then
        textBehind? (Char.ofNat (0x10000 + (first - 0xD800) * 1024 + (second - 0xDC00)) :: read) rest
      else if isLeading first || isTrailing first then none
      else textBehind? (Char.ofNat first :: read) (.unit second :: rest)
  | .unit single :: rest =>
      if isLeading single || isTrailing single then none
      else textBehind? (Char.ofNat single :: read) rest
  | .broken :: _ => none

def Piece.text? (pieces : List Piece) : Option String :=
  Piece.textBehind? [] pieces

/-! ## Numbers -/

inductive Number where
  | integer (value : Int)
  | float (value : Binary64)
  deriving DecidableEq, Repr

namespace Numeral

def significandLimit : Nat := Word.size64

/-- Appends digits to a significand as long as it stays below the limit. Gives the significand and
the digits left over, the first of which would have passed the limit. -/
def gather (significand : Nat) : List Nat → Nat × List Nat
  | [] => (significand, [])
  | digit :: rest =>
      let next := significand * 10 + digit
      if next < significandLimit then gather next rest else (significand, digit :: rest)

def boundedValue (bound : Nat) (digits : List Nat) : Nat :=
  digits.foldl (fun value digit => min bound (value * 10 + digit)) 0

/-- An exponent beyond this is as good as any other. -/
private def exponentBound : Nat := Word.half32

private def exponentValue (spelling : Numeral) : Int :=
  match spelling.exponent with
  | none => 0
  | some (true, digits) => -(boundedValue exponentBound digits : Int)
  | some (false, digits) => boundedValue exponentBound digits

/-- The decimal that a numeral with a point or an exponent stands for. Digits that no longer fit the
significand count as zeros before the point and are left out behind it. -/
def float? (spelling : Numeral) : Option Binary64 :=
  let (whole, beyond) := gather 0 spelling.whole
  let (significand, ignored) := gather whole spelling.fraction
  let places : Int := (beyond.length : Int) - (spelling.fraction.length - ignored.length : Nat)
  Binary64.scaled? spelling.negative significand (places + spelling.exponentValue)

/-- The number of a numeral; nothing if it is too large for a binary number. An integer is one that
is spelled without point and exponent and fits 64 bits, with a sign if it is negative; minus zero is
no integer. -/
def number? (spelling : Numeral) : Option Number :=
  if spelling.fraction.isEmpty && spelling.exponent.isNone then
    match gather 0 spelling.whole with
    | (size, []) =>
        if spelling.negative = false then some (.integer size)
        else if 0 < size ∧ size ≤ Word.half64 then some (.integer (-size))
        else spelling.float?.map .float
    | _ => spelling.float?.map .float
  else spelling.float?.map .float

end Numeral

end TokenAuthority.Json
