/-!
# Text as bytes

Text arrives as a list of bytes that need not be well-formed. `Glyph.decode` reads every list: what
is well-formed becomes characters, and each longest ill-formed piece becomes one broken glyph, so
nothing is lost and a reader decides for itself what a broken piece means. `decode?` refuses broken
text, `lossy` puts the replacement character in place of each broken piece.
-/

namespace TokenAuthority.Text

/-- A character, or a longest piece of bytes that starts like one and is none. -/
inductive Glyph where
  | char (value : Char)
  | broken (bytes : List UInt8)
  deriving DecidableEq, Repr

/-! ## Writing -/

def continuation (bits : Nat) : UInt8 :=
  UInt8.ofNat (0x80 + bits % 64)

def encodeChar (value : Char) : List UInt8 :=
  let point := value.toNat
  if point < 0x80 then
    [UInt8.ofNat point]
  else if point < 0x800 then
    [UInt8.ofNat (0xC0 + point / 64), continuation point]
  else if point < 0x10000 then
    [UInt8.ofNat (0xE0 + point / 4096), continuation (point / 64), continuation point]
  else
    [UInt8.ofNat (0xF0 + point / 262144), continuation (point / 4096),
      continuation (point / 64), continuation point]

def encode (text : String) : List UInt8 :=
  text.toList.flatMap encodeChar

def byteLength (text : String) : Nat :=
  text.utf8ByteSize

/-! ## Reading

A lead byte fixes how many continuation bytes follow and, for the first of them, the least and the
greatest value that neither repeats a shorter form nor leaves the range of characters. -/

def within (low high : Nat) (byte : UInt8) : Bool :=
  low ≤ byte.toNat && byte.toNat ≤ high

def isContinuation (byte : UInt8) : Bool :=
  within 0x80 0xBF byte

/-- Bounds of the first continuation byte of a three-byte form. -/
def boundsOfThree (lead : UInt8) : Nat × Nat :=
  if lead = 0xE0 then (0xA0, 0xBF) else if lead = 0xED then (0x80, 0x9F) else (0x80, 0xBF)

def boundsOfFour (lead : UInt8) : Nat × Nat :=
  if lead = 0xF0 then (0x90, 0xBF) else if lead = 0xF4 then (0x80, 0x8F) else (0x80, 0xBF)

def bits (byte : UInt8) : Nat := byte.toNat - 0x80

def charOfTwo (lead second : UInt8) : Char :=
  Char.ofNat ((lead.toNat - 0xC0) * 64 + bits second)

def charOfThree (lead second third : UInt8) : Char :=
  Char.ofNat ((lead.toNat - 0xE0) * 4096 + bits second * 64 + bits third)

def charOfFour (lead second third fourth : UInt8) : Char :=
  Char.ofNat ((lead.toNat - 0xF0) * 262144 + bits second * 4096 + bits third * 64 + bits fourth)

/-- Reads `bytes` behind the glyphs `read`, latest first. -/
def Glyph.decodeBehind (read : List Glyph) : List UInt8 → List Glyph
  | [] => read.reverse
  | lead :: rest =>
      if lead.toNat < 0x80 then
        decodeBehind (.char (Char.ofNat lead.toNat) :: read) rest
      else if within 0xC2 0xDF lead then
        match rest with
        | second :: rest =>
            if isContinuation second then
              decodeBehind (.char (charOfTwo lead second) :: read) rest
            else decodeBehind (.broken [lead] :: read) (second :: rest)
        | [] => decodeBehind (.broken [lead] :: read) []
      else if within 0xE0 0xEF lead then
        match rest with
        | second :: rest =>
            if within (boundsOfThree lead).1 (boundsOfThree lead).2 second then
              match rest with
              | third :: rest =>
                  if isContinuation third then
                    decodeBehind (.char (charOfThree lead second third) :: read) rest
                  else decodeBehind (.broken [lead, second] :: read) (third :: rest)
              | [] => decodeBehind (.broken [lead, second] :: read) []
            else decodeBehind (.broken [lead] :: read) (second :: rest)
        | [] => decodeBehind (.broken [lead] :: read) []
      else if within 0xF0 0xF4 lead then
        match rest with
        | second :: rest =>
            if within (boundsOfFour lead).1 (boundsOfFour lead).2 second then
              match rest with
              | third :: rest =>
                  if isContinuation third then
                    match rest with
                    | fourth :: rest =>
                        if isContinuation fourth then
                          decodeBehind (.char (charOfFour lead second third fourth) :: read) rest
                        else decodeBehind (.broken [lead, second, third] :: read) (fourth :: rest)
                    | [] => decodeBehind (.broken [lead, second, third] :: read) []
                  else decodeBehind (.broken [lead, second] :: read) (third :: rest)
              | [] => decodeBehind (.broken [lead, second] :: read) []
            else decodeBehind (.broken [lead] :: read) (second :: rest)
        | [] => decodeBehind (.broken [lead] :: read) []
      else decodeBehind (.broken [lead] :: read) rest

def Glyph.decode (bytes : List UInt8) : List Glyph :=
  Glyph.decodeBehind [] bytes

def Glyph.ofString (text : String) : List Glyph :=
  text.toList.map .char

def Glyph.char? : Glyph → Option Char
  | .char value => some value
  | .broken _ => none

def decode? (bytes : List UInt8) : Option String :=
  ((Glyph.decode bytes).mapM Glyph.char?).map String.ofList

/-- The text with the replacement character for each broken piece. -/
def lossy (bytes : List UInt8) : String :=
  String.ofList ((Glyph.decode bytes).map fun glyph => glyph.char?.getD (Char.ofNat 0xFFFD))

example : decode? [0x68, 0xC3, 0xA9] = some "hé" := by decide
example : decode? [0xC0, 0x80] = none := by decide
example : lossy [0x61, 0xE2, 0x82, 0x28, 0xFF] = String.ofList
    ['a', Char.ofNat 0xFFFD, '(', Char.ofNat 0xFFFD] := by decide

end TokenAuthority.Text
