import TokenAuthority.Json.Document
import TokenAuthority.Text.Hex
import TokenAuthority.Text.Utf8

/-!
# Reading JSON

The reader takes one glyph at a time. Its state is the stack of containers that are open and what
may come next, so a document of any width and depth is read in one pass. It follows the grammar to
the letter: the only blanks are space, tab, line feed and carriage return, nothing follows the
value, and no control character stands bare inside a string.
-/

namespace TokenAuthority.Json

open Text (Glyph)

inductive Frame where
  | items (read : List Document)
  | members (read : List (List Piece × Document))
  | member (read : List (List Piece × Document)) (key : List Piece)

inductive Digits where
  | sign
  | zero
  | whole
  | point
  | fraction
  | mark
  | markSign
  | exponent
  deriving DecidableEq, Repr

def Digits.complete : Digits → Bool
  | .zero | .whole | .fraction | .exponent => true
  | .sign | .point | .mark | .markSign => false

/-- What may come next. Strings and numbers keep what is read of them, latest first. -/
inductive Expected where
  | value
  | firstItem
  | firstKey
  | key
  | colon
  | delimiter
  | text (isKey : Bool) (read : List Piece)
  | escape (isKey : Bool) (read : List Piece)
  | unit (isKey : Bool) (read : List Piece) (missing : Nat) (value : Nat)
  | word (rest : List Char) (meaning : Document)
  | number (digits : Digits) (read : Numeral)
  | nothing (document : Document)

structure Reader where
  stack : List Frame
  expected : Expected

namespace Reader

def start : Reader where
  stack := []
  expected := .value

def isBlank (value : Char) : Bool :=
  value == ' ' || value == '\t' || value == '\n' || value == '\r'

/-! ## Values -/

def supply (stack : List Frame) (value : Document) : Option Reader :=
  match stack with
  | [] => some { stack := [], expected := .nothing value }
  | .items read :: outer => some { stack := .items (value :: read) :: outer, expected := .delimiter }
  | .member read key :: outer =>
      some { stack := .members ((key, value) :: read) :: outer, expected := .delimiter }
  | .members _ :: _ => none

def close (stack : List Frame) : Option Reader :=
  match stack with
  | .items read :: outer => supply outer (.array read.reverse)
  | .members read :: outer => supply outer (.object read.reverse)
  | _ => none

def openValue (stack : List Frame) (glyph : Char) : Option Reader :=
  let expecting (expected : Expected) : Option Reader := some { stack, expected }
  let number (digits : Digits) (negative : Bool) (whole : List Nat) : Option Reader :=
    expecting (.number digits { negative, whole, fraction := [], exponent := none })
  if glyph = '"' then expecting (.text false [])
  else if glyph = '[' then some { stack := .items [] :: stack, expected := .firstItem }
  else if glyph = '\x7b' then some { stack := .members [] :: stack, expected := .firstKey }
  else if glyph = 't' then expecting (.word ['r', 'u', 'e'] (.bool true))
  else if glyph = 'f' then expecting (.word ['a', 'l', 's', 'e'] (.bool false))
  else if glyph = 'n' then expecting (.word ['u', 'l', 'l'] .null)
  else if glyph = '-' then number .sign true []
  else if glyph = '0' then number .zero false [0]
  else if glyph.isDigit then number .whole false [glyph.toNat - 48]
  else none

def delimit (stack : List Frame) (glyph : Char) : Option Reader :=
  match stack with
  | .items _ :: _ =>
      if glyph = ',' then some { stack, expected := .value }
      else if glyph = ']' then close stack
      else none
  | .members _ :: _ =>
      if glyph = ',' then some { stack, expected := .key }
      else if glyph = '\x7d' then close stack
      else none
  | _ => none

/-! ## Strings -/

def endText (stack : List Frame) (isKey : Bool) (read : List Piece) : Option Reader :=
  if isKey then
    match stack with
    | .members members :: outer =>
        some { stack := .member members read.reverse :: outer, expected := .colon }
    | _ => none
  else supply stack (.text read.reverse)

def escaped? (glyph : Char) : Option Char :=
  if glyph = '"' ∨ glyph = '\\' ∨ glyph = '/' then some glyph
  else if glyph = 'b' then some (Char.ofNat 8)
  else if glyph = 'f' then some (Char.ofNat 12)
  else if glyph = 'n' then some '\n'
  else if glyph = 'r' then some '\r'
  else if glyph = 't' then some '\t'
  else none

/-! ## Numbers -/

def extend (digits : Digits) (read : Numeral) (glyph : Char) : Option (Digits × Numeral) :=
  let digit := glyph.toNat - 48
  let isMark := glyph = 'e' ∨ glyph = 'E'
  let wholeDigit := { read with whole := digit :: read.whole }
  let fractionDigit := { read with fraction := digit :: read.fraction }
  let marked := { read with exponent := some (false, []) }
  let exponentDigit :=
    { read with exponent := read.exponent.map fun (negative, places) => (negative, digit :: places) }
  match digits with
  | .sign =>
      if glyph = '0' then some (.zero, wholeDigit)
      else if glyph.isDigit then some (.whole, wholeDigit)
      else none
  | .zero =>
      if glyph = '.' then some (.point, read) else if isMark then some (.mark, marked) else none
  | .whole =>
      if glyph.isDigit then some (.whole, wholeDigit)
      else if glyph = '.' then some (.point, read)
      else if isMark then some (.mark, marked)
      else none
  | .point => if glyph.isDigit then some (.fraction, fractionDigit) else none
  | .fraction =>
      if glyph.isDigit then some (.fraction, fractionDigit)
      else if isMark then some (.mark, marked)
      else none
  | .mark =>
      if glyph = '+' then some (.markSign, read)
      else if glyph = '-' then some (.markSign, { read with exponent := some (true, []) })
      else if glyph.isDigit then some (.exponent, exponentDigit)
      else none
  | .markSign | .exponent => if glyph.isDigit then some (.exponent, exponentDigit) else none

def inOrder (read : Numeral) : Numeral :=
  { read with
    whole := read.whole.reverse
    fraction := read.fraction.reverse
    exponent := read.exponent.map fun (negative, digits) => (negative, digits.reverse) }

/-! ## Steps -/

def take (reader : Reader) (glyph : Char) : Option Reader :=
  let stack := reader.stack
  let expecting (expected : Expected) : Option Reader := some { stack, expected }
  match reader.expected with
  | .value => if isBlank glyph then some reader else openValue stack glyph
  | .firstItem =>
      if isBlank glyph then some reader
      else if glyph = ']' then close stack
      else openValue stack glyph
  | .firstKey =>
      if isBlank glyph then some reader
      else if glyph = '\x7d' then close stack
      else if glyph = '"' then expecting (.text true [])
      else none
  | .key =>
      if isBlank glyph then some reader
      else if glyph = '"' then expecting (.text true [])
      else none
  | .colon =>
      if isBlank glyph then some reader
      else if glyph = ':' then expecting .value
      else none
  | .delimiter => if isBlank glyph then some reader else delimit stack glyph
  | .nothing _ => if isBlank glyph then some reader else none
  | .text isKey read =>
      if glyph = '"' then endText stack isKey read
      else if glyph = '\\' then expecting (.escape isKey read)
      else if glyph.toNat < 0x20 then none
      else expecting (.text isKey (.char glyph :: read))
  | .escape isKey read =>
      if glyph = 'u' then expecting (.unit isKey read 4 0)
      else (escaped? glyph).bind fun value => expecting (.text isKey (.char value :: read))
  | .unit isKey read missing value =>
      (Text.hexValue? glyph).bind fun digit =>
        let value := value * 16 + digit
        if missing ≤ 1 then expecting (.text isKey (.unit value :: read))
        else expecting (.unit isKey read (missing - 1) value)
  | .word rest meaning =>
      match rest with
      | [] => none
      | [last] => if glyph = last then supply stack meaning else none
      | next :: others => if glyph = next then expecting (.word others meaning) else none
  | .number digits read =>
      match extend digits read glyph with
      | some (digits, read) => expecting (.number digits read)
      | none =>
          if digits.complete then do
            let after ← supply stack (.number (inOrder read))
            match after.expected with
            | .delimiter => if isBlank glyph then some after else delimit after.stack glyph
            | _ => if isBlank glyph then some after else none
          else none

/-- Broken bytes may stand inside strings only. -/
def step (reader : Reader) (glyph : Glyph) : Option Reader :=
  match glyph with
  | .char value => reader.take value
  | .broken _ =>
      match reader.expected with
      | .text isKey read => some { reader with expected := .text isKey (.broken :: read) }
      | _ => none

def finish (reader : Reader) : Option Document :=
  match reader.stack, reader.expected with
  | [], .nothing document => some document
  | [], .number digits read => if digits.complete then some (.number (inOrder read)) else none
  | _, _ => none

end Reader

def Document.read? (glyphs : List Glyph) : Option Document :=
  (glyphs.foldlM Reader.step Reader.start).bind Reader.finish

end TokenAuthority.Json
