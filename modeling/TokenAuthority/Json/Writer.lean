import TokenAuthority.Json.Shortest
import TokenAuthority.Json.Value

/-!
# Writing JSON

The compact form: no blanks, members in the order given, the short escapes of the grammar where
there is one, `\u` and four digits for every other control character, and all else as it is. A
number with a fraction or an exponent keeps a point or an exponent, so that it is read as such
again.
-/

namespace TokenAuthority.Json

def lowerHexDigit (value : Nat) : Char :=
  if value < 10 then Char.ofNat (48 + value) else Char.ofNat (87 + value)

def writeChar (value : Char) : List Char :=
  if value = '"' then ['\\', '"']
  else if value = '\\' then ['\\', '\\']
  else if value = '\n' then ['\\', 'n']
  else if value = '\r' then ['\\', 'r']
  else if value = '\t' then ['\\', 't']
  else if value.toNat = 8 then ['\\', 'b']
  else if value.toNat = 12 then ['\\', 'f']
  else if value.toNat < 0x20 then
    ['\\', 'u', '0', '0', lowerHexDigit (value.toNat / 16), lowerHexDigit (value.toNat % 16)]
  else [value]

def writeString (text : String) : String :=
  "\"" ++ String.ofList (text.toList.flatMap writeChar) ++ "\""

def writeInt (value : Int) : String :=
  if value < 0 then "-" ++ Nat.repr value.natAbs else Nat.repr value.natAbs

private def zeros (count : Nat) : String :=
  String.ofList (List.replicate count '0')

/-- A decimal that is not negative. Its point stands where it belongs if that is among its first 16
digits or behind no more than four zeros; else it stands behind the first digit, and an exponent
with its sign follows. -/
def writeDecimal (decimal : Decimal) : String :=
  let text := Nat.repr decimal.digits
  let point : Int := text.length + decimal.places
  let split := fun (place : Nat) =>
    String.ofList (text.toList.take place) ++ "." ++ String.ofList (text.toList.drop place)
  if 0 ≤ decimal.places ∧ point ≤ 16 then text ++ zeros decimal.places.toNat ++ ".0"
  else if 0 < point ∧ point ≤ 16 then split point.toNat
  else if -5 < point ∧ point ≤ 0 then "0." ++ zeros (-point).toNat ++ text
  else (if text.length = 1 then text else split 1) ++ "e" ++
    (if 0 < point then "+" else "") ++ writeInt (point - 1)

def writeBinary (value : Binary64) : String :=
  (if value.negative then "-" else "") ++ writeDecimal value.shortest

def writeNumber : Number → String
  | .integer value => writeInt value
  | .float value => writeBinary value

def enclosed (opening closing : String) (parts : List String) : String :=
  opening ++ ",".intercalate parts ++ closing

def writeMember (key value : String) : String :=
  writeString key ++ ":" ++ value

mutual

def compact : Json → String
  | .null => "null"
  | .bool value => if value then "true" else "false"
  | .number value => writeNumber value
  | .string value => writeString value
  | .array items => enclosed "[" "]" (compactItems items)
  | .object members => enclosed "\x7b" "\x7d" (compactMembers members)

private def compactItems : List Json → List String
  | [] => []
  | item :: rest => compact item :: compactItems rest

private def compactMembers : List (String × Json) → List String
  | [] => []
  | (key, value) :: rest => writeMember key (compact value) :: compactMembers rest

end

example : [(15, -1), (1, 20), (1, -5), (123, -6)].map (fun (digits, places) =>
    writeDecimal { digits, places }) = ["1.5", "1e+20", "0.00001", "0.000123"] := by
  decide +kernel

example : compact (.object [("a", .array [.number (.integer (-1)), .string "q\"\n"])]) =
    "\x7b\"a\":[-1,\"q\\\"\\n\"]\x7d" := by decide +kernel

end TokenAuthority.Json
