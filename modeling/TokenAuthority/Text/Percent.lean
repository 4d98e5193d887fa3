import TokenAuthority.Text.Utf8

/-!
# Percent encoding

A byte may be written as a percent sign and two digits base sixteen. `Percent.encode` writes the
bytes that a set names, `Percent.decode` reads every such triple and leaves all else alone.
-/

namespace TokenAuthority.Text.Percent

def digit (value : Nat) : Char :=
  if value < 10 then Char.ofNat (48 + value) else Char.ofNat (55 + value)

def digitValue? (byte : UInt8) : Option Nat :=
  let point := byte.toNat
  if 48 ≤ point ∧ point ≤ 57 then some (point - 48)
  else if 65 ≤ point ∧ point ≤ 70 then some (point - 55)
  else if 97 ≤ point ∧ point ≤ 102 then some (point - 87)
  else none

def triple (byte : UInt8) : List Char :=
  ['%', digit (byte.toNat / 16), digit (byte.toNat % 16)]

def encode (reserved : Char → Bool) (text : List Char) : List Char :=
  text.flatMap fun value =>
    if reserved value then (encodeChar value).flatMap triple else [value]

def pairValue? (high low : UInt8) : Option UInt8 := do
  UInt8.ofNat ((← digitValue? high) * 16 + (← digitValue? low))

/-- The bytes behind triples. A percent sign without two digits after it stands for itself. -/
def decode : List UInt8 → List UInt8
  | byte :: high :: low :: rest =>
      match if byte = 37 then pairValue? high low else none with
      | some value => value :: decode rest
      | none => byte :: decode (high :: low :: rest)
  | short => short

example : String.ofList (encode (· == ' ') "a b".toList) = "a%20b" := by decide
example : decode [97, 37, 50, 48, 98, 37, 122] = [97, 32, 98, 37, 122] := by decide

end TokenAuthority.Text.Percent
