/-!
# Base64

Bytes as digits base sixty-four. A `Base64` says which two characters close the digits and whether
the last group is filled up with `=`. Reading is exact: it accepts what writing produces and nothing
else, so no text has two spellings (no missing or extra filling, no bits beyond the last byte).
-/

namespace TokenAuthority.Text

structure Base64 where
  /-- The digits 62 and 63. -/
  last : Char × Char
  padded : Bool

namespace Base64

def urlSafe : Base64 where
  last := ('-', '_')
  padded := false

def standard : Base64 where
  last := ('+', '/')
  padded := true

def digit (kind : Base64) (value : Nat) : Char :=
  if value < 26 then Char.ofNat (65 + value)
  else if value < 52 then Char.ofNat (71 + value)
  else if value < 62 then Char.ofNat (value - 4)
  else if value = 62 then kind.last.1
  else kind.last.2

def digitValue? (kind : Base64) (digit : Char) : Option Nat :=
  let point := digit.toNat
  if 65 ≤ point ∧ point ≤ 90 then some (point - 65)
  else if 97 ≤ point ∧ point ≤ 122 then some (point - 71)
  else if 48 ≤ point ∧ point ≤ 57 then some (point + 4)
  else if digit = kind.last.1 then some 62
  else if digit = kind.last.2 then some 63
  else none

/-! ## Writing -/

def filling (kind : Base64) (count : Nat) : List Char :=
  if kind.padded then List.replicate count '=' else []

/-- Writes `bytes` behind the digits `written`, latest first. -/
def encodeBehind (kind : Base64) (written : List Char) : List UInt8 → List Char
  | first :: second :: third :: rest =>
      let group := first.toNat * 65536 + second.toNat * 256 + third.toNat
      kind.encodeBehind
        (kind.digit (group % 64) :: kind.digit (group / 64 % 64) ::
          kind.digit (group / 4096 % 64) :: kind.digit (group / 262144) :: written) rest
  | [first, second] =>
      let group := first.toNat * 1024 + second.toNat * 4
      written.reverse ++
        [kind.digit (group / 4096), kind.digit (group / 64 % 64), kind.digit (group % 64)] ++
        kind.filling 1
  | [first] =>
      let group := first.toNat * 16
      written.reverse ++ [kind.digit (group / 64), kind.digit (group % 64)] ++ kind.filling 2
  | [] => written.reverse

def encode (kind : Base64) (bytes : List UInt8) : List Char :=
  kind.encodeBehind [] bytes

/-! ## Reading -/

/-- Reads digits without filling behind the bytes `read`, latest first. -/
def decodeBehind (kind : Base64) (read : List UInt8) : List Char → Option (List UInt8)
  | first :: second :: third :: fourth :: rest => do
      let group := (← kind.digitValue? first) * 262144 + (← kind.digitValue? second) * 4096 +
        (← kind.digitValue? third) * 64 + (← kind.digitValue? fourth)
      kind.decodeBehind
        (UInt8.ofNat (group % 256) :: UInt8.ofNat (group / 256 % 256) ::
          UInt8.ofNat (group / 65536) :: read) rest
  | [first, second, third] => do
      let group := (← kind.digitValue? first) * 4096 + (← kind.digitValue? second) * 64 +
        (← kind.digitValue? third)
      if group % 4 = 0 then
        some (read.reverse ++ [UInt8.ofNat (group / 1024), UInt8.ofNat (group / 4 % 256)])
      else none
  | [first, second] => do
      let group := (← kind.digitValue? first) * 64 + (← kind.digitValue? second)
      if group % 16 = 0 then some (read.reverse ++ [UInt8.ofNat (group / 16)]) else none
  | [_] => none
  | [] => some read.reverse

def unfilled? (kind : Base64) (text : List Char) : Option (List Char) :=
  if kind.padded then
    let digits := (text.reverse.dropWhile (· == '=')).reverse
    if text.length = digits.length + (4 - digits.length % 4) % 4 then some digits else none
  else some text

def decode? (kind : Base64) (text : List Char) : Option (List UInt8) := do
  kind.decodeBehind [] (← kind.unfilled? text)

example : String.ofList (urlSafe.encode [0xFB, 0xFF]) = "-_8" := by decide
example : standard.decode? "+/8=".toList = some [0xFB, 0xFF] := by decide
example : standard.decode? "+/9=".toList = none := by decide
example : urlSafe.decode? "+/8".toList = none := by decide

end Base64

end TokenAuthority.Text
