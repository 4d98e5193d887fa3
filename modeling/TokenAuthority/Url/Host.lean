import TokenAuthority.Net.Address
import TokenAuthority.Text.Percent
import TokenAuthority.Url.Domain.Spelling
import TokenAuthority.Url.Reserved

/-!
# Hosts

Who a url names: a domain, an address, or, under schemes of which nothing is known, any name. A
domain whose last label is a number is an address and nothing else.
-/

namespace TokenAuthority.Url

inductive Host where
  | name (text : String)
  | address (address : Net.Address)
  deriving DecidableEq, Repr

namespace Host

def print : Host → String
  | .name text => text
  | .address (.short bytes) => Net.Address.printBytes bytes
  | .address (.long groups) => "[" ++ Net.Address.printGroups groups ++ "]"

/-! ## Numbers as addresses -/

def digitIn? (base : Nat) (digit : Char) : Option Nat :=
  (Text.hexValue? digit).filter (· < base)

def numberIn? (base : Nat) (digits : List Char) : Option Nat :=
  (digits.mapM (digitIn? base)).map fun values =>
    values.foldl (fun number value => number * base + value) 0

/-- A number in base sixteen behind `0x`, in base eight behind a zero, or else in base ten. -/
def number? : List Char → Option Nat
  | [] => none
  | '0' :: 'x' :: digits => numberIn? 16 digits
  | '0' :: 'X' :: digits => numberIn? 16 digits
  | '0' :: digits => numberIn? 8 digits
  | digits => numberIn? 10 digits

def labels (domain : List Char) : List (List Char) :=
  let labels := Text.segments '.' domain
  if 1 < labels.length ∧ labels.getLast? = some [] then labels.dropLast else labels

def endsInNumber (domain : List Char) : Bool :=
  match (labels domain).getLast? with
  | some last => (!last.isEmpty && last.all Text.isDigit) || (number? last).isSome
  | none => false

/-- The size of an address in which the first numbers are bytes and the last takes what remains. -/
def size? : (room : Nat) → List Nat → Option Nat
  | _, [] => none
  | room, [last] => if last < Nat.pow 256 room then some last else none
  | room, first :: rest =>
      if first < 256 then (size? (room - 1) rest).map (first * Nat.pow 256 (room - 1) + ·) else none

def shortAddress? (domain : List Char) : Option Net.Address := do
  let numbers ← (labels domain).mapM number?
  if numbers.length ≤ 4 then
    let size ← size? 4 numbers
    some (.short [size / 16777216, size / 65536 % 256, size / 256 % 256, size % 256])
  else none

/-! ## Domains -/

def isForbidden (value : Char) : Bool :=
  ['\x00', '\t', '\n', '\r', ' ', '#', '/', ':', '<', '>', '?', '@', '[', '\\', ']', '^',
    '|'].contains value

def isForbiddenInDomain (value : Char) : Bool :=
  isForbidden value || value.toNat < 0x20 || value == '%' || value.toNat == 0x7F

def bracketed? (inside : List Char) : Option Host :=
  if inside.getLast? = some ']' then
    (Net.Address.long? inside.dropLast).map fun groups => .address (.long groups)
  else none

def ofDomain? (text : List Char) : Option Host :=
  match text with
  | '[' :: inside => bracketed? inside
  | _ => do
      let bytes := Text.Percent.decode (text.flatMap Text.encodeChar)
      let domain ← Domain.spelled? (Text.lossy bytes).toList
      if domain.isEmpty || domain.any isForbiddenInDomain then none
      else if endsInNumber domain then (shortAddress? domain).map .address
      else some (.name (String.ofList domain))

def ofName? (text : List Char) : Option Host :=
  match text with
  | '[' :: inside => bracketed? inside
  | _ =>
      if text.any isForbidden then none
      else some (.name (String.ofList (Text.Percent.encode Reserved.control text)))

end Host

end TokenAuthority.Url
