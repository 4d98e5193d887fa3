import TokenAuthority.Text.Decimal
import TokenAuthority.Text.Hex
import TokenAuthority.Text.Segments
import TokenAuthority.Word

/-!
# Addresses

Addresses of hosts, as four bytes or as eight groups of sixteen bits, and their texts. Reading takes
an address and nothing else: no brackets, no blanks, no other base. Printing leaves out the longest
run of two or more zero groups, the first of several.
-/

namespace TokenAuthority.Net

inductive Address where
  | short (bytes : List Nat)
  | long (groups : List Nat)
  deriving DecidableEq, Repr

namespace Address

/-! ## Reading -/

def byte? (text : List Char) : Option Nat :=
  if text.length ≤ 3 ∧ (text.length ≤ 1 ∨ text.head? ≠ some '0') then
    (Text.digits? text).filter (· < 256)
  else none

def bytes? (text : List Char) : Option (List Nat) := do
  let bytes ← (Text.segments '.' text).mapM byte?
  if bytes.length = 4 then some bytes else none

def group? (text : List Char) : Option Nat :=
  if text.isEmpty ∨ 4 < text.length then none else Text.hexNumber? text

/-- The groups of segments. The last segment may be four bytes, which make two groups. -/
def groups? : List (List Char) → Option (List Nat)
  | [] => some []
  | [last] =>
      match group? last with
      | some group => some [group]
      | none => (bytes? last).map fun bytes =>
          [bytes.getD 0 0 * 256 + bytes.getD 1 0, bytes.getD 2 0 * 256 + bytes.getD 3 0]
  | segment :: rest => do
      let group ← group? segment
      let groups ← groups? rest
      some (group :: groups)

def partGroups? (text : List Char) : Option (List Nat) :=
  if text.isEmpty then some [] else groups? (Text.segments ':' text)

def cutGap? : List Char → Option (List Char × List Char)
  | ':' :: ':' :: rest => some ([], rest)
  | value :: rest => (cutGap? rest).map fun (before, after) => (value :: before, after)
  | [] => none

/-- Eight groups, or fewer with two colons for one zero group or more. Bytes stand only at the
end. -/
def long? (text : List Char) : Option (List Nat) :=
  match cutGap? text with
  | none => (partGroups? text).filter (·.length = 8)
  | some (before, after) => do
      if before.contains '.' then none
      let first ← partGroups? before
      let last ← partGroups? after
      if first.length + last.length < 8 then
        some (first ++ List.replicate (8 - first.length - last.length) 0 ++ last)
      else none

def parse? (text : List Char) : Option Address :=
  match bytes? text with
  | some bytes => some (.short bytes)
  | none => (long? text).map .long

/-! ## Printing -/

def printBytes (bytes : List Nat) : String :=
  ".".intercalate (bytes.map Nat.repr)

def printGroup (group : Nat) : String :=
  String.ofList (Nat.toDigits 16 group)

def leadingZeros (groups : List Nat) : Nat :=
  (groups.takeWhile (· == 0)).length

def longestGap (groups : List Nat) : Nat × Nat :=
  (List.range groups.length).foldl
    (fun longest place =>
      let length := leadingZeros (groups.drop place)
      if longest.2 < length then (place, length) else longest)
    (0, 0)

def printGroups (groups : List Nat) : String :=
  let print := fun part => ":".intercalate (List.map printGroup part)
  let (place, length) := longestGap groups
  if length < 2 then print groups
  else print (groups.take place) ++ "::" ++ print (groups.drop (place + length))

def print : Address → String
  | .short bytes => printBytes bytes
  | .long groups =>
      match groups with
      | [0, 0, 0, 0, 0, 65535, high, low] =>
          "::ffff:" ++ printBytes [high / 256, high % 256, low / 256, low % 256]
      | _ => printGroups groups

end Address

/-- An address and a port. A long address may be good in one part of a network only. -/
structure Endpoint where
  address : Address
  port : Nat
  /-- The number of that part; zero if the address is good everywhere. -/
  scope : Nat := 0
  deriving DecidableEq, Repr

namespace Endpoint

def print (endpoint : Endpoint) : String :=
  match endpoint.address with
  | .short _ => endpoint.address.print ++ ":" ++ Nat.repr endpoint.port
  | .long _ =>
      let scope := if endpoint.scope = 0 then "" else "%" ++ Nat.repr endpoint.scope
      "[" ++ endpoint.address.print ++ scope ++ "]:" ++ Nat.repr endpoint.port

def scope? : List Char → Option Nat
  | '%' :: digits => (Text.digits? digits).filter (· < Word.size32)
  | text => if text.isEmpty then some 0 else none

def parse? (text : List Char) : Option Endpoint :=
  match text with
  | '[' :: rest => do
      let (inside, outside) := rest.span (· != ']')
      match outside with
      | ']' :: ':' :: port =>
          let (address, scope) := inside.span (· != '%')
          let groups ← Address.long? address
          let scope ← scope? scope
          let port ← (Text.digits? port).filter (· < Word.size16)
          some { address := .long groups, port, scope }
      | _ => none
  | _ => do
      let (inside, outside) := text.span (· != ':')
      match outside with
      | ':' :: port =>
          let bytes ← Address.bytes? inside
          let port ← (Text.digits? port).filter (· < Word.size16)
          some { address := .short bytes, port }
      | _ => none

end Endpoint

example : (Address.parse? "1:0:0:2:0:0:0:3".toList).map Address.print = some "1:0:0:2::3" := by
  decide +kernel
example : (Address.parse? "::FFFF:c0a8:1".toList).map Address.print = some "::ffff:192.168.0.1" := by
  decide +kernel

end TokenAuthority.Net
