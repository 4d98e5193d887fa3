import TokenAuthority.Text.Utf8

/-!
# Distinguished encoding

Data as nested items: a tag, a length and as many bytes of content. There are two readers. The
strict one expects a certain tag and a length in its shortest form. The lenient one reads whatever
is there, in any form of length, and keeps what a search for keys needs: sequences, strings of bits
and bytes, and object ids.
-/

namespace TokenAuthority.Crypto.Der

def natOf (bytes : List UInt8) : Nat :=
  bytes.foldl (fun value byte => value * 256 + byte.toNat) 0

/-- The bytes of a number, behind `lower` ones. -/
def bytesOfNatOnto (lower : List UInt8) (value : Nat) : List UInt8 :=
  if value < 256 then UInt8.ofNat value :: lower
  else bytesOfNatOnto (UInt8.ofNat (value % 256) :: lower) (value / 256)

def bytesOfNat (value : Nat) : List UInt8 :=
  bytesOfNatOnto [] value

def split? (count : Nat) (bytes : List UInt8) : Option (List UInt8 × List UInt8) :=
  if count ≤ bytes.length then some (bytes.splitAt count) else none

namespace Tag

def integer : UInt8 := 0x02
def bits : UInt8 := 0x03
def octets : UInt8 := 0x04
def null : UInt8 := 0x05
def objectId : UInt8 := 0x06
def sequence : UInt8 := 0x30
/-- The first option but one. -/
def publicKey : UInt8 := 0x81

def isOption (tag : UInt8) : Bool :=
  128 ≤ tag.toNat && tag.toNat < 192 && tag.toNat % 32 < 31

def isConstructed (tag : UInt8) : Bool := tag.toNat / 32 % 2 = 1

def universal : List UInt8 :=
  [0x01, 0x02, 0x03, 0x04, 0x05, 0x06, 0x09, 0x0A, 0x0C, 0x12, 0x13, 0x14, 0x15, 0x16, 0x17, 0x18,
   0x1A, 0x1E, 0x30, 0x31]

def isKnown (tag : UInt8) : Bool :=
  universal.contains tag || (64 ≤ tag.toNat && tag.toNat % 32 < 31)

end Tag

/-! ## Writing -/

def writeLength (length : Nat) : List UInt8 :=
  if length < 128 then [UInt8.ofNat length]
  else
    let bytes := bytesOfNat length
    UInt8.ofNat (128 + bytes.length) :: bytes

def write (tag : UInt8) (content : List UInt8) : List UInt8 :=
  tag :: writeLength content.length ++ content

/-- An integer that is not negative: a zero byte goes in front of a high first bit. -/
def writeNat (value : Nat) : List UInt8 :=
  let bytes := bytesOfNat value
  write Tag.integer (if (bytes.headD 0).toNat < 128 then bytes else 0 :: bytes)

/-! ## The strict reader -/

/-- A length in its shortest form, of at most four bytes. -/
def strictLength? : List UInt8 → Option (Nat × List UInt8)
  | [] => none
  | first :: rest =>
      if first.toNat < 128 then some (first.toNat, rest)
      else
        let count := first.toNat - 128
        if count = 0 ∨ 4 < count then none
        else do
          let (bytes, rest) ← split? count rest
          let length := natOf bytes
          if length < 128 ∨ bytes.head? = some 0 then none else some (length, rest)

def item? (tag : UInt8) : List UInt8 → Option (List UInt8 × List UInt8)
  | [] => none
  | first :: rest =>
      if first = tag then do
        let (length, rest) ← strictLength? rest
        split? length rest
      else none

def onlyItem? (tag : UInt8) (bytes : List UInt8) : Option (List UInt8) := do
  let (content, rest) ← item? tag bytes
  if rest.isEmpty then some content else none

def nat? (bytes : List UInt8) : Option (Nat × List UInt8) := do
  let (content, rest) ← item? Tag.integer bytes
  match content with
  | [] => none
  | [only] => if only.toNat < 128 then some (only.toNat, rest) else none
  | first :: second :: _ =>
      if first.toNat < 128 ∧ ¬(first = 0 ∧ second.toNat < 128) then some (natOf content, rest)
      else none

def nats? : (count : Nat) → List UInt8 → Option (List Nat × List UInt8)
  | 0, bytes => some ([], bytes)
  | count + 1, bytes => do
      let (value, rest) ← nat? bytes
      let (values, rest) ← nats? count rest
      some (value :: values, rest)

/-- The bytes behind the options at the front that have a lower number. -/
def behindOptionsBelow? (number : Nat) : (steps : Nat) → List UInt8 → Option (List UInt8)
  | steps + 1, tag :: rest =>
      if Tag.isOption tag && tag.toNat % 32 < number then do
        let (_, rest) ← item? tag (tag :: rest)
        behindOptionsBelow? number steps rest
      else some (tag :: rest)
  | _, bytes => some bytes

def isOneItem : List UInt8 → Bool
  | [] => false
  | tag :: rest => Tag.isKnown tag && (onlyItem? tag (tag :: rest)).isSome

def areOptions : (steps : Nat) → List UInt8 → Bool
  | _, [] => true
  | 0, _ => false
  | steps + 1, tag :: rest =>
      Tag.isOption tag && Tag.isConstructed tag &&
        match item? tag (tag :: rest) with
        | some (content, rest) => isOneItem content && areOptions steps rest
        | none => false

/-! ## The lenient reader -/

inductive Block where
  | sequence (items : List Block)
  /-- The content of a string of bits or bytes. -/
  | content (bytes : List UInt8)
  | objectId (arcs : List Nat)
  | other

def groups? (read : Nat) : List UInt8 → Option (Nat × List UInt8)
  | [] => none
  | byte :: rest =>
      let value := read * 128 + byte.toNat % 128
      if byte.toNat < 128 then some (value, rest) else groups? value rest

/-- Further numbers of an object id behind those `read`, latest first. -/
def arcsBehind? (read : List Nat) (value : Nat) : List UInt8 → Option (List Nat)
  | [] => some read.reverse
  | byte :: rest =>
      let value := value * 128 + byte.toNat % 128
      if byte.toNat < 128 then arcsBehind? (value :: read) 0 rest
      else if rest.isEmpty then none
      else arcsBehind? read value rest

def arcs? : List UInt8 → Option (List Nat)
  | [] => none
  | first :: rest =>
      let top := min (first.toNat / 40) 2
      arcsBehind? [first.toNat - 40 * top, top] 0 rest

/-- A length in any form of at most nine bytes. -/
def lenientLength? : List UInt8 → Option (Nat × List UInt8)
  | [] => none
  | first :: rest =>
      if first.toNat < 128 then some (first.toNat, rest)
      else if 136 < first.toNat then none
      else do
        let (bytes, rest) ← split? (first.toNat - 128) rest
        some (natOf bytes, rest)

def tagNumber? (first : UInt8) (rest : List UInt8) : Option (Nat × List UInt8) :=
  if first.toNat % 32 = 31 then groups? 0 rest else some (first.toNat % 32, rest)

def isPrintable (byte : UInt8) : Bool :=
  let point := byte.toNat
  (48 ≤ point && point ≤ 57) || (65 ≤ point && point ≤ 90) || (97 ≤ point && point ≤ 122) ||
    " '()+,-./:=?".toList.any (·.toNat == point)

private def pairAt? (place : Nat) (digits : List UInt8) : Option Nat :=
  match (digits.drop place).take 2 with
  | [tens, ones] =>
      if 48 ≤ tens.toNat ∧ tens.toNat ≤ 57 ∧ 48 ≤ ones.toNat ∧ ones.toNat ≤ 57 then
        some ((tens.toNat - 48) * 10 + (ones.toNat - 48))
      else none
  | _ => none

private def daysOf (year month : Nat) : Nat :=
  if month = 2 then
    if year % 4 = 0 ∧ (year % 100 ≠ 0 ∨ year % 400 = 0) then 29 else 28
  else if month = 4 ∨ month = 6 ∨ month = 9 ∨ month = 11 then 30
  else 31

private def isMoment (year : Nat) (digits : List UInt8) : Bool :=
  match pairAt? 0 digits, pairAt? 2 digits, pairAt? 4 digits, pairAt? 6 digits,
      pairAt? 8 digits with
  | some month, some day, some hour, some minute, some second =>
      1 ≤ month && month ≤ 12 && 1 ≤ day && day ≤ daysOf year month && hour < 24 && minute < 60 &&
        second < 60
  | _, _, _, _, _ => false

def isShortTime (content : List UInt8) : Bool :=
  content.length == 13 && content.getLast? == some 90 &&
    match pairAt? 0 content with
    | some year => isMoment (if year < 50 then 2000 + year else 1900 + year) (content.drop 2)
    | none => false

private def isDigit (byte : UInt8) : Bool := 48 ≤ byte.toNat && byte.toNat ≤ 57

private def isFractionalTime (content : List UInt8) : Bool :=
  (match pairAt? 0 content, pairAt? 2 content with
    | some century, some year => isMoment (100 * century + year) (content.drop 4)
    | _, _ => false) &&
  match content.drop 14 with
  | point :: digits => point == 46 && digits.dropLast.all isDigit && digits.getLast? == some 90
  | [] => false

/-- A time with a year of four digits, which may have a sign: years before the year zero have leap
years like those after it. A fraction of a second may stand without its point. -/
def isLongTime (content : List UInt8) : Bool :=
  let pointed := if content.contains 46 then content else content.take 14 ++ 46 :: content.drop 14
  let unsigned :=
    if pointed.head? == some 43 || pointed.head? == some 45 then pointed.drop 1 else pointed
  15 ≤ content.length && isFractionalTime unsigned

def leaf? (number : Nat) (content : List UInt8) : Option Block :=
  let whenever := fun (holds : Bool) => if holds then some Block.other else none
  match number with
  | 1 => whenever (content.length == 1)
  | 3 =>
      match content with
      | [] => some (.content [])
      | unused :: bytes => if unused.toNat ≤ 8 * bytes.length then some (.content bytes) else none
  | 4 => some (.content content)
  | 6 => (arcs? content).map .objectId
  | 12 | 20 | 28 | 30 => whenever (Text.decode? content).isSome
  | 19 => whenever (content.all isPrintable)
  | 23 => whenever (isShortTime content)
  | 24 => whenever (isLongTime content)
  | _ => some .other

/-- The blocks of all bytes, of which there is at least one. Every block takes two bytes or more, so
as many steps as bytes are enough. -/
def blocksWithin? : (steps : Nat) → List UInt8 → Option (List Block)
  | 0, _ => none
  | _, [] => none
  | steps + 1, first :: rest => do
      let (number, rest) ← tagNumber? first rest
      let (length, rest) ← lenientLength? rest
      let (content, rest) ← split? length rest
      let block ←
        if first.toNat < 64 then
          if number = 16 then (blocksWithin? steps content).map .sequence
          else if number = 17 then (blocksWithin? steps content).map fun _ => .other
          else leaf? number content
        else some .other
      if rest.isEmpty then some [block]
      else (blocksWithin? steps rest).map (block :: ·)

def blocks? (bytes : List UInt8) : Option (List Block) :=
  blocksWithin? bytes.length bytes

/-! ## Searching -/

mutual

def Block.findSome? {Found : Type} (sought : Block → Option Found) : Block → Option Found
  | .sequence items => findAmong? sought items
  | leaf => sought leaf

def Block.findAmong? {Found : Type} (sought : Block → Option Found) : List Block → Option Found
  | [] => none
  | block :: rest =>
      match block.findSome? sought with
      | some found => some found
      | none => findAmong? sought rest

end

def firstContent? (blocks : List Block) : Option (List UInt8) :=
  Block.findAmong? (fun | .content bytes => some bytes | _ => none) blocks

def firstObjectId? (known : List (List Nat)) (blocks : List Block) : Option (List Nat) :=
  Block.findAmong?
    (fun | .objectId arcs => if known.contains arcs then some arcs else none | _ => none) blocks

end TokenAuthority.Crypto.Der
