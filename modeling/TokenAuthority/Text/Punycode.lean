import TokenAuthority.Word

/-!
# Punycode

A label of a host name in ASCII alone: its ASCII characters in their order, and behind a hyphen the
places of all others, as numbers whose digits change their weight as they go. `encode` gives that
form without the mark `xn--` in front, and `decode?` reads it.
-/

namespace TokenAuthority.Text.Punycode

def base : Nat := 36

/-! ## Digits -/

def digit (value : Nat) : Char :=
  if value < 26 then Char.ofNat (97 + value) else Char.ofNat (22 + value)

/-- How large a digit at a place has to be for the number to go on. -/
def threshold (bias place : Nat) : Nat :=
  max 1 (min 26 (base * (place + 1) - bias))

/-- The digits of a number from a place on. `room` bounds how many there are; a number has no more
digits than its size, and one. -/
def digits (bias : Nat) : (room place number : Nat) → List Char
  | 0, _, _ => []
  | room + 1, place, number =>
      let limit := threshold bias place
      if number < limit then [digit number]
      else
        digit (limit + (number - limit) % (base - limit)) ::
          digits bias room (place + 1) ((number - limit) / (base - limit))

def settle : (room steps delta : Nat) → Nat
  | 0, steps, delta => base * steps + base * delta / (delta + 38)
  | room + 1, steps, delta =>
      if 455 < delta then settle room (steps + 1) (delta / 35)
      else base * steps + base * delta / (delta + 38)

def adapt (number count : Nat) (isFirst : Bool) : Nat :=
  let delta := if isFirst then number / 700 else number / 2
  settle delta 0 (delta + delta / count)

def digitValue? (digit : Char) : Option Nat :=
  let point := digit.toNat
  if 97 ≤ point ∧ point ≤ 122 then some (point - 97)
  else if 48 ≤ point ∧ point ≤ 57 then some (point - 22)
  else none

theorem digitValue?_digit : ∀ value < base, digitValue? (digit value) = some value := by decide

/-! ## Encoding -/

structure Progress where
  written : List Char
  handled : Nat
  bias : Nat := 72
  delta : Nat := 0
  isFirst : Bool := true

/-- Goes over the whole label once for one code point: counts what is below it, and writes the count
wherever the code point stands. -/
def sweep (point : Nat) (label : List Char) (progress : Progress) : Progress :=
  label.foldl (fun progress value =>
    if value.toNat < point then { progress with delta := progress.delta + 1 }
    else if value.toNat = point then
      { written := progress.written ++ digits progress.bias (progress.delta + 1) 0 progress.delta
        handled := progress.handled + 1
        bias := adapt progress.delta (progress.handled + 1) progress.isFirst
        delta := 0
        isFirst := false }
    else progress) progress

def encodePoints (label : List Char) : List Nat → (next : Nat) → Progress → Progress
  | [], _, progress => progress
  | point :: points, next, progress =>
      let skipped := (point - next) * (progress.handled + 1)
      let swept := sweep point label { progress with delta := progress.delta + skipped }
      encodePoints label points (point + 1) { swept with delta := swept.delta + 1 }

def insertPoint (point : Nat) : List Nat → List Nat
  | [] => [point]
  | first :: rest =>
      if point < first then point :: first :: rest
      else if point = first then first :: rest
      else first :: insertPoint point rest

def encode (label : List Char) : List Char :=
  let plain := label.filter fun value => value.toNat < 128
  let points := label.foldl (fun points value =>
    if value.toNat < 128 then points else insertPoint value.toNat points) []
  let start := if plain.isEmpty then [] else plain ++ ['-']
  (encodePoints label points 128 { written := start, handled := plain.length }).written

/-! ## Decoding -/

structure Reading where
  shown : List Char
  /-- The last code point that was put in. -/
  point : Nat := 128
  /-- The place behind the last one that was put in. -/
  next : Nat := 0
  bias : Nat := 72
  /-- What the digits of the number spell so far. -/
  number : Nat := 0
  weight : Nat := 1
  place : Nat := 0

/-- Puts in what a number says: places and code points are counted on together, all places for one
code point before the next code point. -/
def Reading.put? (reading : Reading) (number : Nat) : Option Reading :=
  let count := reading.shown.length + 1
  let point := reading.point + (reading.next + number) / count
  let index := (reading.next + number) % count
  if point.isValidChar then
    some {
      shown := reading.shown.insertIdx index (Char.ofNat point)
      point
      next := index + 1
      bias := adapt number count (reading.next == 0) }
  else none

def Reading.step? (reading : Reading) (digit : Char) : Option Reading := do
  let value ← digitValue? digit
  let number := reading.number + value * reading.weight
  let limit := threshold reading.bias reading.place
  let weight := reading.weight * (base - limit)
  if Word.size32 ≤ reading.next + number then none
  else if value < limit then reading.put? number
  else if Word.size32 ≤ weight then none
  else some { reading with number, weight, place := reading.place + 1 }

/-- The label that a form in ASCII stands for. The last hyphen stands behind the ASCII characters,
so it is not the first character. -/
def decode? (form : List Char) : Option (List Char) :=
  match form.reverse.span (· != '-') with
  | (_, ['-']) => none
  | (digits, plain) => do
      let reading ← digits.reverse.foldlM Reading.step? { shown := plain.tail.reverse }
      if reading.place = 0 then some reading.shown else none

example : String.ofList (encode "bücher".toList) = "bcher-kva" := by decide +kernel
example : String.ofList (encode "münchen".toList) = "mnchen-3ya" := by decide +kernel
example : String.ofList (encode "他们为什么不说中文".toList) = "ihqwcrb4cv8a8dqg056pqjye" := by
  decide +kernel
example : decode? "bcher-kva".toList = some "bücher".toList := by decide +kernel
example : decode? "ihqwcrb4cv8a8dqg056pqjye".toList = some "他们为什么不说中文".toList := by
  decide +kernel
example : decode? "bcher-kv".toList = none := by decide +kernel
example : decode? "-kva".toList = none := by decide +kernel

end TokenAuthority.Text.Punycode
