import TokenAuthority.Text.Base64
import TokenAuthority.Text.Blank

/-!
# Armour

Bytes as text: base64 between a line that opens with a label and one that closes with the same. The
strict reader takes exactly one block at the end of the text, in lines of 64 characters. The lenient
one takes the first block wherever it stands, headers and blanks included, unless further dashes
hide its marks. Both read what `write` writes.
-/

namespace TokenAuthority.Crypto

structure Armor where
  label : String
  content : List UInt8
  deriving DecidableEq, Repr

namespace Armor

def dashes : List Char := "-----".toList

def beginMark : List Char := "-----BEGIN ".toList

def endMark : List Char := "-----END ".toList

def width : Nat := 64

/-! ## Writing -/

def linesOf : (room : Nat) → List Char → List Char
  | _, [] => ['\n']
  | 0, value :: rest => '\n' :: value :: linesOf (width - 1) rest
  | room + 1, value :: rest => value :: linesOf room rest

def write (armor : Armor) : String :=
  let label := armor.label.toList
  String.ofList (beginMark ++ label ++ dashes ++ '\n' ::
    linesOf width (Text.Base64.standard.encode armor.content) ++ endMark ++ label ++ dashes ++ ['\n'])

/-! ## The strict reader -/

def behind? : (mark text : List Char) → Option (List Char)
  | [], text => some text
  | _, [] => none
  | first :: mark, value :: text => if first = value then behind? mark text else none

def before? (mark text : List Char) : Option (List Char) :=
  (behind? mark.reverse text.reverse).map List.reverse

def behindLineEnd? : List Char → Option (List Char)
  | '\r' :: '\n' :: rest => some rest
  | '\r' :: rest => some rest
  | '\n' :: rest => some rest
  | _ => none

def beforeLineEnd? (text : List Char) : Option (List Char) :=
  match text.reverse with
  | '\n' :: '\r' :: rest => some rest.reverse
  | '\n' :: rest => some rest.reverse
  | '\r' :: rest => some rest.reverse
  | _ => none

/-- The text from the first line on that opens a block. The lines in front hold no zero. -/
def fromBegin? : List Char → Option (List Char)
  | [] => none
  | value :: rest =>
      if value.toNat = 0 then none
      else if value = '\n' ∧ beginMark.isPrefixOf rest then some rest
      else fromBegin? rest

/-- The lines of a body without their ends: all of full width but the last, behind which there may
be one more end of a line as long as both fit the width. -/
def linesWithin? : (lines : Nat) → List Char → Option (List (List Char))
  | 0, _ => none
  | lines + 1, text =>
      if (text.drop width).isEmpty then some [(beforeLineEnd? text).getD text]
      else do
        let rest ← behindLineEnd? (text.drop width)
        if rest.isEmpty then some [text.take width]
        else some (text.take width :: (← linesWithin? lines rest))

def joined? (text : List Char) : Option (List Char) := do
  let lines ← linesWithin? (text.length + 1) text
  if lines.dropLast.any (·.contains '=') then none else some lines.flatten

def readStrict? (label : String) (text : String) : Option (List UInt8) := do
  let text := text.toList
  let block ← if beginMark.isPrefixOf text then some text else fromBegin? text
  let name := label.toList
  let body ← behindLineEnd? (← behind? (beginMark ++ name ++ dashes) block)
  let body := (beforeLineEnd? body).getD body
  let body ← beforeLineEnd? (← before? (endMark ++ name ++ dashes) body)
  Text.Base64.standard.decode? (← joined? body)

/-! ## The lenient reader -/

/-- What stands in front of a mark and behind it, once everything but `missing` of the mark has been
seen at the end of what was `passed`, latest first. The character that breaks a mark off is lost: it
does not begin another one. -/
def cutBehind? (mark passed : List Char) : (missing text : List Char) →
    Option (List Char × List Char)
  | [], text => some ((passed.drop mark.length).reverse, text)
  | _, [] => none
  | next :: missing, value :: rest =>
      cutBehind? mark (value :: passed) (if value = next then missing else mark) rest

def cut? (mark text : List Char) : Option (List Char × List Char) :=
  cutBehind? mark [] mark text

def areHeaders (text : List Char) : Bool :=
  go true false text
where
  /-- Whether the lines are good from here on, given whether this line is empty so far and whether
  it has a colon. -/
  go (fresh colon : Bool) : List Char → Bool
    | [] => fresh || colon
    | '\n' :: rest => colon && go true false rest
    | value :: rest => go false (colon || value == ':') rest

def splitHeaders (body : List Char) : List Char × List Char :=
  match cut? ['\n', '\n'] body with
  | some parts => parts
  | none => (cut? ['\r', '\n', '\r', '\n'] body).getD ([], body)

private def isFill (value : Char) : Bool :=
  value == ' ' || value == '\t' || value == '\n' || value == '\r'

def readLenient? (text : String) : Option Armor := do
  let (_, rest) ← cut? beginMark text.toList
  let (label, rest) ← cut? dashes rest
  let (body, rest) ← cut? endMark (rest.dropWhile isFill)
  let (closing, _) ← cut? dashes rest
  let (headers, data) := splitHeaders body
  if label.isEmpty || label != closing || !areHeaders headers then none
  else
    let content ← Text.Base64.standard.decode? (data.filter fun value => !Text.isBlank value)
    some { label := String.ofList label, content }

example : cut? beginMark "------BEGIN ".toList = none := by decide +kernel
example : (readLenient? (write ⟨"X", [1, 2, 3]⟩)) = some ⟨"X", [1, 2, 3]⟩ := by decide +kernel
example : readStrict? "X" (write ⟨"X", [1, 2, 3]⟩) = some [1, 2, 3] := by decide +kernel

end Armor

end TokenAuthority.Crypto
