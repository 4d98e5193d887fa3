import TokenAuthority.Text.Punycode
import TokenAuthority.Url.Domain.Canonical
import TokenAuthority.Url.Domain.Mapping
import TokenAuthority.Url.Domain.Traits

/-!
# Labels

The parts of a domain between its dots. A label is shown in any script and spelled in ASCII: behind
the mark `xn--` if there is more than ASCII in it. What a label shows has to look like itself, so it
does not begin with a mark on something else, a joiner that is not seen stands only where it changes
what is, and a label that is written from right to left is not mixed with others.
-/

namespace TokenAuthority.Url.Domain

def isAscii (value : Char) : Bool :=
  value.toNat < 128

/-! ## Joiners -/

def joiner : Char := '\u200d'

def nonJoiner : Char := '\u200c'

/-- The combining class of the marks that take the vowel from a letter. -/
def vowelKillerClass : Nat := 9

def meets (joins : Char → Bool) : List Char → Bool
  | [] => false
  | value :: rest => joins value || (isTransparent value && meets joins rest)

/-- Whether a character may stand between those before it, the last one first, and those after it.
Only joiners are bound to places: either of them to one behind a letter without its vowel, and the
one that keeps apart also to one between letters that would be joined. -/
def mayStand (before : List Char) (value : Char) (after : List Char) : Bool :=
  if value == joiner || value == nonJoiner then
    before.head?.any (combiningClass · == vowelKillerClass) ||
      (value == nonJoiner && meets joinsNext before && meets joinsPrevious after)
  else true

def joinersFit (before : List Char) : List Char → Bool
  | [] => true
  | value :: after => mayStand before value after && joinersFit (value :: before) after

/-! ## Directions -/

def turns (value : Char) : Bool :=
  !isAscii value && (direction value == .rightToLeft || direction value == .arabicDigit)

/-- Whether the directions in a label let it be read in one way. Its first character says in which
direction it is written, and it ends with a character of that direction or a digit. -/
def directionsFit (label : List Char) : Bool :=
  match label.map direction with
  | [] => true
  | first :: rest =>
      let body := (rest.reverse.dropWhile (· == .mark)).reverse
      match first with
      | .leftToRight =>
          body.all [.leftToRight, .europeanDigit, .neutral, .mark].contains &&
            body.getLast?.all [.leftToRight, .europeanDigit].contains
      | .rightToLeft =>
          body.all (· != .leftToRight) &&
            body.getLast?.all [.rightToLeft, .europeanDigit, .arabicDigit].contains &&
            !(body.contains .europeanDigit && body.contains .arabicDigit)
      | _ => false

/-! ## Spelling -/

structure Label where
  shown : List Char
  spelled : List Char
  deriving DecidableEq, Repr

namespace Label

def mark : List Char := "xn--".toList

def longestSpelled : Nat := 2000

def longestShown : Nat := 1000

/-- What is shown for the characters behind the mark: more than ASCII, in its one form, and no
label that is spelled once more. -/
def shown? (form : List Char) : Option (List Char) :=
  if form.all isAscii && form.length ≤ longestSpelled then
    (Text.Punycode.decode? form).filter fun shown =>
      !shown.all isAscii && shown.all isKept && canonical shown == shown && !mark.isPrefixOf shown
  else none

def read? (text : List Char) : Option Label :=
  if mark.isPrefixOf text then
    (shown? (text.drop mark.length)).map fun shown => { shown, spelled := text }
  else if text.all isAscii then some { shown := text, spelled := text }
  else some { shown := text, spelled := mark ++ Text.Punycode.encode text }

def isSound (label : Label) : Bool :=
  label.shown.all isAscii ||
    (label.shown.length ≤ longestShown && !label.shown.head?.any isMark &&
      joinersFit [] label.shown)

end Label

end TokenAuthority.Url.Domain
