import TokenAuthority.Url.Domain.Label

/-!
# Domains in ASCII

A domain may be written in any script, and in more than one way. `spelled?` gives the one way in
which it is written in ASCII, or nothing if some text that looks the same could stand for another
domain. Nothing but ASCII is looked up in a table, and ASCII only loses its capitals.
-/

namespace TokenAuthority.Url.Domain

def plain? (text : List Char) : Option (List Char) :=
  if text.all isAscii then some (text.map Char.toLower)
  else (text.mapM mapped?).map fun mapped => canonical mapped.flatten

/-- Whether labels may stand in one domain: if anything in it turns, all of them are bound to
directions. -/
def areSound (labels : List Label) : Bool :=
  labels.all (·.isSound) &&
    (!labels.any (·.shown.any turns) || labels.all fun label => directionsFit label.shown)

def spelled? (text : List Char) : Option (List Char) := do
  let labels ← (Text.segments '.' (← plain? text)).mapM Label.read?
  if areSound labels then some (['.'].intercalate (labels.map (·.spelled))) else none

example : spelled? "Example.COM".toList = some "example.com".toList := by decide +kernel
example : spelled? "xn--".toList = none := by decide +kernel

end TokenAuthority.Url.Domain
