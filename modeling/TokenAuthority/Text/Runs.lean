import TokenAuthority.Text.Decimal
import TokenAuthority.Text.Segments

/-!
# Runs of code points

What holds for every code point, written down as runs: code points in their order, cut wherever
something else holds. An entry is the length of a run in decimal digits and, from the first
character that is no digit on, what holds in it. The first run starts at zero, and each of the
others where the one before it ends, so the runs cover every code point once up to some point.
-/

namespace TokenAuthority.Text

structure Run where
  length : Nat
  label : List Char
  deriving DecidableEq, Repr

namespace Run

def ofEntry (entry : List Char) : Run :=
  let (digits, label) := entry.span isDigit
  { length := digitsValue 0 digits, label }

def ofLines (lines : List String) : List Run :=
  lines.flatMap fun line => (segments ' ' line.toList).map ofEntry

/-- The run that a code point lies in, and how many code points of the run lie below it. -/
def at? : (runs : List Run) → (point : Nat) → Option (Run × Nat)
  | [], _ => none
  | run :: rest, point =>
      if point < run.length then some (run, point) else at? rest (point - run.length)

def labelAt (runs : List Run) (point : Nat) : List Char :=
  ((at? runs point).map (·.1.label)).getD []

example : at? (ofLines ["97- 26small"]) 100 = some ({ length := 26, label := "small".toList }, 3) := by
  decide

end Run

end TokenAuthority.Text
