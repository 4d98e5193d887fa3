/-!
# Counters

How many requests there were, how many failed, how many panics were contained, and how many requests
are on their way. These are numbers without a bound. A counter of 64 bits shows the same as long as
fewer than `2 ^ 64` requests have started, which is assumed throughout: no counter is above the
number of these.
-/

namespace TokenAuthority.Pipeline

structure Counters where
  requests : Nat := 0
  errors : Nat := 0
  panics : Nat := 0
  inFlight : Nat := 0
  deriving DecidableEq, Repr

namespace Counters

def enter (counters : Counters) : Counters :=
  { counters with requests := counters.requests + 1, inFlight := counters.inFlight + 1 }

def leave (counters : Counters) : Counters :=
  { counters with inFlight := counters.inFlight - 1 }

def countError (counters : Counters) : Counters :=
  { counters with errors := counters.errors + 1 }

def countPanic (counters : Counters) : Counters :=
  { counters with panics := counters.panics + 1 }

end Counters

end TokenAuthority.Pipeline
