/-!
# Waiting

Something that comes after a time, in milliseconds, or never. Waiting is bounded by `within`: what
comes no later than the bound is there, and if nothing has come by then, waiting ends.
-/

namespace TokenAuthority

structure Awaited (Value : Type) where
  delay : Nat
  value : Value
  deriving DecidableEq, Repr

/-- What comes after a time or never. -/
inductive Delayed (Value : Type) where
  | after (delay : Nat) (value : Value)
  | never
  deriving DecidableEq, Repr

namespace Delayed

variable {Value Other : Type}

def now (value : Value) : Delayed Value :=
  .after 0 value

def within (bound : Nat) (delayed : Delayed Value) : Awaited (Option Value) :=
  match delayed with
  | .after delay value =>
      if delay ≤ bound then { delay, value := some value } else { delay := bound, value := none }
  | .never => { delay := bound, value := none }

theorem within_now (bound : Nat) (value : Value) :
    (now value).within bound = { delay := 0, value := some value } := by
  simp [now, within]

theorem delay_within_le (bound : Nat) (delayed : Delayed Value) :
    (delayed.within bound).delay ≤ bound := by
  cases delayed with
  | never => exact Nat.le_refl bound
  | after delay value =>
      simp only [within]
      split
      · assumption
      · exact Nat.le_refl bound

end Delayed

namespace Awaited

variable {Value Other : Type}

def now (value : Value) : Awaited Value where
  delay := 0
  value := value

def map (change : Value → Other) (awaited : Awaited Value) : Awaited Other where
  delay := awaited.delay
  value := change awaited.value

def within (bound : Nat) (awaited : Awaited Value) : Awaited (Option Value) :=
  (Delayed.after awaited.delay awaited.value).within bound

end Awaited

end TokenAuthority
