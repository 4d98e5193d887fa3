/-!
# The shutdown channel

Whoever holds a signal may ask for shutdown, and one listener learns of it. One reason is kept at a
time: whoever asks while one is pending is turned away, since the listener learns enough from the
first. Asking never waits, and never fails in a way that the asker has to care about.
-/

namespace TokenAuthority.Shutdown

structure Channel where
  /-- The reason that has not been received yet. -/
  pending : Option String := none
  /-- Whether somebody may still receive a reason. -/
  hasListener : Bool := true
  /-- How many signals may still be used. -/
  signals : Nat := 1
  deriving DecidableEq, Repr

namespace Channel

def signal (channel : Channel) (reason : String) : Channel × Bool :=
  if channel.hasListener && channel.pending.isNone then
    ({ channel with pending := some reason }, true)
  else (channel, false)

def addSignal (channel : Channel) : Channel :=
  { channel with signals := channel.signals + 1 }

def dropSignal (channel : Channel) : Channel :=
  { channel with signals := channel.signals - 1 }

def dropListener (channel : Channel) : Channel :=
  { channel with hasListener := false, pending := none }

end Channel

inductive Received where
  | reason (value : String)
  | nothingYet
  /-- Nobody is left who could signal. -/
  | closed
  deriving DecidableEq, Repr

namespace Channel

def receive (channel : Channel) : Channel × Received :=
  match channel.pending with
  | some reason => ({ channel with pending := none }, .reason reason)
  | none => (channel, if channel.signals = 0 then .closed else .nothingYet)

end Channel

/-! ## Numbered signals -/

/-- A channel whose signals are numbered as they are made. A signal that was given up keeps its
number. -/
structure Numbered where
  channel : Channel := {}
  /-- Whether each signal may still be used. -/
  usable : List Bool := [true]
  deriving DecidableEq, Repr

namespace Numbered

def isUsable (numbered : Numbered) (number : Nat) : Bool :=
  numbered.usable.getD number false

def signal (numbered : Numbered) (number : Nat) (reason : String) : Numbered × Option Bool :=
  if numbered.isUsable number then
    let (channel, taken) := numbered.channel.signal reason
    ({ numbered with channel }, some taken)
  else (numbered, none)

/-- Makes a signal out of another. It is as usable as the other, and gets the next number. -/
def duplicate (numbered : Numbered) (number : Nat) : Numbered × Nat :=
  let usable := numbered.isUsable number
  ({ channel := if usable then numbered.channel.addSignal else numbered.channel
     usable := numbered.usable ++ [usable] }, numbered.usable.length)

def dropSignal (numbered : Numbered) (number : Nat) : Numbered :=
  if numbered.isUsable number then
    { channel := numbered.channel.dropSignal, usable := numbered.usable.set number false }
  else numbered

def dropListener (numbered : Numbered) : Numbered :=
  { numbered with channel := numbered.channel.dropListener }

def receive? (numbered : Numbered) : Numbered × Option Received :=
  if numbered.channel.hasListener then
    let (channel, received) := numbered.channel.receive
    ({ numbered with channel }, some received)
  else (numbered, none)

end Numbered

end TokenAuthority.Shutdown
