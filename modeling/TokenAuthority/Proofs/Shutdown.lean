import Mathlib.Data.List.Basic
import TokenAuthority.Shutdown

/-!
# Reasons on their way

What becomes of the reasons for shutdown, in whatever order signals are used, copied and given up
and the listener looks. A ledger follows the channel and writes down every reason that somebody
asked for, that was taken, and that was received. As long as there is a listener nothing taken is
lost, and what the listener gets first is what was asked for first.
-/

namespace TokenAuthority.Shutdown

theorem Channel.signal_eq_true_iff {channel : Channel} {reason : String} :
    (channel.signal reason).2 = true ↔ channel.hasListener = true ∧ channel.pending = none := by
  unfold signal
  split
  · rename_i free
    simpa using free
  · rename_i busy
    simpa using busy

theorem Channel.signal_of_taken {channel : Channel} {reason : String}
    (taken : (channel.signal reason).2 = true) :
    (channel.signal reason).1 = { channel with pending := some reason } := by
  rcases signal_eq_true_iff.mp taken with ⟨listener, free⟩
  simp only [signal, listener, free, Option.isNone_none, Bool.and_self, if_true]

theorem Channel.signal_of_refused {channel : Channel} {reason : String}
    (refused : (channel.signal reason).2 = false) : (channel.signal reason).1 = channel := by
  unfold signal at refused ⊢
  split at refused
  · cases refused
  · rename_i busy
    rw [if_neg busy]

/-! ## Ledgers -/

inductive Move where
  | signal (reason : String)
  | receive
  | addSignal
  | dropSignal
  | dropListener
  deriving DecidableEq, Repr

namespace Move

def act (channel : Channel) : Move → Channel
  | .signal reason => (channel.signal reason).1
  | .receive => channel.receive.1
  | .addSignal => channel.addSignal
  | .dropSignal => channel.dropSignal
  | .dropListener => channel.dropListener

def reason? : Move → Option String
  | .signal reason => some reason
  | _ => none

end Move

structure Ledger where
  channel : Channel
  /-- Every reason that somebody asked for, in order. -/
  asked : List String := []
  /-- The reasons that were taken, in order. -/
  taken : List String := []
  received : List String := []
  deriving DecidableEq, Repr

namespace Ledger

def signal (ledger : Ledger) (reason : String) : Ledger :=
  let (channel, isTaken) := ledger.channel.signal reason
  { ledger with
    channel
    asked := ledger.asked ++ [reason]
    taken := if isTaken then ledger.taken ++ [reason] else ledger.taken }

def receive (ledger : Ledger) : Ledger :=
  match ledger.channel.receive with
  | (channel, .reason reason) =>
      { ledger with channel, received := ledger.received ++ [reason] }
  | (channel, _) => { ledger with channel }

def step (ledger : Ledger) : Move → Ledger
  | .signal reason => ledger.signal reason
  | .receive => ledger.receive
  | .addSignal => { ledger with channel := ledger.channel.addSignal }
  | .dropSignal => { ledger with channel := ledger.channel.dropSignal }
  | .dropListener => { ledger with channel := ledger.channel.dropListener }

def run (ledger : Ledger) (moves : List Move) : Ledger :=
  moves.foldl step ledger

/-- What has come or still comes to the listener. -/
def heard (ledger : Ledger) : List String :=
  ledger.received ++ ledger.channel.pending.toList

theorem channel_step (ledger : Ledger) (move : Move) :
    (ledger.step move).channel = move.act ledger.channel := by
  cases move with
  | receive =>
      simp only [step, receive, Move.act]
      split <;> rename_i found <;> rw [found]
  | _ => rfl

theorem channel_run (ledger : Ledger) (moves : List Move) :
    (ledger.run moves).channel = moves.foldl Move.act ledger.channel := by
  induction moves generalizing ledger with
  | nil => rfl
  | cons move rest induction =>
      rw [List.foldl_cons, ← channel_step]
      exact induction (ledger.step move)

theorem asked_step (ledger : Ledger) (move : Move) :
    (ledger.step move).asked = ledger.asked ++ move.reason?.toList := by
  cases move with
  | signal reason => rfl
  | receive =>
      simp only [step, receive, Move.reason?, Option.toList_none, List.append_nil]
      split <;> rfl
  | _ => exact (List.append_nil _).symm

theorem asked_run (ledger : Ledger) (moves : List Move) :
    (ledger.run moves).asked = ledger.asked ++ moves.filterMap Move.reason? := by
  induction moves generalizing ledger with
  | nil => exact (List.append_nil _).symm
  | cons move rest induction =>
      have later : (ledger.run (move :: rest)).asked =
          (ledger.step move).asked ++ rest.filterMap Move.reason? := induction (ledger.step move)
      rw [later, asked_step, List.append_assoc, List.filterMap_cons]
      cases move.reason? <;> rfl

/-! ## What every run keeps -/

/-- Nothing is made up and nothing comes out of turn. While there is a listener nothing that was
taken is lost, and the first reason asked for is the first taken. -/
structure Sound (ledger : Ledger) : Prop where
  inOrder : ledger.heard <+: ledger.taken
  earliest : ∀ reason ∈ ledger.taken.head?, reason ∈ ledger.asked.head?
  complete : ledger.channel.hasListener = true → ledger.heard = ledger.taken
  prompt : ledger.channel.hasListener = true → ledger.taken = [] → ledger.asked = []

theorem sound_start {channel : Channel} (fresh : channel.pending = none) :
    Sound { channel } := by
  have nothing : heard { channel } = [] := by simp [heard, fresh]
  refine ⟨⟨[], ?_⟩, ?_, ?_, ?_⟩
  · rw [List.append_nil, nothing]
  · intro reason impossible
    cases impossible
  · exact fun _ => nothing
  · exact fun _ _ => rfl

variable {ledger : Ledger}

theorem Sound.signal (sound : ledger.Sound) (reason : String) : (ledger.signal reason).Sound := by
  cases isTaken : (ledger.channel.signal reason).2 with
  | true =>
      rcases Channel.signal_eq_true_iff.mp isTaken with ⟨listener, free⟩
      have after : ledger.signal reason =
          { ledger with
            channel := { ledger.channel with pending := some reason }
            asked := ledger.asked ++ [reason]
            taken := ledger.taken ++ [reason] } := by
        simp only [Ledger.signal, Channel.signal_of_taken isTaken, isTaken, if_true]
      have before : ledger.received = ledger.taken := by
        have kept := sound.complete listener
        simpa [heard, free] using kept
      have allHeard : (ledger.signal reason).heard = (ledger.signal reason).taken := by
        rw [after]
        simp [heard, before]
      refine ⟨allHeard ▸ List.prefix_rfl, ?_, fun _ => allHeard, ?_⟩
      · rw [after]
        intro first leads
        cases held : ledger.taken with
        | nil =>
            -- Then nobody has asked before, and this reason leads both lists.
            rw [held, List.nil_append] at leads
            rw [sound.prompt listener held]
            exact leads
        | cons earlier others =>
            rw [held] at leads
            have known := sound.earliest first (by rw [held]; exact leads)
            exact List.mem_head?_append_of_mem_head? known
      · rw [after]
        intro _ nothing
        simp at nothing
  | false =>
      have after : ledger.signal reason = { ledger with asked := ledger.asked ++ [reason] } := by
        simp only [Ledger.signal, Channel.signal_of_refused isTaken, isTaken, Bool.false_eq_true,
          if_false]
      rw [after]
      refine ⟨sound.inOrder, ?_, sound.complete, ?_⟩
      · intro first leads
        exact List.mem_head?_append_of_mem_head? (sound.earliest first leads)
      intro listener nothing
      -- The listener was there, so another reason was pending, and that one was taken.
      have kept := sound.complete listener
      have busy : ledger.channel.pending ≠ none := fun free => by
        rw [Channel.signal_eq_true_iff.mpr ⟨listener, free⟩] at isTaken
        cases isTaken
      rw [show ledger.taken = [] from nothing] at kept
      simp [heard, busy] at kept

theorem Sound.receive (sound : ledger.Sound) : ledger.receive.Sound := by
  cases pending : ledger.channel.pending with
  | none =>
      have same : ledger.receive = ledger := by
        simp only [Ledger.receive, Channel.receive, pending]
        split <;> rename_i found
        · split at found <;> cases found
        · cases found
          rfl
      rw [same]
      exact sound
  | some reason =>
      have after : ledger.receive =
          { ledger with
            channel := { ledger.channel with pending := none }
            received := ledger.received ++ [reason] } := by
        simp only [Ledger.receive, Channel.receive, pending]
      have same : ledger.receive.heard = ledger.heard := by
        rw [after]
        simp [heard, pending]
      refine ⟨?_, ?_, ?_, ?_⟩
      · rw [same, after]
        exact sound.inOrder
      · rw [after]
        exact sound.earliest
      · rw [same, after]
        exact sound.complete
      · rw [after]
        exact sound.prompt

theorem Sound.dropListener (sound : ledger.Sound) : (ledger.step .dropListener).Sound := by
  refine ⟨?_, sound.earliest, fun gone => (nomatch gone), fun gone => (nomatch gone)⟩
  have fewer : (ledger.step .dropListener).heard <+: ledger.heard := by
    simp [step, heard, Channel.dropListener]
  exact fewer.trans sound.inOrder

theorem Sound.step (sound : ledger.Sound) (move : Move) : (ledger.step move).Sound := by
  cases move with
  | signal reason => exact sound.signal reason
  | receive => exact sound.receive
  | addSignal => exact ⟨sound.inOrder, sound.earliest, sound.complete, sound.prompt⟩
  | dropSignal => exact ⟨sound.inOrder, sound.earliest, sound.complete, sound.prompt⟩
  | dropListener => exact sound.dropListener

theorem Sound.run (sound : ledger.Sound) (moves : List Move) : (ledger.run moves).Sound := by
  induction moves generalizing ledger with
  | nil => exact sound
  | cons move rest induction => exact induction (sound.step move)

theorem Sound.head?_heard (sound : ledger.Sound) (reason : String)
    (first : reason ∈ ledger.heard.head?) : reason ∈ ledger.asked.head? := by
  rcases sound.inOrder with ⟨rest, same⟩
  apply sound.earliest
  rw [← same]
  exact List.mem_head?_append_of_mem_head? first

theorem Sound.head?_heard_eq (sound : ledger.Sound)
    (listener : ledger.channel.hasListener = true) :
    ledger.heard.head? = ledger.asked.head? := by
  cases leads : ledger.heard.head? with
  | some reason => exact (sound.head?_heard reason leads).symm
  | none =>
      have nothing : ledger.taken = [] := by
        rw [← sound.complete listener]
        exact List.head?_eq_none_iff.mp leads
      rw [sound.prompt listener nothing]
      rfl

theorem Sound.head?_received (sound : ledger.Sound) (reason : String)
    (first : reason ∈ ledger.received.head?) : reason ∈ ledger.asked.head? :=
  sound.head?_heard reason (List.mem_head?_append_of_mem_head? first)

theorem Sound.receive_eq (sound : ledger.Sound) (listener : ledger.channel.hasListener = true)
    (nothing : ledger.received = []) {reason : String} (first : reason ∈ ledger.asked.head?) :
    ledger.channel.receive.2 = .reason reason := by
  have leads : ledger.heard.head? = some reason := (sound.head?_heard_eq listener).trans first
  cases pending : ledger.channel.pending with
  | none => simp [heard, nothing, pending] at leads
  | some found =>
      have same : found = reason := by simpa [heard, nothing, pending] using leads
      simp only [Channel.receive, pending, same]

end Ledger

end TokenAuthority.Shutdown
