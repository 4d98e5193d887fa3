import TokenAuthority.Launch
import TokenAuthority.Proofs.Settings
import TokenAuthority.Proofs.Shutdown

/-!
# Drains

A drain goes on from millisecond to millisecond until every connection has ended or its time is
over, and what is open then is cut off. What the server reports hangs on the time alone. So it never
keeps silent about a connection that was cut off, but it reports force without having used any where
the last connection ends just when the time is over, as it does at once where there is neither a
connection nor a time.
-/

namespace TokenAuthority

/-! ## Passing time -/

structure Drainage where
  /-- How long it has lasted. -/
  lasted : Nat := 0
  /-- How long each connection will still be open, if it is left alone. -/
  needs : List Nat
  deriving DecidableEq, Repr

namespace Drainage

variable {drainage ended : Drainage} {bound : Nat}

def pass (drainage : Drainage) (time : Nat) : Drainage where
  lasted := drainage.lasted + time
  needs := drainage.needs.map (· - time)

/-- A connection is still open. -/
def IsOpen (drainage : Drainage) : Prop :=
  ∃ need ∈ drainage.needs, 0 < need

def rest (bound : Nat) (drainage : Drainage) : Nat :=
  min (Server.longest drainage.needs) (bound - drainage.lasted)

inductive Lasts (bound : Nat) : Drainage → Drainage → Prop
  | allEnded {drainage : Drainage} (closed : ¬ drainage.IsOpen) : Lasts bound drainage drainage
  | timeOver {drainage : Drainage} (late : bound ≤ drainage.lasted) : Lasts bound drainage drainage
  | goesOn {drainage ended : Drainage} (isOpen : drainage.IsOpen) (inTime : drainage.lasted < bound)
      (later : Lasts bound (drainage.pass 1) ended) : Lasts bound drainage ended

theorem longest_le_iff {needs : List Nat} {time : Nat} :
    Server.longest needs ≤ time ↔ ∀ need ∈ needs, need ≤ time := by
  have from_ (start : Nat) :
      needs.foldl max start ≤ time ↔ start ≤ time ∧ ∀ need ∈ needs, need ≤ time := by
    induction needs generalizing start with
    | nil => simp
    | cons need needs induction =>
        rw [List.foldl_cons, induction, List.forall_mem_cons, max_le_iff, and_assoc]
  rw [Server.longest, from_]
  exact and_iff_right (Nat.zero_le time)

theorem le_longest {needs : List Nat} {need : Nat} (member : need ∈ needs) :
    need ≤ Server.longest needs :=
  longest_le_iff.mp (Nat.le_refl _) need member

theorem longest_pass (needs : List Nat) (time : Nat) :
    Server.longest (needs.map (· - time)) = Server.longest needs - time := by
  apply eq_of_forall_ge_iff
  intro bound
  rw [longest_le_iff, List.forall_mem_map, Nat.sub_le_iff_le_add, longest_le_iff]
  simp only [Nat.sub_le_iff_le_add]

theorem isOpen_iff : drainage.IsOpen ↔ 0 < Server.longest drainage.needs := by
  rw [← not_iff_not, Nat.not_lt, longest_le_iff, IsOpen]
  simp only [not_exists, not_and, Nat.not_lt]

theorem pass_zero (drainage : Drainage) : drainage.pass 0 = drainage := by
  simp [pass]

theorem pass_pass (drainage : Drainage) (time further : Nat) :
    (drainage.pass time).pass further = drainage.pass (time + further) := by
  simp [pass, Nat.add_assoc, Nat.sub_sub]

theorem rest_pass (isOpen : drainage.IsOpen) (inTime : drainage.lasted < bound) :
    rest bound drainage = 1 + rest bound (drainage.pass 1) := by
  have longer := isOpen_iff.mp isOpen
  simp only [rest, pass, longest_pass]
  omega

theorem rest_eq_zero_iff :
    rest bound drainage = 0 ↔ ¬ drainage.IsOpen ∨ bound ≤ drainage.lasted := by
  rw [isOpen_iff, rest]
  omega

theorem lasts_iff : Lasts bound drainage ended ↔ ended = drainage.pass (rest bound drainage) := by
  constructor
  · intro lasts
    induction lasts with
    | allEnded closed => rw [rest_eq_zero_iff.mpr (.inl closed), pass_zero]
    | timeOver late => rw [rest_eq_zero_iff.mpr (.inr late), pass_zero]
    | goesOn isOpen inTime later induction =>
        rw [induction, pass_pass, rest_pass isOpen inTime]
  · rintro rfl
    -- The induction is on the time that is left.
    induction isRest : rest bound drainage generalizing drainage with
    | zero =>
        rw [pass_zero]
        rcases rest_eq_zero_iff.mp isRest with closed | late
        · exact .allEnded closed
        · exact .timeOver late
    | succ time induction =>
        by_cases isOpen : drainage.IsOpen
        · by_cases inTime : drainage.lasted < bound
          · have later : rest bound (drainage.pass 1) = time := by
              rw [rest_pass isOpen inTime] at isRest
              omega
            have lasts := induction later
            rw [pass_pass, Nat.add_comm] at lasts
            exact .goesOn isOpen inTime lasts
          · rw [rest_eq_zero_iff.mpr (.inr (Nat.not_lt.mp inTime))] at isRest
            cases isRest
        · rw [rest_eq_zero_iff.mpr (.inl isOpen)] at isRest
          cases isRest

end Drainage

/-! ## What is reported -/

namespace Server

open Drainage

variable {server : Server} {reason : String} {remaining : List Nat} {ended : Drainage}

/-- A drain of requests that still need some time, from its beginning to its end. -/
def Drains (server : Server) (remaining : List Nat) (ended : Drainage) : Prop :=
  Lasts server.drainTimeout { needs := remaining } ended

theorem drains_iff :
    server.Drains remaining ended ↔
      ended = { lasted := server.drainTime remaining
                needs := remaining.map (· - server.drainTime remaining) } := by
  have sameTime : rest server.drainTimeout { needs := remaining } = server.drainTime remaining :=
    rfl
  rw [Drains, lasts_iff, sameTime]
  simp only [Drainage.pass, Nat.zero_add]

/-- What a server says of a drain that has ended. -/
structure Reports (server : Server) (reason : String) (ended : Drainage) (drained : Drained) :
    Prop where
  bounded : ended.lasted ≤ server.drainTimeout
  answered : drained.answered = ended.needs.map fun need => decide (need = 0)
  /-- Before its time is over, a drain ends by itself. -/
  inTime : ended.lasted < server.drainTimeout →
    ¬ ended.IsOpen ∧ drained.result = .ok () ∧
      drained.log = [.shutdownStarted reason server.drainTimeout, .shutdownComplete]
  atBound : ended.lasted = server.drainTimeout →
    drained.result = .error (.forced server.drainTimeout) ∧
      drained.log = [.shutdownStarted reason server.drainTimeout,
        .drainTimedOut server.drainTimeout]

theorem isOpen_of_drains_iff (drains : server.Drains remaining ended) :
    ended.IsOpen ↔ ∃ need ∈ remaining, server.drainTimeout < need := by
  rw [← not_iff_not, isOpen_iff, drains_iff.mp drains, longest_pass]
  simp only [not_exists, not_and, Nat.not_lt, ← longest_le_iff, drainTime]
  omega

theorem reports_of_drains (reason : String) (drains : server.Drains remaining ended) :
    server.Reports reason ended (server.drain reason remaining) := by
  have isOpen_iff_late := isOpen_of_drains_iff drains
  cases drains_iff.mp drains
  refine ⟨Nat.min_le_right .., ?_, ?_, ?_⟩
  · have isAnswered : (server.drain reason remaining).answered =
        remaining.map fun need => decide (need ≤ server.drainTimeout) := by
      rw [drain]
      split <;> rfl
    rw [isAnswered, List.map_map, List.map_inj_left]
    intro need member
    have atMost := le_longest member
    simp only [Function.comp_apply, drainTime, decide_eq_decide]
    omega
  · intro early
    refine ⟨?_, ?_⟩
    · rw [isOpen_iff_late]
      rintro ⟨need, member, late⟩
      have atMost := le_longest member
      simp only [drainTime] at early
      omega
    · rw [drain, if_neg (Nat.not_le.mpr early)]
      exact ⟨rfl, rfl⟩
  · intro late
    rw [drain, if_pos late.ge]
    exact ⟨rfl, rfl⟩

theorem result_eq_ok_iff :
    (server.drain reason remaining).result = .ok () ↔
      0 < server.drainTimeout ∧ ∀ need ∈ remaining, need < server.drainTimeout := by
  have early : drainTime server remaining < server.drainTimeout ↔
      0 < server.drainTimeout ∧ ∀ need ∈ remaining, need < server.drainTimeout := by
    cases isBound : server.drainTimeout with
    | zero => simp
    | succ bound =>
        simp only [drainTime, isBound, Nat.lt_succ_iff, ← longest_le_iff, Nat.zero_le, true_and]
        omega
  rw [← early, drain]
  split
  · rename_i late
    exact iff_of_false nofun (Nat.not_lt.mpr late)
  · rename_i inTime
    exact iff_of_true rfl (Nat.not_le.mp inTime)

theorem forced_in_vain_iff (drains : server.Drains remaining ended) :
    (server.drain reason remaining).result = .error (.forced server.drainTimeout) ∧
        ¬ ended.IsOpen ↔
      longest remaining = server.drainTimeout := by
  have reports := reports_of_drains reason drains
  have isTime : ended.lasted = min (longest remaining) server.drainTimeout := by
    rw [drains_iff.mp drains, drainTime]
  rw [isOpen_of_drains_iff drains]
  simp only [not_exists, not_and, Nat.not_lt, ← longest_le_iff]
  constructor
  · rintro ⟨isForced, closed⟩
    by_contra shorter
    have result := (reports.inTime (by omega)).2.1
    rw [isForced] at result
    cases result
  · intro same
    exact ⟨(reports.atBound (by omega)).1, same.le⟩

/-! ## When a drain begins -/

section Run

open Shutdown

variable {channel : Channel} {moves : List Move}

theorem run_of_nothing (nothing : channel.pending = none) (server : Server)
    (remaining : List Nat) : server.run true channel remaining = .serving := by
  rw [run, if_pos rfl, Channel.receive, nothing]
  dsimp only
  split <;> rename_i found
  · split at found <;> cases found
  · rfl
  · rfl

theorem run_of_reason (found : channel.receive.2 = .reason reason) (server : Server)
    (remaining : List Nat) :
    server.run true channel remaining = .stopped (server.drain reason remaining) := by
  rw [run, if_pos rfl, found]

theorem pending_of_unasked (fresh : channel.pending = none)
    (unasked : ∀ reason, .signal reason ∉ moves) :
    (Ledger.run { channel } moves).channel.pending = none := by
  have sound := (Ledger.sound_start fresh).run moves
  have nobody : (Ledger.run { channel } moves).asked = [] := by
    rw [Ledger.asked_run, List.nil_append, List.filterMap_eq_nil_iff]
    intro move member
    cases move with
    | signal reason => exact absurd member (unasked reason)
    | _ => rfl
  cases pending : (Ledger.run { channel } moves).channel.pending with
  | none => rfl
  | some reason =>
      cases heard : (Ledger.run { channel } moves).heard with
      | nil => simp [Ledger.heard, pending] at heard
      | cons first rest =>
          have asked := sound.head?_heard first (by rw [heard]; rfl)
          rw [nobody] at asked
          cases asked

end Run

/-- Every drain ends, in one way, and whatever is still open then is reported as cut off. But force
is reported also where nothing was cut off, if the last request ends when the time is over, as it
does at once where there is neither a request nor a time. Without a reason no drain begins. -/
theorem drains_reported (server : Server) (reason : String) (remaining : List Nat) :
    (∀ bound, (∃ source settings, Settings.ofSource source = .ok settings ∧
        settings.server = { drainTimeout := bound }) ↔
      ∃ seconds < Word.size64, bound = Settings.milliseconds seconds) ∧
    (∃ ended, (∀ other, server.Drains remaining other ↔ other = ended) ∧
      server.Reports reason ended (server.drain reason remaining) ∧
      (ended.IsOpen ↔ ∃ need ∈ remaining, server.drainTimeout < need) ∧
      ((server.drain reason remaining).result = .error (.forced server.drainTimeout) ∧
          ¬ ended.IsOpen ↔
        longest remaining = server.drainTimeout)) ∧
    ((server.drain reason remaining).result = .ok () ↔
      0 < server.drainTimeout ∧ ∀ need ∈ remaining, need < server.drainTimeout) ∧
    (∀ channel moves, channel.pending = none → (∀ reason, .signal reason ∉ moves) →
      server.run true (Shutdown.Ledger.run { channel } moves).channel remaining = .serving) ∧
    ∀ channel moves, channel.pending = none →
      let ledger := Shutdown.Ledger.run { channel } moves
      ledger.channel.hasListener = true → ledger.received = [] →
        reason ∈ (moves.filterMap Shutdown.Move.reason?).head? →
          server.run true ledger.channel remaining = .stopped (server.drain reason remaining) := by
  refine ⟨?_, ?_, result_eq_ok_iff, ?_, ?_⟩
  · intro bound
    constructor
    · rintro ⟨source, settings, accepted, isServer⟩
      refine ⟨settings.shutdownTimeout, ?_, (congrArg drainTimeout isServer).symm⟩
      exact Settings.shutdownTimeout_accepted_iff.mp ⟨source, settings, accepted, rfl⟩
    · rintro ⟨seconds, small, rfl⟩
      rcases Settings.shutdownTimeout_accepted_iff.mpr small with ⟨source, settings, accepted, rfl⟩
      exact ⟨source, settings, accepted, rfl⟩
  · have drains : server.Drains remaining _ := drains_iff.mpr rfl
    exact ⟨_, fun _ => drains_iff, reports_of_drains reason drains, isOpen_of_drains_iff drains,
      forced_in_vain_iff drains⟩
  · intro channel moves fresh unasked
    exact run_of_nothing (pending_of_unasked fresh unasked) server remaining
  · intro channel moves fresh ledger listener nothing first
    have sound := (Shutdown.Ledger.sound_start fresh).run moves
    have asked : reason ∈ ledger.asked.head? := by
      rw [Shutdown.Ledger.asked_run, List.nil_append]
      exact first
    exact run_of_reason (sound.receive_eq listener nothing asked) server remaining

/-! A server without any time for a drain. -/

def hastyServer : Server where
  drainTimeout := 0

theorem hastyServer_forced :
    (∃ source settings, Settings.ofSource source = .ok settings ∧
        settings.server = hastyServer) ∧
      (∃ ended, hastyServer.Drains [] ended ∧ ¬ ended.IsOpen ∧
        (hastyServer.drain "now" []).result = .error (.forced 0)) ∧
      hastyServer.run true (Shutdown.Ledger.run { channel := {} } [.dropSignal]).channel [] =
        .serving ∧
      hastyServer.run true (Shutdown.Ledger.run { channel := {} } [.signal "now"]).channel [] =
        .stopped (hastyServer.drain "now" []) := by
  rcases drains_reported hastyServer "now" [] with ⟨accepted, drains, _, serves, stops⟩
  refine ⟨(accepted 0).mpr ⟨0, by decide, rfl⟩, ?_, ?_, ?_⟩
  · rcases drains with ⟨ended, ends, _, _, inVain⟩
    rcases inVain.mpr rfl with ⟨isForced, closed⟩
    exact ⟨ended, (ends ended).mpr rfl, closed, isForced⟩
  · exact serves {} [.dropSignal] rfl (by simp)
  · exact stops {} [.signal "now"] rfl rfl rfl rfl

end Server

end TokenAuthority
