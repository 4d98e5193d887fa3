import Mathlib.Logic.Relation
import TokenAuthority.Proofs.Pipeline.Accounts

/-!
# Requests at the same time

Many requests may be on their way together. Each gets inside the four layers of its route, and later
it comes out with an outcome or is dropped while it waits; in between others do the same, and
whatever else goes on leaves the counters alone. A crowd follows the world through all this and
keeps how far every request has come.

The counters are at any time those that a census of the crowd comes to.
-/

namespace TokenAuthority.Pipeline

inductive Fate where
  /-- Something inside its layers runs or waits. -/
  | onItsWay (context : Context)
  /-- What is inside its layers has ended. -/
  | ended (outcome : Outcome)
  /-- Nobody waits for it any longer. -/
  | dropped
  deriving DecidableEq

namespace Fate

def isOnItsWay : Fate → Bool
  | .onItsWay _ => true
  | _ => false

def failed : Fate → Bool
  | .ended outcome => outcome.fails
  | _ => false

def panicked : Fate → Bool
  | .ended outcome => outcome.panics
  | _ => false

theorem failed_of_panicked {fate : Fate} (panicked : fate.panicked = true) :
    fate.failed = true := by
  cases fate with
  | onItsWay context => cases panicked
  | dropped => cases panicked
  | ended outcome =>
      cases outcome with
      | response response => cases panicked
      | failure failure => cases panicked
      | panic panic => rfl

end Fate

structure Crowd where
  world : World
  fates : List Fate := []

namespace Crowd

/-! ## Steps -/

def start (crowd : Crowd) (context : Context) : Crowd where
  world := (enter context { world := crowd.world }).world
  fates := crowd.fates ++ [.onItsWay context]

/-- A request comes out of its layers and is answered. It waits for nothing on the way out, and so
this is one step. -/
def finish (crowd : Crowd) (app : App) (table : StatusTable) (number : Nat) (context : Context)
    (outcome : Outcome) (recorded : Http.Status) : Crowd where
  world := (app.finish table context (outcome, { world := crowd.world, recorded })).2
  fates := crowd.fates.set number (.ended outcome)

/-- A request is dropped while it waits. Of its layers only the meter sees to that. -/
def drop (crowd : Crowd) (number : Nat) : Crowd where
  world := { crowd.world with counters := crowd.world.counters.leave }
  fates := crowd.fates.set number .dropped

/-- What can happen next. Outcomes are not tied to handlers here: any request may come to any. -/
inductive Step (app : App) (table : StatusTable) (crowd : Crowd) : Crowd → Prop
  /-- Anything but the counters changes: what is inside the layers runs for a while, or what is
  around them. -/
  | work {world : World} (kept : world.counters = crowd.world.counters) :
      Step app table crowd { crowd with world }
  | start (context : Context) : Step app table crowd (crowd.start context)
  | finish {number : Nat} {context : Context}
      (onItsWay : crowd.fates[number]? = some (.onItsWay context)) (outcome : Outcome)
      (recorded : Http.Status) :
      Step app table crowd (crowd.finish app table number context outcome recorded)
  | drop {number : Nat} {context : Context}
      (onItsWay : crowd.fates[number]? = some (.onItsWay context)) :
      Step app table crowd (crowd.drop number)

def Leads (app : App) (table : StatusTable) : Crowd → Crowd → Prop :=
  Relation.ReflTransGen (Step app table)

/-! ## The census -/

def census (fates : List Fate) : Counters where
  requests := fates.length
  errors := fates.countP Fate.failed
  panics := fates.countP Fate.panicked
  inFlight := fates.countP Fate.isOnItsWay

variable {fates : List Fate} {number : Nat} {context : Context}

theorem census_start (fates : List Fate) (context : Context) :
    census (fates ++ [.onItsWay context]) = (census fates).enter := by
  simp [census, Counters.enter, List.countP_append, Fate.failed, Fate.panicked, Fate.isOnItsWay]

theorem inFlight_census_pos (onItsWay : fates[number]? = some (.onItsWay context)) :
    0 < (census fates).inFlight :=
  List.countP_pos_iff.mpr ⟨_, List.mem_of_getElem? onItsWay, rfl⟩

theorem census_set (onItsWay : fates[number]? = some (.onItsWay context)) {fate : Fate}
    (gone : fate.isOnItsWay = false) :
    census (fates.set number fate) = {
      requests := (census fates).requests
      errors := (census fates).errors + fate.failed.toNat
      panics := (census fates).panics + fate.panicked.toNat
      inFlight := (census fates).inFlight - 1 } := by
  rcases List.getElem?_eq_some_iff.mp onItsWay with ⟨inside, isHere⟩
  have added (counts : Fate → Bool) (uncounted : counts (.onItsWay context) = false) :
      (fates.set number fate).countP counts = fates.countP counts + (counts fate).toNat := by
    rw [List.countP_set inside, isHere, uncounted]
    cases counts fate <;> rfl
  have removed :
      (fates.set number fate).countP Fate.isOnItsWay = fates.countP Fate.isOnItsWay - 1 := by
    rw [List.countP_set inside, isHere, gone]
    rfl
  simp only [census, List.length_set, added Fate.failed rfl, added Fate.panicked rfl, removed]

theorem census_finish (onItsWay : fates[number]? = some (.onItsWay context)) (outcome : Outcome) :
    census (fates.set number (.ended outcome)) = outcome.settle (census fates) :=
  census_set onItsWay rfl

theorem census_drop (onItsWay : fates[number]? = some (.onItsWay context)) :
    census (fates.set number .dropped) = (census fates).leave :=
  census_set onItsWay rfl

/-! ## What every crowd keeps -/

variable {app : App} {table : StatusTable} {crowd later : Crowd}

def Counted (crowd : Crowd) : Prop :=
  crowd.world.counters = census crowd.fates

theorem Counted.step (counted : crowd.Counted) (step : Step app table crowd later) :
    later.Counted := by
  cases step with
  | work kept => exact kept.trans counted
  | start context =>
      calc
        (crowd.start context).world.counters = crowd.world.counters.enter := rfl
        _ = (census crowd.fates).enter := congrArg Counters.enter counted
        _ = census (crowd.start context).fates := (census_start ..).symm
  | @finish number context onItsWay outcome recorded =>
      calc
        (crowd.finish app table number context outcome recorded).world.counters =
            outcome.settle crowd.world.counters := App.counters_finish
        _ = outcome.settle (census crowd.fates) := congrArg outcome.settle counted
        _ = census (crowd.fates.set number (.ended outcome)) := (census_finish onItsWay _).symm
  | @drop number context onItsWay =>
      calc
        (crowd.drop number).world.counters = crowd.world.counters.leave := rfl
        _ = (census crowd.fates).leave := congrArg Counters.leave counted
        _ = census (crowd.drop number).fates := (census_drop onItsWay).symm

theorem Counted.leads (counted : crowd.Counted) (leads : Leads app table crowd later) :
    later.Counted := by
  induction leads with
  | refl => exact counted
  | tail _ step induction => exact induction.step step

theorem census_le (fates : List Fate) :
    (census fates).panics ≤ (census fates).errors ∧
      (census fates).errors ≤ (census fates).requests ∧
      (census fates).inFlight ≤ (census fates).requests := by
  refine ⟨?_, List.countP_le_length, List.countP_le_length⟩
  apply List.countP_mono_left
  intro fate _ panicked
  exact Fate.failed_of_panicked panicked

/-! ## Runs of a route -/

/-- A route that a request takes, while others do what they like, begins with a start and ends with
a finish. -/
theorem leads_serveRoute (layered : app.layers = global table) {capture : Http.Pattern.Capture}
    {request : Http.Request} (isContext : app.context? capture request crowd.world = some context)
    {inner : Handler} (meanwhile : Leads app table (crowd.start context) later)
    (sameWorld : (inner context (enter context { world := crowd.world })).2.world = later.world)
    (onItsWay : later.fates[crowd.fates.length]? = some (.onItsWay context)) :
    Leads app table crowd {
      world := (app.serveRoute (wrap app.layers inner) capture request crowd.world).2
      fates := later.fates.set crowd.fates.length
        (.ended (inner context (enter context { world := crowd.world })).1) } := by
  rw [App.serveRoute_of_context layered isContext]
  rcases comesTo : inner context (enter context { world := crowd.world }) with
    ⟨outcome, world, recorded⟩
  rw [comesTo] at sameWorld
  obtain rfl : world = later.world := sameWorld
  have begins : Step app table crowd (crowd.start context) := .start context
  have ends : Step app table later
      (later.finish app table crowd.fates.length context outcome recorded) :=
    .finish onItsWay outcome recorded
  exact (Relation.ReflTransGen.head begins meanwhile).tail ends

/-- Whatever requests of an application do at the same time, the counters show how many have
started, how many have failed or panicked, how many have panicked, and how many have neither ended
nor been dropped. Whoever leaves takes one off a gauge that is above zero. The runs of routes are
among those that are counted. -/
theorem counters_consistent (app : App) (table : StatusTable) (layered : app.layers = global table)
    (world : World) (fresh : world.counters = {}) (crowd : Crowd)
    (leads : Leads app table { world } crowd) :
    let counters := crowd.world.counters
    counters.requests = crowd.fates.length ∧
    counters.errors = crowd.fates.countP Fate.failed ∧
    counters.panics = crowd.fates.countP Fate.panicked ∧
    counters.inFlight = crowd.fates.countP Fate.isOnItsWay ∧
    counters.panics ≤ counters.errors ∧ counters.errors ≤ counters.requests ∧
    counters.inFlight ≤ counters.requests ∧
    ((∀ fate ∈ crowd.fates, fate.isOnItsWay = false) → counters.inFlight = 0) ∧
    (∀ number context, crowd.fates[number]? = some (.onItsWay context) →
      (∀ outcome recorded,
        (crowd.finish app table number context outcome recorded).world.counters.inFlight + 1 =
          counters.inFlight) ∧
      (crowd.drop number).world.counters.inFlight + 1 = counters.inFlight) ∧
    ∀ capture request context, app.context? capture request crowd.world = some context →
      ∀ inner : Handler,
        let outcome := (inner context (enter context { world := crowd.world })).1
        let ended := (inner context (enter context { world := crowd.world })).2
        ∀ later, Leads app table (crowd.start context) later → ended.world = later.world →
          later.fates[crowd.fates.length]? = some (.onItsWay context) →
          Leads app table crowd {
            world := (app.serveRoute (wrap app.layers inner) capture request crowd.world).2
            fates := later.fates.set crowd.fates.length (.ended outcome) } := by
  intro counters
  have counted : counters = census crowd.fates := by
    have begins : Counted { world } := fresh
    exact begins.leads leads
  have ordered := census_le crowd.fates
  rw [← counted] at ordered
  refine ⟨congrArg Counters.requests counted, congrArg Counters.errors counted,
    congrArg Counters.panics counted, congrArg Counters.inFlight counted, ordered.1, ordered.2.1,
    ordered.2.2, ?_, ?_, ?_⟩
  · intro nobody
    rw [counted]
    exact List.countP_eq_zero.mpr fun fate member => by simp [nobody fate member]
  · intro number context onItsWay
    have positive : 0 < counters.inFlight := by
      rw [counted]
      exact inFlight_census_pos onItsWay
    constructor
    · intro outcome recorded
      have settled : (crowd.finish app table number context outcome recorded).world.counters =
          outcome.settle counters := App.counters_finish
      rw [settled]
      exact Nat.sub_add_cancel positive
    · exact Nat.sub_add_cancel positive
  · intro capture request context isContext inner outcome ended later meanwhile sameWorld onItsWay
    exact leads_serveRoute layered isContext meanwhile sameWorld onItsWay

/-! A route with a layer that panics, and then a request that is dropped, one that stops the service
and one that waits. -/

def plainContext : Context where
  request := plainRequest
  parameters := some []
  body := some plainRequest.body
  startedAt := plainWorld.now
  isTraced := true
  deadline := defaultTimeout

def busyCrowd : Crowd where
  world :=
    (plainApp.serveRoute (wrap plainApp.layers (wrap [lastPanic] plainHandler)) [] plainRequest
      plainWorld).2
  fates := [.ended (.panic { words := some "too late" })]

theorem busyCrowd_counted :
    ∃ crowd, Leads plainApp {} { world := plainWorld } crowd ∧
      crowd.fates = [.ended (.panic { words := some "too late" }), .dropped,
        .ended (.failure (.shutdown "disk gone")), .onItsWay plainContext] ∧
      crowd.world.counters.requests = 4 ∧ crowd.world.counters.errors = 2 ∧
      crowd.world.counters.panics = 1 ∧ crowd.world.counters.inFlight = 1 := by
  have consistent := counters_consistent plainApp {} rfl plainWorld rfl
  have isContext : plainApp.context? [] plainRequest plainWorld = some plainContext := rfl
  have route : Leads plainApp {} { world := plainWorld } busyCrowd := by
    rcases consistent _ .refl with ⟨_, _, _, _, _, _, _, _, _, routes⟩
    exact routes [] plainRequest plainContext isContext (wrap [lastPanic] plainHandler) _ .refl rfl
      rfl
  let first := busyCrowd.start plainContext
  let second := (first.drop 1).start plainContext
  let third := second.finish plainApp {} 2 plainContext (.failure (.shutdown "disk gone")) .ok
  have isFirst : Step plainApp {} busyCrowd first := .start plainContext
  have drops : Step plainApp {} first (first.drop 1) := .drop rfl
  have isSecond : Step plainApp {} (first.drop 1) second := .start plainContext
  have stops : Step plainApp {} second third := .finish rfl _ _
  have isLast : Step plainApp {} third (third.start plainContext) := .start plainContext
  have leads : Leads plainApp {} { world := plainWorld } (third.start plainContext) :=
    ((((route.tail isFirst).tail drops).tail isSecond).tail stops).tail isLast
  rcases consistent _ leads with ⟨requests, errors, panics, inFlight, _⟩
  exact ⟨_, leads, rfl, requests, errors, panics, inFlight⟩

end Crowd

end TokenAuthority.Pipeline
