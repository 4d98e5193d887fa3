import TokenAuthority.Launch
import TokenAuthority.Proofs.Service
import TokenAuthority.Proofs.Settings

/-!
# Deadlines on the clock

The deadline of a request is computed in front of all its layers. As long as the clock can show it,
the layers answer whatever goes wrong behind them. Where it cannot, the request fails before any
layer is entered, whatever its route. Settings are accepted of which no clock can show a deadline.
-/

namespace TokenAuthority

namespace Pipeline

/-- How much time there is on the clock, in milliseconds. -/
def clockEnd : Nat :=
  Settings.milliseconds Word.half64

theorem deadline?_eq_some_iff {clock timeout deadline : Nat} :
    deadline? clock timeout = some deadline ↔
      clock + max timeout defaultTimeout < clockEnd ∧ deadline = clock + timeout := by
  have fits : (clock + max timeout defaultTimeout) / 1000 ≤ lastClockSecond ↔
      clock + max timeout defaultTimeout < clockEnd := by
    rw [lastClockSecond, clockEnd, Settings.milliseconds, Word.half64]
    omega
  simp only [deadline?, fits, Option.ite_none_right_eq_some, Option.some.injEq]
  exact and_congr_right fun _ => eq_comm

theorem deadline?_eq_none_iff {clock timeout : Nat} :
    deadline? clock timeout = none ↔ clockEnd ≤ clock + max timeout defaultTimeout := by
  rw [Option.eq_none_iff_forall_ne_some, ← Nat.not_lt]
  constructor
  · intro nothing fits
    exact nothing _ (deadline?_eq_some_iff.mpr ⟨fits, rfl⟩)
  · intro beyond deadline isDeadline
    exact beyond (deadline?_eq_some_iff.mp isDeadline).1

namespace App

variable {app : App} {capture : Http.Pattern.Capture} {request : Http.Request} {world : World}
  {context : Context}

theorem deadline_of_context? (isContext : app.context? capture request world = some context) :
    deadline? world.clock app.timeout = some context.deadline := by
  simp only [context?, Option.bind_eq_bind, Option.bind_eq_some_iff, Option.pure_def,
    Context.ofRequest?, Option.some.injEq] at isContext
  rcases isContext with ⟨deadline, isDeadline, fresh, isFresh, rfl⟩
  split at isFresh
  · cases isFresh
    exact isDeadline
  · cases isFresh

theorem answered_of_timed (layered : app.layers = global app.table)
    (shown : Claims.isShown world.now.toInt = true)
    (fits : world.clock + max app.timeout defaultTimeout < clockEnd) :
    ∃ context, app.context? capture request world = some context ∧
      context.deadline = world.clock + app.timeout ∧
      ∀ inner, ∃ response,
        (app.serveRoute (wrap app.layers inner) capture request world).1 = .ok response := by
  have isDeadline := deadline?_eq_some_iff.mpr ⟨fits, rfl⟩
  have times : app.Times world := ⟨shown, by rw [isDeadline]; rfl⟩
  rcases times.context? capture request with ⟨context, isContext, _⟩
  refine ⟨context, isContext, ?_, fun inner => ?_⟩
  · exact Option.some.inj ((deadline_of_context? isContext).symm.trans isDeadline)
  · rw [serveRoute_of_context layered isContext]
    rcases inner context (enter context { world }) with ⟨outcome, ended⟩
    exact ⟨_, answer_finish⟩

theorem serveRoute_of_untimed (beyond : clockEnd ≤ world.clock + max app.timeout defaultTimeout)
    (handler : Handler) :
    app.serveRoute handler capture request world = (.error untimed, world) := by
  apply serveRoute_of_noContext
  rw [context?, deadline?_eq_none_iff.mpr beyond]
  rfl

end App

end Pipeline

open Pipeline

namespace Service

variable {service : Service} {request : Http.Request} {world : World}

/-- A request gets through the gates, and there is a route for it. -/
structure ComesToRoute (service : Service) (request : Http.Request) : Prop where
  noOptions : request.method ≠ "OPTIONS"
  short : bodyLength request ≤ maximumBody
  isRoute : ∃ handler capture,
    service.app.destination request.method request.target.path = .route handler capture

theorem serve_of_untimed (comes : service.ComesToRoute request)
    (beyond : clockEnd ≤ world.clock + max service.timeout defaultTimeout) :
    service.app.serve request world = (.error App.untimed, world) := by
  rcases comes.isRoute with ⟨handler, capture, isRoute⟩
  rw [serve_of_route comes.noOptions isRoute, if_neg (Nat.not_lt.mpr comes.short)]
  dsimp only
  rw [App.serveRoute_of_untimed beyond]
  rfl

theorem destination_liveness (service : Service) :
    service.app.destination "GET" "/liveness" = .route service.liveness [] := by
  have isPattern : service.app.pattern? "/liveness" = some livenessPath := by
    rw [App.pattern?, patterns_app]
    decide +kernel
  rw [App.destination, isPattern]
  rfl

end Service

/-- A time for requests is accepted unless it is zero or does not fit into a word. If the clock can
show when it is over, the layers answer whatever happens; if not, every request for a route fails in
front of all layers, those for probes not excepted. -/
theorem Settings.requests_timed (app : App) (world : World) :
    (∀ seconds, (∃ source settings, ofSource source = .ok settings ∧
        settings.requestTimeout = seconds) ↔
      0 < seconds ∧ seconds < Word.size64) ∧
    (world.clock + max app.timeout defaultTimeout < clockEnd →
      app.layers = global app.table → Claims.isShown world.now.toInt = true →
      ∀ capture request, ∃ context, app.context? capture request world = some context ∧
        context.deadline = world.clock + app.timeout ∧
        ∀ inner, ∃ response,
          (app.serveRoute (wrap app.layers inner) capture request world).1 = .ok response) ∧
    (clockEnd ≤ world.clock + max app.timeout defaultTimeout →
      ∀ handler capture request,
        app.serveRoute handler capture request world = (.error App.untimed, world)) ∧
    (∀ (service : Service) request, service.ComesToRoute request →
      clockEnd ≤ world.clock + max service.timeout defaultTimeout →
        service.app.serve request world = (.error App.untimed, world)) ∧
    ∀ (settings : Settings) engine host,
      (settings.service engine host).app.timeout = milliseconds settings.requestTimeout ∧
      (Word.half64 ≤ settings.requestTimeout →
        clockEnd ≤
          world.clock + max (settings.service engine host).app.timeout defaultTimeout) := by
  refine ⟨fun _ => requestTimeout_accepted_iff, ?_, ?_, ?_, ?_⟩
  · intro fits layered shown capture request
    exact App.answered_of_timed layered shown fits
  · intro beyond handler capture request
    exact App.serveRoute_of_untimed beyond handler
  · intro service request comes beyond
    exact Service.serve_of_untimed comes beyond
  · intro settings engine host
    refine ⟨rfl, fun long => ?_⟩
    have inSeconds : clockEnd ≤ (settings.service engine host).app.timeout :=
      Nat.mul_le_mul_right 1000 long
    omega

/-! The time that settings have by themselves, and the greatest that they may have. -/

def probeRequest : Http.Request where
  target := .place "/liveness" none

theorem probe_fails :
    (∃ source settings, Settings.ofSource source = .ok settings ∧
      settings.requestTimeout = 10 ∧
      ∀ engine host inner, ∃ response,
        ((settings.service engine host).app.serveRoute
          (wrap (settings.service engine host).app.layers inner) [] probeRequest plainWorld).1 =
            .ok response) ∧
    ∃ source settings, Settings.ofSource source = .ok settings ∧
      settings.requestTimeout = 18446744073709551615 ∧
      ∀ engine host, ∀ world : World,
        (settings.service engine host).app.serve probeRequest world =
          (.error App.untimed, world) := by
  rcases Settings.requests_timed plainApp plainWorld with ⟨accepted, _⟩
  constructor
  · rcases (accepted 10).mpr (by decide) with ⟨source, settings, isAccepted, isTime⟩
    refine ⟨source, settings, isAccepted, isTime, fun engine host => ?_⟩
    rcases Settings.requests_timed (settings.service engine host).app plainWorld with
      ⟨_, answered, _, _, times⟩
    have fits : plainWorld.clock + max (settings.service engine host).app.timeout defaultTimeout <
        clockEnd := by
      rw [(times settings engine host).1, isTime]
      decide
    rcases answered fits rfl (by decide) [] probeRequest with ⟨_, _, _, answers⟩
    exact answers
  · rcases (accepted 18446744073709551615).mpr (by decide) with
      ⟨source, settings, isAccepted, isTime⟩
    refine ⟨source, settings, isAccepted, isTime, fun engine host world => ?_⟩
    rcases Settings.requests_timed (settings.service engine host).app world with
      ⟨_, _, _, fails, times⟩
    have beyond := (times settings engine host).2 (by rw [isTime]; decide)
    refine fails _ probeRequest ⟨by decide, by decide, ?_⟩ beyond
    exact ⟨_, _, Service.destination_liveness _⟩

end TokenAuthority
