import Mathlib.Data.List.Forall2
import TokenAuthority.Proofs.Pipeline.Accounts
import TokenAuthority.Proofs.Pipeline.Registration

/-!
# What a caller cannot tell

A panic and a failure that nobody has classified say things that are none of a caller's business.
Two requests that differ in such words only are told to the log in those words and are alike in
everything else: in what is sent back and in all that is left behind.
-/

namespace TokenAuthority

/-! ## What is alike -/

/-- Failures whose difference a caller must not see. -/
inductive Failure.Alike : Failure → Failure → Prop where
  | same (failure : Failure) : Alike failure failure
  | panics (value trace otherValue otherTrace : String) :
      Alike (.panic value trace) (.panic otherValue otherTrace)
  | unclassified (message otherMessage : String) :
      Alike (.unclassified message) (.unclassified otherMessage)

inductive Log.Event.Alike : Log.Event → Log.Event → Prop where
  | panicked (value trace otherValue otherTrace : String) :
      Alike (.requestPanicked .internal value trace)
        (.requestPanicked .internal otherValue otherTrace)
  | failed (message otherMessage : String) :
      Alike (.requestFailed .unknown message) (.requestFailed .unknown otherMessage)

theorem Log.Event.Alike.errors {left right : Log.Event} (alike : left.Alike right) :
    left.level = .error ∧ right.level = .error := by
  cases alike with
  | panicked => exact ⟨rfl, rfl⟩
  | failed => exact ⟨rfl, rfl⟩

namespace Failure.Alike

variable {left right : Failure} (alike : left.Alike right)

include alike

theorem kind_eq : left.kind = right.kind := by
  cases alike with
  | same => rfl
  | panics => rfl
  | unclassified => rfl

theorem envelope_eq : left.envelope = right.envelope := by
  cases alike with
  | same => rfl
  | panics => rfl
  | unclassified => rfl

theorem envelopeOf_eq (table : StatusTable) :
    Pipeline.envelopeOf table left = Pipeline.envelopeOf table right := by
  rw [Pipeline.envelopeOf, Pipeline.envelopeOf, alike.envelope_eq, alike.kind_eq]

theorem eq_or_stay : left = right ∨ left.isShutdown = false ∧ right.isShutdown = false := by
  cases alike with
  | same => exact .inl rfl
  | panics => exact .inr ⟨rfl, rfl⟩
  | unclassified => exact .inr ⟨rfl, rfl⟩

theorem events : Log.Event.ofFailure left = Log.Event.ofFailure right ∨
    (Log.Event.ofFailure left).Alike (Log.Event.ofFailure right) := by
  cases alike with
  | same => exact .inl rfl
  | panics value trace otherValue otherTrace =>
      exact .inr (.panicked value trace otherValue otherTrace)
  | unclassified message otherMessage => exact .inr (.failed message otherMessage)

end Failure.Alike

namespace Pipeline

inductive Outcome.Alike : Outcome → Outcome → Prop where
  | same (outcome : Outcome) : Alike outcome outcome
  | panics (left right : Panic) : Alike (.panic left) (.panic right)
  | failures {left right : Failure} (alike : left.Alike right) :
      Alike (.failure left) (.failure right)

/-- Worlds that differ in the words of one error in the log, if in anything. -/
inductive World.Alike : World → World → Prop where
  | same (world : World) : Alike world world
  | told (world : World) (before after : List Log.Event) {left right : Log.Event}
      (alike : left.Alike right) :
      Alike { world with log := before ++ left :: after }
        { world with log := before ++ right :: after }

structure State.Alike (left right : State) : Prop where
  world : left.world.Alike right.world
  recorded : left.recorded = right.recorded

/-- Two ways in which what is inside a layer has ended: what a caller must not see is still in the
outcome, or it has been told to the log. -/
inductive SameOutside : Outcome × State → Outcome × State → Prop where
  | inside {left right : Outcome} (alike : left.Alike right) (state : State) :
      SameOutside (left, state) (right, state)
  | told (outcome : Outcome) {left right : State} (alike : left.Alike right) :
      SameOutside (outcome, left) (outcome, right)

theorem SameOutside.refl (ended : Outcome × State) : SameOutside ended ended :=
  .inside (.same ended.1) ended.2

/-! ## Changes of the state -/

namespace World.Alike

variable {left right : World} (alike : left.Alike right)

include alike

theorem change (change : World → World)
    (keepsLog : ∀ (world : World) log, change { world with log } = { change world with log }) :
    (change left).Alike (change right) := by
  cases alike with
  | same => exact .same _
  | told world before after alike =>
      have told := told (change world) before after alike
      rwa [← keepsLog, ← keepsLog] at told

theorem log (event : Log.Event) :
    World.Alike { left with log := left.log ++ [event] }
      { right with log := right.log ++ [event] } := by
  cases alike with
  | same => exact .same _
  | told world before after alike =>
      simp only [List.append_assoc, List.cons_append]
      exact .told world before (after ++ [event]) alike

theorem differ_in_words :
    left = { right with log := left.log } ∧
      (left.log = right.log ∨ ∃ before after one other, Log.Event.Alike one other ∧
        left.log = before ++ one :: after ∧ right.log = before ++ other :: after) := by
  cases alike with
  | same => exact ⟨rfl, .inl rfl⟩
  | told world before after alike => exact ⟨rfl, .inr ⟨before, after, _, _, alike, rfl, rfl⟩⟩

end World.Alike

namespace State.Alike

variable {left right : State} (alike : left.Alike right)

include alike

theorem log (event : Log.Event) : (left.log event).Alike (right.log event) :=
  ⟨alike.world.log event, alike.recorded⟩

theorem count (change : Counters → Counters) : (left.count change).Alike (right.count change) where
  world := alike.world.change (fun world => { world with counters := change world.counters })
    fun _ _ => rfl
  recorded := alike.recorded

theorem note (words : String) : (left.note words).Alike (right.note words) where
  world := alike.world.change (fun world => { world with trail := world.trail ++ [words] })
    fun _ _ => rfl
  recorded := alike.recorded

theorem signal (reason : String) : (left.signal reason).Alike (right.signal reason) where
  world := alike.world.change
    (fun world => { world with channel := (world.channel.signal reason).1 }) fun _ _ => rfl
  recorded := alike.recorded

theorem record (status : Http.Status) : (left.record status).Alike (right.record status) :=
  ⟨alike.world, rfl⟩

end State.Alike

theorem State.Alike.of_events {left right : Log.Event} (alike : left = right ∨ left.Alike right)
    (state : State) : (state.log left).Alike (state.log right) := by
  rcases alike with rfl | alike
  · exact ⟨.same _, rfl⟩
  · exact ⟨.told state.world state.world.log [] alike, rfl⟩

/-! ## On the way out -/

theorem translate_of_stays (table : StatusTable) {failure : Failure}
    (stays : failure.isShutdown = false) (state : State) :
    translate table (.failure failure, state) =
      (.response (envelopeOf table failure),
        (state.log (Log.Event.ofFailure failure)).record (table.status failure.kind)) := by
  simp only [translate, stays, Bool.false_eq_true, if_false]
  rfl

theorem leave_settles (table : StatusTable) (context : Context) (ended : Outcome × State) :
    (∀ panic, (leave table context ended).1 ≠ .panic panic) ∧
      ∀ failure, (leave table context ended).1 = .failure failure → failure.isShutdown = true := by
  rcases ended with ⟨outcome, state⟩
  rw [fst_leave]
  cases stops : outcome.stop? with
  | none => exact ⟨nofun, nofun⟩
  | some failure =>
      refine ⟨nofun, ?_⟩
      rintro _ ⟨⟩
      exact (Option.filter_eq_some_iff.mp stops).2

namespace SameOutside

variable {left right : Outcome × State} (same : SameOutside left right)

include same

theorem contain : SameOutside (contain left) (contain right) := by
  cases same with
  | inside alike state =>
      cases alike with
      | same => exact .refl _
      | panics one other => exact .inside (.failures (.panics ..)) _
      | failures alike => exact .inside (.failures alike) _
  | told outcome alike =>
      cases outcome with
      | panic panic => exact .told _ (alike.count _)
      | response response => exact .told _ alike
      | failure failure => exact .told _ alike

theorem tally : SameOutside (tally left) (tally right) := by
  cases same with
  | inside alike state =>
      cases alike with
      | same => exact .refl _
      | panics one other => exact .inside (.panics one other) _
      | failures alike => exact .inside (.failures alike) _
  | told outcome alike =>
      cases outcome with
      | failure failure => exact .told _ ((alike.count _).count _)
      | response response => exact .told _ (alike.count _)
      | panic panic => exact .told _ (alike.count _)

theorem translate (table : StatusTable) :
    SameOutside (translate table left) (translate table right) := by
  cases same with
  | inside alike state =>
      cases alike with
      | same => exact .refl _
      | panics one other => exact .inside (.panics one other) _
      | failures alike =>
          rcases alike.eq_or_stay with rfl | ⟨leftStays, rightStays⟩
          · exact .refl _
          · rw [translate_of_stays table leftStays, translate_of_stays table rightStays,
              alike.envelopeOf_eq table, alike.kind_eq]
            exact .told _ ((State.Alike.of_events alike.events state).record _)
  | told outcome alike =>
      cases outcome with
      | failure failure =>
          simp only [Pipeline.translate]
          split
          · exact .told _ ((alike.log _).record _)
          · exact .told _ ((alike.log _).record _)
      | response response => exact .told _ alike
      | panic panic => exact .told _ alike

theorem closeLog (context : Context) :
    SameOutside (closeLog context left) (closeLog context right) := by
  cases same with
  | inside alike state =>
      cases alike with
      | same => exact .refl _
      | panics one other => exact .inside (.panics one other) _
      | failures alike => exact .inside (.failures alike) _
  | told outcome alike =>
      cases outcome with
      | panic panic => exact .told _ alike
      | _ =>
          simp only [Pipeline.closeLog, alike.recorded]
          exact .told _ (alike.log _)

theorem noteLeaving (name : String) :
    SameOutside (noteLeaving name left) (noteLeaving name right) := by
  cases same with
  | inside alike state =>
      cases alike with
      | same => exact .refl _
      | panics one other => exact .inside (.panics one other) _
      | failures alike =>
          simp only [Pipeline.noteLeaving, leavingNote, alike.kind_eq]
          exact .inside (.failures alike) _
  | told outcome alike =>
      simp only [Pipeline.noteLeaving, alike.recorded]
      cases leavingNote name _ outcome with
      | none => exact .told _ alike
      | some words => exact .told _ (alike.note words)

theorem leave (table : StatusTable) (context : Context) :
    (leave table context left).1 = (leave table context right).1 ∧
      (leave table context left).2.Alike (leave table context right).2 := by
  have outside : SameOutside (Pipeline.leave table context left)
      (Pipeline.leave table context right) :=
    ((same.contain.tally).translate table).closeLog context
  rcases leave_settles table context left with ⟨noPanic, stops⟩
  rcases leave_settles table context right with ⟨_, otherStops⟩
  generalize Pipeline.leave table context left = ended at *
  generalize Pipeline.leave table context right = other at *
  cases outside with
  | told outcome alike => exact ⟨rfl, alike⟩
  | inside alike state =>
      refine ⟨?_, .same _, rfl⟩
      cases alike with
      | same => rfl
      | panics one another => exact absurd rfl (noPanic one)
      | failures alike =>
          rcases alike.eq_or_stay with rfl | ⟨stays, _⟩
          · rfl
          · rw [stops _ rfl] at stays
            cases stays

end SameOutside

/-! ## Layers -/

def Handler.SameOutside (left right : Handler) : Prop :=
  ∀ context state, Pipeline.SameOutside (left context state) (right context state)

def Middleware.IsDiscreet (layer : Middleware) : Prop :=
  ∀ {left right : Handler}, left.SameOutside right → (layer left).SameOutside (layer right)

/-- A layer that only passes on: it ends the matter, or it leaves it to what is behind it, in a
context and a state of its choice. -/
def Middleware.PassesOn (layer : Middleware) : Prop :=
  ∀ context state, (∃ ended, ∀ next, layer next context state = ended) ∨
    ∃ inner held, ∀ next, layer next context state = next inner held

theorem Middleware.PassesOn.isDiscreet {layer : Middleware} (passesOn : layer.PassesOn) :
    layer.IsDiscreet := by
  intro left right same context state
  rcases passesOn context state with ⟨ended, ends⟩ | ⟨inner, held, runs⟩
  · rw [ends, ends]
    exact .refl ended
  · rw [runs, runs]
    exact same inner held

theorem Layer.isDiscreet_middleware (layer : Layer) : layer.middleware.IsDiscreet := by
  intro left right same context state
  have course : ∀ next, layer.middleware next context state =
      (layer.course context state).finish next :=
    fun next => layer.stage.follows next context state
  cases layer with
  | logger => exact (same _ _).closeLog context
  | boundary table => exact (same _ _).translate table
  | meter => exact (same _ _).tally
  | safetyNet => exact (same _ _).contain
  | marker name =>
      rw [course, course]
      exact (same _ _).noteLeaving name
  | authenticate who =>
      rw [course, course, Layer.course]
      rcases who.identify context state with ⟨outcome | caller, after⟩
      · exact .refl _
      · exact same _ after
  | authorize whether rule =>
      rw [course, course, Layer.course]
      rcases whether.decision rule context state with ⟨outcome | _, after⟩
      · exact .refl _
      · exact same _ after

theorem sameOutside_wrap {layers : List Middleware} {left right : Handler}
    (discreet : ∀ layer ∈ layers, Middleware.IsDiscreet layer) (same : left.SameOutside right) :
    (wrap layers left).SameOutside (wrap layers right) := by
  induction layers with
  | nil => exact same
  | cons layer layers induction =>
      rw [List.forall_mem_cons] at discreet
      exact discreet.1 (induction discreet.2)

/-! ## Routes -/

def Handler.SameAnswers (left right : Handler) : Prop :=
  ∀ context state, (left context state).1 = (right context state).1 ∧
    (left context state).2.Alike (right context state).2

theorem Handler.SameOutside.sameAnswers {left right : Handler} (same : left.SameOutside right)
    (table : StatusTable) :
    Handler.SameAnswers (wrap (global table) left) (wrap (global table) right) := by
  intro context state
  rw [wrap_global, wrap_global]
  exact (same context _).leave table context

structure Route.SameAnswers (left right : Route) : Prop where
  method : left.method = right.method
  pattern : left.pattern = right.pattern
  handler : Handler.SameAnswers left.handler right.handler

theorem Route.SameAnswers.refl (route : Route) : route.SameAnswers route :=
  ⟨rfl, rfl, fun _ _ => ⟨rfl, .same _, rfl⟩⟩

namespace App

theorem find?_sameAnswers {left right : List Route}
    (same : List.Forall₂ Route.SameAnswers left right) (method : String) :
    Option.Rel Route.SameAnswers (left.find? fun route => route.method == method)
      (right.find? fun route => route.method == method) := by
  induction same with
  | nil => exact .none
  | cons first _ induction =>
      simp only [List.find?_cons, first.method]
      split
      · exact .some first
      · exact induction

theorem routeFor?_sameAnswers {left right : List Route}
    (same : List.Forall₂ Route.SameAnswers left right) (method : String) :
    Option.Rel Route.SameAnswers (routeFor? method left) (routeFor? method right) := by
  simp only [routeFor?]
  split
  · have asked := find?_sameAnswers same "HEAD"
    generalize (left.find? fun route => route.method == "HEAD") = first at *
    generalize (right.find? fun route => route.method == "HEAD") = other at *
    cases asked with
    | none => exact find?_sameAnswers same "GET"
    | some found => exact .some found
  · exact find?_sameAnswers same method

inductive Destination.SameAnswers : Destination → Destination → Prop where
  | same (destination : Destination) : SameAnswers destination destination
  | route {left right : Handler} (same : left.SameAnswers right)
      (capture : Http.Pattern.Capture) : SameAnswers (.route left capture) (.route right capture)

variable (app : App) {left right : List Route} (same : List.Forall₂ Route.SameAnswers left right)

include same

theorem map_eq_of_sameAnswers {Value : Type} (read : Route → Value)
    (reads : ∀ {one other : Route}, one.SameAnswers other → read one = read other) :
    left.map read = right.map read := by
  induction same with
  | nil => rfl
  | cons first _ induction => rw [List.map_cons, List.map_cons, reads first, induction]

theorem destination_sameAnswers (method path : String) :
    Destination.SameAnswers ({ app with routes := left }.destination method path)
      ({ app with routes := right }.destination method path) := by
  have patterns : { app with routes := left }.pattern? path =
      { app with routes := right }.pattern? path :=
    pattern?_congr (map_eq_of_sameAnswers same Route.pattern (·.pattern)) path
  simp only [destination, patterns]
  cases { app with routes := right }.pattern? path with
  | none => exact .same _
  | some pattern =>
      have chosen : List.Forall₂ Route.SameAnswers
          (left.filter fun route => route.pattern == pattern)
          (right.filter fun route => route.pattern == pattern) :=
        List.rel_filter (fun {one other} same => by simp only [same.pattern]) same
      have found := routeFor?_sameAnswers chosen method
      have allowed := map_eq_of_sameAnswers chosen Route.methods
        fun same => by rw [Route.methods, Route.methods, same.method]
      dsimp only
      rw [allowed]
      generalize routeFor? method (left.filter _) = one at *
      generalize routeFor? method (right.filter _) = other at *
      cases found with
      | none => exact .same _
      | some found => exact .route found.handler _

end App

/-! ## Answers to requests -/

def Responder.SameAnswers (left right : Responder) : Prop :=
  ∀ request world, (left request world).1 = (right request world).1 ∧
    (left request world).2.Alike (right request world).2

theorem Responder.SameAnswers.guardAll {left right : Responder} (same : left.SameAnswers right)
    (gates : List Gate) :
    Responder.SameAnswers (Gate.guardAll gates left) (Gate.guardAll gates right) := by
  induction gates with
  | nil => exact same
  | cons gate gates induction =>
      intro request world
      change (gate.guard (Gate.guardAll gates left) request world).1 =
          (gate.guard (Gate.guardAll gates right) request world).1 ∧
        (gate.guard (Gate.guardAll gates left) request world).2.Alike
          (gate.guard (Gate.guardAll gates right) request world).2
      simp only [Gate.guard]
      cases gate.receive request with
      | error response => exact ⟨rfl, .same _⟩
      | ok received =>
          rcases induction received world with ⟨answers, worlds⟩
          exact ⟨congrArg (Except.map gate.release) answers, worlds⟩

namespace App

theorem conclude_sameAnswers (app : App) (outcome : Outcome) {left right : State}
    (alike : left.Alike right) :
    (app.conclude outcome left).1 = (app.conclude outcome right).1 ∧
      (app.conclude outcome left).2.Alike (app.conclude outcome right).2 := by
  cases outcome with
  | response response => exact ⟨rfl, alike⟩
  | panic panic => exact ⟨rfl, alike⟩
  | failure failure =>
      refine ⟨rfl, ?_⟩
      simp only [conclude]
      split
      · exact ((alike.log _).signal _).record _
      · exact alike.record _

theorem serveRoute_sameAnswers (app : App) {left right : Handler} (same : left.SameAnswers right)
    (capture : Http.Pattern.Capture) :
    Responder.SameAnswers (app.serveRoute left capture) (app.serveRoute right capture) := by
  intro request world
  simp only [serveRoute]
  cases app.context? capture request world with
  | none => exact ⟨rfl, .same _⟩
  | some context =>
      rcases same context { world } with ⟨outcomes, states⟩
      have concluded := app.conclude_sameAnswers (left context { world }).1 states
      rw [outcomes] at concluded
      dsimp only
      rw [outcomes]
      exact ⟨concluded.1, concluded.2.world⟩

theorem serve_sameAnswers (app : App) {left right : List Route}
    (same : List.Forall₂ Route.SameAnswers left right) :
    Responder.SameAnswers { app with routes := left }.serve { app with routes := right }.serve := by
  intro request world
  have found := destination_sameAnswers app same request.method request.target.path
  simp only [serve]
  generalize { app with routes := left }.destination request.method request.target.path = one at *
  generalize { app with routes := right }.destination request.method request.target.path = other
    at *
  cases found with
  | same =>
      cases one with
      | nowhere => exact ⟨rfl, .same _⟩
      | wrongMethod allowed => exact ⟨rfl, .same _⟩
      | route handler capture => exact ⟨rfl, .same _⟩
  | route same capture =>
      rcases (app.serveRoute_sameAnswers same capture).guardAll app.gates request world with
        ⟨answers, worlds⟩
      exact ⟨congrArg (Except.map (sentBack request.method)) answers, worlds⟩

/-- What a panic carries and what an unclassified failure says does not get out: within the four
layers and any that pass on, handlers that differ in such words only are answered in the same way
and leave the same behind, but for one error in the log. -/
theorem detail_stays_inside {app : App} {table : StatusTable} (layered : app.layers = global table)
    {inner : List Middleware}
    (passOn : ∀ layer ∈ inner, Middleware.PassesOn layer ∨ ∃ own : Layer, layer = own.middleware)
    {left right : Handler}
    (alike : ∀ context state, (left context state).1.Alike (right context state).1 ∧
      (left context state).2 = (right context state).2)
    (method : String) (pattern : Http.Pattern) (others : List Registration)
    (request : Http.Request) (world : World) :
    let served := fun handler : Handler =>
      ((app.handle method pattern handler inner).registerAll others).serve request world
    (served left).1 = (served right).1 ∧
      (served left).2 = { (served right).2 with log := (served left).2.log } ∧
      ((served left).2.log = (served right).2.log ∨
        ∃ before after one other, Log.Event.Alike one other ∧
          (served left).2.log = before ++ one :: after ∧
          (served right).2.log = before ++ other :: after) := by
  intro served
  have inside : left.SameOutside right := by
    intro context state
    rcases alike context state with ⟨outcomes, states⟩
    have ended : Pipeline.SameOutside (left context state)
        ((right context state).1, (left context state).2) := .inside outcomes _
    rwa [states] at ended
  have discreet : ∀ layer ∈ inner, Middleware.IsDiscreet layer := by
    intro layer member
    rcases passOn layer member with passesOn | ⟨own, rfl⟩
    · exact passesOn.isDiscreet
    · exact own.isDiscreet_middleware
  have outside := (sameOutside_wrap discreet inside).sameAnswers table
  let routes := fun handler : Handler => app.routes ++
    [{ method, pattern, handler := wrap (global table) (wrap inner handler) }] ++
      others.map (Registration.route app.layers)
  have isServed : ∀ handler,
      served handler = { app with routes := routes handler }.serve request world := by
    intro handler
    simp only [served, routes, registerAll_eq, handle, handleBare, layered]
  have unchanged : ∀ kept : List Route, List.Forall₂ Route.SameAnswers kept kept :=
    fun kept => List.forall₂_same.mpr fun route _ => .refl route
  have sameRoutes : List.Forall₂ Route.SameAnswers (routes left) (routes right) := by
    refine List.rel_append (List.rel_append (unchanged app.routes) ?_) (unchanged _)
    exact .cons ⟨rfl, rfl, outside⟩ .nil
  rcases serve_sameAnswers app sameRoutes request world with ⟨answers, worlds⟩
  rw [← isServed, ← isServed] at answers worlds
  exact ⟨answers, worlds.differ_in_words⟩

/-! A handler that fails over a secret, inside a layer that passes on and a marker. -/

def tellingHandler (words : Option String) (trace : String) : Handler := fun _ state =>
  (.panic { words, trace }, state)

def passingLayer : Middleware := fun next context state =>
  next { context with isTraced := false } (state.note "passed")

theorem telling_handlers_answer_alike :
    let served := fun handler : Handler =>
      ((plainApp.handle "GET" ⟨[.literal []]⟩ handler
        [passingLayer, marker "own"]).registerAll []).serve plainRequest plainWorld
    let told := served (tellingHandler (some "the key is 1234") "line 7")
    let silent := served (tellingHandler none "")
    told.1 = silent.1 ∧ told.2.counters = silent.2.counters ∧
      told.1 = .ok (envelopeOf {} (.panic "" "")) ∧ told.2.log ≠ silent.2.log := by
  intro served told silent
  have passOn : ∀ layer ∈ [passingLayer, marker "own"],
      Middleware.PassesOn layer ∨ ∃ own : Layer, layer = own.middleware := by
    simp only [List.mem_cons, List.not_mem_nil, or_false]
    intro layer member
    rcases member with rfl | rfl
    · exact .inl fun context state => .inr ⟨_, _, fun _ => rfl⟩
    · exact .inr ⟨.marker "own", rfl⟩
  have alike : ∀ context state,
      (tellingHandler (some "the key is 1234") "line 7" context state).1.Alike
          (tellingHandler none "" context state).1 ∧
        (tellingHandler (some "the key is 1234") "line 7" context state).2 =
          (tellingHandler none "" context state).2 :=
    fun _ _ => ⟨.panics _ _, rfl⟩
  have layered : plainApp.layers = global {} := rfl
  have same := detail_stays_inside layered passOn alike "GET" ⟨[.literal []]⟩ [] plainRequest
    plainWorld
  refine ⟨same.1, ?_, ?_, ?_⟩
  · rw [same.2.1]
  · rfl
  · decide +kernel

end App

end Pipeline

end TokenAuthority
