import TokenAuthority.Proofs.Pipeline.Protection

/-!
# Nested layers

All that a layer can do with what is behind it is to run it, in a context and a state of its choice.
A `Course` says when it does so. Along the courses of a chain of layers one can see what a request
goes through: each layer is entered, the layers behind it and the handler are passed as often as it
runs them, and it is left. The result is that of the handler inside the layers, as `wrap` has it.
-/

namespace TokenAuthority.Pipeline

/-! ## Courses -/

/-- What a layer does: it ends, or it runs what is behind it and goes on with what that comes to. -/
inductive Course where
  | ends (ended : Outcome × State)
  | runs (context : Context) (state : State) (goesOn : Outcome × State → Course)

namespace Course

def finish (next : Handler) : Course → Outcome × State
  | .ends ended => ended
  | .runs context state goesOn => finish next (goesOn (next context state))

def visits (next : Handler) : Course → List (Context × State)
  | .ends _ => []
  | .runs context state goesOn => (context, state) :: visits next (goesOn (next context state))

def once (context : Context) (state : State) (back : Outcome × State → Outcome × State) : Course :=
  .runs context state fun ended => .ends (back ended)

end Course

/-- A layer together with what it does. Whoever is given a handler can only run it, so a layer has a
course in every context and state. -/
structure Stage where
  middleware : Middleware
  course : Context → State → Course
  follows : ∀ next context state,
    middleware next context state = (course context state).finish next

namespace Stage

def IsSimple (stage : Stage) : Prop :=
  ∀ context state, (∃ ended, stage.course context state = .ends ended) ∨
    ∃ inner held back, stage.course context state = .once inner held back

/-- Whatever is behind the stage is run in contexts with a property if the stage is. -/
def Keeps (stage : Stage) (property : Context → Prop) : Prop :=
  ∀ next context state, property context →
    ∀ visit ∈ (stage.course context state).visits next, property visit.1

end Stage

def wrapStages (stages : List Stage) (handler : Handler) : Handler :=
  wrap (stages.map Stage.middleware) handler

theorem wrapStages_cons (stage : Stage) (stages : List Stage) (handler : Handler)
    (context : Context) (state : State) :
    wrapStages (stage :: stages) handler context state =
      (stage.course context state).finish (wrapStages stages handler) :=
  stage.follows _ context state

/-! ## What a request goes through -/

inductive Event where
  | entered (place : Nat) (context : Context)
  | handled (context : Context)
  | left (place : Nat)

/-- What a request goes through in a chain of layers, the first of which has a place, and in the
handler. -/
def events (handler : Handler) : (place : Nat) → List Stage → Context → State → List Event
  | _, [], context, _ => [.handled context]
  | place, stage :: stages, context, state =>
      .entered place context ::
        (((stage.course context state).visits (wrapStages stages handler)).flatMap fun visit =>
            events handler (place + 1) stages visit.1 visit.2) ++
          [.left place]

/-- The events of a run are nested: what happens between entering a layer and leaving it again is
run after run of what is behind it. -/
inductive Nested : (place : Nat) → List Event → Prop
  | handled (place : Nat) (context : Context) : Nested place [.handled context]
  | layer {place : Nat} (context : Context) {runs : List (List Event)}
      (nested : ∀ run ∈ runs, Nested (place + 1) run) :
      Nested place (.entered place context :: runs.flatten ++ [.left place])

theorem nested_events (handler : Handler) (place : Nat) (stages : List Stage) (context : Context)
    (state : State) : Nested place (events handler place stages context state) := by
  induction stages generalizing place context state with
  | nil => exact .handled place context
  | cons stage stages induction =>
      rw [events, List.flatMap_def]
      apply Nested.layer
      intro run isRun
      rcases List.mem_map.mp isRun with ⟨visit, _, rfl⟩
      exact induction ..

/-! ## Chains that are passed -/

/-- Each stage of a chain runs what is behind it once: `seen` are the contexts in which they are
entered, `last` and `final` are what the chain is left with inwards, and `back` is what becomes of a
result on the way out. -/
inductive Through : List Stage → Context → State → (seen : List Context) → (last : Context) →
    (final : State) → (back : Outcome × State → Outcome × State) → Prop
  | handler (context : Context) (state : State) : Through [] context state [] context state id
  | layer {stage : Stage} {stages : List Stage} {context inner last : Context}
      {state held final : State} {seen : List Context}
      {back further : Outcome × State → Outcome × State}
      (once : stage.course context state = .once inner held back)
      (behind : Through stages inner held seen last final further) :
      Through (stage :: stages) context state (context :: seen) last final (back ∘ further)

def entering (place : Nat) (seen : List Context) : List Event :=
  List.zipWith Event.entered (List.range' place seen.length) seen

def leaving (place count : Nat) : List Event :=
  (List.range' place count).reverse.map Event.left

theorem entering_cons (place : Nat) (context : Context) (seen : List Context) :
    entering place (context :: seen) = .entered place context :: entering (place + 1) seen := by
  simp [entering, List.range'_succ]

theorem leaving_succ (place count : Nat) :
    leaving place (count + 1) = leaving (place + 1) count ++ [.left place] := by
  simp [leaving, List.range'_succ]

theorem entering_concat (place : Nat) (seen : List Context) (context : Context) :
    entering place (seen ++ [context]) =
      entering place seen ++ [.entered (place + seen.length) context] := by
  induction seen generalizing place with
  | nil => simp [entering]
  | cons first seen induction =>
      have places : place + 1 + seen.length = place + (seen.length + 1) := by omega
      rw [List.cons_append, entering_cons, induction, entering_cons, List.length_cons, places,
        List.cons_append]

theorem leaving_concat (place count : Nat) :
    leaving place (count + 1) = .left (place + count) :: leaving place count := by
  simp [leaving, List.range'_concat]

namespace Through

variable {stages : List Stage} {context last : Context} {state final : State}
  {seen : List Context} {back : Outcome × State → Outcome × State}

theorem length_seen (through : Through stages context state seen last final back) :
    seen.length = stages.length := by
  induction through with
  | handler => rfl
  | layer once behind induction => rw [List.length_cons, List.length_cons, induction]

theorem wrap_eq (through : Through stages context state seen last final back) (next : Handler) :
    wrapStages stages next context state = back (next last final) := by
  induction through with
  | handler => rfl
  | @layer stage stages context inner last state held final seen back further once behind
      induction =>
      rw [wrapStages_cons, once, Course.once, Course.finish, Course.finish, induction]
      rfl

theorem events_append (through : Through stages context state seen last final back)
    (handler : Handler) (rest : List Stage) (place : Nat) :
    events handler place (stages ++ rest) context state =
      entering place seen ++ events handler (place + stages.length) rest last final ++
        leaving place stages.length := by
  induction through generalizing place with
  | handler => simp [entering, leaving]
  | @layer stage stages context inner last state held final seen back further once behind
      induction =>
      have places : place + 1 + stages.length = place + (stages.length + 1) := by omega
      rw [List.cons_append, events, once, Course.once, Course.visits, Course.visits,
        List.flatMap_singleton, induction, entering_cons, List.length_cons, leaving_succ, places]
      simp only [List.cons_append, List.append_assoc]

theorem events_eq (through : Through stages context state seen last final back)
    (handler : Handler) :
    events handler 0 stages context state =
      entering 0 seen ++ [.handled last] ++ leaving 0 stages.length := by
  have around := through.events_append handler [] 0
  rw [List.append_nil] at around
  exact around

variable {stopper : Stage} {ended : Outcome × State}

theorem wrap_eq_of_ends (through : Through stages context state seen last final back)
    (ends : stopper.course last final = .ends ended) (rest : List Middleware) (handler : Handler) :
    wrap (stages.map Stage.middleware ++ stopper.middleware :: rest) handler context state =
      back ended := by
  rw [wrap_append]
  refine (through.wrap_eq _).trans (congrArg back ?_)
  change stopper.middleware (wrap rest handler) last final = ended
  rw [stopper.follows, ends, Course.finish]

theorem events_of_ends (through : Through stages context state seen last final back)
    (ends : stopper.course last final = .ends ended) (handler : Handler) (after : List Stage) :
    events handler 0 (stages ++ stopper :: after) context state =
      entering 0 (seen ++ [last]) ++ leaving 0 (stages.length + 1) := by
  rw [through.events_append, events, ends, Course.visits, List.flatMap_nil, entering_concat,
    leaving_concat, through.length_seen]
  simp

end Through

theorem through_or_stops {stages : List Stage} (simple : ∀ stage ∈ stages, stage.IsSimple)
    (context : Context) (state : State) :
    (∃ seen last final back, Through stages context state seen last final back) ∨
      ∃ before stopper after seen last final back ended, stages = before ++ stopper :: after ∧
        Through before context state seen last final back ∧
          stopper.course last final = .ends ended := by
  induction stages generalizing context state with
  | nil => exact .inl ⟨[], context, state, id, .handler context state⟩
  | cons stage stages induction =>
      rw [List.forall_mem_cons] at simple
      rcases simple.1 context state with ⟨ended, ends⟩ | ⟨inner, held, back, once⟩
      · exact .inr ⟨[], stage, stages, [], context, state, id, ended, rfl,
          .handler context state, ends⟩
      · rcases induction simple.2 inner held with ⟨seen, last, final, further, through⟩ |
          ⟨before, stopper, after, seen, last, final, further, ended, rfl, through, ends⟩
        · exact .inl ⟨context :: seen, last, final, back ∘ further, .layer once through⟩
        · exact .inr ⟨stage :: before, stopper, after, context :: seen, last, final,
            back ∘ further, ended, rfl, .layer once through, ends⟩

/-! ## What is seen behind a layer -/

inductive Event.ShowsFrom (place : Nat) : Event → Context → Prop
  | layer {other : Nat} {context : Context} (behind : place ≤ other) :
      ShowsFrom place (.entered other context) context
  | handler (context : Context) : ShowsFrom place (.handled context) context

theorem mem_entering {place : Nat} {seen : List Context} {event : Event}
    (member : event ∈ entering place seen) :
    ∃ other context, other < place + seen.length ∧ event = .entered other context := by
  induction seen generalizing place with
  | nil => cases member
  | cons context seen induction =>
      rw [entering_cons] at member
      rcases List.mem_cons.mp member with rfl | behind
      · exact ⟨place, context, by simp, rfl⟩
      · rcases induction behind with ⟨other, shown, inFront, rfl⟩
        exact ⟨other, shown, by simp only [List.length_cons]; omega, rfl⟩

section

variable {property : Context → Prop} {handler : Handler} {first place : Nat}
  {context shown : Context} {state : State} {event : Event}

theorem property_of_kept {stages : List Stage} (kept : ∀ stage ∈ stages, stage.Keeps property)
    (given : property context) (member : event ∈ events handler first stages context state)
    (shows : event.ShowsFrom place shown) : property shown := by
  induction stages generalizing first context state with
  | nil =>
      cases List.mem_singleton.mp member
      cases shows
      exact given
  | cons stage stages induction =>
      rw [List.forall_mem_cons] at kept
      simp only [events, List.cons_append, List.mem_cons, List.mem_append, List.mem_flatMap,
        List.not_mem_nil, or_false] at member
      rcases member with rfl | ⟨visit, isVisit, behind⟩ | rfl
      · cases shows
        exact given
      · exact induction kept.2 (kept.1 _ _ _ given visit isVisit) behind
      · cases shows

theorem Through.property_of_handed_on {stages after : List Stage} {seen : List Context}
    {last : Context} {final : State} {back : Outcome × State → Outcome × State}
    (through : Through stages context state seen last final back) (given : property last)
    (kept : ∀ later ∈ after, later.Keeps property)
    (member : event ∈ events handler 0 (stages ++ after) context state)
    (shows : event.ShowsFrom stages.length shown) : property shown := by
  rw [through.events_append, List.mem_append, List.mem_append] at member
  rcases member with (inFront | behind) | left
  · rcases mem_entering inFront with ⟨other, seenThere, before, rfl⟩
    rw [through.length_seen] at before
    cases shows with
    | layer behind => omega
  · exact property_of_kept kept given behind shows
  · rcases List.mem_map.mp left with ⟨other, _, rfl⟩
    cases shows

end

/-! ## All of it together -/

/-- What a chain of layers around a handler comes to in a context and a state, and what a request
goes through there. -/
structure NestsAround (handler : Handler) (stages : List Stage) (context : Context)
    (state : State) : Prop where
  /-- However often layers run what is behind them, they are left in the opposite order. -/
  nested : Nested 0 (events handler 0 stages context state)
  /-- Where each layer runs what is behind it once, they are entered in their order, then the
  handler runs, and then they are left in the opposite order. -/
  passed : ∀ {seen last final back}, Through stages context state seen last final back →
    wrapStages stages handler context state = back (handler last final) ∧
      events handler 0 stages context state =
        entering 0 seen ++ [.handled last] ++ leaving 0 stages.length
  /-- Behind a layer that ends the matter no layer is entered and no handler runs: whatever there
  is behind it, the result is the same. -/
  stopped : ∀ {before after stopper seen last final back ended},
    stages = before ++ stopper :: after → Through before context state seen last final back →
      stopper.course last final = .ends ended →
        (∀ rest other, wrap (before.map Stage.middleware ++ stopper.middleware :: rest) other
          context state = back ended) ∧
        events handler 0 stages context state =
          entering 0 (seen ++ [last]) ++ leaving 0 (before.length + 1)
  /-- Layers that run what is behind them at most once are passed, or one of them ends the
  matter. -/
  cases : (∀ stage ∈ stages, stage.IsSimple) →
    (∃ seen last final back, Through stages context state seen last final back) ∨
      ∃ before stopper after seen last final back ended, stages = before ++ stopper :: after ∧
        Through before context state seen last final back ∧ stopper.course last final = .ends ended
  /-- The context that layers hand on is the one that the layers behind them and the handler see,
  but for what the layers behind them change. -/
  handedOn : ∀ {before after seen last final back} {property : Context → Prop},
    stages = before ++ after → Through before context state seen last final back → property last →
      (∀ later ∈ after, later.Keeps property) →
        ∀ event ∈ events handler 0 stages context state, ∀ shown,
          event.ShowsFrom before.length shown → property shown

theorem nestsAround (handler : Handler) (stages : List Stage) (context : Context) (state : State) :
    NestsAround handler stages context state where
  nested := nested_events handler 0 stages context state
  passed through := ⟨through.wrap_eq handler, through.events_eq handler⟩
  stopped isChain through ends := by
    subst isChain
    exact ⟨through.wrap_eq_of_ends ends, through.events_of_ends ends handler _⟩
  cases simple := through_or_stops simple context state
  handedOn isChain through given kept event member shown shows := by
    subst isChain
    exact through.property_of_handed_on given kept member shows

/-! ## The layers of the service -/

namespace Authority

def decision (rule : String) (context : Context) (state : State) (whether : Authority) :
    Except Outcome Unit × State :=
  match context.identity with
  | none => (.error (.failure unattached), state)
  | some caller =>
      match targetOf context caller with
      | .error failure => (.error (.failure failure), state)
      | .ok target => whether.grant rule caller target context.deadline state

theorem authorize_eq (whether : Authority) (rule : String) (next : Handler) (context : Context)
    (state : State) :
    whether.authorize rule next context state =
      match whether.decision rule context state with
      | (.error outcome, after) => (outcome, after)
      | (.ok (), after) => next context after := by
  cases known : context.identity with
  | none =>
      simp only [decision, known]
      exact whether.authorize_of_unattached rule next known state
  | some caller =>
      cases target : targetOf context caller with
      | error failure =>
          simp only [decision, known, target]
          exact whether.authorize_of_badTarget rule next known target state
      | ok wanted =>
          simp only [decision, known, target]
          exact whether.authorize_of_target rule next known target state

end Authority

namespace Layer

def course (context : Context) (state : State) : Layer → Course
  | .logger => .once context (state.log (.requestStarted context.subject)) (closeLog context)
  | .boundary table => .once context state (translate table)
  | .meter => .once context (state.count Counters.enter) tally
  | .safetyNet => .once context state contain
  | .marker name =>
      .once context (state.note (name ++ " in " ++ Nat.repr state.recorded.code)) (noteLeaving name)
  | .authenticate who =>
      match who.identify context state with
      | (.error outcome, after) => .ends (outcome, after)
      | (.ok caller, after) => .once { context with identity := some caller } after id
  | .authorize whether rule =>
      match whether.decision rule context state with
      | (.error outcome, after) => .ends (outcome, after)
      | (.ok (), after) => .once context after id

def stage (layer : Layer) : Stage where
  middleware := layer.middleware
  course context state := layer.course context state
  follows next context state := by
    cases layer with
    | logger => exact logger_eq
    | boundary table => exact boundary_eq
    | meter => exact meter_eq
    | safetyNet => exact safetyNet_eq
    | marker name => exact marker_eq name
    | authenticate who =>
        rw [middleware, who.authenticate_eq, course]
        rcases who.identify context state with ⟨outcome | caller, after⟩ <;> rfl
    | authorize whether rule =>
        rw [middleware, whether.authorize_eq, course]
        rcases whether.decision rule context state with ⟨outcome | _, after⟩ <;> rfl

theorem isSimple_stage (layer : Layer) : layer.stage.IsSimple := by
  intro context state
  change (∃ ended, layer.course context state = _) ∨
    ∃ inner held back, layer.course context state = _
  cases layer with
  | authenticate who =>
      rw [course]
      rcases who.identify context state with ⟨outcome | caller, after⟩
      · exact .inl ⟨_, rfl⟩
      · exact .inr ⟨_, _, _, rfl⟩
  | authorize whether rule =>
      rw [course]
      rcases whether.decision rule context state with ⟨outcome | _, after⟩
      · exact .inl ⟨_, rfl⟩
      · exact .inr ⟨_, _, _, rfl⟩
  | _ => exact .inr ⟨_, _, _, rfl⟩

theorem keeps_stage {layer : Layer} (attachesNobody : ∀ who, layer ≠ .authenticate who)
    (property : Context → Prop) : layer.stage.Keeps property := by
  intro next context state given visit isVisit
  change visit ∈ (layer.course context state).visits next at isVisit
  cases layer with
  | authenticate who => exact absurd rfl (attachesNobody who)
  | authorize whether rule =>
      rw [course] at isVisit
      rcases decided : whether.decision rule context state with ⟨outcome | _, after⟩
      · rw [decided] at isVisit
        cases isVisit
      · rw [decided] at isVisit
        cases List.mem_singleton.mp isVisit
        exact given
  | _ =>
      cases List.mem_singleton.mp isVisit
      exact given

theorem course_authenticate {who : Authority} {context : Context} {state after : State}
    {caller : Identity} (found : who.identify context state = (.ok caller, after)) :
    (Layer.authenticate who).course context state =
      .once { context with identity := some caller } after id := by
  rw [course, found]

end Layer

end TokenAuthority.Pipeline
