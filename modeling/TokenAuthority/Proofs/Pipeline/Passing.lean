import TokenAuthority.Proofs.Pipeline.Nesting

/-!
# Requests that get to a handler

The handler of a route runs exactly if its request passes all layers in front of it. It then runs in
the context that the innermost layer hands on. On the way the request itself stays what it was, and
nobody is attached to it but by authentication.
-/

namespace TokenAuthority.Pipeline

theorem Course.once_injective {context other : Context} {state held : State}
    {back further : Outcome × State → Outcome × State}
    (same : once context state back = once other held further) :
    context = other ∧ state = held ∧ back = further := by
  simp only [once, runs.injEq] at same
  rcases same with ⟨rfl, rfl, goOn⟩
  refine ⟨rfl, rfl, funext fun ended => ?_⟩
  exact ends.inj (congrFun goOn ended)

def stagesOf (layers : List Layer) : List Stage :=
  layers.map Layer.stage

theorem wrapLayers_eq (layers : List Layer) (handler : Handler) :
    wrapLayers layers handler = wrapStages (stagesOf layers) handler := by
  rw [wrapLayers, wrapStages, stagesOf, List.map_map]
  rfl

theorem isSimple_stagesOf (layers : List Layer) :
    ∀ stage ∈ stagesOf layers, stage.IsSimple := by
  intro stage member
  rcases List.mem_map.mp member with ⟨layer, _, rfl⟩
  exact layer.isSimple_stage

/-! ## What layers hand on -/

namespace Layer

variable {layer : Layer} {context inner : Context} {state held : State}
  {back : Outcome × State → Outcome × State}

theorem identify_of_once {who : Authority}
    (once : (Layer.authenticate who).course context state = .once inner held back) :
    ∃ caller, who.identify context state = (.ok caller, held) ∧
      inner = { context with identity := some caller } ∧ back = id := by
  rw [course] at once
  split at once
  · cases once
  · rename_i caller after found
    rcases Course.once_injective once with ⟨rfl, rfl, rfl⟩
    exact ⟨caller, found, rfl, rfl⟩

theorem decision_of_once {whether : Authority} {rule : String}
    (once : (Layer.authorize whether rule).course context state = .once inner held back) :
    whether.decision rule context state = (.ok (), held) ∧ inner = context ∧ back = id := by
  rw [course] at once
  split at once
  · cases once
  · rename_i after decided
    rcases Course.once_injective once with ⟨rfl, rfl, rfl⟩
    exact ⟨decided, rfl, rfl⟩

theorem response_of_once (once : layer.course context state = .once inner held back)
    {response : Http.Response} {ended : Outcome × State} (responds : ended.1 = .response response) :
    (back ended).1 = .response response := by
  rcases ended with ⟨outcome, after⟩
  cases responds
  cases layer with
  | authenticate who =>
      rcases identify_of_once once with ⟨_, _, _, rfl⟩
      rfl
  | authorize whether rule =>
      rcases decision_of_once once with ⟨_, _, rfl⟩
      rfl
  | _ =>
      rw [← (Course.once_injective once).2.2]
      rfl

theorem context_of_once (once : layer.course context state = .once inner held back) :
    inner = context ∨ ∃ who caller, layer = .authenticate who ∧
      inner = { context with identity := some caller } := by
  cases layer with
  | authenticate who =>
      rcases identify_of_once once with ⟨caller, _, same, _⟩
      exact .inr ⟨who, caller, rfl, same⟩
  | authorize whether rule => exact .inl (decision_of_once once).2.1
  | _ => exact .inl (Course.once_injective once).1.symm

end Layer

namespace Through

variable {context last : Context} {state final : State} {seen : List Context}
  {back : Outcome × State → Outcome × State}

theorem of_append {front rest : List Stage}
    (through : Through (front ++ rest) context state seen last final back) :
    ∃ between held others further first outer,
      Through front context state first between held outer ∧
        Through rest between held others last final further ∧ seen = first ++ others := by
  induction front generalizing context state seen back with
  | nil => exact ⟨context, state, seen, back, [], id, .handler context state, through, rfl⟩
  | cons stage front induction =>
      cases through with
      | layer once behind =>
          rcases induction behind with
            ⟨between, held, others, further, first, outer, front, rest, rfl⟩
          exact ⟨between, held, others, further, _, _, .layer once front, rest, rfl⟩

variable {layers : List Layer}

theorem response_of_through
    (through : Through (stagesOf layers) context state seen last final back)
    {response : Http.Response} {ended : Outcome × State} (responds : ended.1 = .response response) :
    (back ended).1 = .response response := by
  induction layers generalizing context state seen back with
  | nil =>
      cases through
      exact responds
  | cons layer layers induction =>
      cases through with
      | layer once behind => exact Layer.response_of_once once (induction behind)

theorem request_eq (through : Through (stagesOf layers) context state seen last final back) :
    last.request = context.request := by
  induction layers generalizing context state seen back with
  | nil =>
      cases through
      rfl
  | cons layer layers induction =>
      cases through with
      | layer once behind =>
          rw [induction behind]
          rcases Layer.context_of_once once with rfl | ⟨_, _, _, rfl⟩ <;> rfl

theorem context_eq (attachesNobody : ∀ who, .authenticate who ∉ layers)
    (through : Through (stagesOf layers) context state seen last final back) :
    last = context ∧ ∀ shown ∈ seen, shown = context := by
  induction layers generalizing context state seen back with
  | nil =>
      cases through
      exact ⟨rfl, List.forall_mem_nil _⟩
  | cons layer layers induction =>
      cases through with
      | layer once behind =>
          rcases Layer.context_of_once once with rfl | ⟨who, _, rfl, _⟩
          · have rest := induction (fun who member => attachesNobody who (.tail _ member)) behind
            refine ⟨rest.1, ?_⟩
            rw [List.forall_mem_cons]
            exact ⟨rfl, rest.2⟩
          · exact absurd List.mem_cons_self (attachesNobody who)

end Through

/-! ## Handlers that are run -/

section Routes

variable {app : App} {layers : List Layer} {capture : Http.Pattern.Capture}
  {request : Http.Request} {world : World} {context inner : Context} {held : State}
  {seen : List Context} {back : Outcome × State → Outcome × State}

theorem serveRoute_wrapLayers (isContext : app.context? capture request world = some context)
    (layers : List Layer) (handler : Handler) :
    app.serveRoute (wrapLayers layers handler) capture request world =
      let ended := wrapStages (stagesOf layers) handler context { world }
      ((app.conclude ended.1 ended.2).1, (app.conclude ended.1 ended.2).2.world) := by
  simp only [App.serveRoute, isContext, wrapLayers_eq]

theorem runs_of_through (isContext : app.context? capture request world = some context)
    (through : Through (stagesOf layers) context { world } seen inner held back) :
    Runs (fun handler => app.serveRoute (wrapLayers layers handler) capture request world) inner
      held := by
  let settle := fun ended : Outcome × State =>
    ((app.conclude (back ended).1 (back ended).2).1,
      (app.conclude (back ended).1 (back ended).2).2.world)
  have made : ∀ handler, app.serveRoute (wrapLayers layers handler) capture request world =
      settle (handler inner held) := by
    intro handler
    rw [serveRoute_wrapLayers isContext, through.wrap_eq]
  refine (runs_iff_of_eq made ⟨(.response { status := .ok }, held),
    (.response { status := .noContent }, held), ?_⟩).mpr ⟨rfl, rfl⟩
  intro same
  have answered (response : Http.Response) :
      (settle (.response response, held)).1 = .ok response := by
    have isResponse : (back (.response response, held)).1 = .response response :=
      through.response_of_through rfl
    simp only [settle, isResponse, App.conclude]
  have answers := congrArg Prod.fst same
  rw [answered, answered] at answers
  cases answers

/-- The handler of a route runs for a request that passes all layers, and for no other. -/
theorem runs_serveRoute_iff :
    Runs (fun handler => app.serveRoute (wrapLayers layers handler) capture request world) inner
        held ↔
      ∃ context seen back, app.context? capture request world = some context ∧
        Through (stagesOf layers) context { world } seen inner held back := by
  constructor
  · intro runs
    cases isContext : app.context? capture request world with
    | none =>
        have ignores : Ignores fun handler =>
            app.serveRoute (wrapLayers layers handler) capture request world :=
          ignores_of_eq fun handler => App.serveRoute_of_noContext isContext _
        exact absurd runs ignores.not_runs
    | some context =>
        rcases through_or_stops (isSimple_stagesOf layers) context { world } with
          ⟨seen, last, final, back, through⟩ |
          ⟨before, stopper, after, seen, last, final, back, ended, isChain, through, ends⟩
        · rcases runs.unique (runs_of_through isContext through) with ⟨rfl, rfl⟩
          exact ⟨context, seen, back, rfl, through⟩
        · have ignores : Ignores fun handler =>
              app.serveRoute (wrapLayers layers handler) capture request world := by
            intro left right
            have stops : ∀ handler,
                wrapStages (stagesOf layers) handler context { world } = back ended := by
              intro handler
              rw [isChain, wrapStages, List.map_append, List.map_cons]
              exact through.wrap_eq_of_ends ends _ handler
            simp only [serveRoute_wrapLayers isContext, stops]
          exact absurd runs ignores.not_runs
  · rintro ⟨context, seen, back, isContext, through⟩
    exact runs_of_through isContext through

theorem passes_of_runs {before after : List Layer} {layer : Layer}
    (runs : Runs (fun handler =>
      app.serveRoute (wrapLayers (before ++ layer :: after) handler) capture request world) inner
      held) :
    ∃ context state next between back seen further,
      context.request = request ∧ layer.course context state = .once next between back ∧
        Through (stagesOf after) next between seen inner held further := by
  rcases runs_serveRoute_iff.mp runs with ⟨start, _, _, isContext, through⟩
  rw [stagesOf, List.map_append, List.map_cons] at through
  rcases through.of_append with ⟨context, state, _, _, _, _, front, rest, _⟩
  cases rest with
  | layer once behind =>
      refine ⟨context, state, _, _, _, _, _, ?_, once, behind⟩
      rw [front.request_eq, (App.of_context? isContext).2.2]

end Routes

end TokenAuthority.Pipeline
