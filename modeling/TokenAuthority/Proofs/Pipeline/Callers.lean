import TokenAuthority.Proofs.Pipeline.Elsewhere

/-!
# Callers that handlers see

Behind authentication a handler is run for the identity that an authority vouches for, and no layer
behind the authentication changes it. An engine at hand vouches only for identities that agree with
their claims. A service elsewhere is taken at its word, so its identities agree with their claims if
it says so, and otherwise they need not.
-/

namespace TokenAuthority

structure Identity.Agrees (caller : Identity) : Prop where
  named : caller.claims.subject ≠ ""
  same : Uuid.parse? caller.claims.subject = some caller.userId

theorem Identity.agrees_iff {caller : Identity} :
    caller.Agrees ↔ ofClaims caller.claims = .ok caller := by
  rw [ofClaims_eq_ok_iff]
  exact ⟨fun agrees => ⟨agrees.named, agrees.same, rfl⟩, fun ⟨named, same, _⟩ => ⟨named, same⟩⟩

theorem Identity.agrees_of_ofClaims {claims : Claims} {caller : Identity}
    (isCaller : ofClaims claims = .ok caller) : caller.Agrees := by
  have same : caller.claims = claims := (ofClaims_eq_ok_iff.mp isCaller).2.2
  rw [agrees_iff, same, isCaller]

namespace Pipeline

/-! ## Who is vouched for -/

namespace Authority

/-- An authority has said at some time who bears a header: an engine by handing out claims, a
service elsewhere by a reply with the status `ok`. -/
def Vouches (header : String) (caller : Identity) : Authority → Prop
  | .atHand engine => ∃ now claims,
      (engine.authenticate now header).value = .ok claims ∧ Identity.ofClaims claims = .ok caller
  | .elsewhere client => ∃ sent reply,
      client.reply? sent (client.authenticateMessage header) = some reply ∧ reply.status = .ok ∧
        Json.Document.meaning? Identity.ofDocument? reply.body = some caller

variable {header : String} {caller : Identity}

theorem vouches_elsewhere_iff {client : Client} :
    (elsewhere client).Vouches header caller ↔
      ∃ sent, (client.authenticate sent header).value = .ok caller := by
  simp only [Vouches, client.authenticate_eq_iff, Client.Judged.eq_ok_iff, List.mem_singleton]

theorem vouches_of_identify {who : Authority} {context : Context} {state after : State}
    (found : who.identify context state = (.ok caller, after)) :
    who.Vouches context.authorization caller := by
  cases who with
  | atHand engine =>
      rcases identify_eq_ok_iff.mp found with ⟨claims, delay, answered, _, isCaller, _⟩
      exact ⟨_, claims, congrArg Awaited.value answered, isCaller⟩
  | elsewhere client => exact vouches_elsewhere_iff.mpr ⟨_, value_of_identify found⟩

theorem agrees_of_atHand {engine : Token.Engine} (vouched : (atHand engine).Vouches header caller) :
    caller.Agrees := by
  rcases vouched with ⟨_, _, _, isCaller⟩
  exact Identity.agrees_of_ofClaims isCaller

theorem agrees_of_link {link : Link} {base : String} {context : Context}
    (isDefault : link.service.table = {}) (address : IsAddress base)
    (unhurried : ∀ sent, link.Unhurried sent)
    (vouched : (elsewhere (link.client base)).Vouches context.authorization caller) :
    caller.Agrees := by
  rcases vouches_elsewhere_iff.mp vouched with ⟨sent, said⟩
  rcases (Link.authenticate_eq_ok_iff isDefault address.identity (unhurried sent)
    (isVisible_authorization context)).mp said with ⟨claims, _, isCaller⟩
  exact Identity.agrees_of_ofClaims isCaller

end Authority

/-! ## Who is seen -/

/-- What a handler and the layers `after` an authentication see: a context of the request with a
caller for whom the authority vouches. -/
structure SeenBehind (who : Authority) (after : List Layer) (request : Http.Request)
    (inner : Context) (held : State) (caller : Identity) : Prop where
  request : inner.request = request
  identity : inner.identity = some caller
  vouched : who.Vouches inner.authorization caller
  unchanged : ∃ state seen back, Through (stagesOf after) inner state seen inner held back ∧
    ∀ shown ∈ seen, shown = inner

def naming (caller : Identity) : Http.Reply where
  status := .ok
  body := Text.encode caller.write

section Routes

variable {app : App} {table : StatusTable} {capture : Http.Pattern.Capture}
  {request : Http.Request} {world : World} {context inner : Context} {held : State}
  {before after : List Layer} {who : Authority}

theorem seen_of_runs (isLast : ∀ other, .authenticate other ∉ after)
    (runs : Runs (fun handler => app.serveRoute
      (wrapLayers (before ++ .authenticate who :: after) handler) capture request world) inner
      held) :
    ∃ caller, SeenBehind who after request inner held caller := by
  rcases passes_of_runs runs with
    ⟨context, state, next, between, _, seen, further, isRequest, once, behind⟩
  rcases behind.context_eq isLast with ⟨rfl, same⟩
  rcases Layer.identify_of_once once with ⟨caller, found, rfl, _⟩
  exact ⟨caller, isRequest, rfl, Authority.vouches_of_identify found, between, seen, further,
    behind, same⟩

theorem identityOf_naming (caller : Identity) :
    Client.identityOf (some (naming caller)) = .ok caller := by
  rw [Client.identityOf, naming, if_pos rfl, caller.meaning?_write]

theorem runs_of_identify {caller : Identity} (layered : app.layers = global table)
    (isContext : app.context? capture request world = some context)
    (found : who.identify context (enter context { world }) = (.ok caller, held)) :
    Runs (fun handler => app.serveRoute (wrap app.layers (who.authenticate handler)) capture request
      world) { context with identity := some caller } held := by
  have made (handler : Handler) :
      app.serveRoute (wrap app.layers (who.authenticate handler)) capture request world =
        app.finish table context (handler { context with identity := some caller } held) := by
    rw [App.serveRoute_of_context layered isContext, who.authenticate_eq, found]
  exact (runs_iff_of_eq made (App.finish_tells app table context)).mpr ⟨rfl, rfl⟩

theorem identify_naming (caller : Identity) (context : Context) (state : State) :
    ∃ after, (Authority.elsewhere (replyingClient (naming caller))).identify context state =
      (.ok caller, after) := by
  let atOnce : Awaited (Except Client.Refusal Identity) := { delay := 0, value := .ok caller }
  have asked : (replyingClient (naming caller)).authenticate state.world.sent
      context.authorization = atOnce := by
    rw [Client.authenticate, exchange_identity _ _ (isVisible_authorization context), Awaited.map,
      identityOf_naming]
  have inTime : atOnce.delay ≤ remaining context state := Nat.zero_le _
  simp only [Authority.identify, identifyRemotely, asked, settle_of_inTime inTime]
  exact ⟨_, rfl⟩

end Routes

/-- Behind authentication a handler runs for a caller for whom the authority vouches, and it does
run for whoever is found. An engine vouches for nobody whom its claims do not name, nor does a
service that asks an engine; a service elsewhere may name any identity whatever. -/
theorem attached_callers_vouched (app : App) (capture : Http.Pattern.Capture)
    (request : Http.Request) (world : World) :
    (∀ before who after inner held, (∀ other, .authenticate other ∉ after) →
      Runs (fun handler => app.serveRoute
        (wrapLayers (before ++ .authenticate who :: after) handler) capture request world) inner
        held →
      ∃ caller, SeenBehind who after request inner held caller) ∧
    (∀ table context (who : Authority) caller held, app.layers = global table →
      app.context? capture request world = some context →
      who.identify context (enter context { world }) = (.ok caller, held) →
      Runs (fun handler => app.serveRoute (wrap app.layers (who.authenticate handler)) capture
        request world) { context with identity := some caller } held) ∧
    (∀ engine header caller,
      (Authority.atHand engine).Vouches header caller → caller.Agrees) ∧
    (∀ (link : Link) base (context : Context) caller, link.service.table = {} → IsAddress base →
      (∀ sent, link.Unhurried sent) →
      (Authority.elsewhere (link.client base)).Vouches context.authorization caller →
        caller.Agrees) ∧
    ∀ caller, ∃ client, ∀ context state, ∃ held,
      (Authority.elsewhere client).identify context state = (.ok caller, held) := by
  refine ⟨?_, ?_, ?_, ?_, ?_⟩
  · intro before who after inner held isLast runs
    exact seen_of_runs isLast runs
  · intro table context who caller held layered isContext found
    exact runs_of_identify layered isContext found
  · intro engine header caller vouched
    exact Authority.agrees_of_atHand vouched
  · intro link base context caller isDefault address unhurried vouched
    exact Authority.agrees_of_link isDefault address unhurried vouched
  · intro caller
    exact ⟨_, identify_naming caller⟩

/-! An identity that goes with the claims of nobody. -/

def sampleNobody : Identity where
  userId := Token.Engine.userId
  claims := { Token.Engine.userClaims with subject := "" }

theorem nobody_is_attached :
    ¬ sampleNobody.Agrees ∧
      (∃ client held,
        Runs (fun handler => plainApp.serveRoute
          (wrap plainApp.layers (authenticateRemotely client handler)) [] plainRequest plainWorld)
          { plainContext with identity := some sampleNobody } held ∧
        ∃ caller, SeenBehind (.elsewhere client) [] plainRequest
          { plainContext with identity := some sampleNobody } held caller) ∧
      (Authority.atHand Token.Engine.builtinEngine).Vouches (sampleContext "/" []).authorization
        sampleUser ∧
      sampleUser.Agrees := by
  rcases attached_callers_vouched plainApp [] plainRequest plainWorld with
    ⟨seen, runs, agrees, _, found⟩
  rcases found sampleNobody with ⟨client, found⟩
  rcases found plainContext (enter plainContext { world := plainWorld }) with ⟨held, isFound⟩
  have isRun := runs {} plainContext (.elsewhere client) sampleNobody held rfl rfl isFound
  have vouched : (Authority.atHand Token.Engine.builtinEngine).Vouches
      (sampleContext "/" []).authorization sampleUser :=
    ⟨150, _, congrArg Awaited.value (authenticate_sampleContext "/" []), ofClaims_userClaims⟩
  refine ⟨fun agreeing => agreeing.named rfl, ⟨client, held, isRun, ?_⟩, vouched,
    agrees _ _ _ vouched⟩
  exact seen [.logger, .boundary {}, .meter, .safetyNet] (.elsewhere client) [] _ held
    (fun _ => List.not_mem_nil) isRun

end Pipeline

end TokenAuthority
