import TokenAuthority.Proofs.Messages
import TokenAuthority.Proofs.Pipeline.AtHand
import TokenAuthority.Proofs.Service
import TokenAuthority.Proofs.Text.Decimal

/-!
# Asking a service elsewhere

A client that reaches the service over a link that changes nothing learns what the engine behind the
service has to say: who bears a token, and what claims permit. What the client sends is read as it
was written, passes the gates, the layers and the guard of its route, and what the service answers
is read as it was written in turn. Every refusal on the way comes with another status than a yes.
-/

namespace TokenAuthority

open Pipeline

/-! ## Links -/

namespace Http

def Message.request? (message : Message) : Option Request :=
  (Url.parse? message.url).map fun url => {
    method := message.method
    target := .place url.printPath url.query
    headers :=
      (message.authorization.map fun value => ("authorization", Text.encode value)).toList ++
      (message.body.map fun text =>
        ("content-length", Text.encode (Nat.repr (Text.encode text).length))).toList
    body := { bytes := (message.body.map Text.encode).getD [] } }

end Http

/-- A way to a service on which messages and replies arrive as they were sent. -/
structure Link where
  service : Service
  /-- The world that a message finds at the service, by what was sent before. -/
  arrival : List Http.Message → World
  /-- How long it takes until the reply is there, by what was sent before. -/
  delay : List Http.Message → Nat

namespace Link

def reply? (link : Link) (sent : List Http.Message) (request : Http.Request) : Option Http.Reply :=
  (link.service.app.serve request (link.arrival sent)).1.toOption.map Http.Reply.ofResponse

def transport (link : Link) : Http.Transport := fun sent message =>
  .after (link.delay sent) (message.request?.bind (link.reply? sent))

def client (link : Link) (base : String) : Client where
  base := base
  transport := link.transport

variable {link : Link} {sent : List Http.Message}

theorem value_exchange (message : Http.Message) :
    (Http.exchange link.transport sent message).value =
      if message.isSendable = true ∧ link.delay sent ≤ Http.replyTimeout then
        message.request?.bind (link.reply? sent)
      else none := by
  rw [Http.exchange]
  by_cases sendable : message.isSendable = true
  · by_cases prompt : link.delay sent ≤ Http.replyTimeout
    · simp only [sendable, if_true, transport, Delayed.within, prompt, Awaited.map, and_self,
        Option.join_some]
    · simp only [sendable, if_true, transport, Delayed.within, prompt, if_false, Awaited.map,
        and_false, Option.join_none]
  · simp only [sendable, if_false, Awaited.now, false_and, Bool.false_eq_true]

end Link

/-! ## What a client makes of an answer -/

theorem Kind.status_ne {kind : Kind} (failed : kind ≠ .ok) :
    kind.status ≠ .ok ∧ kind.status ≠ .noContent := by
  cases kind with
  | ok => exact absurd rfl failed
  | _ => exact ⟨by decide, by decide⟩

namespace Client

theorem identityOf_envelope {failure : Failure} (failed : failure.kind ≠ .ok)
    (identity : Identity) :
    identityOf (some (.ofResponse (envelopeOf {} failure))) ≠ .ok identity := by
  rw [identityOf, Http.Reply.status_envelopeOf, if_neg (Kind.status_ne failed).1]
  nofun

theorem permissionOf_envelope {failure : Failure} (failed : failure.kind ≠ .ok) :
    permissionOf (some (.ofResponse (envelopeOf {} failure))) ≠ .ok () := by
  have refuses := Kind.status_ne failed
  rw [permissionOf, Http.Reply.status_envelopeOf, if_neg (not_or.mpr refuses.symm)]
  nofun

theorem identityOf_identity (identity : Identity) :
    identityOf (some (.ofResponse (.json .ok identity.write))) = .ok identity := by
  have reply (text : String) : Http.Reply.ofResponse (.json .ok text) =
      { status := .ok, body := Text.encode text } := by
    rw [Http.Response.json, if_neg (by decide)]
    rfl
  rw [reply, identityOf, if_pos rfl, identity.meaning?_write]

end Client

/-! ## Asking who it is -/

theorem identityOf_whoAmI {engine : Token.Engine} {context : Context} {state : State}
    {identity : Identity} :
    Client.identityOf (some (.ofResponse
        ((wrap [authenticate engine] Service.whoAmI context state).1.answer {}))) = .ok identity ↔
      ∃ after, identify engine context state = (.ok identity, after) := by
  have guarded : wrap [authenticate engine] Service.whoAmI context state =
      (Authority.atHand engine).authenticate Service.whoAmI context state := rfl
  have asked : (Authority.atHand engine).identify context state =
      identify engine context state := rfl
  rw [guarded, Authority.authenticate_eq, asked]
  rcases identified : identify engine context state with ⟨outcome | caller, after⟩
  · have endsAway : EndsAway engine "" context state outcome := endsAway_of_identify identified
    rcases endsAway with ⟨failure, fails, turnedAway⟩
    simp only [Outcome.answer_of_failure fails]
    constructor
    · intro isIdentity
      exact absurd isIdentity (Client.identityOf_envelope turnedAway.kind_ne_ok identity)
    · rintro ⟨_, ⟨⟩⟩
  · change Client.identityOf (some (.ofResponse (.json .ok caller.write))) = _ ↔ _
    rw [Client.identityOf_identity]
    constructor
    · rintro ⟨⟩
      exact ⟨after, rfl⟩
    · rintro ⟨_, ⟨⟩⟩
      rfl

/-! ## Messages as requests -/

structure Url.LeadsTo (url : Url) (path : String) : Prop where
  scheme : url.scheme = "http" ∨ url.scheme = "https"
  -- A name in it would be sent along as an authorization of its own.
  nobody : url.printUserInfo = ""
  path : url.printPath = path
  query : url.query = none

def Leads (base path : String) : Prop :=
  ∃ url, Url.parse? (base ++ path) = some url ∧ url.LeadsTo path

theorem isReachable_of_leads {base path : String} (leads : Leads base path) :
    Http.isReachable (base ++ path) = true := by
  rcases leads with ⟨url, isUrl, leadsTo⟩
  simp only [Http.isReachable, isUrl, Bool.or_eq_true, beq_iff_eq]
  exact leadsTo.scheme

def identityRequest (header : String) : Http.Request where
  method := "GET"
  target := .place "/auth/authenticate" none
  headers := [("authorization", Text.encode header)]

def inquiryRequest (inquiry : Inquiry) : Http.Request where
  method := "POST"
  target := .place "/auth/authorize" none
  headers :=
    [("content-length", Text.encode (Nat.repr (Text.encode inquiry.write).length))]
  body := { bytes := Text.encode inquiry.write }

theorem declaredLength?_of_authorization {request : Http.Request} {value : List UInt8}
    (bare : request.headers = [("authorization", value)]) :
    Gate.declaredLength? request = none := by
  have other : (Http.headerName "authorization" == Http.headerName "content-length") = false := by
    decide
  simp only [Gate.declaredLength?, Http.Request.headerText?, bare, List.find?_cons, other,
    List.find?_nil, Option.bind_none]

theorem bodyLength_of_authorization {request : Http.Request} {value : List UInt8}
    (bare : request.headers = [("authorization", value)]) :
    Service.bodyLength request = maximumBody := by
  rw [Service.bodyLength, declaredLength?_of_authorization bare, Option.getD_none]

theorem declaredLength?_inquiryRequest {inquiry : Inquiry}
    (small : (Text.encode inquiry.write).length < Word.size64) :
    Gate.declaredLength? (inquiryRequest inquiry) = some (Text.encode inquiry.write).length := by
  generalize lengthIs : (Text.encode inquiry.write).length = length at small
  have visible : ∀ value ∈ (Nat.repr length).toList, IsVisible value := by
    intro value member
    rw [Nat.toList_repr] at member
    have isDigit := Text.isDigit_of_mem_toDigits member
    rw [Text.isDigit, Bool.and_eq_true, decide_eq_true_eq, decide_eq_true_eq] at isDigit
    exact .inr ⟨by omega, by omega⟩
  have first : (inquiryRequest inquiry).headers =
      [("content-length", Text.encode (Nat.repr length))] := by
    rw [inquiryRequest, lengthIs]
  rw [Gate.declaredLength?, headerText?_of_first first visible, Option.bind_some,
    Text.decimal?_repr small]

namespace Link

variable {link : Link} {base : String}

theorem request?_authenticate (leads : Leads base "/auth/authenticate") (header : String) :
    ((link.client base).authenticateMessage header).request? = some (identityRequest header) := by
  rcases leads with ⟨url, isUrl, leadsTo⟩
  simp only [Http.Message.request?, Client.authenticateMessage, client, isUrl, Option.map_some,
    Option.map_none, Option.toList_none, Option.toList_some, List.append_nil, Option.getD_none,
    leadsTo.path, leadsTo.query, identityRequest]

theorem request?_authorize (leads : Leads base "/auth/authorize") (inquiry : Inquiry) :
    ((link.client base).authorizeMessage inquiry).request? = some (inquiryRequest inquiry) := by
  rcases leads with ⟨url, isUrl, leadsTo⟩
  simp only [Http.Message.request?, Client.authorizeMessage, client, isUrl, Option.map_some,
    Option.map_none, Option.toList_none, Option.toList_some, List.nil_append, Option.getD_some,
    leadsTo.path, leadsTo.query, inquiryRequest]

theorem isSendable_authenticate (leads : Leads base "/auth/authenticate") {header : String}
    (visible : ∀ value ∈ header.toList, IsVisible value) :
    ((link.client base).authenticateMessage header).isSendable = true := by
  have isValue : Http.isHeaderValue header = true := by
    apply List.all_eq_true.mpr
    intro value member
    rcases visible value member with tab | plain
    · have isTab : value = '\t' := Char.toNat_inj.mp tab
      simp [isTab]
    · have noDelete : value.toNat ≠ 127 := by omega
      simp [plain.1, noDelete]
  have reachable : Http.isReachable ((link.client base).authenticateMessage header).url = true :=
    isReachable_of_leads leads
  rw [Http.Message.isSendable, reachable, Bool.true_and]
  exact isValue

theorem isSendable_authorize (leads : Leads base "/auth/authorize") (inquiry : Inquiry) :
    ((link.client base).authorizeMessage inquiry).isSendable = true := by
  have reachable : Http.isReachable ((link.client base).authorizeMessage inquiry).url = true :=
    isReachable_of_leads leads
  rw [Http.Message.isSendable, reachable, Bool.true_and]
  rfl

end Link

/-! ## Asking what is permitted -/

theorem decode_of_inquiry {context : Context} {inquiry : Inquiry} {body : Http.Body}
    (isBody : context.body = some body) (isWritten : body.bytes = Text.encode inquiry.write) :
    (context.decode (Json.Document.meaning? Inquiry.ofDocument?)).1 =
      if (body.read? maximumBody).isSome then .ok inquiry
      else .error (Context.undecodable "reading body: length limit exceeded") := by
  simp only [Context.decode, Context.takeBody, isBody]
  cases isRead : body.read? maximumBody with
  | none => rfl
  | some bytes =>
      have same : bytes = Text.encode inquiry.write := by
        rw [Http.Body.read?] at isRead
        split at isRead
        · cases isRead
          exact isWritten
        · cases isRead
      simp only [same, inquiry.meaning?_write, Option.isSome_some, if_true]

theorem permissionOf_refused {engine : Token.Engine} {now : Seconds} {inquiry : Inquiry}
    {fault : Token.AuthError}
    (unpermitted : engine.authorize now inquiry.claims inquiry.userId inquiry.rule =
      .error fault) :
    Client.permissionOf (some (.ofResponse ((refused fault).answer {}))) ≠ .ok () := by
  rw [refused_eq]
  split
  · exact Client.permissionOf_envelope (by decide)
  · have kind : fault.failure.kind = .unauthenticated :=
      (Token.Engine.kind_of_authorize unpermitted).1
    exact Client.permissionOf_envelope (by simp [kind])

theorem permissionOf_permits {service : Service} {context : Context} {state : State}
    {inquiry : Inquiry} {body : Http.Body} (isBody : context.body = some body)
    (isWritten : body.bytes = Text.encode inquiry.write) :
    Client.permissionOf (some (.ofResponse ((service.permits context state).1.answer {}))) =
        .ok () ↔
      (body.read? maximumBody).isSome = true ∧ inquiry.rule ≠ "" ∧
        service.engine.authorize state.world.now inquiry.claims inquiry.userId inquiry.rule =
          .ok () := by
  rw [Service.permits, decode_of_inquiry isBody isWritten]
  by_cases whole : (body.read? maximumBody).isSome = true
  · rw [if_pos whole]
    by_cases noRule : inquiry.rule = ""
    · have noInquiry : Client.permissionOf
          (some (.ofResponse (envelopeOf {} Service.missingRule))) ≠ .ok () :=
        Client.permissionOf_envelope (by decide)
      have isMissing : inquiry.rule.isEmpty = true := String.isEmpty_iff.mpr noRule
      simp only [isMissing, if_true]
      exact ⟨fun isOk => absurd isOk noInquiry, fun ⟨_, isRule, _⟩ => absurd noRule isRule⟩
    · have isRule : ¬ inquiry.rule.isEmpty = true := mt String.isEmpty_iff.mp noRule
      simp only [isRule]
      cases answer : service.engine.authorize state.world.now inquiry.claims inquiry.userId
          inquiry.rule with
      | error fault =>
          constructor
          · intro isOk
            exact absurd isOk (permissionOf_refused answer)
          · rintro ⟨_, _, ⟨⟩⟩
      | ok done => exact ⟨fun _ => ⟨whole, noRule, rfl⟩, fun _ => rfl⟩
  · have noBody : Client.permissionOf (some (.ofResponse (envelopeOf {}
        (Context.undecodable "reading body: length limit exceeded")))) ≠ .ok () :=
      Client.permissionOf_envelope (by decide)
    rw [if_neg whole]
    exact ⟨fun isOk => absurd isOk noBody, fun ⟨isWhole, _⟩ => absurd isWhole whole⟩

/-! ## Answers of a client -/

theorem Token.Engine.delay_authenticate_le (engine : Token.Engine) (now : Seconds)
    (header : String) : (engine.authenticate now header).delay ≤ engine.keyTimeout := by
  rw [Token.Engine.authenticate]
  split
  · exact Nat.zero_le _
  · exact Delayed.delay_within_le _ _

structure IsAddress (base : String) : Prop where
  identity : Leads base "/auth/authenticate"
  permission : Leads base "/auth/authorize"

namespace Link

variable {link : Link} {base : String} {sent : List Http.Message}

/-- Whether no time runs out for what is sent next: the reply comes while the client waits, the
service has a clock to answer by, and it gives no request less time than a key may take. -/
structure Unhurried (link : Link) (sent : List Http.Message) : Prop where
  prompt : link.delay sent ≤ Http.replyTimeout
  times : link.service.app.Times (link.arrival sent)
  patient : link.service.engine.keyTimeout ≤ link.service.timeout

theorem value_authenticate (leads : Leads base "/auth/authenticate") {header : String}
    (visible : ∀ value ∈ header.toList, IsVisible value)
    (prompt : link.delay sent ≤ Http.replyTimeout) :
    ((link.client base).authenticate sent header).value =
      Client.identityOf (Service.replyOf
        (link.service.app.serve (identityRequest header) (link.arrival sent)).1) := by
  rw [Client.authenticate, Awaited.map]
  change Client.identityOf (Http.exchange link.transport sent _).value = _
  rw [value_exchange, if_pos ⟨isSendable_authenticate leads visible, prompt⟩,
    request?_authenticate leads]
  rfl

theorem value_authorize (leads : Leads base "/auth/authorize") (inquiry : Inquiry)
    (prompt : link.delay sent ≤ Http.replyTimeout) :
    ((link.client base).authorize sent inquiry).value =
      Client.permissionOf (Service.replyOf
        (link.service.app.serve (inquiryRequest inquiry) (link.arrival sent)).1) := by
  rw [Client.authorize, Awaited.map]
  change Client.permissionOf (Http.exchange link.transport sent _).value = _
  rw [value_exchange, if_pos ⟨isSendable_authorize leads inquiry, prompt⟩,
    request?_authorize leads]
  rfl

theorem authenticate_eq_ok_iff (isDefault : link.service.table = {})
    (leads : Leads base "/auth/authenticate") (unhurried : link.Unhurried sent) {header : String}
    (visible : ∀ value ∈ header.toList, IsVisible value) {identity : Identity} :
    ((link.client base).authenticate sent header).value = .ok identity ↔
      ∃ claims,
        (link.service.engine.authenticate (link.arrival sent).now header).value = .ok claims ∧
        Identity.ofClaims claims = .ok identity := by
  have short : ¬ maximumBody < Service.bodyLength (identityRequest header) :=
    Nat.not_lt.mpr (bodyLength_of_authorization rfl).le
  rcases unhurried.times.context? [] (Service.received (identityRequest header)) with
    ⟨context, isContext, isRequest, _, time⟩
  have bears : context.request.headers = [("authorization", Text.encode header)] := by
    rw [isRequest]
    rfl
  have said : context.authorization = header := authorization_of_header bears visible
  have inTime : (link.service.engine.authenticate
      (enter context { world := link.arrival sent }).world.now context.authorization).delay ≤
        remaining context (enter context { world := link.arrival sent }) := by
    rw [time]
    exact (Token.Engine.delay_authenticate_le _ _ _).trans unhurried.patient
  have served := Service.replyOf_serve (.inl rfl : (identityRequest header).method = _ ∨ _)
    (Service.destination_identity link.service) (link.arrival sent)
  rw [value_authenticate leads visible unhurried.prompt, served, if_neg short, isContext,
    Option.map_some, isDefault, identityOf_whoAmI, exists_identify_iff inTime, said]
  rfl

theorem bodyLength_inquiryRequest {inquiry : Inquiry}
    (short : (Text.encode inquiry.write).length ≤ maximumBody) :
    Service.bodyLength (inquiryRequest inquiry) = (Text.encode inquiry.write).length := by
  have small : maximumBody < Word.size64 := by decide
  rw [Service.bodyLength, declaredLength?_inquiryRequest (by omega), Option.getD_some]

theorem isSome_read?_iff {limit bound : Nat} {body : Http.Body}
    (isBound : body.bound = some bound) :
    (body.read? limit).isSome = true ↔ body.bytes.length ≤ limit ∧ body.bytes.length ≤ bound := by
  simp only [Http.Body.read?, isBound, Option.all_some]
  split
  · rename_i whole
    simpa using whole
  · rename_i cut
    simpa using cut

theorem bytes_inquiryRequest (inquiry : Inquiry) :
    (Service.received (inquiryRequest inquiry)).body.bytes = Text.encode inquiry.write := by
  simp only [Service.received, inquiryRequest]

theorem isSome_read?_inquiryRequest {inquiry : Inquiry} :
    ((Service.received (inquiryRequest inquiry)).body.read? maximumBody).isSome = true ↔
      (Text.encode inquiry.write).length ≤ maximumBody := by
  have isBound : (Service.received (inquiryRequest inquiry)).body.bound =
      some (Service.bodyLength (inquiryRequest inquiry)) := rfl
  rw [isSome_read?_iff isBound, bytes_inquiryRequest]
  constructor
  · exact And.left
  · intro short
    exact ⟨short, (bodyLength_inquiryRequest short).ge⟩

theorem authorize_eq_ok_iff (isDefault : link.service.table = {})
    (leads : Leads base "/auth/authorize") (unhurried : link.Unhurried sent) {inquiry : Inquiry} :
    ((link.client base).authorize sent inquiry).value = .ok () ↔
      (Text.encode inquiry.write).length ≤ maximumBody ∧ inquiry.rule ≠ "" ∧
        link.service.engine.authorize (link.arrival sent).now inquiry.claims inquiry.userId
          inquiry.rule = .ok () := by
  rcases unhurried.times.context? [] (Service.received (inquiryRequest inquiry)) with
    ⟨context, isContext, _, isBody, _⟩
  have served := Service.replyOf_serve (.inr rfl : _ ∨ (inquiryRequest inquiry).method = _)
    (Service.destination_permission link.service) (link.arrival sent)
  rw [value_authorize leads inquiry unhurried.prompt, served, isContext, Option.map_some, isDefault]
  by_cases long : maximumBody < Service.bodyLength (inquiryRequest inquiry)
  · rw [if_pos long]
    constructor
    · intro isOk
      cases isOk
    · rintro ⟨short, _⟩
      rw [bodyLength_inquiryRequest short] at long
      omega
  · rw [if_neg long, permissionOf_permits isBody (bytes_inquiryRequest inquiry),
      isSome_read?_inquiryRequest]
    rfl

end Link

/-! ## Attaching identities -/

/-- Whether a layer goes on with an identity attached to the request. -/
def Attaches (layer : Middleware) (context : Context) (state : State) (identity : Identity) :
    Prop :=
  ∃ after,
    Runs (fun next => layer next context state) { context with identity := some identity } after

theorem Pipeline.Authority.attaches_iff (authority : Authority) {context : Context} {state : State}
    {identity : Identity} :
    Attaches authority.authenticate context state identity ↔
      ∃ after, authority.identify context state = (.ok identity, after) := by
  rcases found : authority.identify context state with ⟨outcome | caller, held⟩
  · have ignores : Ignores fun next => authority.authenticate next context state :=
      ignores_of_eq fun next => by rw [authority.authenticate_eq, found]
    constructor
    · rintro ⟨_, runs⟩
      exact absurd runs ignores.not_runs
    · rintro ⟨_, ⟨⟩⟩
  · have runs_iff (inner : Context) (after : State) :
        Runs (fun next => authority.authenticate next context state) inner after ↔
          inner = { context with identity := some caller } ∧ after = held := by
      have made (next : Handler) : authority.authenticate next context state =
          id (next { context with identity := some caller } held) := by
        rw [authority.authenticate_eq, found]
        rfl
      exact runs_iff_of_eq made
        ⟨(.panic { words := none }, held), (.failure outOfTime, held), nofun⟩
    simp only [Attaches, runs_iff]
    constructor
    · rintro ⟨_, same, rfl⟩
      cases congrArg Context.identity same
      exact ⟨_, rfl⟩
    · rintro ⟨_, ⟨⟩⟩
      exact ⟨held, rfl, rfl⟩

theorem attaches_atHand_iff {engine : Token.Engine} {context : Context} {state : State}
    {identity : Identity}
    (inTime : (engine.authenticate state.world.now context.authorization).delay ≤
      remaining context state) :
    Attaches (authenticate engine) context state identity ↔
      ∃ claims,
        (engine.authenticate state.world.now context.authorization).value = .ok claims ∧
        Identity.ofClaims claims = .ok identity :=
  (Authority.attaches_iff (.atHand engine)).trans (exists_identify_iff inTime)

theorem attaches_elsewhere_iff {client : Client} {context : Context} {state : State}
    {identity : Identity}
    (inTime : (client.authenticate state.world.sent context.authorization).delay ≤
      remaining context state) :
    Attaches (authenticateRemotely client) context state identity ↔
      (client.authenticate state.world.sent context.authorization).value = .ok identity := by
  apply (Authority.attaches_iff (.elsewhere client)).trans
  simp only [Authority.identify, identifyRemotely, Awaited.within, Delayed.within, inTime, if_true,
    settle]
  cases (client.authenticate state.world.sent context.authorization).value with
  | error refusal => simp [Except.mapError]
  | ok caller => simp [Except.mapError]

namespace Link

variable {link : Link} {base : String} {sent : List Http.Message}

theorem delay_authenticate_le (header : String) :
    ((link.client base).authenticate sent header).delay ≤ link.delay sent := by
  rw [Client.authenticate, Http.exchange]
  split
  · simp only [Awaited.map, client, transport, Delayed.within]
    split
    · exact Nat.le_refl _
    · rename_i late
      exact (Nat.lt_of_not_le late).le
  · exact Nat.zero_le _

theorem attaches_remotely_iff (isDefault : link.service.table = {})
    (leads : Leads base "/auth/authenticate") {context : Context} {state : State}
    (unhurried : link.Unhurried state.world.sent)
    (sameTime : (link.arrival state.world.sent).now = state.world.now)
    (waits : link.delay state.world.sent ≤ remaining context state)
    (looks : link.service.engine.keyTimeout ≤ remaining context state) {identity : Identity} :
    Attaches (authenticateRemotely (link.client base)) context state identity ↔
      Attaches (authenticate link.service.engine) context state identity := by
  have asked : ((link.client base).authenticate state.world.sent context.authorization).delay ≤
      remaining context state :=
    (delay_authenticate_le _).trans waits
  have atHand : (link.service.engine.authenticate state.world.now context.authorization).delay ≤
      remaining context state :=
    (Token.Engine.delay_authenticate_le _ _ _).trans looks
  rw [attaches_elsewhere_iff asked, attaches_atHand_iff atHand,
    authenticate_eq_ok_iff isDefault leads unhurried (isVisible_authorization context), sameTime]

/-- What a client is told over a link agrees with the engine behind it, as long as no time runs out:
on who bears a visible header, on the identity that is attached to a request, and on what is
permitted. Only where an inquiry names no rule or is too long is it refused whatever the engine
says. -/
theorem client_agrees (isDefault : link.service.table = {}) (address : IsAddress base)
    (unhurried : link.Unhurried sent) :
    (∀ header userId claims, (∀ value ∈ header.toList, IsVisible value) →
      (((link.client base).authenticate sent header).value = .ok { userId, claims } ↔
        (link.service.engine.authenticate (link.arrival sent).now header).value = .ok claims ∧
          (Identity.ofClaims claims).map Identity.userId = .ok userId)) ∧
    (∀ context state identity, state.world.sent = sent →
      state.world.now = (link.arrival sent).now → link.delay sent ≤ remaining context state →
      link.service.engine.keyTimeout ≤ remaining context state →
      (Attaches (authenticateRemotely (link.client base)) context state identity ↔
        Attaches (authenticate link.service.engine) context state identity)) ∧
    ∀ inquiry, ((link.client base).authorize sent inquiry).value = .ok () ↔
      (Text.encode inquiry.write).length ≤ maximumBody ∧ inquiry.rule ≠ "" ∧
        link.service.engine.authorize (link.arrival sent).now inquiry.claims inquiry.userId
          inquiry.rule = .ok () := by
  refine ⟨?_, ?_, fun inquiry => authorize_eq_ok_iff isDefault address.permission unhurried⟩
  · intro header userId claims visible
    rw [authenticate_eq_ok_iff isDefault address.identity unhurried visible]
    constructor
    · rintro ⟨found, answer, isCaller⟩
      cases (Identity.ofClaims_eq_ok_iff.mp isCaller).2.2
      exact ⟨answer, by rw [isCaller]; rfl⟩
    · rintro ⟨answer, isUser⟩
      exact ⟨claims, answer, Identity.ofClaims_of_userId isUser⟩
  · rintro context state identity rfl sameTime waits looks
    exact attaches_remotely_iff isDefault address.identity unhurried sameTime.symm waits looks

end Link

/-! A link that takes no time, to a service that knows the user. -/

def sampleLink : Link where
  service := { engine := Token.Engine.builtinEngine }
  arrival _ := sampleWorld
  delay _ := 0

def sampleBase : String := "http://127.0.0.1:8080"

def sampleInquiry : Inquiry where
  claims := Token.Engine.userClaims
  userId := Token.Engine.userId
  rule := "rule_admin_or_subject"

def sampleUrl (segment : String) : Url where
  scheme := "http"
  host := some (.address (.short [127, 0, 0, 1]))
  port := some 8080
  path := .segments ["auth", segment]

theorem isAddress_sampleBase : IsAddress sampleBase where
  identity := ⟨sampleUrl "authenticate", by decide +kernel, .inl rfl, rfl, rfl, rfl⟩
  permission := ⟨sampleUrl "authorize", by decide +kernel, .inl rfl, rfl, rfl, rfl⟩

theorem unhurried_sampleLink : sampleLink.Unhurried [] where
  prompt := Nat.zero_le _
  times := ⟨by decide, by decide⟩
  patient := by decide

theorem attaches_sampleUser : Attaches (authenticate Token.Engine.builtinEngine)
    (sampleContext "/" []) { world := sampleWorld } sampleUser := by
  have answered := authenticate_sampleContext "/" []
  apply (attaches_atHand_iff _).mpr
  · exact ⟨Token.Engine.userClaims, congrArg Awaited.value answered, ofClaims_userClaims⟩
  · exact (congrArg Awaited.delay answered).trans_le (Nat.zero_le _)

theorem authorize_sampleInquiry : Token.Engine.builtinEngine.authorize 150 sampleInquiry.claims
    sampleInquiry.userId sampleInquiry.rule = .ok () := by
  have isTarget : targetOf (sampleContext "/" []) sampleUser = .ok Token.Engine.userId := rfl
  exact (admits_sampleUser isTarget).permitted

theorem sampleClient_learns_user :
    ((sampleLink.client sampleBase).authenticate [] (sampleContext "/" []).authorization).value =
        .ok sampleUser ∧
      Attaches (authenticateRemotely (sampleLink.client sampleBase)) (sampleContext "/" [])
        { world := sampleWorld } sampleUser ∧
      ((sampleLink.client sampleBase).authorize [] sampleInquiry).value = .ok () := by
  have agrees := Link.client_agrees (rfl : sampleLink.service.table = {}) isAddress_sampleBase
    unhurried_sampleLink
  refine ⟨?_, ?_, ?_⟩
  · have answer : (Token.Engine.builtinEngine.authenticate 150
        (sampleContext "/" []).authorization).value = .ok Token.Engine.userClaims := by
      rw [authenticate_sampleContext]
    have visible := isVisible_authorization (sampleContext "/" [])
    -- Nothing below may compute the signature.
    generalize (sampleContext "/" []).authorization = header at answer visible ⊢
    exact (agrees.1 header _ _ visible).mpr ⟨answer, by rw [ofClaims_userClaims]; rfl⟩
  · exact (agrees.2.1 _ _ _ rfl rfl (Nat.zero_le _) (by decide)).mpr attaches_sampleUser
  · exact (agrees.2.2 sampleInquiry).mpr
      ⟨by decide +kernel, by decide, authorize_sampleInquiry⟩

end TokenAuthority
