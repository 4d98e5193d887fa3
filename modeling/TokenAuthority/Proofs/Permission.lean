import TokenAuthority.Proofs.Remote

/-!
# Asking what is permitted

Whatever the body of a question is, it is answered in one of three ways: without content if it asks
for something that is permitted, with a refusal if it asks for something that is not, and with a
failed precondition if it asks for nothing. The answer depends on the body alone, and not on whether
its length was declared, but for a body that is too long: if that is declared, it does not come to
the route at all.
-/

namespace TokenAuthority

open Pipeline

/-- What a body asks, if it asks anything: it is not too long, reads as an inquiry and names a
rule. -/
def Inquiry.ofBody? (bytes : List UInt8) : Option Inquiry :=
  if bytes.length ≤ maximumBody then
    (Json.Document.meaning? Inquiry.ofDocument? bytes).filter fun inquiry => !inquiry.rule.isEmpty
  else none

/-- A request that asks what is permitted, and says how long its body is or says nothing of it. -/
structure AsksPermission (request : Http.Request) (bytes : List UInt8) : Prop where
  method : request.method = "POST"
  path : request.target.path = "/auth/authorize"
  body : request.body = { bytes }
  honest : ∀ length, Gate.declaredLength? request = some length → length = bytes.length

/-- How a body is to be answered. -/
structure Classifies (engine : Token.Engine) (now : Seconds) (bytes : List UInt8)
    (reply : Http.Reply) : Prop where
  permitted : ∀ inquiry, Inquiry.ofBody? bytes = some inquiry →
    engine.authorize now inquiry.claims inquiry.userId inquiry.rule = .ok () →
      reply = { status := .noContent, body := [] }
  refused : ∀ inquiry fault, Inquiry.ofBody? bytes = some inquiry →
    engine.authorize now inquiry.claims inquiry.userId inquiry.rule = .error fault →
      reply = {
        status := .unauthorized
        body := Text.encode (Envelope.write {
          code := "unauthenticated", message := fault.message }) }
  unasked : Inquiry.ofBody? bytes = none → ∃ message,
    reply = {
      status := .badRequest
      body := Text.encode (Envelope.write { code := "failed_precondition", message }) }

namespace Service

variable {service : Service} {request : Http.Request} {world : World} {bytes : List UInt8}

/-! ## The gate -/

theorem isTooLong_iff (asks : AsksPermission request bytes) :
    maximumBody < bodyLength request ↔
      (Gate.declaredLength? request).isSome = true ∧ maximumBody < bytes.length := by
  rw [bodyLength]
  cases declared : Gate.declaredLength? request with
  | none => simp
  | some length => simp [asks.honest length declared]

theorem read?_received (asks : AsksPermission request bytes) :
    (received request).body.read? maximumBody =
      if bytes.length ≤ maximumBody then some bytes else none := by
  have fits : bytes.length ≤ maximumBody → bytes.length ≤ bodyLength request := by
    intro short
    rw [bodyLength]
    cases declared : Gate.declaredLength? request with
    | none => exact short
    | some length => exact (asks.honest length declared).ge
  simp only [received, Http.Body.read?, asks.body, Option.all_some, Bool.and_eq_true,
    decide_eq_true_eq]
  by_cases short : bytes.length ≤ maximumBody
  · simp only [short, fits short, and_self, if_true]
  · simp only [short, false_and, if_false]

theorem world_serve (world : World) {inner : Handler} {capture : Http.Pattern.Capture}
    (noOptions : request.method ≠ "OPTIONS")
    (isRoute : service.app.destination request.method request.target.path =
      .route (wrap (global service.table) inner) capture) :
    (maximumBody < bodyLength request → (service.app.serve request world).2 = world) ∧
      (¬ maximumBody < bodyLength request → ∀ context,
        service.app.context? capture (received request) world = some context →
          (service.app.serve request world).2 =
            (service.app.finish service.table context
              (inner context (enter context { world }))).2) := by
  have served := serve_of_route noOptions isRoute world
  refine ⟨?_, ?_⟩
  · intro long
    rw [served, if_pos long]
  · intro accepted context isContext
    have layered : service.app.layers = global service.table := rfl
    rw [served, if_neg accepted, ← layered]
    dsimp only
    rw [App.serveRoute_of_context layered isContext inner]

/-! ## The route -/

def unasked (bytes : List UInt8) : Failure :=
  if bytes.length ≤ maximumBody then
    match Json.Document.meaning? Inquiry.ofDocument? bytes with
    | some _ => missingRule
    | none => Context.undecodable "decoding body: not what is expected"
  else Context.undecodable "reading body: length limit exceeded"

def permission (engine : Token.Engine) (now : Seconds) (bytes : List UInt8) : Outcome :=
  match Inquiry.ofBody? bytes with
  | none => .failure (unasked bytes)
  | some inquiry =>
      match engine.authorize now inquiry.claims inquiry.userId inquiry.rule with
      | .error fault => refused fault
      | .ok () => .response (.json .noContent "null")

theorem decode_of_body {Meaning : Type} {meaning? : List UInt8 → Option Meaning}
    {context : Context} {body : Http.Body} (isBody : context.body = some body)
    (isRead : body.read? maximumBody = if bytes.length ≤ maximumBody then some bytes else none) :
    (context.decode meaning?).1 =
      if bytes.length ≤ maximumBody then
        match meaning? bytes with
        | some meaning => .ok meaning
        | none => .error (Context.undecodable "decoding body: not what is expected")
      else .error (Context.undecodable "reading body: length limit exceeded") := by
  by_cases short : bytes.length ≤ maximumBody
  · rw [if_pos short] at isRead ⊢
    cases isMeaning : meaning? bytes <;>
      simp only [Context.decode, Context.takeBody, isBody, isRead, isMeaning]
  · rw [if_neg short] at isRead ⊢
    simp only [Context.decode, Context.takeBody, isBody, isRead]

theorem permits_eq (service : Service) {context : Context} (state : State) {body : Http.Body}
    (isBody : context.body = some body)
    (isRead : body.read? maximumBody = if bytes.length ≤ maximumBody then some bytes else none) :
    (service.permits context state).1 = permission service.engine state.world.now bytes ∧
      (service.permits context state).2.world = state.world := by
  rw [permits, decode_of_body isBody isRead, permission, Inquiry.ofBody?, unasked]
  by_cases short : bytes.length ≤ maximumBody
  · rw [if_pos short, if_pos short, if_pos short]
    cases Json.Document.meaning? Inquiry.ofDocument? bytes with
    | none => exact ⟨rfl, rfl⟩
    | some inquiry =>
        by_cases noRule : inquiry.rule.isEmpty = true
        · simp only [Option.filter_some, noRule, Bool.not_true, Bool.false_eq_true, if_true,
            if_false, and_self]
        · simp only [Option.filter_some, noRule, Bool.not_false, if_true]
          cases service.engine.authorize state.world.now inquiry.claims inquiry.userId
              inquiry.rule with
          | error fault => exact ⟨rfl, rfl⟩
          | ok done => exact ⟨rfl, rfl⟩
  · rw [if_neg short, if_neg short, if_neg short]
    exact ⟨rfl, rfl⟩

/-! ## Replies -/

theorem exists_unasked (bytes : List UInt8) :
    ∃ message, unasked bytes = .classified .failedPrecondition message := by
  unfold unasked
  split
  · split <;> exact ⟨_, rfl⟩
  · exact ⟨_, rfl⟩

theorem classifies_permission {engine : Token.Engine} {now : Seconds}
    (verdict : ∀ inquiry, Inquiry.ofBody? bytes = some inquiry →
      engine.authorize now inquiry.claims inquiry.userId inquiry.rule ≠
        .error (.policy .noVerdict)) :
    Classifies engine now bytes (.ofResponse ((permission engine now bytes).answer {})) := by
  refine ⟨?_, ?_, ?_⟩
  · intro inquiry asked permitted
    simp only [permission, asked, permitted]
    rfl
  · intro inquiry fault asked isRefused
    have decided : fault ≠ .policy .noVerdict := by
      intro noVerdict
      rw [noVerdict] at isRefused
      exact verdict inquiry asked isRefused
    have kind : fault.kind = .unauthenticated := (Token.Engine.kind_of_authorize isRefused).1
    simp only [permission, asked, isRefused, refused_eq, if_neg decided, Outcome.answer,
      envelopeOf, Token.AuthError.failure, Failure.kind, kind, Failure.envelope]
    rfl
  · intro nothing
    rcases exists_unasked bytes with ⟨message, isUnasked⟩
    refine ⟨message, ?_⟩
    simp only [permission, nothing, isUnasked]
    rfl

theorem settle_permission {engine : Token.Engine} {now : Seconds}
    (verdict : ∀ inquiry, Inquiry.ofBody? bytes = some inquiry →
      engine.authorize now inquiry.claims inquiry.userId inquiry.rule ≠
        .error (.policy .noVerdict))
    (counters : Counters) :
    (permission engine now bytes).settle counters.enter = {
      counters with
      requests := counters.requests + 1
      errors := counters.errors +
        if (Http.Reply.ofResponse ((permission engine now bytes).answer {})).status = .noContent
          then 0 else 1 } := by
  cases asked : Inquiry.ofBody? bytes with
  | none =>
      rcases exists_unasked bytes with ⟨message, isUnasked⟩
      simp only [permission, asked, isUnasked]
      rfl
  | some inquiry =>
      cases answer : engine.authorize now inquiry.claims inquiry.userId inquiry.rule with
      | ok done =>
          simp only [permission, asked, answer]
          rfl
      | error fault =>
          have isRefused := (classifies_permission verdict).refused inquiry fault asked answer
          have decided : fault ≠ .policy .noVerdict := by
            intro noVerdict
            rw [noVerdict] at answer
            exact verdict inquiry asked answer
          rw [isRefused]
          simp only [permission, asked, answer, refused_eq, if_neg decided]
          rfl

/-! ## Questions -/

theorem destination_of_asks (service : Service) (asks : AsksPermission request bytes) :
    service.app.destination request.method request.target.path =
      .route (wrap (global service.table) service.permits) [] := by
  rw [asks.method, asks.path]
  exact destination_permission service

theorem noOptions_of_asks (asks : AsksPermission request bytes) : request.method ≠ "OPTIONS" := by
  rw [asks.method]
  decide

theorem answer_of_asks (isDefault : service.table = {}) (times : service.app.Times world)
    (asks : AsksPermission request bytes) (accepted : ¬ maximumBody < bodyLength request) :
    let outcome := permission service.engine world.now bytes
    replyOf (service.app.serve request world).1 = some (.ofResponse (outcome.answer {})) ∧
      (service.app.serve request world).2.counters = outcome.settle world.counters.enter := by
  have answer := replyOf_serve (.inr asks.method) (destination_of_asks service asks) world
  have finished := (world_serve world (noOptions_of_asks asks)
    (destination_of_asks service asks)).2 accepted
  rcases times.context? [] (received request) with ⟨context, isContext, _, isBody, _⟩
  rcases permits_eq service (enter context { world }) isBody (read?_received asks) with
    ⟨isAnswer, sameWorld⟩
  rw [if_neg accepted, isContext, Option.map_some, isAnswer, isDefault] at answer
  refine ⟨answer, ?_⟩
  rw [finished context isContext, App.counters_finish, isAnswer, sameWorld]
  rfl

theorem turned_away (service : Service) (world : World) (asks : AsksPermission request bytes)
    (declared : (Gate.declaredLength? request).isSome = true) (long : maximumBody < bytes.length) :
    replyOf (service.app.serve request world).1 =
        some { status := .payloadTooLarge, body := Text.encode "length limit exceeded" } ∧
      (service.app.serve request world).2 = world := by
  have isLong := (isTooLong_iff asks).mpr ⟨declared, long⟩
  have isRoute := destination_of_asks service asks
  have answer := replyOf_serve (.inr asks.method) isRoute world
  rw [if_pos isLong] at answer
  exact ⟨answer, (world_serve world (noOptions_of_asks asks) isRoute).1 isLong⟩

/-- Every question what is permitted is answered by its body and counted once, whether or not it
says how long the body is. Only one that says that the body is too long is turned away at the gate,
with another status and uncounted. -/
theorem permission_classified (isDefault : service.table = {}) (times : service.app.Times world)
    (bytes : List UInt8)
    (verdict : ∀ inquiry, Inquiry.ofBody? bytes = some inquiry →
      service.engine.authorize world.now inquiry.claims inquiry.userId inquiry.rule ≠
        .error (.policy .noVerdict)) :
    ∃ reply, Classifies service.engine world.now bytes reply ∧
      ∀ request, AsksPermission request bytes →
        let served := service.app.serve request world
        let isTurnedAway :=
          (Gate.declaredLength? request).isSome = true ∧ maximumBody < bytes.length
        (¬ isTurnedAway →
          replyOf served.1 = some reply ∧
          served.2.counters = {
            world.counters with
            requests := world.counters.requests + 1
            errors := world.counters.errors + if reply.status = .noContent then 0 else 1 }) ∧
        (isTurnedAway →
          replyOf served.1 = some {
            status := .payloadTooLarge, body := Text.encode "length limit exceeded" } ∧
          served.2 = world) := by
  refine ⟨_, classifies_permission verdict, ?_⟩
  intro request asks served isTurnedAway
  refine ⟨?_, ?_⟩
  · intro accepted
    rw [← settle_permission verdict]
    exact answer_of_asks isDefault times asks (mt (isTooLong_iff asks).mp accepted)
  · intro isLong
    exact turned_away service world asks isLong.1 isLong.2

end Service

/-! A service that is asked about the user it knows, and then at too great a length. -/

theorem length_sampleInquiry : (Text.encode sampleInquiry.write).length ≤ maximumBody := by
  decide +kernel

theorem asksPermission_sampleInquiry :
    AsksPermission (inquiryRequest sampleInquiry) (Text.encode sampleInquiry.write) where
  method := rfl
  path := rfl
  body := rfl
  honest length declared := by
    have small : (Text.encode sampleInquiry.write).length < Word.size64 :=
      Nat.lt_of_le_of_lt length_sampleInquiry (by decide)
    rw [declaredLength?_inquiryRequest small] at declared
    exact (Option.some.inj declared).symm

theorem sampleLink_permits_sampleInquiry :
    let served := sampleLink.service.app.serve (inquiryRequest sampleInquiry) sampleWorld
    Service.replyOf served.1 = some { status := .noContent, body := [] } ∧
      served.2.counters = { requests := 1 } := by
  intro served
  have asked : Inquiry.ofBody? (Text.encode sampleInquiry.write) = some sampleInquiry := by
    rw [Inquiry.ofBody?, if_pos length_sampleInquiry, sampleInquiry.meaning?_write]
    rfl
  have verdict : ∀ inquiry, Inquiry.ofBody? (Text.encode sampleInquiry.write) = some inquiry →
      sampleLink.service.engine.authorize sampleWorld.now inquiry.claims inquiry.userId
        inquiry.rule ≠ .error (.policy .noVerdict) := by
    intro inquiry _ fails
    have early := (Token.Engine.kind_of_authorize fails).2 rfl
    exact absurd early (by decide)
  have times : sampleLink.service.app.Times sampleWorld := unhurried_sampleLink.times
  rcases Service.permission_classified (rfl : sampleLink.service.table = {}) times
    (Text.encode sampleInquiry.write) verdict with ⟨reply, classifies, answers⟩
  have answer := (answers _ asksPermission_sampleInquiry).1 fun long =>
    Nat.not_lt.mpr length_sampleInquiry long.2
  rw [classifies.permitted sampleInquiry asked authorize_sampleInquiry] at answer
  refine ⟨answer.1, ?_⟩
  rw [answer.2]
  decide

def endlessRequest : Http.Request where
  method := "POST"
  target := .place "/auth/authorize" none
  headers := [("content-length", Text.encode "1048577")]
  body := { bytes := List.replicate (maximumBody + 1) 0x20 }

theorem endlessRequest_turned_away :
    AsksPermission endlessRequest (List.replicate (maximumBody + 1) 0x20) ∧
      Inquiry.ofBody? (List.replicate (maximumBody + 1) 0x20) = none ∧
      let served := sampleLink.service.app.serve endlessRequest sampleWorld
      (∀ message, Service.replyOf served.1 ≠ some {
        status := .badRequest
        body := Text.encode (Envelope.write { code := "failed_precondition", message }) }) ∧
      served.2.counters.requests = sampleWorld.counters.requests := by
  have declared : Gate.declaredLength? endlessRequest = some 1048577 := by decide +kernel
  have asks : AsksPermission endlessRequest (List.replicate (maximumBody + 1) 0x20) := by
    refine ⟨rfl, rfl, rfl, ?_⟩
    intro length isLength
    rw [List.length_replicate]
    exact (Option.some.inj (declared.symm.trans isLength)).symm
  have long : maximumBody < (List.replicate (maximumBody + 1) (0x20 : UInt8)).length := by
    rw [List.length_replicate]
    exact Nat.lt_succ_self _
  rcases Service.turned_away sampleLink.service sampleWorld asks (by rw [declared]; rfl) long with
    ⟨answer, kept⟩
  refine ⟨asks, if_neg (Nat.not_le.mpr long), ?_, ?_⟩
  · intro message other
    rw [answer] at other
    cases congrArg Http.Reply.status (Option.some.inj other)
  · rw [kept]

end TokenAuthority
