import Mathlib
import TokenAuthority.Proofs.Http.Pattern
import TokenAuthority.Proofs.Keys.Addresses
import TokenAuthority.Proofs.Remote
import TokenAuthority.Proofs.Token.Standing

/-!
# Renewal

A token that is renewed under another key, and then under yet another, never says anything but what
the first token said, and never holds any longer.
-/

namespace TokenAuthority

open Pipeline
open Json (Document Fields Spelling)
open Token (Engine)

/-! ## Grants in replies -/

def Http.Reply.Grants (reply : Http.Reply) (token : String) : Prop :=
  Document.meaning? Grant.ofDocument? reply.body = some { token }

theorem Envelope.noGrant (envelope : Envelope) :
    Document.meaning? Grant.ofDocument? (Text.encode envelope.write) = none := by
  rw [← text_spelling, Json.meaning?_encode]
  rcases Json.fields_object ["token"] envelope.names_differ with ⟨fields, read, found⟩
  have isRead : Fields.ofDocument? ["token"] false envelope.spelling.document = some fields := read
  have noToken : fields.get? "token" = none := found "token" (by decide)
  simp only [Grant.ofDocument?, isRead, Fields.required?, noToken, Option.bind_eq_bind,
    Option.bind_some, Option.bind_none]

namespace Http.Reply

theorem grants_json_iff {status : Http.Status} {text token : String} :
    (ofResponse (.json status text)).Grants token ↔
      status ≠ .noContent ∧
        Document.meaning? Grant.ofDocument? (Text.encode text) = some { token } := by
  have noGrant : Document.meaning? Grant.ofDocument? (Text.encode "") = none := by
    decide +kernel
  rw [Http.Response.json]
  by_cases empty : status = .noContent
  · rw [if_pos empty]
    change Document.meaning? Grant.ofDocument? (Text.encode "") = _ ↔ _
    rw [noGrant]
    constructor
    · intro granted
      cases granted
    · intro filled
      exact absurd empty filled.1
  · rw [if_neg empty]
    exact ⟨fun grants => ⟨empty, grants⟩, And.right⟩

theorem grants_grant_iff {issued token : String} :
    (ofResponse (.json .ok ({ token := issued } : Grant).write)).Grants token ↔ issued = token := by
  have content : Http.Status.ok ≠ .noContent := by decide
  rw [grants_json_iff, ← Grant.text_spelling, Json.meaning?_encode, Grant.ofDocument?_spelling]
  simp [content]

theorem not_grants_envelope (table : StatusTable) (failure : Failure) (token : String) :
    ¬(ofResponse (envelopeOf table failure)).Grants token := by
  rw [envelopeOf, grants_json_iff, failure.envelope.noGrant]
  rintro ⟨_, ⟨⟩⟩

theorem not_grants_tooLong (token : String) :
    ¬(ofResponse (.plain .payloadTooLarge "length limit exceeded")).Grants token := by
  have noGrant : Document.meaning? Grant.ofDocument? (Text.encode "length limit exceeded") =
      none := by decide +kernel
  rw [Grants, ofResponse, Http.Response.plain, noGrant]
  nofun

end Http.Reply

namespace Service

variable {service : Service} {request : Http.Request} {world : World}

/-! ## The route -/

def renewalTarget (segment : List Char) : String :=
  "/auth/token/" ++ String.ofList segment

theorem capture?_renewalTarget {segment : List Char} (inside : '/' ∉ segment)
    (pattern : Http.Pattern) :
    pattern.capture? (renewalTarget segment) =
      Http.Pattern.matchParts pattern.parts ["auth".toList, "token".toList, segment] := by
  have front : Text.segments '/' "auth/token".toList = ["auth".toList, "token".toList] := by decide
  have lead : "/auth/token/".toList = '/' :: ("auth/token".toList ++ ['/']) := by decide
  have characters : (renewalTarget segment).toList =
      '/' :: ("auth/token".toList ++ '/' :: segment) := by
    rw [renewalTarget, String.toList_append, lead, @String.toList_ofList segment, List.cons_append,
      List.append_assoc, List.singleton_append]
  simp only [Http.Pattern.capture?, characters, Text.segments_append, front,
    Text.segments_of_not_mem inside, List.cons_append, List.nil_append]

theorem destination_renewal (service : Service) {segment : List Char} (inside : '/' ∉ segment)
    (filled : segment ≠ []) :
    service.app.destination "GET" (renewalTarget segment) =
      .route (wrap (global service.table) (wrap [authenticate service.engine] service.renew))
        [(keyParameter, segment)] := by
  have captured := capture?_renewalTarget inside
  have whole : renewalPath.capture? (renewalTarget segment) = some [(keyParameter, segment)] := by
    rw [captured]
    simp [renewalPath, Http.Pattern.matchParts, Http.Pattern.behind?, filled]
  have isPattern : service.app.pattern? (renewalTarget segment) = some renewalPath := by
    rw [App.pattern?, patterns_app]
    simp [captured, livenessPath, readinessPath, identityPath, permissionPath, renewalPath,
      Http.Pattern.matchParts, Http.Pattern.behind?, filled]
  rw [App.destination, isPattern]
  change App.Destination.route _ ((renewalPath.capture? (renewalTarget segment)).getD []) = _
  rw [whole]
  rfl

/-! ## The answer -/

section Answers

variable {context : Context} {state after : State} {keyId token : String} {caller : Identity}
  (named : context.parameter? keyParameter = some keyId) (filled : keyId ≠ "")
include named filled

theorem renewal_of_identify
    (identified : identify service.engine context state = (.ok caller, after)) :
    (wrap [authenticate service.engine] service.renew context state).1 =
      match (service.engine.issue keyId caller.claims).value with
      | .error fault => .failure fault.failure
      | .ok token => .response (.json .ok ({ token } : Grant).write) := by
  have notEmpty : ¬keyId.isEmpty = true := mt String.isEmpty_iff.mp filled
  have isKey : ({ context with identity := some caller } : Context).parameter? keyParameter =
      some keyId := named
  simp only [wrap, List.foldr_cons, List.foldr_nil, authenticate, identified, renew, isKey,
    Option.getD_some, notEmpty]
  cases (service.engine.issue keyId caller.claims).value <;> rfl

theorem renewal_cases :
    (∃ failure,
      (wrap [authenticate service.engine] service.renew context state).1.failure? =
        some failure ∧ failure.kind ≠ .ok) ∨
      ∃ caller after token, identify service.engine context state = (.ok caller, after) ∧
        (service.engine.issue keyId caller.claims).value = .ok token ∧
        (wrap [authenticate service.engine] service.renew context state).1 =
          .response (.json .ok ({ token } : Grant).write) := by
  rcases identified : identify service.engine context state with ⟨outcome | caller, after⟩
  · have endsAway : EndsAway service.engine "" context state outcome :=
      endsAway_of_identify identified
    have ends : (wrap [authenticate service.engine] service.renew context state).1 = outcome := by
      simp only [wrap, List.foldr_cons, authenticate, identified]
    rcases endsAway with ⟨failure, fails, turnedAway⟩
    exact .inl ⟨failure, by rw [ends]; exact fails, turnedAway.kind_ne_ok⟩
  · have answered := renewal_of_identify named filled identified
    cases issued : (service.engine.issue keyId caller.claims).value with
    | error fault =>
        rw [issued] at answered
        refine .inl ⟨fault.failure, by rw [answered]; rfl, ?_⟩
        cases fault <;> simp [Token.AuthError.failure, Failure.kind, Token.AuthError.kind]
    | ok token =>
        rw [issued] at answered
        exact .inr ⟨caller, after, token, rfl, issued, answered⟩

end Answers

/-! ## Requests -/

/-- A request asks that a token be renewed under the key of an id: it bears the token, and the last
segment of its path spells the id in percent encoding. -/
structure AsksRenewal (request : Http.Request) (token keyId : String) : Prop where
  method : request.method = "GET"
  path : ∃ segment, request.target.path = renewalTarget segment ∧ '/' ∉ segment ∧
    Http.Pattern.textOf? segment = some keyId
  named : keyId ≠ ""
  bears : request.headerText? "authorization" = some ("Bearer " ++ token)

variable {token keyId : String} {reply : Http.Reply}

theorem AsksRenewal.isRoute (asks : AsksRenewal request token keyId) (service : Service) :
    ∃ capture, service.app.destination request.method request.target.path =
        .route (wrap (global service.table) (wrap [authenticate service.engine] service.renew))
          capture ∧
      ∀ (world : World) (context : Context),
        service.app.context? capture (received request) world = some context →
          context.parameter? keyParameter = some keyId ∧
            context.authorization = "Bearer " ++ token := by
  rcases asks.path with ⟨segment, isPath, inside, spells⟩
  have filled : segment ≠ [] := by
    rintro rfl
    cases spells
    exact asks.named rfl
  refine ⟨[(keyParameter, segment)], ?_, ?_⟩
  · rw [asks.method, isPath]
    exact destination_renewal service inside filled
  · intro world context isContext
    rcases App.of_context? isContext with ⟨_, areParameters, isRequest⟩
    constructor
    · rw [Context.parameter?, areParameters, Http.Pattern.parameters?_cons, spells]
      rfl
    · have bears : context.request.headerText? "authorization" = some ("Bearer " ++ token) := by
        rw [isRequest]
        exact asks.bears
      rw [Context.authorization, Context.header?, bears, Option.getD_some]

theorem renewal_answered (asks : AsksRenewal request token keyId)
    (answered : replyOf (service.app.serve request world).1 = some reply) :
    (∃ claims caller renewed,
      (service.engine.authenticate world.now ("Bearer " ++ token)).value = .ok claims ∧
      Identity.ofClaims claims = .ok caller ∧
      (service.engine.issue keyId claims).value = .ok renewed ∧
      reply = .ofResponse (.json .ok ({ token := renewed } : Grant).write)) ∨
    (∀ renewed, ¬reply.Grants renewed) ∧
      ((∀ kind, kind ≠ .ok → service.table.status kind ≠ .ok) → reply.status ≠ .ok) := by
  rcases asks.isRoute service with ⟨capture, isRoute, knows⟩
  rw [replyOf_serve (.inl asks.method) isRoute world] at answered
  split at answered
  · cases answered
    exact .inr ⟨Http.Reply.not_grants_tooLong, fun _ => by decide⟩
  · rcases Option.map_eq_some_iff.mp answered with ⟨context, isContext, rfl⟩
    rcases knows world context isContext with ⟨named, bears⟩
    rcases @renewal_cases service context (enter context { world }) keyId named asks.named with
      ⟨failure, fails, failed⟩ | ⟨caller, after, renewed, identified, issued, responds⟩
    · refine .inr ⟨?_, ?_⟩
      · intro renewed
        rw [Outcome.answer_of_failure fails]
        exact Http.Reply.not_grants_envelope _ _ _
      · intro distinct
        rw [Outcome.answer_of_failure fails, Http.Reply.status_envelopeOf]
        exact distinct failure.kind failed
    · rcases identify_eq_ok_iff.mp identified with
        ⟨claims, delay, authenticated, _, isCaller, _⟩
      have same : caller.claims = claims := (Identity.ofClaims_eq_ok_iff.mp isCaller).2.2
      rw [same] at issued
      refine .inl ⟨claims, caller, renewed, ?_, isCaller, issued, ?_⟩
      · rw [bears] at authenticated
        exact congrArg Awaited.value authenticated
      · rw [responds]
        rfl

theorem renewal_granted (asks : AsksRenewal request token keyId)
    (short : bodyLength request ≤ maximumBody) (times : service.app.Times world)
    (patient : service.engine.keyTimeout ≤ service.timeout) {claims : Claims} {caller : Identity}
    {renewed : String}
    (authenticated :
      (service.engine.authenticate world.now ("Bearer " ++ token)).value = .ok claims)
    (isCaller : Identity.ofClaims claims = .ok caller)
    (issued : (service.engine.issue keyId claims).value = .ok renewed) :
    ∃ reply, replyOf (service.app.serve request world).1 = some reply ∧ reply.Grants renewed := by
  rcases asks.isRoute service with ⟨capture, isRoute, knows⟩
  rcases times.context? capture (received request) with ⟨context, isContext, _, _, time⟩
  rcases knows world context isContext with ⟨named, bears⟩
  rw [← bears] at authenticated
  have inTime : (service.engine.authenticate (enter context { world }).world.now
      context.authorization).delay ≤ remaining context (enter context { world }) := by
    rw [time]
    exact (Engine.delay_authenticate_le _ _ _).trans patient
  rcases (exists_identify_iff inTime).mpr ⟨claims, authenticated, isCaller⟩ with
    ⟨after, identified⟩
  have same : caller.claims = claims := (Identity.ofClaims_eq_ok_iff.mp isCaller).2.2
  have responds := renewal_of_identify named asks.named identified
  rw [same, issued] at responds
  refine ⟨_, ?_, Http.Reply.grants_grant_iff.mpr rfl⟩
  rw [replyOf_serve (.inl asks.method) isRoute world, if_neg (Nat.not_lt.mpr short), isContext,
    Option.map_some, responds]
  rfl

/-! ## Chains of renewals -/

/-- What comes of a token that is renewed any number of times, at any times and under any keys. -/
inductive Renewals (service : Service) (first : String) : String → Prop
  | start : Renewals service first first
  | renew {token keyId renewed : String} {request : Http.Request} {world : World}
      {reply : Http.Reply} (earlier : Renewals service first token)
      (asks : AsksRenewal request token keyId)
      (answered : replyOf (service.app.serve request world).1 = some reply)
      (grants : reply.Grants renewed) : Renewals service first renewed

/-- A token carries claims: they are what whoever bears it presents. -/
def Carries (token : String) (claims : Claims) : Prop :=
  ∃ bearer, Engine.presented ("Bearer " ++ token) = .ok bearer ∧ bearer.claims = claims

theorem issued_of_grants (asks : AsksRenewal request token keyId)
    (answered : replyOf (service.app.serve request world).1 = some reply) {renewed : String}
    (grants : reply.Grants renewed) :
    ∃ claims caller,
      (service.engine.authenticate world.now ("Bearer " ++ token)).value = .ok claims ∧
      Identity.ofClaims claims = .ok caller ∧
      (service.engine.issue keyId claims).value = .ok renewed := by
  rcases renewal_answered asks answered with
    ⟨claims, caller, issuedToken, authenticated, isCaller, issued, rfl⟩ | ⟨noGrant, _⟩
  · cases Http.Reply.grants_grant_iff.mp grants
    exact ⟨claims, caller, authenticated, isCaller, issued⟩
  · exact absurd grants (noGrant renewed)

section Chains

variable (builtin : Policy.Module.parse Policy.authenticationSource =
    .ok service.engine.policies.authentication) (paired : service.engine.Paired)
include builtin paired

theorem carries_of_grants (asks : AsksRenewal request token keyId)
    (answered : replyOf (service.app.serve request world).1 = some reply) {renewed : String}
    (grants : reply.Grants renewed) {claims : Claims} (carries : Carries renewed claims) :
    Carries token claims := by
  rcases issued_of_grants asks answered grants with ⟨held, _, authenticated, _, issued⟩
  rcases carries with ⟨bearer, isBearer, rfl⟩
  rw [(paired.presents_issued builtin asks.named issued).1] at isBearer
  cases isBearer
  exact (Engine.stand_of_authenticate builtin authenticated).2

theorem Renewals.carries {first : String} (renewals : Renewals service first token)
    {claims : Claims} (carries : Carries token claims) : Carries first claims := by
  induction renewals generalizing claims with
  | start => exact carries
  | renew _ asks answered grants induction =>
      exact induction (carries_of_grants builtin paired asks answered grants carries)

end Chains

/-- However often a token was renewed, when it is renewed once more the new one names the key that
was asked for, carries the claims of the first, and authenticates as long as these stand. There is
none if the presented one does not authenticate or its subject is no user. -/
theorem renewals_keep_claims (service : Service)
    (builtin : Policy.Module.parse Policy.authenticationSource =
      .ok service.engine.policies.authentication) (paired : service.engine.Paired)
    (first token keyId : String) (renewals : Renewals service first token)
    (request : Http.Request) (asks : AsksRenewal request token keyId) (world : World)
    (reply : Http.Reply) (answered : replyOf (service.app.serve request world).1 = some reply) :
    (∀ renewed, reply.Grants renewed → ∃ claims, Carries first claims ∧
      Engine.presented ("Bearer " ++ renewed) = .ok { token := renewed, keyId, claims } ∧
      (service.engine.authenticate world.now ("Bearer " ++ renewed)).value = .ok claims ∧
      ∀ now other, (service.engine.authenticate now ("Bearer " ++ renewed)).value = .ok other ↔
        other = claims ∧ claims.Stand service.engine.issuer now) ∧
    ((∀ kind, kind ≠ .ok → service.table.status kind ≠ .ok) → reply.status = .ok →
      ∃ renewed, reply.Grants renewed) ∧
    ((∀ claims caller,
      (service.engine.authenticate world.now ("Bearer " ++ token)).value = .ok claims →
        Identity.ofClaims claims ≠ .ok caller) →
      ∀ renewed, ¬reply.Grants renewed) := by
  refine ⟨?_, ?_, ?_⟩
  · intro renewed grants
    rcases issued_of_grants asks answered grants with ⟨claims, _, authenticated, _, issued⟩
    rcases Engine.stand_of_authenticate builtin authenticated with ⟨stand, presents⟩
    rcases paired.presents_issued builtin asks.named issued with ⟨presented, authenticates⟩
    exact ⟨claims, renewals.carries builtin paired presents, presented,
      (authenticates world.now claims).mpr ⟨rfl, stand⟩, authenticates⟩
  · intro distinct succeeds
    rcases renewal_answered asks answered with ⟨_, _, renewed, _, _, _, rfl⟩ | ⟨_, fails⟩
    · exact ⟨renewed, Http.Reply.grants_grant_iff.mpr rfl⟩
    · exact absurd succeeds (fails distinct)
  · intro unidentified renewed grants
    rcases issued_of_grants asks answered grants with ⟨claims, caller, authenticated, isCaller, _⟩
    exact unidentified claims caller authenticated isCaller

/-! A user whose token is renewed under a key with a slash in its id, and then under another. -/

def renewalRequest (token keyId : String) : Http.Request where
  target := .place (renewalTarget (Text.Percent.encode Url.Reserved.segment keyId.toList)) none
  headers := [bearerHeader token]

theorem path_renewalRequest :
    (renewalRequest token keyId).target.path =
      renewalTarget (Text.Percent.encode Url.Reserved.segment keyId.toList) := by
  have filled (segment : List Char) : ¬(renewalTarget segment).isEmpty = true := by
    rw [String.isEmpty_iff]
    intro empty
    have characters := congrArg String.toList empty
    simp [renewalTarget] at characters
  rw [renewalRequest, Http.Target.path, if_neg (filled _)]

theorem slash_not_mem_segment (text : List Char) :
    '/' ∉ Text.Percent.encode Url.Reserved.segment text := by
  intro slash
  refine @Text.Percent.forall_mem_encode _ (fun value => value ≠ '/') (by decide) (by decide) ?_
    text '/' slash rfl
  rintro _ kept rfl
  exact absurd kept (by decide)

theorem asksRenewal_renewalRequest {held keyId : String} {claims : Claims}
    {key : Crypto.Rsa.PrivateKey} (named : keyId ≠ "") :
    AsksRenewal (renewalRequest (Engine.tokenWith held claims key) keyId)
      (Engine.tokenWith held claims key) keyId where
  method := rfl
  path := by
    refine ⟨_, path_renewalRequest, slash_not_mem_segment _, ?_⟩
    rw [Http.Pattern.textOf?, Text.Percent.decode_encode Url.lawful_segment]
    exact Text.decode?_encode keyId
  named := named
  bears := headerText?_of_first rfl isVisible_bearer

def renewingService : Service where
  engine := Engine.builtinEngine

theorem paired_builtinEngine : Engine.builtinEngine.Paired := by
  intro keyId armored found
  have same : Engine.sampleArmor.write = armored := Except.ok.inj (Option.some.inj found)
  rw [← same]
  exact ⟨_, _, Engine.signingKey_sampleArmor, rfl, Engine.publicKey?_samplePublicArmor,
    Engine.verify_sampleKey⟩

theorem stand_userClaims : Engine.userClaims.Stand "issuer" 150 where
  late := by decide
  subject := by decide
  issued := rfl
  alive := by decide
  started start isStart := by
    rw [Engine.started_sampleClaims start isStart]
    decide

def userToken (keyId : String) : String :=
  Engine.tokenWith keyId Engine.userClaims Crypto.Rsa.sampleKey

theorem issue_userClaims (keyId : String) :
    (Engine.builtinEngine.issue keyId Engine.userClaims).value = .ok (userToken keyId) :=
  Engine.issue_eq_ok_iff.mpr ⟨_, _, rfl, Engine.signingKey_sampleArmor, rfl⟩

theorem authenticate_userToken {held : String} (named : held ≠ "") :
    (Engine.builtinEngine.authenticate 150 ("Bearer " ++ userToken held)).value =
      .ok Engine.userClaims :=
  (Engine.authenticate_tokenWith_iff Policy.parse_authentication named rfl
    Engine.publicKey?_samplePublicArmor Engine.verify_sampleKey).mpr ⟨rfl, stand_userClaims⟩

theorem userToken_renewed {held other : String} (heldNamed : held ≠ "") (named : other ≠ "") :
    ∃ reply, replyOf (renewingService.app.serve (renewalRequest (userToken held) other)
        sampleWorld).1 = some reply ∧ reply.Grants (userToken other) := by
  have short : bodyLength (renewalRequest (userToken held) other) ≤ maximumBody :=
    (bodyLength_of_authorization rfl).le
  exact renewal_granted (asksRenewal_renewalRequest named) short unhurried_sampleLink.times
    (by decide) (authenticate_userToken heldNamed) ofClaims_userClaims (issue_userClaims other)

theorem userToken_renewed_twice :
    ∃ reply, renewingService.Renewals (userToken "key") (userToken "a/b") ∧
      replyOf (renewingService.app.serve (renewalRequest (userToken "a/b") "key")
        sampleWorld).1 = some reply ∧
      reply.Grants (userToken "key") ∧
      Engine.presented ("Bearer " ++ userToken "key") =
        .ok { token := userToken "key", keyId := "key", claims := Engine.userClaims } ∧
      (Engine.builtinEngine.authenticate 150 ("Bearer " ++ userToken "key")).value =
        .ok Engine.userClaims := by
  rcases @userToken_renewed "key" "a/b" (by decide) (by decide) with ⟨early, answered, grants⟩
  have renewals : renewingService.Renewals (userToken "key") (userToken "a/b") :=
    .renew .start (asksRenewal_renewalRequest (by decide)) answered grants
  rcases @userToken_renewed "a/b" "key" (by decide) (by decide) with ⟨late, again, regrants⟩
  have keeps := renewals_keep_claims renewingService Policy.parse_authentication
    paired_builtinEngine (userToken "key") (userToken "a/b") "key" renewals _
    (asksRenewal_renewalRequest (by decide)) sampleWorld late again
  rcases keeps.1 _ regrants with
    ⟨claims, ⟨bearer, isBearer, isClaimed⟩, presented, authenticated, _⟩
  have presents : Engine.presented ("Bearer " ++ userToken "key") =
      .ok { token := userToken "key", keyId := "key", claims := Engine.userClaims } :=
    Engine.presented_tokenWith (by decide)
  have same : bearer.claims = Engine.userClaims :=
    congrArg Engine.Presented.claims (Except.ok.inj (isBearer.symm.trans presents))
  rw [← isClaimed, same] at presented authenticated
  exact ⟨late, renewals, again, regrants, presented, authenticated⟩

end Service

end TokenAuthority
