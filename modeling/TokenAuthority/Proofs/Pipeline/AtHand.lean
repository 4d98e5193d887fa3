import TokenAuthority.Proofs.Identity
import TokenAuthority.Proofs.Pipeline.Guards
import TokenAuthority.Proofs.Token.Authorization
import TokenAuthority.Proofs.Token.Faults

/-!
# Guards with an engine at hand

When the engine at hand lets a request pass, and how a request ends that it turns away: as
unauthenticated, because a time has run out, or in a panic for want of a verdict, which there is
only while the clock shows less than a minute.
-/

namespace TokenAuthority.Pipeline

open Token (AuthError Engine)

variable {engine : Engine} {context : Context} {state after : State} {caller : Identity}
  {target : Uuid} {rule : String} {outcome : Outcome}

theorem refused_eq (fault : AuthError) :
    refused fault =
      if fault = .policy .noVerdict then
        .panic { words := some Policy.EvaluationError.noVerdict.message }
      else .failure fault.failure := by
  unfold refused
  split
  · rfl
  · rename_i other
    rw [if_neg other]

/-! ## Passing -/

def bearerOf : Except AuthError Claims → Except Outcome Identity
  | .error fault => .error (refused fault)
  | .ok claims => (Identity.ofClaims claims).mapError fun fault => refused (.invalidSubject fault)

theorem bearerOf_eq_ok_iff {answer : Except AuthError Claims} :
    bearerOf answer = .ok caller ↔
      ∃ claims, answer = .ok claims ∧ Identity.ofClaims claims = .ok caller := by
  cases answer with
  | error fault => simp [bearerOf]
  | ok claims =>
      cases isCaller : Identity.ofClaims claims <;> simp [bearerOf, isCaller, Except.mapError]

theorem le_remaining {delay : Nat} (inTime : state.world.clock + delay < context.deadline) :
    delay ≤ remaining context state := by
  simp only [remaining]
  omega

theorem identify_of_answer {delay : Nat} {answer : Except AuthError Claims}
    (answered : engine.authenticate state.world.now context.authorization =
      { delay, value := answer }) :
    identify engine context state =
      if delay ≤ remaining context state then (bearerOf answer, state.pass delay)
      else (.error (.failure outOfTime), state.pass (remaining context state)) := by
  simp only [identify, answered, Awaited.within, Delayed.within]
  by_cases inTime : delay ≤ remaining context state
  · simp only [inTime, if_true]
    cases answer <;> rfl
  · simp only [inTime, if_false]

theorem identify_eq_ok_iff :
    identify engine context state = (.ok caller, after) ↔
      ∃ claims delay,
        engine.authenticate state.world.now context.authorization =
          { delay, value := .ok claims } ∧
        delay ≤ remaining context state ∧ Identity.ofClaims claims = .ok caller ∧
        after = state.pass delay := by
  rcases answered : engine.authenticate state.world.now context.authorization with ⟨delay, answer⟩
  rw [identify_of_answer answered]
  constructor
  · intro identified
    split at identified
    · rename_i inTime
      rcases Prod.mk.inj identified with ⟨isBearer, same⟩
      rcases bearerOf_eq_ok_iff.mp isBearer with ⟨claims, rfl, isCaller⟩
      exact ⟨claims, delay, rfl, inTime, isCaller, same.symm⟩
    · cases identified
  · rintro ⟨claims, again, same, inTime, isCaller, rfl⟩
    cases same
    rw [if_pos inTime, bearerOf_eq_ok_iff.mpr ⟨claims, rfl, isCaller⟩]

theorem exists_identify_iff
    (inTime : (engine.authenticate state.world.now context.authorization).delay ≤
      remaining context state) :
    (∃ after, identify engine context state = (.ok caller, after)) ↔
      ∃ claims,
        (engine.authenticate state.world.now context.authorization).value = .ok claims ∧
        Identity.ofClaims claims = .ok caller := by
  simp only [identify_eq_ok_iff]
  constructor
  · rintro ⟨_, claims, delay, answered, _, isCaller, _⟩
    exact ⟨claims, by rw [answered], isCaller⟩
  · rintro ⟨claims, value, isCaller⟩
    exact ⟨_, claims, _, by rw [← value], inTime, isCaller, rfl⟩

theorem grant_eq_ok_iff {deadline : Nat} :
    (Authority.atHand engine).grant rule caller target deadline state = (.ok (), after) ↔
      state.world.clock < deadline ∧
        engine.authorize state.world.now caller.claims target rule = .ok () ∧ after = state := by
  simp only [Authority.grant]
  by_cases late : deadline ≤ state.world.clock
  · simp only [late, if_true, Prod.mk.injEq, reduceCtorEq, false_and, false_iff]
    omega
  · have inTime : state.world.clock < deadline := by omega
    simp only [late, if_false, inTime, true_and]
    cases engine.authorize state.world.now caller.claims target rule with
    | error fault => simp [Except.mapError]
    | ok done => simp [Except.mapError, eq_comm]

/-- What it takes to pass both guards: claims that are handed out for the authorization header in
the time that remains and name the caller, a target, and the permission to act on it under the rule
before the deadline. -/
structure Admits (engine : Engine) (rule : String) (context : Context) (state : State)
    (claims : Claims) (caller : Identity) (target : Uuid) (delay : Nat) : Prop where
  authenticated : engine.authenticate state.world.now context.authorization =
    { delay, value := .ok claims }
  inTime : delay ≤ remaining context state
  isCaller : Identity.ofClaims claims = .ok caller
  isTarget : targetOf context caller = .ok target
  beforeDeadline : state.world.clock + delay < context.deadline
  permitted : engine.authorize state.world.now claims target rule = .ok ()

theorem letIn_eq_ok_iff_admits :
    Authority.letIn (.atHand engine) (.atHand engine) rule context state = (.ok caller, after) ↔
      ∃ claims target delay, Admits engine rule context state claims caller target delay ∧
        after = state.pass delay := by
  rw [Authority.letIn_eq_ok_iff]
  constructor
  · rintro ⟨between, target, identified, isTarget, granted⟩
    rcases identify_eq_ok_iff.mp identified with
      ⟨claims, delay, authenticated, inTime, isCaller, rfl⟩
    -- Waiting has moved the clock, but not the time of day that permission is asked at.
    rcases grant_eq_ok_iff.mp granted with ⟨beforeDeadline, permitted, rfl⟩
    have same : caller.claims = claims := (Identity.ofClaims_eq_ok_iff.mp isCaller).2.2
    rw [same] at permitted
    exact ⟨claims, target, delay,
      ⟨authenticated, inTime, isCaller, isTarget, beforeDeadline, permitted⟩, rfl⟩
  · rintro ⟨claims, target, delay, admits, rfl⟩
    have same : caller.claims = claims := (Identity.ofClaims_eq_ok_iff.mp admits.isCaller).2.2
    refine ⟨state.pass delay, target, identify_eq_ok_iff.mpr ⟨claims, delay, admits.authenticated,
      admits.inTime, admits.isCaller, rfl⟩, admits.isTarget, grant_eq_ok_iff.mpr ⟨?_, ?_, rfl⟩⟩
    · exact admits.beforeDeadline
    · rw [same]
      exact admits.permitted

theorem runs_serve_iff_admits {app : App} {table : StatusTable}
    {capture : Http.Pattern.Capture} {request : Http.Request} {world : World}
    (layered : app.layers = global table) {inner : Context} {held : State} :
    Runs (Authority.serve app (.atHand engine) (.atHand engine) rule capture request world) inner
        held ↔
      ∃ context claims caller target delay,
        app.context? capture request world = some context ∧
        Admits engine rule context (enter context { world }) claims caller target delay ∧
        inner = { context with identity := some caller } ∧
        held = (enter context { world }).pass delay := by
  rw [Authority.runs_serve_iff layered]
  constructor
  · rintro ⟨context, caller, isContext, admitted, rfl⟩
    rcases letIn_eq_ok_iff_admits.mp admitted with ⟨claims, target, delay, admits, rfl⟩
    exact ⟨context, claims, caller, target, delay, isContext, admits, rfl, rfl⟩
  · rintro ⟨context, claims, caller, target, delay, isContext, admits, rfl, rfl⟩
    exact ⟨context, caller, isContext,
      letIn_eq_ok_iff_admits.mpr ⟨claims, target, delay, admits, rfl⟩, rfl⟩

/-! ## Turning away -/

def TimedOut (engine : Engine) (context : Context) (state : State) : Prop :=
  engine.LooksUpInVain context.authorization ∨
    context.deadline ≤ state.world.clock +
      (engine.authenticate state.world.now context.authorization).delay

/-- Whether the engine is asked so early that it has no verdict, on the token or on the bearer. -/
def Unjudged (engine : Engine) (rule : String) (context : Context) (state : State) : Prop :=
  let answer := (engine.authenticate state.world.now context.authorization).value
  state.world.now.toInt < 60 ∧
    (answer = .error (.policy .noVerdict) ∨
      ∃ claims target, answer = .ok claims ∧
        engine.authorize state.world.now claims target rule = .error (.policy .noVerdict))

/-- With what failure a request is turned away, and why. -/
inductive TurnedAway (engine : Engine) (rule : String) (context : Context) (state : State)
    (failure : Failure) : Prop
  | refusal (kind : failure.kind = .unauthenticated)
  | timeout (kind : failure.kind = .deadlineExceeded) (late : TimedOut engine context state)
  | badTarget (kind : failure.kind = .invalidArgument) (text : String)
      (named : context.parameter? targetParameter = some text) (noId : Uuid.parse? text = none)
  | noVerdict (kind : failure.kind = .internal) (unjudged : Unjudged engine rule context state)

theorem TurnedAway.stays {failure : Failure}
    (turnedAway : TurnedAway engine rule context state failure) : failure.isShutdown = false := by
  cases failure with
  | shutdown reason => cases turnedAway <;> contradiction
  | _ => rfl

theorem TurnedAway.kind_ne_ok {failure : Failure}
    (turnedAway : TurnedAway engine rule context state failure) : failure.kind ≠ .ok := by
  cases turnedAway with
  | refusal kind => simp [kind]
  | timeout kind => simp [kind]
  | badTarget kind => simp [kind]
  | noVerdict kind => simp [kind]

def EndsAway (engine : Engine) (rule : String) (context : Context) (state : State)
    (outcome : Outcome) : Prop :=
  ∃ failure, outcome.failure? = some failure ∧ TurnedAway engine rule context state failure

theorem endsAway_outOfTime (late : TimedOut engine context state) :
    EndsAway engine rule context state (.failure outOfTime) :=
  ⟨outOfTime, rfl, .timeout rfl late⟩

theorem endsAway_refused {fault : AuthError}
    (kind : fault.kind = .unauthenticated ∨ fault = .timeout ∧ TimedOut engine context state)
    (unjudged : fault = .policy .noVerdict → Unjudged engine rule context state) :
    EndsAway engine rule context state (refused fault) := by
  rw [refused_eq]
  split
  · rename_i noVerdict
    exact ⟨_, rfl, .noVerdict rfl (unjudged noVerdict)⟩
  · rcases kind with refusal | ⟨rfl, late⟩
    · exact ⟨fault.failure, rfl, .refusal refusal⟩
    · exact endsAway_outOfTime late

theorem endsAway_of_identify
    (failed : identify engine context state = (.error outcome, after)) :
    EndsAway engine rule context state outcome := by
  rcases answered : engine.authenticate state.world.now context.authorization with ⟨delay, answer⟩
  rw [identify_of_answer answered] at failed
  split at failed
  · rcases Prod.mk.inj failed with ⟨noBearer, _⟩
    cases answer with
    | error fault =>
        cases noBearer
        have value : (engine.authenticate state.world.now context.authorization).value =
            .error fault := by rw [answered]
        rcases Engine.kind_of_authenticate value with ⟨kind, early⟩
        apply endsAway_refused
        · exact kind.imp_right (And.imp_right .inl)
        · rintro rfl
          exact ⟨early rfl, .inl value⟩
    | ok claims =>
        cases isCaller : Identity.ofClaims claims with
        | error fault =>
            rw [bearerOf, isCaller] at noBearer
            cases noBearer
            exact endsAway_refused (.inl rfl) (by simp)
        | ok caller =>
            rw [bearerOf, isCaller] at noBearer
            cases noBearer
  · rename_i late
    cases failed
    have tooLong : context.deadline ≤ state.world.clock + delay := by
      simp only [remaining] at late
      omega
    exact endsAway_outOfTime (.inr (by rw [answered]; exact tooLong))

theorem targetOf_eq_error {failure : Failure} (failed : targetOf context caller = .error failure) :
    failure = invalidTarget ∧
      ∃ text, context.parameter? targetParameter = some text ∧ Uuid.parse? text = none := by
  unfold targetOf at failed
  split at failed
  · cases failed
  · rename_i text named
    split at failed
    · cases failed
    · rename_i noId
      cases failed
      exact ⟨rfl, text, named, noId⟩

theorem grant_eq_error {deadline : Nat}
    (failed : (Authority.atHand engine).grant rule caller target deadline state =
      (.error outcome, after)) :
    deadline ≤ state.world.clock ∧ outcome = .failure outOfTime ∨
      ∃ fault, engine.authorize state.world.now caller.claims target rule = .error fault ∧
        outcome = refused fault := by
  simp only [Authority.grant] at failed
  split at failed
  · rename_i late
    cases failed
    exact .inl ⟨late, rfl⟩
  · cases answer : engine.authorize state.world.now caller.claims target rule with
    | error fault =>
        rw [answer] at failed
        cases failed
        exact .inr ⟨fault, rfl, rfl⟩
    | ok done =>
        rw [answer] at failed
        cases failed

theorem letIn_of_unpermitted {claims : Claims} {delay : Nat} {fault : AuthError}
    (authenticated : engine.authenticate state.world.now context.authorization =
      { delay, value := .ok claims })
    (inTime : state.world.clock + delay < context.deadline)
    (isCaller : Identity.ofClaims claims = .ok caller)
    (isTarget : targetOf context caller = .ok target)
    (unpermitted : engine.authorize state.world.now claims target rule = .error fault) :
    Authority.letIn (.atHand engine) (.atHand engine) rule context state =
      (.error (refused fault), state.pass delay) := by
  have identified : identify engine context state = (.ok caller, state.pass delay) :=
    identify_eq_ok_iff.mpr ⟨claims, delay, authenticated, le_remaining inTime, isCaller, rfl⟩
  have same : caller.claims = claims := (Identity.ofClaims_eq_ok_iff.mp isCaller).2.2
  have notLate : ¬ context.deadline ≤ (state.pass delay).world.clock := by
    simp only [State.pass]
    omega
  have asked : engine.authorize (state.pass delay).world.now caller.claims target rule =
      .error fault := by
    rw [same]
    exact unpermitted
  simp only [Authority.letIn, Authority.identify, identified, isTarget, Authority.grant, notLate,
    if_false, asked, Except.mapError]

theorem endsAway_of_letIn
    (failed : Authority.letIn (.atHand engine) (.atHand engine) rule context state =
      (.error outcome, after)) :
    EndsAway engine rule context state outcome := by
  unfold Authority.letIn at failed
  split at failed
  · rename_i ending between unidentified
    cases failed
    exact endsAway_of_identify unidentified
  rename_i caller between identified
  rcases identify_eq_ok_iff.mp identified with ⟨claims, delay, authenticated, _, isCaller, rfl⟩
  split at failed
  · rename_i failure noTarget
    cases failed
    rcases targetOf_eq_error noTarget with ⟨rfl, text, named, noId⟩
    exact ⟨invalidTarget, rfl, .badTarget rfl text named noId⟩
  rename_i target isTarget
  split at failed
  · rename_i ending ended ungranted
    cases failed
    rcases grant_eq_error ungranted with ⟨late, rfl⟩ | ⟨fault, unpermitted, rfl⟩
    · exact endsAway_outOfTime (.inr (by rw [authenticated]; exact late))
    · rw [(Identity.ofClaims_eq_ok_iff.mp isCaller).2.2] at unpermitted
      rcases Engine.kind_of_authorize unpermitted with ⟨kind, early⟩
      apply endsAway_refused (.inl kind)
      rintro rfl
      exact ⟨early rfl, .inr ⟨claims, target, by rw [authenticated], unpermitted⟩⟩
  · cases failed

/-! ## Texts in headers -/

/-- What is visible in a header: ASCII but for control characters, and the tab. -/
def IsVisible (value : Char) : Prop :=
  value.toNat = 9 ∨ 32 ≤ value.toNat ∧ value.toNat < 127

theorem isHeaderText_encodeChar {value : Char} (visible : IsVisible value) :
    ∃ byte, Text.encodeChar value = [byte] ∧ Http.isHeaderText byte = true ∧
      Char.ofNat byte.toNat = value := by
  have small : value.toNat < 0x80 := by
    rcases visible with tab | plain <;> omega
  have same : (UInt8.ofNat value.toNat).toNat = value.toNat :=
    Text.toNat_ofNat_byte (by omega)
  refine ⟨UInt8.ofNat value.toNat, ?_, ?_, ?_⟩
  · simp only [Text.encodeChar, small, if_true]
  · rcases visible with tab | plain
    · rw [tab]
      decide
    · simp [Http.isHeaderText, same, plain]
  · rw [same, Char.ofNat_toNat]

theorem headerText_visible {chars : List Char} (visible : ∀ value ∈ chars, IsVisible value) :
    (chars.flatMap Text.encodeChar).all Http.isHeaderText = true ∧
      (chars.flatMap Text.encodeChar).map (fun byte => Char.ofNat byte.toNat) = chars := by
  induction chars with
  | nil => exact ⟨rfl, rfl⟩
  | cons value rest induction =>
      rw [List.forall_mem_cons] at visible
      rcases isHeaderText_encodeChar visible.1 with ⟨byte, isByte, isText, same⟩
      rcases induction visible.2 with ⟨allText, sameRest⟩
      simp [isByte, isText, same, allText, sameRest]

theorem isVisible_authorization (context : Context) :
    ∀ value ∈ context.authorization.toList, IsVisible value := by
  intro value member
  rw [Context.authorization, Context.header?, Http.Request.headerText?] at member
  split at member
  · split at member
    · rename_i allText
      rw [Option.getD_some, String.toList_ofList, List.mem_map] at member
      rcases member with ⟨byte, inHeader, rfl⟩
      have isText : Http.isHeaderText byte = true := List.all_eq_true.mp allText byte inHeader
      have valid : byte.toNat.isValidChar := .inl (by have := byte.toNat_lt; omega)
      have same : (Char.ofNat byte.toNat).toNat = byte.toNat := by
        rw [Char.toNat_ofNat, if_pos valid]
      rw [IsVisible, same]
      simp only [Http.isHeaderText, Bool.or_eq_true, Bool.and_eq_true, decide_eq_true_eq] at isText
      rcases isText with rfl | plain
      · exact .inl rfl
      · exact .inr plain
    · simp at member
  · simp at member

theorem headerText?_of_first {request : Http.Request} {name text : String}
    {headers : List (String × List UInt8)}
    (first : request.headers = (name, Text.encode text) :: headers)
    (visible : ∀ value ∈ text.toList, IsVisible value) : request.headerText? name = some text := by
  rcases headerText_visible visible with ⟨allText, same⟩
  have isName : (Http.headerName name == Http.headerName name) = true := beq_self_eq_true _
  simp only [Http.Request.headerText?, first, List.find?_cons, isName, Text.encode, allText, same,
    if_true, String.ofList_toList]

theorem authorization_of_header {text : String} {headers : List (String × List UInt8)}
    (bears : context.request.headers = ("authorization", Text.encode text) :: headers)
    (visible : ∀ value ∈ text.toList, IsVisible value) : context.authorization = text := by
  rw [Context.authorization, Context.header?, headerText?_of_first bears visible, Option.getD_some]

/-! ## Bearers of tokens -/

def bearerHeader (token : String) : String × List UInt8 :=
  ("authorization", Text.encode ("Bearer " ++ token))

theorem isVisible_bearer {keyId : String} {claims : Claims} {key : Crypto.Rsa.PrivateKey} :
    ∀ value ∈ ("Bearer " ++ Engine.tokenWith keyId claims key).toList, IsVisible value := by
  intro value member
  rw [String.toList_append, List.mem_append] at member
  rcases member with scheme | inToken
  · have all : "Bearer ".toList.all fun value => 32 ≤ value.toNat ∧ value.toNat < 127 := by
      decide
    exact .inr (by simpa using List.all_eq_true.mp all value scheme)
  · exact .inr (Engine.isPlain_tokenWith inToken)

theorem authorization_bearerHeader {keyId : String} {claims : Claims}
    {key : Crypto.Rsa.PrivateKey} {headers : List (String × List UInt8)}
    (bears : context.request.headers =
      bearerHeader (Engine.tokenWith keyId claims key) :: headers) :
    context.authorization = "Bearer " ++ Engine.tokenWith keyId claims key :=
  authorization_of_header bears isVisible_bearer

/-! A user who bears a token of the engine with the built-in policies. -/

def sampleUser : Identity where
  userId := Engine.userId
  claims := Engine.userClaims

def sampleRequest (path : String) : Http.Request where
  target := .place path none
  headers := [bearerHeader (Engine.tokenWith "key" Engine.userClaims Crypto.Rsa.sampleKey)]

def sampleApp : App where
  layers := global {}

def sampleWorld : World where
  now := 150

def sampleContext (path : String) (capture : Http.Pattern.Capture) : Context where
  request := sampleRequest path
  parameters := Http.Pattern.parameters? capture
  body := some {}
  startedAt := 150
  isTraced := true
  deadline := defaultTimeout

theorem ofClaims_userClaims : Identity.ofClaims Engine.userClaims = .ok sampleUser :=
  Identity.ofClaims_eq_ok_iff.mpr ⟨by decide, by decide +kernel, rfl⟩

theorem authenticate_sampleContext (path : String) (capture : Http.Pattern.Capture) :
    Engine.builtinEngine.authenticate 150 (sampleContext path capture).authorization =
      { delay := 0, value := .ok Engine.userClaims } := by
  have value : (Engine.builtinEngine.authenticate 150
      ("Bearer " ++ Engine.tokenWith "key" Engine.userClaims Crypto.Rsa.sampleKey)).value =
        .ok Engine.userClaims := by
    apply @Engine.authenticate_tokenWith Engine.builtinEngine 150 Policy.parse_authentication "key"
      Engine.samplePublicArmor.write Crypto.Rsa.sampleKey Engine.userClaims (by decide) rfl
      Engine.publicKey?_samplePublicArmor Engine.verify_sampleKey (by decide) rfl (by decide)
      (by decide)
    intro start isStart
    rw [Engine.started_sampleClaims start isStart]
    decide
  have delay : (Engine.builtinEngine.authenticate 150
      ("Bearer " ++ Engine.tokenWith "key" Engine.userClaims Crypto.Rsa.sampleKey)).delay = 0 := by
    rw [Engine.authenticate, Engine.presented_tokenWith (by decide)]
    rfl
  rw [@authorization_bearerHeader (sampleContext path capture) _ _ _ _ rfl]
  -- Nothing below may compute the signature.
  generalize Engine.builtinEngine.authenticate 150 _ = answer at value delay ⊢
  rcases answer with ⟨_, _⟩
  cases value
  cases delay
  rfl

theorem admits_sampleUser {path : String} {capture : Http.Pattern.Capture}
    (isTarget : targetOf (sampleContext path capture) sampleUser = .ok Engine.userId) :
    Admits Engine.builtinEngine "rule_admin_or_subject" (sampleContext path capture)
      (enter (sampleContext path capture) { world := sampleWorld }) Engine.userClaims sampleUser
      Engine.userId 0 where
  authenticated := authenticate_sampleContext path capture
  inTime := Nat.zero_le _
  isCaller := ofClaims_userClaims
  isTarget := isTarget
  beforeDeadline := (by decide : 0 < defaultTimeout)
  permitted := (Engine.authorize_eq_ok_iff Engine.builtin_eq).mpr
    ⟨by decide, .adminOrSubject, rfl, by decide +kernel⟩

end TokenAuthority.Pipeline
