import TokenAuthority.Proofs.Policy.Builtin
import TokenAuthority.Proofs.Token.Issuing

/-!
# Authentication

Under the built-in module a token authenticates if and only if it verifies. Claims that are handed
out come from a token that was signed under the key of its id, and say what was verified; and the
claims of an issued token are handed out as they went in.
-/

namespace TokenAuthority.Token.Engine

open Crypto.Rsa (PrivateKey PublicKey IsSignature sampleKey)

variable {engine : Engine} {now : Seconds}

/-! ## Steps -/

theorem within_eq_some {Answer : Type} {bound : Nat} {delayed : Delayed Answer} {answer : Answer}
    (came : (delayed.within bound).value = some answer) :
    ∃ delay ≤ bound, delayed = .after delay answer := by
  cases delayed with
  | never => cases came
  | after delay value =>
      simp only [Delayed.within] at came
      split at came
      · rename_i inTime
        cases came
        exact ⟨delay, inTime, rfl⟩
      · cases came

theorem accept_eq (builtin : Policy.Module.parse Policy.authenticationSource =
      .ok engine.policies.authentication) (bearer : Presented) (armored : String) :
    engine.accept now bearer armored =
      match verifies? now bearer.token armored engine.issuer with
      | none => .error (.policy .noVerdict)
      | some false => .error .verificationFailed
      | some true =>
          if bearer.claims.subject.isEmpty then .error (.invalidSubject .empty)
          else .ok bearer.claims := by
  rw [Policy.parse_authentication] at builtin
  have same : engine.policies.authentication = Policy.authentication := (Except.ok.inj builtin).symm
  rw [accept, same, Policy.evaluate_authentication]
  cases verifies? now bearer.token armored engine.issuer with
  | none => rfl
  | some answer => cases answer <;> rfl

theorem authenticate_eq_ok_iff {header : String} {claims : Claims} :
    (engine.authenticate now header).value = .ok claims ↔
      ∃ bearer armored, presented header = .ok bearer ∧
        ((engine.keys.publicKey bearer.keyId).within engine.keyTimeout).value = some (.ok armored) ∧
        engine.accept now bearer armored = .ok claims := by
  unfold authenticate
  cases isBearer : presented header with
  | error fault => simp [Awaited.now]
  | ok bearer =>
      simp only [Awaited.map]
      cases came : ((engine.keys.publicKey bearer.keyId).within engine.keyTimeout).value with
      | none => simp [came]
      | some answer =>
          cases answer with
          | error fault => simp [came]
          | ok armored => simp [came]

/-! ## Issued tokens -/

theorem holds?_assertion {claims : Claims} {time : Int} (late : 60 ≤ time)
    (expires : 0 ≤ claims.expiry.toInt) (alive : time - 60 ≤ claims.expiry.toInt)
    (started : ∀ start, claims.notBefore = some start →
      0 ≤ start.toInt ∧ start.toInt ≤ time + 60) :
    claims.assertion.holds? time claims.issuer = some true := by
  rw [Assertion.holds?_eq_some_true_iff]
  refine ⟨late, List.mem_singleton_self _, ?_, ?_⟩
  · change time - 60 ≤ (claims.expiry.toInt.toNat : Int)
    omega
  · intro stated isStated
    rcases Option.map_eq_some_iff.mp isStated with ⟨start, isStart, rfl⟩
    have bounds := started start isStart
    exact ⟨_, rfl, by omega⟩

theorem authenticate_tokenWith (builtin : Policy.Module.parse Policy.authenticationSource =
      .ok engine.policies.authentication) {keyId publicText : String} {key : PrivateKey}
    {claims : Claims} (named : keyId ≠ "")
    (publicFound : ((engine.keys.publicKey keyId).within engine.keyTimeout).value =
      some (.ok publicText))
    (isPublic : publicKey? publicText = some key.publicKey)
    (verifies : ∀ message,
      Crypto.Rsa.verify key.publicKey message (Crypto.Rsa.sign key message) = true)
    (subject : claims.subject ≠ "") (issuer : claims.issuer = engine.issuer)
    (expires : 0 ≤ claims.expiry.toInt) (alive : now.toInt - 60 ≤ claims.expiry.toInt)
    (started : ∀ start, claims.notBefore = some start →
      0 ≤ start.toInt ∧ start.toInt ≤ now.toInt + 60) :
    (engine.authenticate now ("Bearer " ++ tokenWith keyId claims key)).value =
      if now.toInt < 60 then .error (.policy .noVerdict) else .ok claims := by
  have signed : signedAssertion? (tokenWith keyId claims key) publicText = some claims.assertion :=
    signedAssertion?_tokenWith isPublic verifies expires
      fun start isStart => (started start isStart).1
  have notEmpty : claims.subject.isEmpty = false := by simpa using subject
  have handsOver : (engine.authenticate now ("Bearer " ++ tokenWith keyId claims key)).value =
      engine.accept now { token := tokenWith keyId claims key, keyId, claims } publicText := by
    simp only [authenticate, presented_tokenWith named, Awaited.map, publicFound]
  rw [handsOver, accept_eq builtin]
  dsimp only
  by_cases early : now.toInt < 60
  · have untold : verifies? now (tokenWith keyId claims key) publicText engine.issuer = none :=
      verifies?_eq_none_iff.mpr ⟨early, by rw [signed]; rfl⟩
    rw [untold, if_pos early]
  · have holds : claims.assertion.holds? now.toInt engine.issuer = some true := by
      rw [← issuer]
      exact holds?_assertion (by omega) expires alive started
    have good : verifies? now (tokenWith keyId claims key) publicText engine.issuer = some true :=
      verifies?_eq_some_true_iff.mpr ⟨_, signed, holds⟩
    rw [good, if_neg early]
    simp only [notEmpty, Bool.false_eq_true, if_false]

/-! An engine that finds the two halves of one key under every id, and claims for it to issue. -/

def sampleArmor : Crypto.Armor where
  label := "RSA PRIVATE KEY"
  content := Crypto.Der.write Crypto.Der.Tag.sequence
    ([0, sampleKey.modulus, sampleKey.publicExponent, sampleKey.privateExponent,
      sampleKey.firstPrime, sampleKey.secondPrime, sampleKey.firstExponent,
      sampleKey.secondExponent, sampleKey.coefficient].flatMap Crypto.Der.writeNat)

def samplePublicArmor : Crypto.Armor where
  label := "PUBLIC KEY"
  content := sampleKey.publicKey.writeTagged

theorem readLenient?_sampleArmor :
    Crypto.Armor.readLenient? sampleArmor.write = some sampleArmor :=
  Crypto.Armor.readLenient?_write (by decide) (by decide) (List.cons_ne_nil _ _)

theorem signingKey_sampleArmor : signingKey sampleArmor.write = .ok sampleKey :=
  signingKey_of_content
    (rsaContent_of_bare readLenient?_sampleArmor (.inl rfl) (by decide +kernel))
    (by decide +kernel) Crypto.Rsa.isUsable_sampleKey

theorem publicKey?_samplePublicArmor :
    publicKey? samplePublicArmor.write = some sampleKey.publicKey :=
  publicKey?_write (by decide +kernel)

def sampleEngine : Engine where
  keys.privateKey _ := .now (.ok sampleArmor.write)
  keys.publicKey _ := .now (.ok samplePublicArmor.write)
  policies.authentication := Policy.authentication
  policies.authorization := Policy.authentication
  issuer := "issuer"

def sampleClaims : Claims where
  subject := "bearer"
  issuer := "issuer"
  expiry := 200
  issuedAt := 100
  notBefore := some 80

theorem started_sampleClaims : ∀ start, sampleClaims.notBefore = some start → start.toInt = 80 := by
  intro start isStart
  cases isStart
  decide

theorem verify_sampleKey (message : List UInt8) :
    Crypto.Rsa.verify sampleKey.publicKey message
      (Crypto.Rsa.sign sampleKey message) = true :=
  Crypto.Rsa.verify_eq_true_iff.mpr (Crypto.Rsa.isSignature_sampleKey message)

/-! ## Soundness -/

/-- What stands behind claims that are handed out for a header. The token in it, in its parts,
stands between blanks behind the scheme; it names a key, whose armoured text comes in time; and it
is signed under that key. What was verified of its payload says what the claims say. -/
structure Vouched (engine : Engine) (now : Seconds) (header : String) (claims : Claims)
    (before after : List Char) (parts : Parts) (keyId armored : String) (delay : Nat)
    (key : PublicKey) (signature : List UInt8) : Prop where
  shape : header.toList = "Bearer ".toList ++ (before ++ parts.toToken ++ after)
  beforeBlank : ∀ value ∈ before, Text.isBlank value = true
  afterBlank : ∀ value ∈ after, Text.isBlank value = true
  tokenHeader : parts.readHeader = .ok { algorithm := .rs256, keyId := some keyId }
  named : keyId ≠ ""
  found : engine.keys.publicKey keyId = .after delay (.ok armored)
  inTime : delay ≤ engine.keyTimeout
  isKey : publicKey? armored = some key
  isSignature : Text.Base64.urlSafe.decode? parts.signature = some signature
  signed : IsSignature key (Text.encode (String.ofList (parts.header ++ '.' :: parts.payload)))
    signature
  claimed : parts.readClaims = .ok claims
  verified : ∃ assertion, assertion? parts = some assertion ∧ assertion.Matches claims ∧
    assertion.holds? now.toInt engine.issuer = some true
  issuer : claims.issuer = engine.issuer
  alive : now.toInt - 60 ≤ claims.expiry.toInt
  started : ∀ start, claims.notBefore = some start → start.toInt ≤ now.toInt + 60
  subject : claims.subject ≠ ""

theorem holds_of_matches {assertion : Assertion} {claims : Claims} {issuer : String} {time : Int}
    (same : assertion.Matches claims) (holds : assertion.holds? time issuer = some true) :
    claims.issuer = issuer ∧ time - 60 ≤ claims.expiry.toInt ∧
      ∀ start, claims.notBefore = some start → start.toInt ≤ time + 60 := by
  rcases Assertion.holds?_eq_some_true_iff.mp holds with ⟨_, issued, alive, started⟩
  refine ⟨?_, ?_, ?_⟩
  · rw [same.issuers, List.mem_singleton] at issued
    exact issued.symm
  · rw [same.expiry]
    exact alive
  · intro start isStart
    cases asserted : assertion.notBefore with
    | none =>
        have noStart := same.noStart asserted
        rw [isStart] at noStart
        cases noStart
    | some stated =>
        rcases started stated asserted with ⟨instant, rfl, past⟩
        rcases same.start instant asserted with ⟨claimed, isClaimed, equal⟩
        rw [isStart] at isClaimed
        cases isClaimed
        rw [equal]
        exact past

theorem signedAssertion_of_accept (builtin : Policy.Module.parse Policy.authenticationSource =
      .ok engine.policies.authentication) {bearer : Presented} {armored : String} {claims : Claims}
    (accepted : engine.accept now bearer armored = .ok claims) :
    claims = bearer.claims ∧ claims.subject ≠ "" ∧
      ∃ assertion, signedAssertion? bearer.token armored = some assertion ∧
        assertion.holds? now.toInt engine.issuer = some true := by
  rw [accept_eq builtin] at accepted
  split at accepted
  · cases accepted
  · cases accepted
  rename_i verifies
  split at accepted
  · cases accepted
  rename_i somebody
  cases accepted
  exact ⟨rfl, by simpa using somebody, verifies?_eq_some_true_iff.mp verifies⟩

/-- Under the built-in module, claims that are handed out are vouched for. -/
theorem authenticate_sound (engine : Engine)
    (builtin : Policy.Module.parse Policy.authenticationSource = .ok engine.policies.authentication)
    (now : Seconds) (header : String) (claims : Claims)
    (handedOut : (engine.authenticate now header).value = .ok claims) :
    ∃ before after parts keyId armored delay key signature,
      Vouched engine now header claims before after parts keyId armored delay key signature := by
  rcases authenticate_eq_ok_iff.mp handedOut with ⟨bearer, armored, isBearer, came, accepted⟩
  rcases presented_eq_ok_iff.mp isBearer with ⟨isToken, parts, cut, ⟨algorithm, readHeader⟩, named,
    readClaims⟩
  rcases bearerToken_eq_ok isToken with ⟨before, after, shape, beforeBlank, afterBlank⟩
  rcases within_eq_some came with ⟨delay, inTime, found⟩
  rcases signedAssertion_of_accept builtin accepted with ⟨rfl, subject, assertion, signedAssertion,
    holds⟩
  -- Verification cuts the token and reads its header and payload again, to the same end.
  rcases signedAssertion?_eq_some_iff.mp signedAssertion with ⟨key, cutAgain, isKey, again, signed,
    asserted⟩
  rw [cut] at again
  cases again
  rcases isSigned_eq_true_iff.mp signed with ⟨tokenHeader, signature, readAgain, isRs256,
    isSignature, valid⟩
  rw [readHeader] at readAgain
  cases readAgain
  cases isRs256
  rcases assertion?_eq_some_iff.mp asserted with ⟨document, isDocument, _, asserts⟩
  rcases Parts.readClaims_eq_ok_iff.mp readClaims with ⟨sameDocument, isSame, claimed⟩
  rw [isDocument] at isSame
  cases isSame
  have same : assertion.Matches bearer.claims := matches_of_document claimed asserts
  rcases holds_of_matches same holds with ⟨issued, alive, started⟩
  rw [← Parts.toToken_of_ofToken? cut] at shape
  exact ⟨before, after, parts, bearer.keyId, armored, delay, key, signature, shape, beforeBlank,
    afterBlank, readHeader, named, found, inTime, isKey, isSignature, valid, readClaims,
    ⟨assertion, asserted, same, holds⟩, issued, alive, started, subject⟩

theorem sampleEngine_vouches :
    ∃ before after parts keyId armored delay key signature,
      Vouched sampleEngine 150 ("Bearer " ++ tokenWith "key" sampleClaims sampleKey)
        sampleClaims before after parts keyId armored delay key signature := by
  apply authenticate_sound sampleEngine Policy.parse_authentication
  apply @authenticate_tokenWith sampleEngine 150 Policy.parse_authentication "key"
    samplePublicArmor.write sampleKey sampleClaims (by decide) rfl
    publicKey?_samplePublicArmor verify_sampleKey (by decide) rfl (by decide) (by decide)
  intro start isStart
  rw [started_sampleClaims start isStart]
  decide

/-! ## Round trip -/

/-- What is issued authenticates: under the built-in module, where the two keys of an id come in
time and belong together, a token for claims from this issuer that hold now is handed out as the
same claims. The one exception is a clock that shows less than a minute, when verification gives
up. -/
theorem authenticate_issued (engine : Engine)
    (builtin : Policy.Module.parse Policy.authenticationSource = .ok engine.policies.authentication)
    (keyId privateText publicText : String) (key : PrivateKey) (named : keyId ≠ "")
    (privateFound : ((engine.keys.privateKey keyId).within engine.keyTimeout).value =
      some (.ok privateText))
    (publicFound : ((engine.keys.publicKey keyId).within engine.keyTimeout).value =
      some (.ok publicText))
    (isPrivate : signingKey privateText = .ok key)
    (isPublic : publicKey? publicText = some key.publicKey)
    (verifies : ∀ message,
      Crypto.Rsa.verify key.publicKey message (Crypto.Rsa.sign key message) = true)
    (now : Seconds) (claims : Claims) (subject : claims.subject ≠ "")
    (issuer : claims.issuer = engine.issuer) (expires : 0 ≤ claims.expiry.toInt)
    (alive : now.toInt - 60 ≤ claims.expiry.toInt)
    (started : ∀ start, claims.notBefore = some start →
      0 ≤ start.toInt ∧ start.toInt ≤ now.toInt + 60) :
    ∃ token, (engine.issue keyId claims).value = .ok token ∧
      (engine.authenticate now ("Bearer " ++ token)).value =
        if now.toInt < 60 then .error (.policy .noVerdict) else .ok claims := by
  refine ⟨tokenWith keyId claims key, ?_, ?_⟩
  · simp only [issue, Awaited.map, privateFound, isPrivate]
  · exact authenticate_tokenWith builtin named publicFound isPublic verifies subject issuer expires
      alive started

theorem sampleEngine_round_trip :
    ∃ token, (sampleEngine.issue "key" sampleClaims).value = .ok token ∧
      (sampleEngine.authenticate 150 ("Bearer " ++ token)).value = .ok sampleClaims := by
  apply authenticate_issued sampleEngine Policy.parse_authentication "key" sampleArmor.write
    samplePublicArmor.write sampleKey (by decide) rfl rfl signingKey_sampleArmor
    publicKey?_samplePublicArmor verify_sampleKey 150 sampleClaims (by decide) rfl (by decide)
    (by decide)
  intro start isStart
  rw [started_sampleClaims start isStart]
  decide

end TokenAuthority.Token.Engine
