import TokenAuthority.Proofs.Token.Authentication

/-!
# Claims that stand

Under the built-in module an issued token authenticates by those clocks by which its claims stand
and by no others, and as its claims and nothing else.
-/

namespace TokenAuthority

/-- By a clock, claims stand that come from an issuer, are about somebody and hold. Nothing stands
by a clock that shows less than a minute. -/
structure Claims.Stand (claims : Claims) (issuer : String) (now : Seconds) : Prop where
  late : 60 ≤ now.toInt
  subject : claims.subject ≠ ""
  issued : claims.issuer = issuer
  alive : now.toInt - 60 ≤ claims.expiry.toInt
  started : ∀ start, claims.notBefore = some start →
    0 ≤ start.toInt ∧ start.toInt ≤ now.toInt + 60

namespace Token

open Crypto.Rsa (PrivateKey)

theorem Assertion.Matches.stand {assertion : Assertion} {claims : Claims} {issuer : String}
    {now : Seconds} (same : assertion.Matches claims) (subject : claims.subject ≠ "")
    (holds : assertion.holds? now.toInt issuer = some true) : claims.Stand issuer now := by
  rcases Assertion.holds?_eq_some_true_iff.mp holds with ⟨late, issued, alive, started⟩
  refine ⟨late, subject, ?_, ?_, ?_⟩
  · rw [same.issuers, List.mem_singleton] at issued
    exact issued.symm
  · rw [same.expiry]
    exact alive
  · intro start isStart
    cases asserted : assertion.notBefore with
    | none =>
        rw [same.noStart asserted] at isStart
        cases isStart
    | some stated =>
        rcases started stated asserted with ⟨instant, rfl, past⟩
        rcases same.start instant asserted with ⟨claimed, isClaimed, equal⟩
        rw [isStart] at isClaimed
        cases isClaimed
        omega

namespace Engine

variable {engine : Engine} {now : Seconds}
  (builtin : Policy.Module.parse Policy.authenticationSource = .ok engine.policies.authentication)
include builtin

theorem stand_of_authenticate {header : String} {claims : Claims}
    (authenticated : (engine.authenticate now header).value = .ok claims) :
    claims.Stand engine.issuer now ∧
      ∃ bearer, presented header = .ok bearer ∧ bearer.claims = claims := by
  rcases authenticate_eq_ok_iff.mp authenticated with ⟨bearer, armored, isBearer, _, accepted⟩
  rcases signedAssertion_of_accept builtin accepted with ⟨rfl, subject, assertion, signedAssertion,
    holds⟩
  rcases presented_eq_ok_iff.mp isBearer with ⟨_, parts, cut, _, _, readClaims⟩
  rcases signedAssertion?_eq_some_iff.mp signedAssertion with ⟨_, again, _, cutAgain, _, asserted⟩
  rw [cut] at cutAgain
  cases cutAgain
  rcases assertion?_eq_some_iff.mp asserted with ⟨document, isDocument, _, asserts⟩
  rcases Parts.readClaims_eq_ok_iff.mp readClaims with ⟨same, isSame, claimed⟩
  rw [isDocument] at isSame
  cases isSame
  exact ⟨(matches_of_document claimed asserts).stand subject holds, bearer, isBearer, rfl⟩

theorem authenticate_tokenWith_iff {keyId publicText : String} {key : PrivateKey}
    {claims other : Claims} (named : keyId ≠ "")
    (publicFound : ((engine.keys.publicKey keyId).within engine.keyTimeout).value =
      some (.ok publicText))
    (isPublic : publicKey? publicText = some key.publicKey)
    (verifies : ∀ message,
      Crypto.Rsa.verify key.publicKey message (Crypto.Rsa.sign key message) = true) :
    (engine.authenticate now ("Bearer " ++ tokenWith keyId claims key)).value = .ok other ↔
      other = claims ∧ claims.Stand engine.issuer now := by
  constructor
  · intro authenticated
    rcases stand_of_authenticate builtin authenticated with ⟨stand, bearer, isBearer, isClaimed⟩
    rw [presented_tokenWith named] at isBearer
    have presents : claims = bearer.claims := congrArg Presented.claims (Except.ok.inj isBearer)
    rw [← isClaimed, ← presents] at stand
    exact ⟨(presents.trans isClaimed).symm, stand⟩
  · rintro ⟨rfl, stand⟩
    have expires : 0 ≤ other.expiry.toInt := by
      have late := stand.late
      have alive := stand.alive
      omega
    rw [authenticate_tokenWith builtin named publicFound isPublic verifies stand.subject
      stand.issued expires stand.alive stand.started, if_neg (Int.not_lt.mpr stand.late)]

end Engine

/-! ## Pairs of keys -/

namespace Engine

/-- Whatever private key comes in time can be used, and under the same id its public half comes in
time, by which verifies what it signs. -/
def Paired (engine : Engine) : Prop :=
  ∀ keyId armored,
    ((engine.keys.privateKey keyId).within engine.keyTimeout).value = some (.ok armored) →
      ∃ key publicText, signingKey armored = .ok key ∧
        ((engine.keys.publicKey keyId).within engine.keyTimeout).value = some (.ok publicText) ∧
        publicKey? publicText = some key.publicKey ∧
        ∀ message,
          Crypto.Rsa.verify key.publicKey message (Crypto.Rsa.sign key message) = true

theorem issue_eq_ok_iff {engine : Engine} {keyId token : String} {claims : Claims} :
    (engine.issue keyId claims).value = .ok token ↔
      ∃ armored key,
        ((engine.keys.privateKey keyId).within engine.keyTimeout).value = some (.ok armored) ∧
        signingKey armored = .ok key ∧ token = tokenWith keyId claims key := by
  simp only [issue, Awaited.map]
  cases ((engine.keys.privateKey keyId).within engine.keyTimeout).value with
  | none => simp
  | some answer =>
      cases answer with
      | error fault => simp
      | ok armored => cases isKey : signingKey armored <;> simp [isKey, eq_comm]

theorem Paired.presents_issued {engine : Engine} (paired : engine.Paired)
    (builtin : Policy.Module.parse Policy.authenticationSource = .ok engine.policies.authentication)
    {keyId token : String} {claims : Claims} (named : keyId ≠ "")
    (issued : (engine.issue keyId claims).value = .ok token) :
    presented ("Bearer " ++ token) = .ok { token, keyId, claims } ∧
      ∀ now other, (engine.authenticate now ("Bearer " ++ token)).value = .ok other ↔
        other = claims ∧ claims.Stand engine.issuer now := by
  rcases issue_eq_ok_iff.mp issued with ⟨armored, key, found, isKey, rfl⟩
  rcases paired keyId armored found with ⟨again, publicText, isAgain, publicFound, isPublic,
    verifies⟩
  rw [isKey] at isAgain
  cases isAgain
  exact ⟨presented_tokenWith named, fun now other =>
    authenticate_tokenWith_iff builtin named publicFound isPublic verifies⟩

end Engine

end Token

end TokenAuthority
