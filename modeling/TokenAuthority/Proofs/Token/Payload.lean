import TokenAuthority.Proofs.Json.Fields
import TokenAuthority.Token.Verification

/-!
# Two readings of a payload

A payload is read twice: as claims, which are handed out, and as an assertion, which is verified.
Where both readings succeed they agree on the subject, the issuer and the times.
-/

namespace TokenAuthority

open Json (Document Fields)

namespace Json.Document

theorem text?_eq_some {document : Document} {text : String} (read : document.text? = some text) :
    ∃ pieces, document = .text pieces := by
  cases document with
  | text pieces => exact ⟨pieces, rfl⟩
  | _ => cases read

theorem int64?_eq_some {document : Document} {value : Int} (read : document.int64? = some value) :
    ∃ spelling, document = .number spelling ∧ spelling.number? = some (.integer value) ∧
      value < Word.half64 := by
  cases document with
  | number spelling =>
      simp only [int64?] at read
      split at read
      · rename_i integer number
        split at read
        · rename_i small
          cases read
          exact ⟨spelling, rfl, number, small⟩
        · cases read
      · cases read
  | _ => cases read

end Json.Document

theorem Json.Numeral.le_of_number? {spelling : Numeral} {value : Int}
    (number : spelling.number? = some (.integer value)) : -(Word.half64 : Int) ≤ value := by
  have noFloat : ∀ float : Option Json.Binary64,
      float.map Json.Number.float ≠ some (.integer value) := by
    intro float
    cases float <;> simp
  simp only [number?] at number
  split at number
  · split at number
    · split at number
      · cases number
        simp only [Word.half64]
        omega
      · split at number
        · rename_i bounds
          cases number
          omega
        · exact absurd number (noFloat _)
    · exact absurd number (noFloat _)
  · exact absurd number (noFloat _)

namespace Token

/-! ## Single members -/

theorem Assertion.issuers?_of_text? {document : Document} {issuer : String}
    (read : document.text? = some issuer) : Assertion.issuers? document = some [issuer] := by
  simp [Assertion.issuers?, read]

theorem instant?_of_int64? {document : Document} {value : Int} {time : Nat}
    (claimed : document.int64? = some value) (asserted : instant? document = some time) :
    (Int64.ofInt value).toInt = time := by
  rcases Document.int64?_eq_some claimed with ⟨spelling, rfl, number, small⟩
  have large := Json.Numeral.le_of_number? number
  simp only [instant?, number] at asserted
  split at asserted
  · cases asserted
  · cases asserted
    rw [Int64.toInt_ofInt_of_le]
    · omega
    · simpa [Word.half64] using large
    · simpa [Word.half64] using small

/-! ## Whole payloads -/

theorem claims_of_fields {fields : Fields} {claims : Claims}
    (read : Claims.ofFields? fields = some claims) :
    fields.required? "sub" Document.text? = some claims.subject ∧
      fields.required? "iss" Document.text? = some claims.issuer ∧
      fields.required? "exp" (fun field => (Document.int64? field).map Int64.ofInt) =
        some claims.expiry ∧
      fields.optional? "nbf" none
        (Document.nullable? fun field => (Document.int64? field).map Int64.ofInt) =
          some claims.notBefore := by
  simp only [Claims.ofFields?, Option.bind_eq_bind, Option.bind_eq_some_iff] at read
  rcases read with ⟨subject, isSubject, issuer, isIssuer, expiry, isExpiry, issuedAt, isIssuedAt,
    notBefore, isNotBefore, roles, areRoles, same⟩
  cases same
  exact ⟨isSubject, isIssuer, isExpiry, isNotBefore⟩

theorem assertion_of_fields {fields : Fields} {assertion : Assertion}
    (read : Assertion.ofFields? fields = some assertion) :
    fields.required? "exp" instant? = some assertion.expiry ∧
      fields.optional? "nbf" none (fun time => some (some (instant? time))) =
        some assertion.notBefore ∧
      fields.required? "sub" Document.text? = some assertion.subject ∧
      fields.required? "iss" Assertion.issuers? = some assertion.issuers := by
  simp only [Assertion.ofFields?, Option.bind_eq_bind, Option.bind_eq_some_iff] at read
  rcases read with ⟨expiry, isExpiry, notBefore, isNotBefore, subject, isSubject, issuers,
    areIssuers, same⟩
  cases same
  exact ⟨isExpiry, isNotBefore, isSubject, areIssuers⟩

/-- An assertion says what claims say, as far as it can be told: a start that is no time stands for
nothing. -/
structure Assertion.Matches (assertion : Assertion) (claims : Claims) : Prop where
  subject : assertion.subject = claims.subject
  issuers : assertion.issuers = [claims.issuer]
  expiry : claims.expiry.toInt = assertion.expiry
  noStart : assertion.notBefore = none → claims.notBefore = none
  start : ∀ time, assertion.notBefore = some (some time) →
    ∃ start, claims.notBefore = some start ∧ start.toInt = time

private theorem text_of_required? {fields : Fields} {name text : String}
    (read : fields.required? name Document.text? = some text) :
    ∃ document, fields.get? name = some document ∧ document.text? = some text := by
  simpa only [Fields.required?, Option.bind_eq_some_iff] using read

private theorem start_of_field {field : Option Document} {claimed : Option Seconds}
    {asserted : Option (Option Nat)}
    (claims : field.elim (some none)
      (Document.nullable? fun time => (Document.int64? time).map Int64.ofInt) = some claimed)
    (asserts : field.elim (some none) (fun time => some (some (instant? time))) = some asserted) :
    (asserted = none → claimed = none) ∧
      ∀ time, asserted = some (some time) → ∃ start, claimed = some start ∧ start.toInt = time := by
  cases field with
  | none =>
      cases claims
      cases asserts
      exact ⟨fun _ => rfl, fun _ impossible => nomatch impossible⟩
  | some document =>
      simp only [Option.elim_some, Option.some.injEq] at claims asserts
      subst asserts
      constructor
      · intro impossible
        cases impossible
      intro time isTime
      have isInstant : instant? document = some time := Option.some.inj isTime
      cases document with
      | number spelling =>
          simp only [Document.nullable?, Option.map_map, Option.map_eq_some_iff] at claims
          rcases claims with ⟨value, isInteger, same⟩
          exact ⟨Int64.ofInt value, same.symm, instant?_of_int64? isInteger isInstant⟩
      | _ => cases isInstant

private theorem optional?_eq_elim {Meaning : Type} (name : String) (missing : Meaning)
    (meaning? : Document → Option Meaning) (fields : Fields) :
    fields.optional? name missing meaning? = (fields.get? name).elim (some missing) meaning? := by
  cases found : fields.get? name <;> simp [Fields.optional?, found]

theorem matches_of_fields {claimFields assertionFields : Fields} {claims : Claims}
    {assertion : Assertion}
    (same : ∀ name ∈ ["sub", "iss", "exp", "nbf"],
      claimFields.get? name = assertionFields.get? name)
    (claimed : Claims.ofFields? claimFields = some claims)
    (asserted : Assertion.ofFields? assertionFields = some assertion) :
    assertion.Matches claims := by
  rcases claims_of_fields claimed with ⟨isSubject, isIssuer, isExpiry, isStart⟩
  rcases assertion_of_fields asserted with
    ⟨assertsExpiry, assertsStart, assertsSubject, assertsIssuers⟩
  simp only [Fields.required?, optional?_eq_elim, ← same "sub" (by simp), ← same "iss" (by simp),
    ← same "exp" (by simp), ← same "nbf" (by simp)]
    at assertsExpiry assertsStart assertsSubject assertsIssuers
  rw [optional?_eq_elim] at isStart
  rcases start_of_field isStart assertsStart with ⟨noStart, start⟩
  refine ⟨?_, ?_, ?_, noStart, start⟩
  · exact Option.some.inj (assertsSubject.symm.trans isSubject)
  · rcases text_of_required? isIssuer with ⟨document, found, isText⟩
    rw [found, Option.bind_some, Assertion.issuers?_of_text? isText] at assertsIssuers
    exact (Option.some.inj assertsIssuers).symm
  · simp only [Fields.required?, Option.bind_eq_some_iff, Option.map_eq_some_iff] at isExpiry
    rcases isExpiry with ⟨document, found, value, isInteger, isTime⟩
    rw [found, Option.bind_some] at assertsExpiry
    rw [← isTime]
    exact instant?_of_int64? isInteger assertsExpiry

/-- Whatever a payload is, claims and an assertion that are both read from it match. A list cannot
be read as both, since claims begin with a text and assertions with a time. -/
theorem matches_of_document {document : Document} {claims : Claims} {assertion : Assertion}
    (claimed : Claims.ofDocument? document = some claims)
    (asserted : Assertion.ofDocument? document = some assertion) :
    assertion.Matches claims := by
  simp only [Claims.ofDocument?, Option.bind_eq_some_iff] at claimed
  simp only [Assertion.ofDocument?, Option.bind_eq_bind, Option.bind_eq_some_iff] at asserted
  rcases claimed with ⟨claimFields, claimRecord, claimed⟩
  rcases asserted with ⟨assertionFields, assertionRecord, asserted⟩
  cases document with
  | object members =>
      have known : ∀ name ∈ ["sub", "iss", "exp", "nbf"],
          name ∈ Claims.fieldNames ∧ name ∈ Assertion.fieldNames := by
        decide
      apply matches_of_fields _ claimed asserted
      intro name shared
      rw [Fields.get?_ofDocument?_object (known name shared).1 claimRecord,
        Fields.get?_ofDocument?_object (known name shared).2 assertionRecord]
  | array items =>
      rcases Fields.ofDocument?_array claimRecord with ⟨_, rfl⟩
      rcases Fields.ofDocument?_array assertionRecord with ⟨_, rfl⟩
      -- A list would have to begin with a text for the claims and with a time for the assertion.
      cases items with
      | nil => cases asserted
      | cons first rest =>
          rcases text_of_required? (claims_of_fields claimed).1 with ⟨document, found, isText⟩
          rcases Document.text?_eq_some isText with ⟨pieces, rfl⟩
          have firstIsText : first = .text pieces := by
            simpa [Claims.fieldNames, Fields.get?] using found
          subst firstIsText
          dsimp only at asserted
          split at asserted
          · cases asserted
          · have timed := (assertion_of_fields asserted).1
            simp [Fields.required?, Fields.get?, Assertion.fieldNames, instant?] at timed
  | _ => cases claimRecord

end Token

end TokenAuthority
