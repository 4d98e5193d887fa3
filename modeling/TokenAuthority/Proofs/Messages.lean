import TokenAuthority.Messages
import TokenAuthority.Proofs.Identity
import TokenAuthority.Proofs.Text.Utf8
import TokenAuthority.Proofs.Token.Documents

/-!
# Messages that are read as they were written

Claims, identities, inquiries, grants and envelopes are spelled documents. Sent as bytes and read
again they are what they were, whatever texts and times they hold, so no two of a kind are written
alike.
-/

namespace TokenAuthority

open Json (Document Fields Spelling)

theorem Json.meaning?_encode {Meaning : Type} (ofDocument? : Document → Option Meaning)
    (spelling : Spelling) :
    Document.meaning? ofDocument? (Text.encode spelling.text) = ofDocument? spelling.document := by
  rw [Document.meaning?, Text.Glyph.decode_encode, spelling.read?_text, Option.bind_some]

def Uuid.spelling (id : Uuid) : Spelling :=
  .ofText id.toString

theorem Uuid.ofDocument?_spelling (id : Uuid) :
    Identity.idOfDocument? id.spelling.document = some id := by
  rw [Uuid.spelling, Identity.idOfDocument?, Spelling.text?_ofText, Option.bind_some,
    Uuid.parse?_toString]

/-! ## Identities -/

namespace Identity

def members (identity : Identity) : List (String × Spelling) :=
  [("user_id", identity.userId.spelling), ("claims", identity.claims.spelling)]

def spelling (identity : Identity) : Spelling :=
  .object identity.members

theorem text_spelling (identity : Identity) : identity.spelling.text = identity.write := by
  change Json.enclosed _ _ [_, Json.writeMember "claims" identity.claims.spelling.text] = _
  rw [Claims.text_spelling]
  rfl

theorem ofDocument?_spelling (identity : Identity) :
    ofDocument? identity.spelling.document = some identity := by
  have differ : (identity.members.map (·.1)).Nodup := by
    change (["user_id", "claims"] : List String).Nodup
    decide
  rcases Json.fields_object fieldNames differ with ⟨fields, read, found⟩
  have isRead : Fields.ofDocument? fieldNames false identity.spelling.document = some fields := read
  have userId : fields.get? "user_id" = some identity.userId.spelling.document :=
    found "user_id" (by decide)
  have claims : fields.get? "claims" = some identity.claims.spelling.document :=
    found "claims" (by decide)
  simp only [ofDocument?, isRead, Fields.required?, userId, claims, Uuid.ofDocument?_spelling,
    Claims.ofDocument?_spelling, Option.bind_eq_bind, Option.bind_some]

theorem meaning?_write (identity : Identity) :
    Document.meaning? ofDocument? (Text.encode identity.write) = some identity := by
  rw [← text_spelling, Json.meaning?_encode, ofDocument?_spelling]

end Identity

/-! ## Inquiries -/

namespace Inquiry

def members (inquiry : Inquiry) : List (String × Spelling) :=
  [("claims", inquiry.claims.spelling), ("user_id", inquiry.userId.spelling),
    ("rule", .ofText inquiry.rule)]

def spelling (inquiry : Inquiry) : Spelling :=
  .object inquiry.members

theorem text_spelling (inquiry : Inquiry) : inquiry.spelling.text = inquiry.write := by
  change Json.enclosed _ _ [Json.writeMember "claims" inquiry.claims.spelling.text, _, _] = _
  rw [Claims.text_spelling]
  rfl

theorem ofDocument?_spelling (inquiry : Inquiry) :
    ofDocument? inquiry.spelling.document = some inquiry := by
  have differ : (inquiry.members.map (·.1)).Nodup := by
    change (["claims", "user_id", "rule"] : List String).Nodup
    decide
  rcases Json.fields_object fieldNames differ with ⟨fields, read, found⟩
  have isRead : Fields.ofDocument? fieldNames false inquiry.spelling.document = some fields := read
  have claims : fields.get? "claims" = some inquiry.claims.spelling.document :=
    found "claims" (by decide)
  have userId : fields.get? "user_id" = some inquiry.userId.spelling.document :=
    found "user_id" (by decide)
  have rule : fields.get? "rule" = some (Spelling.ofText inquiry.rule).document :=
    found "rule" (by decide)
  simp only [ofDocument?, isRead, Fields.required?, claims, userId, rule,
    Claims.ofDocument?_spelling, Uuid.ofDocument?_spelling, Spelling.text?_ofText,
    Option.bind_eq_bind, Option.bind_some]

theorem meaning?_write (inquiry : Inquiry) :
    Document.meaning? ofDocument? (Text.encode inquiry.write) = some inquiry := by
  rw [← text_spelling, Json.meaning?_encode, ofDocument?_spelling]

end Inquiry

/-! ## Grants -/

namespace Grant

def spelling (grant : Grant) : Spelling :=
  .object [("token", .ofText grant.token)]

theorem text_spelling (grant : Grant) : grant.spelling.text = grant.write := rfl

theorem ofDocument?_spelling (grant : Grant) :
    ofDocument? grant.spelling.document = some grant := by
  have differ : ([("token", Spelling.ofText grant.token)].map (·.1)).Nodup := by
    change (["token"] : List String).Nodup
    decide
  rcases Json.fields_object ["token"] differ with ⟨fields, read, found⟩
  have isRead : Fields.ofDocument? ["token"] false grant.spelling.document = some fields := read
  have token : fields.get? "token" = some (Spelling.ofText grant.token).document :=
    found "token" (by decide)
  simp only [ofDocument?, isRead, Fields.required?, token, Spelling.text?_ofText,
    Option.bind_eq_bind, Option.bind_some]

end Grant

/-! ## Envelopes -/

namespace Envelope

def members (envelope : Envelope) : List (String × Spelling) :=
  [("code", .ofText envelope.code), ("message", .ofText envelope.message)]

def spelling (envelope : Envelope) : Spelling :=
  .object envelope.members

theorem text_spelling (envelope : Envelope) : envelope.spelling.text = envelope.write := rfl

theorem names_differ (envelope : Envelope) : (envelope.members.map (·.1)).Nodup := by
  change (["code", "message"] : List String).Nodup
  decide

theorem ofDocument?_spelling (envelope : Envelope) :
    ofDocument? envelope.spelling.document = some envelope := by
  rcases Json.fields_object ["code", "message"] envelope.names_differ with ⟨fields, read, found⟩
  have isRead : Fields.ofDocument? ["code", "message"] false envelope.spelling.document =
      some fields := read
  have code : fields.get? "code" = some (Spelling.ofText envelope.code).document :=
    found "code" (by decide)
  have message : fields.get? "message" = some (Spelling.ofText envelope.message).document :=
    found "message" (by decide)
  simp only [ofDocument?, isRead, Fields.required?, code, message, Spelling.text?_ofText,
    Option.bind_eq_bind, Option.bind_some]

end Envelope

/-! ## All of them -/

/-- Whatever is written is read as it was, as text and as bytes, and no two values are written
alike. -/
structure RoundTrips {Value : Type} (write : Value → String)
    (ofDocument? : Document → Option Value) : Prop where
  text : ∀ value,
    (Document.read? (Text.Glyph.ofString (write value))).bind ofDocument? = some value
  bytes : ∀ value, Document.meaning? ofDocument? (Text.encode (write value)) = some value
  injective : Function.Injective write

theorem roundTrips_of_spelling {Value : Type} {write : Value → String}
    {ofDocument? : Document → Option Value} (spelling : Value → Spelling)
    (isText : ∀ value, (spelling value).text = write value)
    (isRead : ∀ value, ofDocument? (spelling value).document = some value) :
    RoundTrips write ofDocument? := by
  have text (value : Value) :
      (Document.read? (Text.Glyph.ofString (write value))).bind ofDocument? = some value := by
    rw [← isText, Spelling.read?_text, Option.bind_some, isRead]
  refine ⟨text, ?_, ?_⟩
  · intro value
    rw [← isText, Json.meaning?_encode, isRead]
  · intro left right same
    apply Option.some.inj
    rw [← text left, same, text right]

def HasMember (text name : String) (document : Document) : Prop :=
  ∃ members, Document.read? (Text.Glyph.ofString text) = some (.object members) ∧
    Json.memberNamed? name members = some document

theorem hasMember_object_iff {members : List (String × Spelling)} {name : String}
    {document : Document} :
    HasMember (Spelling.object members).text name document ↔
      (Spelling.named? name members).map (·.document) = some document := by
  rw [HasMember, Spelling.read?_text, ← Json.memberNamed?_memberDocument]
  constructor
  · rintro ⟨held, same, isMember⟩
    cases same
    exact isMember
  · intro isMember
    exact ⟨_, rfl, isMember⟩

theorem Claims.hasMember_start_iff {claims : Claims} {document : Document} :
    HasMember claims.write "nbf" document ↔
      ∃ start, claims.notBefore = some start ∧ start.spelling.document = document := by
  rw [← text_spelling, spelling, hasMember_object_iff, claims.named?_members.2.2.2.2.1]
  cases claims.notBefore <;> simp

/-- Every message is read as it was written and no two of a kind are written alike; an identity is
also what the service answers when it is asked who bears a token. The start of claims is written
exactly if there is one; where claims are part of a message, they stand in it as they are written
alone. -/
theorem messages_round_trip :
    RoundTrips Claims.write Claims.ofDocument? ∧
      RoundTrips Identity.write Identity.ofDocument? ∧
      RoundTrips Inquiry.write Inquiry.ofDocument? ∧
      RoundTrips Grant.write Grant.ofDocument? ∧
      RoundTrips Envelope.write Envelope.ofDocument? ∧
      (∀ claims : Claims,
        (∃ document, HasMember claims.write "nbf" document) ↔ claims.notBefore ≠ none) ∧
      (∀ (identity : Identity) document, HasMember identity.write "claims" document ↔
        Document.read? (Text.Glyph.ofString identity.claims.write) = some document) ∧
      ∀ (inquiry : Inquiry) document, HasMember inquiry.write "claims" document ↔
        Document.read? (Text.Glyph.ofString inquiry.claims.write) = some document := by
  refine ⟨roundTrips_of_spelling _ Claims.text_spelling Claims.ofDocument?_spelling,
    roundTrips_of_spelling _ Identity.text_spelling Identity.ofDocument?_spelling,
    roundTrips_of_spelling _ Inquiry.text_spelling Inquiry.ofDocument?_spelling,
    roundTrips_of_spelling _ Grant.text_spelling Grant.ofDocument?_spelling,
    roundTrips_of_spelling _ Envelope.text_spelling Envelope.ofDocument?_spelling, ?_, ?_, ?_⟩
  · intro claims
    simp only [Claims.hasMember_start_iff]
    cases claims.notBefore <;> simp
  · intro identity document
    rw [← Identity.text_spelling, Identity.spelling, hasMember_object_iff, ← Claims.text_spelling,
      Spelling.read?_text]
    rfl
  · intro inquiry document
    rw [← Inquiry.text_spelling, Inquiry.spelling, hasMember_object_iff, ← Claims.text_spelling,
      Spelling.read?_text]
    rfl

end TokenAuthority
