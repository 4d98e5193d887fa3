import TokenAuthority.Proofs.Json.Containers
import TokenAuthority.Proofs.Token.Payload

/-!
# Documents of an issued token

The header and the claims that are written into a token are spelled documents. Read again they are
the header and the claims they were written from, and the claims make an assertion that says the
same.
-/

namespace TokenAuthority

open Json (Document Fields Spelling)

/-! ## Times -/

def Seconds.spelling (time : Seconds) : Spelling :=
  .ofInt time.toInt

theorem Seconds.bounds (time : Seconds) :
    -(Word.half64 : Int) ≤ time.toInt ∧ time.toInt < Word.half64 := by
  have least := time.le_toInt
  have greatest := time.toInt_lt
  exact ⟨by simpa [Word.half64] using least, by simpa [Word.half64] using greatest⟩

theorem Seconds.int64?_spelling (time : Seconds) :
    (Document.int64? time.spelling.document).map Int64.ofInt = some time := by
  rw [Seconds.spelling, Spelling.int64?_ofInt (bounds time).1 (bounds time).2, Option.map_some,
    Int64.ofInt_toInt]

theorem Seconds.hasValue_spelling (room : Nat) (time : Seconds) :
    time.spelling.HasValue room := by
  have range := bounds time
  apply Spelling.hasValue_ofInt room range.1
  simp only [Word.half64, Word.size64] at *
  omega

theorem Seconds.instant?_spelling {time : Seconds} (known : 0 ≤ time.toInt) :
    Token.instant? time.spelling.document = some time.toInt.toNat := by
  have range := bounds time
  have unsigned : time.toInt < Word.size64 := by
    simp only [Word.half64, Word.size64] at *
    omega
  have number := Json.Numeral.number?_ofInt range.1 unsigned
  have notNegative : ¬time.toInt < 0 := by omega
  simp only [Seconds.spelling, Spelling.ofInt, Token.instant?, number, notNegative, if_false]

/-! ## Claims -/

namespace Claims

def members (claims : Claims) : List (String × Spelling) :=
  [("sub", .ofText claims.subject), ("iss", .ofText claims.issuer), ("exp", claims.expiry.spelling),
    ("iat", claims.issuedAt.spelling)] ++
  (claims.notBefore.toList.map fun time => ("nbf", time.spelling)) ++
  [("roles", .array (claims.roles.map .ofText))]

def spelling (claims : Claims) : Spelling :=
  .object claims.members

theorem text_spelling (claims : Claims) : claims.spelling.text = claims.write := by
  have roles : (claims.roles.map Spelling.ofText).map Spelling.text =
      claims.roles.map Json.writeString := by
    rw [List.map_map]
    rfl
  rcases claims with ⟨subject, issuer, expiry, issuedAt, notBefore, roles⟩
  cases notBefore with
  | none =>
      change Json.enclosed _ _ [_, _, _, _, Json.writeMember "roles" (Json.enclosed _ _ _)] = _
      rw [roles]
      rfl
  | some time =>
      change Json.enclosed _ _ [_, _, _, _, _, Json.writeMember "roles" (Json.enclosed _ _ _)] = _
      rw [roles]
      rfl

theorem names_differ (claims : Claims) : (claims.members.map (·.1)).Nodup := by
  rcases claims with ⟨subject, issuer, expiry, issuedAt, notBefore, roles⟩
  cases notBefore with
  | none =>
      change (["sub", "iss", "exp", "iat", "roles"] : List String).Nodup
      decide
  | some time =>
      change (["sub", "iss", "exp", "iat", "nbf", "roles"] : List String).Nodup
      decide

theorem hasValue_spelling (room : Nat) (claims : Claims) :
    claims.spelling.HasValue (room + 2) := by
  apply Spelling.hasValue_object
  intro member isMember
  simp only [members, List.mem_append, List.mem_cons, List.not_mem_nil, or_false, List.mem_map]
    at isMember
  rcases isMember with (((rfl | rfl | rfl | rfl) | ⟨time, _, rfl⟩) | rfl)
  · exact Spelling.hasValue_ofText _ _
  · exact Spelling.hasValue_ofText _ _
  · exact Seconds.hasValue_spelling _ _
  · exact Seconds.hasValue_spelling _ _
  · exact Seconds.hasValue_spelling _ _
  · apply Spelling.hasValue_array
    intro role isRole
    rcases List.mem_map.mp isRole with ⟨text, _, rfl⟩
    exact Spelling.hasValue_ofText _ _

theorem named?_members (claims : Claims) :
    Spelling.named? "sub" claims.members = some (.ofText claims.subject) ∧
      Spelling.named? "iss" claims.members = some (.ofText claims.issuer) ∧
      Spelling.named? "exp" claims.members = some claims.expiry.spelling ∧
      Spelling.named? "iat" claims.members = some claims.issuedAt.spelling ∧
      Spelling.named? "nbf" claims.members = claims.notBefore.map (·.spelling) ∧
      Spelling.named? "roles" claims.members = some (.array (claims.roles.map .ofText)) := by
  rcases claims with ⟨subject, issuer, expiry, issuedAt, notBefore, roles⟩
  cases notBefore with
  | none => exact ⟨rfl, rfl, rfl, rfl, rfl, rfl⟩
  | some time => exact ⟨rfl, rfl, rfl, rfl, rfl, rfl⟩

theorem ofDocument?_spelling (claims : Claims) :
    ofDocument? claims.spelling.document = some claims := by
  rcases Json.fields_object fieldNames claims.names_differ with ⟨fields, read, found⟩
  rcases claims.named?_members with ⟨subject, issuer, expiry, issuedAt, notBefore, roles⟩
  have document : ofDocument? claims.spelling.document = ofFields? fields := by
    change (Fields.ofMembers? fieldNames false [] _).bind ofFields? = _
    rw [read, Option.bind_some]
  have start : fields.optional? "nbf" none
      (Document.nullable? fun field => (Document.int64? field).map Int64.ofInt) =
        some claims.notBefore := by
    rw [Fields.optional?, found "nbf" (by decide), notBefore]
    cases claims.notBefore with
    | none => rfl
    | some time =>
        change ((Document.int64? time.spelling.document).map Int64.ofInt).map some =
          some (some time)
        rw [Seconds.int64?_spelling]
        rfl
  have names : fields.optional? "roles" [] (Document.list? Document.text?) = some claims.roles := by
    rw [Fields.optional?, found "roles" (by decide), roles]
    exact Spelling.list?_array fun role _ => Spelling.text?_ofText role
  rw [document, ofFields?, start, names]
  simp only [Fields.required?, found "sub" (by decide), found "iss" (by decide),
    found "exp" (by decide), found "iat" (by decide), subject, issuer, expiry, issuedAt,
    Option.map_some, Option.bind_some, Option.bind_eq_bind, Spelling.text?_ofText,
    Seconds.int64?_spelling]

def assertion (claims : Claims) : Token.Assertion where
  expiry := claims.expiry.toInt.toNat
  notBefore := claims.notBefore.map fun time => some time.toInt.toNat
  subject := claims.subject
  issuers := [claims.issuer]

theorem assertion_spelling {claims : Claims} (expires : 0 ≤ claims.expiry.toInt)
    (starts : ∀ time, claims.notBefore = some time → 0 ≤ time.toInt) :
    Token.Assertion.ofDocument? claims.spelling.document = some claims.assertion := by
  rcases Json.fields_object Token.Assertion.fieldNames claims.names_differ with
    ⟨fields, read, found⟩
  rcases claims.named?_members with ⟨subject, issuer, expiry, _, notBefore, _⟩
  have document : Token.Assertion.ofDocument? claims.spelling.document =
      Token.Assertion.ofFields? fields := by
    change (Fields.ofMembers? _ false [] _).bind _ = _
    rw [read, Option.bind_some]
    rfl
  have start : fields.optional? "nbf" none (fun time => some (some (Token.instant? time))) =
      some claims.assertion.notBefore := by
    rw [Fields.optional?, found "nbf" (by decide), notBefore, assertion]
    cases isStart : claims.notBefore with
    | none => rfl
    | some time =>
        change some (some (Token.instant? time.spelling.document)) = _
        rw [Seconds.instant?_spelling (starts time isStart)]
        rfl
  rw [document, Token.Assertion.ofFields?, start]
  simp only [Fields.required?, found "sub" (by decide), found "iss" (by decide),
    found "exp" (by decide), subject, issuer, expiry, Option.map_some, Option.bind_some,
    Option.bind_eq_bind, Spelling.text?_ofText, Seconds.instant?_spelling expires,
    Token.Assertion.issuers?_of_text? (Spelling.text?_ofText _)]
  rfl

end Claims

/-! ## Headers -/

namespace Token.Header

def members (keyId : String) : List (String × Spelling) :=
  [("typ", .ofText "JWT"), ("alg", .ofText Algorithm.rs256.name), ("kid", .ofText keyId)]

def spelling (keyId : String) : Spelling :=
  .object (members keyId)

theorem text_spelling (keyId : String) : (spelling keyId).text = write keyId :=
  rfl

theorem wordOf?_ofText (text : String) : wordOf? (Spelling.ofText text).document = some text :=
  Json.text?_pieces text

theorem ofText_of_mem {keyId : String} {member : String × Spelling}
    (isMember : member ∈ members keyId) : ∃ text, member.2 = .ofText text := by
  simp only [members, List.mem_cons, List.not_mem_nil, or_false] at isMember
  rcases isMember with rfl | rfl | rfl
  · exact ⟨_, rfl⟩
  · exact ⟨_, rfl⟩
  · exact ⟨_, rfl⟩

theorem ofText_of_named? {keyId name : String} {spelled : Spelling}
    (found : Spelling.named? name (members keyId) = some spelled) :
    ∃ text, spelled = .ofText text := by
  rcases Option.map_eq_some_iff.mp found with ⟨member, isFound, rfl⟩
  exact ofText_of_mem (List.mem_of_find?_eq_some isFound)

theorem isSome_text {keyId name : String} {fields : Fields}
    (found : fields.get? name = (Spelling.named? name (members keyId)).map (·.document)) :
    (fields.optional? name none (Document.nullable? Document.text?)).isSome = true := by
  rw [Fields.optional?, found]
  cases member : Spelling.named? name (members keyId) with
  | none => rfl
  | some spelled =>
      rcases ofText_of_named? member with ⟨text, rfl⟩
      change ((Document.text? (Spelling.ofText text).document).map some).isSome = true
      rw [Spelling.text?_ofText]
      rfl

theorem isExtra_memberDocument {keyId : String} {member : String × Spelling}
    (isMember : member ∈ members keyId) : isExtra (Spelling.memberDocument member) = true := by
  rcases ofText_of_mem isMember with ⟨text, isText⟩
  simp only [isExtra, Spelling.memberDocument, Json.text?_pieces, isText, Header.isText,
    Spelling.text?_ofText, Option.isSome_some, Bool.or_true]

theorem names_differ (keyId : String) : ((members keyId).map (·.1)).Nodup := by
  change (["typ", "alg", "kid"] : List String).Nodup
  decide

theorem ofDocument?_spelling (keyId : String) :
    ofDocument? (spelling keyId).document = some { algorithm := .rs256, keyId := some keyId } := by
  rcases Json.fields_object names (names_differ keyId) with ⟨fields, read, found⟩
  have algorithm : fields.get? "alg" = some (Spelling.ofText Algorithm.rs256.name).document :=
    found "alg" (by decide)
  have key : fields.optional? "kid" none (Document.nullable? Document.text?) =
      some (some keyId) := by
    rw [Fields.optional?, found "kid" (by decide)]
    change (Document.text? (Spelling.ofText keyId).document).map some = _
    rw [Spelling.text?_ofText]
    rfl
  have hint : fields.get? "jwk" = none := found "jwk" (by decide)
  have known : Algorithm.ofName? Algorithm.rs256.name = some .rs256 := by decide
  have areTexts : textNames.all (fun name => (fields.optional? name none
      (Document.nullable? Document.text?)).isSome) = true := by
    rw [List.all_eq_true]
    intro name isName
    apply isSome_text (found name _)
    revert name
    decide
  have noLists : ∀ name ∈ listNames, fields.get? name = none := by
    intro name isName
    have named : name = "x5c" ∨ name = "crit" := by simpa [listNames] using isName
    rcases named with rfl | rfl
    · exact found "x5c" (by decide)
    · exact found "crit" (by decide)
  have areLists : listNames.all (fun name => (fields.optional? name none
      (Document.nullable? (Document.list? Document.text?))).isSome) = true := by
    rw [List.all_eq_true]
    intro name isName
    rw [Fields.optional?, noLists name isName]
    rfl
  have extras : ((members keyId).map Spelling.memberDocument).all isExtra = true := by
    rw [List.all_map, List.all_eq_true]
    intro member isMember
    exact isExtra_memberDocument isMember
  have isObject : (spelling keyId).document =
      .object ((members keyId).map Spelling.memberDocument) :=
    rfl
  rw [isObject]
  simp only [ofDocument?, read, Option.bind_eq_bind, Option.bind_some, Fields.required?,
    algorithm, wordOf?_ofText, known]
  rw [key, hint, areTexts, areLists, extras]
  rfl

end Token.Header

end TokenAuthority
