import TokenAuthority.Proofs.Token.Verification

/-!
# Issued tokens

An issued token is cut into the parts it was put together from, its header and its claims are read
as they were written, and its signed assertion is the one that the claims make.
-/

namespace TokenAuthority.Token

open Crypto.Rsa (PrivateKey)

namespace Engine

variable {keyId : String} {claims : Claims} {key : PrivateKey}

theorem toList_tokenWith :
    (tokenWith keyId claims key).toList = (issuedParts keyId claims key).toToken := by
  rw [tokenWith, String.toList_ofList]

theorem header_issuedParts :
    (issuedParts keyId claims key).header = Parts.writePart (Header.spelling keyId).text := by
  rw [issuedParts, Header.text_spelling]

theorem payload_issuedParts :
    (issuedParts keyId claims key).payload = Parts.writePart claims.spelling.text := by
  rw [issuedParts, Claims.text_spelling]

theorem signature_issuedParts :
    (issuedParts keyId claims key).signature =
      Text.Base64.urlSafe.encode (Crypto.Rsa.sign key (issuedParts keyId claims key).message) := by
  simp only [issuedParts, Parts.message, Parts.signed]

/-! ## Cutting -/

theorem ofToken?_tokenWith :
    Parts.ofToken? (tokenWith keyId claims key).toList = some (issuedParts keyId claims key) := by
  have payload : '.' ∉ (issuedParts keyId claims key).payload := by
    rw [payload_issuedParts]
    exact Parts.noDot_writePart _
  have signature : '.' ∉ (issuedParts keyId claims key).signature := by
    rw [signature_issuedParts]
    intro member
    exact (Text.Base64.not_blank_of_mem_encode member).2 rfl
  rw [toList_tokenWith]
  exact Parts.ofToken?_toToken payload signature

theorem mem_tokenWith {value : Char} (member : value ∈ (tokenWith keyId claims key).toList) :
    value = '.' ∨ ∃ bytes, value ∈ Text.Base64.urlSafe.encode bytes := by
  rw [toList_tokenWith, Parts.toToken, Parts.signed, header_issuedParts, payload_issuedParts,
    signature_issuedParts] at member
  simp only [List.mem_append, List.mem_cons] at member
  rcases member with (isHeader | isDot | isPayload) | isDot | isSignature
  · exact .inr ⟨_, isHeader⟩
  · exact .inl isDot
  · exact .inr ⟨_, isPayload⟩
  · exact .inl isDot
  · exact .inr ⟨_, isSignature⟩

theorem noBlank_tokenWith {value : Char} (member : value ∈ (tokenWith keyId claims key).toList) :
    Text.isBlank value = false := by
  rcases mem_tokenWith member with rfl | ⟨bytes, written⟩
  · decide
  · exact (Text.Base64.not_blank_of_mem_encode written).1

theorem isPlain_tokenWith {value : Char} (member : value ∈ (tokenWith keyId claims key).toList) :
    32 ≤ value.toNat ∧ value.toNat < 127 := by
  rcases mem_tokenWith member with rfl | ⟨bytes, written⟩
  · decide
  · exact @Text.Base64.forall_mem_encode (fun value => 32 ≤ value.toNat ∧ value.toNat < 127)
      (by decide) bytes value written

theorem tokenWith_ne_empty : tokenWith keyId claims key ≠ "" := by
  intro empty
  have noChars : (issuedParts keyId claims key).toToken = [] := by
    rw [← toList_tokenWith, empty]
    rfl
  simp [Parts.toToken] at noChars

/-! ## Reading -/

theorem readHeader_issuedParts :
    (issuedParts keyId claims key).readHeader =
      .ok { algorithm := .rs256, keyId := some keyId } := by
  rw [Parts.readHeader_eq_ok_iff, header_issuedParts]
  exact ⟨_, Parts.document_writePart _, Header.ofDocument?_spelling keyId⟩

theorem document_payload :
    Parts.document (issuedParts keyId claims key).payload = .ok claims.spelling.document := by
  rw [payload_issuedParts]
  exact Parts.document_writePart _

theorem presented_tokenWith (named : keyId ≠ "") :
    presented ("Bearer " ++ tokenWith keyId claims key) =
      .ok { token := tokenWith keyId claims key, keyId, claims } := by
  have readClaims : (issuedParts keyId claims key).readClaims = .ok claims :=
    Parts.readClaims_eq_ok_iff.mpr ⟨_, document_payload, Claims.ofDocument?_spelling claims⟩
  have bearer : bearerToken ("Bearer " ++ tokenWith keyId claims key) =
      .ok (tokenWith keyId claims key) :=
    bearerToken_append tokenWith_ne_empty fun _ => noBlank_tokenWith
  exact presented_eq_ok_iff.mpr
    ⟨bearer, _, ofToken?_tokenWith, ⟨_, readHeader_issuedParts⟩, named, readClaims⟩

/-! ## Verifying -/

theorem isSigned_issuedParts (verifies : ∀ message,
      Crypto.Rsa.verify key.publicKey message (Crypto.Rsa.sign key message) = true) :
    isSigned (issuedParts keyId claims key) key.publicKey = true := by
  have signature : Text.Base64.urlSafe.decode? (issuedParts keyId claims key).signature =
      some (Crypto.Rsa.sign key (issuedParts keyId claims key).message) := by
    rw [signature_issuedParts]
    exact Text.Base64.decode?_encode Text.Base64.lawful_urlSafe rfl _
  exact isSigned_eq_true_iff.mpr ⟨_, _, readHeader_issuedParts, rfl, signature,
    Crypto.Rsa.verify_eq_true_iff.mp (verifies _)⟩

theorem signedAssertion?_tokenWith {armored : String}
    (isPublic : publicKey? armored = some key.publicKey)
    (verifies : ∀ message,
      Crypto.Rsa.verify key.publicKey message (Crypto.Rsa.sign key message) = true)
    (expires : 0 ≤ claims.expiry.toInt)
    (starts : ∀ time, claims.notBefore = some time → 0 ≤ time.toInt) :
    signedAssertion? (tokenWith keyId claims key) armored = some claims.assertion := by
  have asserted : assertion? (issuedParts keyId claims key) = some claims.assertion :=
    assertion?_eq_some_iff.mpr ⟨_, document_payload, Claims.hasValue_spelling 125 claims,
      Claims.assertion_spelling expires starts⟩
  exact signedAssertion?_eq_some_iff.mpr ⟨_, _, isPublic, ofToken?_tokenWith,
    isSigned_issuedParts verifies, asserted⟩

end Engine

end TokenAuthority.Token
