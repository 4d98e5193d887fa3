import TokenAuthority.Proofs.Crypto.KeyDocuments
import TokenAuthority.Proofs.Crypto.Lenient
import TokenAuthority.Proofs.Token.Documents
import TokenAuthority.Proofs.Token.Parts

/-!
# What verification tells

A token verifies if its payload makes an assertion that holds, under a signature of the whole text
in front of it. An issued token is signed and makes the assertion of its claims.
-/

namespace TokenAuthority.Token

open Crypto.Rsa (PrivateKey PublicKey IsSignature)

/-! ## Keys -/

theorem rsaContent_of_bare {armored : String} {armor : Crypto.Armor}
    (read : Crypto.Armor.readLenient? armored = some armor)
    (label : armor.label = "RSA PRIVATE KEY" ∨ armor.label = "RSA PUBLIC KEY")
    (isData : (Crypto.Der.blocks? armor.content).isSome = true) :
    rsaContent armored = .ok armor.content := by
  rcases Option.isSome_iff_exists.mp isData with ⟨blocks, areBlocks⟩
  simp only [rsaContent, read, areBlocks, if_pos label]

theorem rsaContent_of_contained {armored : String} {armor : Crypto.Armor} {content : List UInt8}
    (read : Crypto.Armor.readLenient? armored = some armor)
    (label : armor.label = "PRIVATE KEY" ∨ armor.label = "PUBLIC KEY")
    (isRsa : (Crypto.Der.blocks? armor.content).bind (Crypto.Der.firstObjectId? sorts) =
      some Crypto.Rsa.objectId)
    (isContent : (Crypto.Der.blocks? armor.content).bind Crypto.Der.firstContent? = some content) :
    rsaContent armored = .ok content := by
  cases areBlocks : Crypto.Der.blocks? armor.content with
  | none =>
      rw [areBlocks] at isRsa
      cases isRsa
  | some blocks =>
      rw [areBlocks, Option.bind_some] at isRsa isContent
      rcases label with label | label <;>
        simp only [rsaContent, read, areBlocks, label, isRsa, isContent, String.reduceEq, or_self,
          or_true, true_or, if_true, if_false]

theorem publicKey?_of_content {armored : String} {content : List UInt8} {key : PublicKey}
    (read : rsaContent armored = .ok content)
    (isKey : Crypto.Rsa.PublicKey.ofEither? content = some key) :
    publicKey? armored = some key := by
  simp only [publicKey?, read, isKey]

theorem publicKey?_write {key : PublicKey} (usable : key.isUsable = true) :
    publicKey? (Crypto.Armor.write { label := "PUBLIC KEY", content := key.writeTagged }) =
      some key := by
  have holds := Crypto.Rsa.PublicKey.holds_writeTagged usable
  have read := @Crypto.Armor.readLenient?_write
    { label := "PUBLIC KEY", content := key.writeTagged } (by decide : "PUBLIC KEY" ≠ "")
    (by decide : '-' ∉ "PUBLIC KEY".toList) (List.cons_ne_nil _ _)
  have isContent := @rsaContent_of_contained _ _ key.write read (.inr rfl)
    (by rw [holds.blocks?_eq]; rfl) (by rw [holds.blocks?_eq]; rfl)
  apply publicKey?_of_content isContent
  rw [Crypto.Rsa.PublicKey.ofEither?, Crypto.Rsa.PublicKey.ofBytes?_write usable]
  rfl

theorem Engine.signingKey_of_content {armored : String} {content : List UInt8} {key : PrivateKey}
    (read : rsaContent armored = .ok content)
    (isKey : Crypto.Rsa.PrivateKey.ofBytes? content = some key) (usable : key.isUsable = true) :
    Engine.signingKey armored = .ok key := by
  simp only [Engine.signingKey, read, isKey, usable, if_true]

/-! ## Assertions -/

theorem Assertion.holds?_eq_some_true_iff {assertion : Assertion} {now : Int} {issuer : String} :
    assertion.holds? now issuer = some true ↔
      60 ≤ now ∧ issuer ∈ assertion.issuers ∧ now - 60 ≤ assertion.expiry ∧
        ∀ start, assertion.notBefore = some start →
          ∃ time, start = some time ∧ time ≤ now + 60 := by
  have minute : (leeway : Int) = 60 := rfl
  unfold Assertion.holds?
  by_cases early : now < leeway
  · rw [if_pos early]
    constructor
    · intro impossible
      cases impossible
    · intro holds
      omega
  · rw [if_neg early]
    simp only [Option.some.injEq, Bool.and_eq_true, List.contains_iff_mem, decide_eq_true_eq,
      Option.all_eq_true, Option.any_eq_true, minute]
    constructor
    · rintro ⟨⟨issued, alive⟩, started⟩
      exact ⟨by omega, issued, alive, started⟩
    · rintro ⟨_, issued, alive, started⟩
      exact ⟨⟨issued, alive⟩, started⟩

/-! ## Signed tokens -/

def Parts.message (parts : Parts) : List UInt8 :=
  Text.encode (String.ofList parts.signed)

theorem isSigned_eq_true_iff {parts : Parts} {key : PublicKey} :
    isSigned parts key = true ↔
      ∃ header signature, parts.readHeader = .ok header ∧ header.algorithm = .rs256 ∧
        Text.Base64.urlSafe.decode? parts.signature = some signature ∧
        IsSignature key parts.message signature := by
  unfold isSigned
  constructor
  · intro signed
    split at signed
    · rename_i header signature isHeader isSignature
      simp only [Bool.and_eq_true, beq_iff_eq] at signed
      exact ⟨header, signature, isHeader, signed.1, isSignature,
        Crypto.Rsa.verify_eq_true_iff.mp signed.2⟩
    · cases signed
  · rintro ⟨header, signature, isHeader, algorithm, isSignature, valid⟩
    have verified := Crypto.Rsa.verify_eq_true_iff.mpr valid
    simp only [isHeader, isSignature, algorithm, beq_self_eq_true, Bool.true_and]
    exact verified

theorem assertion?_eq_some_iff {parts : Parts} {assertion : Assertion} :
    assertion? parts = some assertion ↔
      ∃ document, Parts.document parts.payload = .ok document ∧
        (Json.ofDocument? Json.maximumNesting document).isSome = true ∧
        Assertion.ofDocument? document = some assertion := by
  unfold assertion?
  constructor
  · intro asserted
    split at asserted
    · rename_i document isDocument
      split at asserted
      · rename_i hasValue
        exact ⟨document, isDocument, hasValue, asserted⟩
      · cases asserted
    · cases asserted
  · rintro ⟨document, isDocument, hasValue, asserted⟩
    simp only [isDocument, hasValue, if_true, asserted]

theorem signedAssertion?_eq_some_iff {token armored : String} {assertion : Assertion} :
    signedAssertion? token armored = some assertion ↔
      ∃ key parts, publicKey? armored = some key ∧ Parts.ofToken? token.toList = some parts ∧
        isSigned parts key = true ∧ assertion? parts = some assertion := by
  unfold signedAssertion?
  constructor
  · intro found
    split at found
    · rename_i key parts isKey areParts
      split at found
      · rename_i signed
        exact ⟨key, parts, isKey, areParts, signed, found⟩
      · cases found
    · cases found
  · rintro ⟨key, parts, isKey, areParts, signed, asserted⟩
    simp only [isKey, areParts, signed, if_true, asserted]

theorem verifies?_eq_some_true_iff {now : Seconds} {token armored issuer : String} :
    verifies? now token armored issuer = some true ↔
      ∃ assertion, signedAssertion? token armored = some assertion ∧
        assertion.holds? now.toInt issuer = some true := by
  unfold verifies?
  cases signedAssertion? token armored with
  | none => simp
  | some assertion => simp

end TokenAuthority.Token
