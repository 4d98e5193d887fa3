import TokenAuthority.Proofs.Keys.Loading
import TokenAuthority.Proofs.Token.Standing

/-!
# Keys that sign

A private key is read twice: strictly when it is taken in, and leniently when it is to sign. Where
the text has a single block, both find the same key. If that is usable and made of primes, tokens
are issued under it, which verify under the public key that was derived from it; if it is not
usable, it is taken in all the same, and no token is ever issued.
-/

namespace TokenAuthority.Keys

open Crypto (Armor)
open Crypto.Rsa (PrivateKey)
open Token (Engine Parts)

/-! ## Reading twice -/

theorem exists_rsaContent {text : String} {key : PrivateKey} (isKey : readPrivate text = .ok key)
    (single : Armor.IsSingle text.toList) :
    ∃ content, Token.rsaContent text = .ok content ∧ PrivateKey.ofBytes? content = some key := by
  rcases readPrivate_eq_ok isKey with ⟨_, content, ⟨isRead, isKey⟩ | ⟨isRead, isKey⟩⟩
  · have again := Armor.readLenient?_of_readStrict? isRead single (by decide) (by decide)
    rcases PrivateKey.holds_of_ofBytes? isKey with ⟨blocks, holds⟩
    have isData : (Crypto.Der.blocks? content).isSome = true := by rw [holds.blocks?_eq]; rfl
    exact ⟨content, Token.rsaContent_of_bare again (.inl rfl) isData, isKey⟩
  · have again := Armor.readLenient?_of_readStrict? isRead single (by decide) (by decide)
    rcases PrivateKey.holds_of_ofTagged? isKey with ⟨inside, blocks, isKey, holds⟩
    refine ⟨inside, Token.rsaContent_of_contained again (.inl rfl) ?_ ?_, isKey⟩
    · rw [holds.blocks?_eq]
      rfl
    · rw [holds.blocks?_eq]
      rfl

theorem signingKey_eq {text : String} {key : PrivateKey} (isKey : readPrivate text = .ok key)
    (single : Armor.IsSingle text.toList) :
    Engine.signingKey text = if key.isUsable then .ok key else .error .unusableKey := by
  rcases exists_rsaContent isKey single with ⟨content, isContent, isKey⟩
  simp only [Engine.signingKey, isContent, isKey]

/-! ## Issuing -/

theorem ofPrivate_eq_ok_iff {id text : String} {material : Material} :
    Material.ofPrivate id text = .ok material ↔ ∃ key, readPrivate text = .ok key ∧
      material = { id, privateText := text, publicText := writePublic key.publicKey } := by
  rw [Material.ofPrivate]
  cases readPrivate text <;> simp [Except.map, eq_comm]

/-- The token is signed under an armoured public key. -/
def IsSignedUnder (token publicText : String) : Prop :=
  ∃ parts key, Parts.ofToken? token.toList = some parts ∧
    Token.publicKey? publicText = some key ∧ Token.isSigned parts key = true

theorem issue_stored {engine : Engine} {store : Store} (stored : engine.keys = store.lookup)
    {keyId : String} {material : Material} (held : store.get keyId = .ok material)
    (claims : Claims) :
    (engine.issue keyId claims).value =
      match Engine.signingKey material.privateText with
      | .error fault => .error (.signing fault)
      | .ok key => .ok (Engine.tokenWith keyId claims key) := by
  cases isKey : Engine.signingKey material.privateText <;>
    simp only [Engine.issue, stored, Store.lookup, held, Except.map, Delayed.within_now,
      Awaited.map, isKey]

/-! An engine with one key at hand, and a text for it to take in. -/

def bareArmor (key : PrivateKey) : Armor where
  label := "RSA PRIVATE KEY"
  content := Crypto.Der.write Crypto.Der.Tag.sequence
    ([0, key.modulus, key.publicExponent, key.privateExponent, key.firstPrime, key.secondPrime,
      key.firstExponent, key.secondExponent, key.coefficient].flatMap Crypto.Der.writeNat)

/-- A key in armour with something in front of it and something more at the end of its lines. -/
def armoredWithin (front last : List Char) (key : PrivateKey) : String :=
  let armor := bareArmor key
  String.ofList (front ++ Armor.opening armor.label ++ '\n' ::
    Armor.linesOf Armor.width (Text.Base64.standard.encode armor.content) ++ last ++
    Armor.closing armor.label ++ ['\n'])

def engineOf (material : Material) : Engine where
  keys := (Store.ofList [material]).lookup
  policies := { authentication := Policy.authentication, authorization := Policy.authentication }
  issuer := "issuer"

theorem readPrivate_of_bare {text : String} {key : PrivateKey}
    (isRead : Armor.readStrict? "RSA PRIVATE KEY" text = some (bareArmor key).content)
    (isKey : PrivateKey.ofBytes? (bareArmor key).content = some key)
    (belongs : belongs key = true) : readPrivate text = .ok key := by
  simp only [readPrivate, isRead, Option.bind_some, isKey, Option.some_or, belongs, if_true]

theorem exists_material {text : String} {key : PrivateKey} (isKey : readPrivate text = .ok key)
    (id : String) : ∃ material, Material.ofPrivate id text = .ok material ∧ material.id = id ∧
      material.privateText = text :=
  ⟨_, ofPrivate_eq_ok_iff.mpr ⟨key, isKey, rfl⟩, rfl, rfl⟩

def signingText : String :=
  armoredWithin "text\n".toList [] Crypto.Rsa.sampleKey

theorem readPrivate_signingText : readPrivate signingText = .ok Crypto.Rsa.sampleKey := by
  refine readPrivate_of_bare ?_ (by decide +kernel) (by decide +kernel)
  unfold signingText armoredWithin Armor.readStrict?
  rw [String.toList_ofList]
  decide +kernel

theorem isSingle_signingText : Armor.IsSingle signingText.toList := by
  unfold signingText armoredWithin
  rw [String.toList_ofList]
  decide +kernel

/-- A private text that is taken in has a key. Under a usable key of two primes every token that is
asked for is issued, and signed under the public text that was derived from the key; from then on
only issuer and times decide whether it verifies. Under a key that is not usable no token is issued.
The text must not have a second mark that opens a block, nor an empty line in its block. -/
theorem issue_loaded (engine : Engine) (store : Store) (stored : engine.keys = store.lookup)
    (keyId id text : String) (material : Material)
    (loaded : Material.ofPrivate id text = .ok material)
    (held : store.get keyId = .ok material) (single : Armor.IsSingle text.toList) :
    ∃ key, readPrivate text = .ok key ∧ ∀ claims,
      (key.isUsable = false →
        (engine.issue keyId claims).value = .error (.signing .unusableKey)) ∧
      (key.isUsable = true → key.firstPrime.Prime → key.secondPrime.Prime → ∃ token,
        (engine.issue keyId claims).value = .ok token ∧
        IsSignedUnder token material.publicText ∧
        (0 ≤ claims.expiry.toInt → (∀ start, claims.notBefore = some start → 0 ≤ start.toInt) →
          ∀ now issuer, Token.verifies? now token material.publicText issuer =
            claims.assertion.holds? now.toInt issuer)) := by
  rcases ofPrivate_eq_ok_iff.mp loaded with ⟨key, isKey, rfl⟩
  refine ⟨key, isKey, fun claims => ⟨?_, ?_⟩⟩
  · intro unusable
    rw [issue_stored stored held, signingKey_eq isKey single, unusable]
    rfl
  · intro usable firstPrime secondPrime
    have signs := Crypto.Rsa.isSignature_sign usable firstPrime secondPrime
    have verifies : ∀ message,
        Crypto.Rsa.verify key.publicKey message (Crypto.Rsa.sign key message) = true :=
      fun message => Crypto.Rsa.verify_eq_true_iff.mpr (signs message)
    have isPublic : Token.publicKey? (writePublic key.publicKey) = some key.publicKey :=
      Token.publicKey?_write (signs []).usable
    refine ⟨Engine.tokenWith keyId claims key, ?_, ?_, ?_⟩
    · rw [issue_stored stored held, signingKey_eq isKey single, usable]
      rfl
    · exact ⟨_, _, Engine.ofToken?_tokenWith, isPublic, Engine.isSigned_issuedParts verifies⟩
    · intro expires starts now issuer
      rw [Token.verifies?, Engine.signedAssertion?_tokenWith isPublic verifies expires starts]

theorem signingText_signs :
    ∃ material token, Material.ofPrivate "key" signingText = .ok material ∧
      ((engineOf material).issue "key" Engine.sampleClaims).value = .ok token ∧
      IsSignedUnder token material.publicText ∧
      Token.verifies? 150 token material.publicText "issuer" = some true := by
  rcases exists_material readPrivate_signingText "key" with ⟨material, loaded, isId, _⟩
  rcases issue_loaded (engineOf material) _ rfl "key" "key" signingText material loaded
    (Store.get_ofList_single isId) isSingle_signingText with ⟨key, isKey, signs⟩
  rw [readPrivate_signingText] at isKey
  rw [← Except.ok.inj isKey] at signs
  rcases (signs Engine.sampleClaims).2 Crypto.Rsa.isUsable_sampleKey Crypto.Rsa.prime_sampleKey.1
    Crypto.Rsa.prime_sampleKey.2 with ⟨token, issued, signed, verifies⟩
  have started : ∀ start, Engine.sampleClaims.notBefore = some start → 0 ≤ start.toInt := by
    intro start isStart
    rw [Engine.started_sampleClaims start isStart]
    decide
  have holds := verifies (by decide) started 150 "issuer"
  refine ⟨material, token, loaded, issued, signed, ?_⟩
  rw [holds]
  decide

/-! Texts that are taken in as keys, under which no token is issued: of a key that is too short, of
one with a wrong coefficient, with a second mark in front and with an empty line at the end. -/

def shortKey : PrivateKey where
  modulus := (2 ^ 399 * 3 ^ 71 + 1) * (2 ^ 475 * 3 ^ 23 + 1)
  publicExponent := 65537
  privateExponent := (5621 * (2 ^ 475 * 3 ^ 71) + 1) / 65537
  firstPrime := 2 ^ 399 * 3 ^ 71 + 1
  secondPrime := 2 ^ 475 * 3 ^ 23 + 1
  firstExponent := (5621 * (2 ^ 475 * 3 ^ 71) + 1) / 65537 % (2 ^ 399 * 3 ^ 71)
  secondExponent := (5621 * (2 ^ 475 * 3 ^ 71) + 1) / 65537 % (2 ^ 475 * 3 ^ 23)
  coefficient :=
    Crypto.Rsa.power (2 ^ 475 * 3 ^ 23 + 1) (2 ^ 399 * 3 ^ 71 - 1) (2 ^ 399 * 3 ^ 71 + 1)

/-- A key with a wrong coefficient. -/
def skewedKey : PrivateKey :=
  { Crypto.Rsa.sampleKey with coefficient := 1 }

def Refused (text : String) (fault : Token.SigningFault) : Prop :=
  ∃ material, Material.ofPrivate "key" text = .ok material ∧
    ∀ claims, ((engineOf material).issue "key" claims).value = .error (.signing fault)

theorem refused_of_signingKey {text : String} {key : PrivateKey} {fault : Token.SigningFault}
    (isKey : readPrivate text = .ok key) (fails : Engine.signingKey text = .error fault) :
    Refused text fault := by
  rcases exists_material isKey "key" with ⟨material, loaded, isId, isText⟩
  refine ⟨material, loaded, ?_⟩
  intro claims
  have outcome := @issue_stored (engineOf material) _ rfl _ _ (Store.get_ofList_single isId) claims
  rw [isText, fails] at outcome
  exact outcome

theorem refused_of_isUsable {text : String} {key : PrivateKey} (isKey : readPrivate text = .ok key)
    (single : Armor.IsSingle text.toList) (unusable : key.isUsable = false) :
    Refused text .unusableKey := by
  apply refused_of_signingKey isKey
  rw [signingKey_eq isKey single, unusable]
  rfl

theorem refused_of_readLenient? {text : String} {key : PrivateKey}
    (isKey : readPrivate text = .ok key) (unread : Armor.readLenient? text = none) :
    Refused text (.armor .notRsa) := by
  apply refused_of_signingKey isKey
  simp only [Engine.signingKey, Token.rsaContent, unread]

def refusedSamples : List (List Char × List Char × PrivateKey) :=
  [([], [], shortKey), ([], [], skewedKey), ("x-----BEGIN \n".toList, [], Crypto.Rsa.sampleKey),
    ([], ['\n'], Crypto.Rsa.sampleKey)]

theorem readPrivate_refusedSamples : ∀ sample ∈ refusedSamples,
    readPrivate (armoredWithin sample.1 sample.2.1 sample.2.2) = .ok sample.2.2 := by
  intro sample member
  refine readPrivate_of_bare ?_ ?_ ?_
  · revert sample
    unfold armoredWithin Armor.readStrict?
    simp only [String.toList_ofList]
    decide +kernel
  · revert sample
    decide +kernel
  · revert sample
    decide +kernel

/-- What is taken in does not always sign. The numbers of the key may not do, though they belong
together; and where there is another mark in front or an empty line at the end, the block is not
found when it is to sign. -/
theorem armoredKeys_refused :
    Refused (armoredWithin [] [] shortKey) .unusableKey ∧
      Refused (armoredWithin [] [] skewedKey) .unusableKey ∧
      Refused (armoredWithin "x-----BEGIN \n".toList [] Crypto.Rsa.sampleKey) (.armor .notRsa) ∧
      Refused (armoredWithin [] ['\n'] Crypto.Rsa.sampleKey) (.armor .notRsa) := by
  have areKeys := readPrivate_refusedSamples
  simp only [refusedSamples, List.forall_mem_cons] at areKeys
  rcases areKeys with ⟨isShort, isSkewed, isMarked, isParted, _⟩
  refine ⟨?_, ?_, ?_, ?_⟩
  · refine refused_of_isUsable isShort ?_ (by decide +kernel)
    unfold armoredWithin
    rw [String.toList_ofList]
    decide +kernel
  · refine refused_of_isUsable isSkewed ?_ (by decide +kernel)
    unfold armoredWithin
    rw [String.toList_ofList]
    decide +kernel
  · apply refused_of_readLenient? isMarked
    unfold armoredWithin Armor.readLenient?
    rw [String.toList_ofList]
    decide +kernel
  · apply refused_of_readLenient? isParted
    unfold armoredWithin Armor.readLenient?
    rw [String.toList_ofList]
    decide +kernel

end TokenAuthority.Keys
