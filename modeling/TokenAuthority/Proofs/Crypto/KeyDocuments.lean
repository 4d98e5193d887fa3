import TokenAuthority.Proofs.Crypto.Items
import TokenAuthority.Proofs.Crypto.Rsa

/-!
# Keys as blocks

A private key that is read strictly, on its own or in a container, is found by a search among
blocks as well; and so is a public key that was written.
-/

namespace TokenAuthority.Crypto.Rsa

open Der (Block Holds)

/-! ## Private keys -/

theorem PrivateKey.holds_of_ofBytes? {bytes : List UInt8} {key : PrivateKey}
    (isKey : ofBytes? bytes = some key) : ∃ blocks, Holds blocks bytes := by
  rcases Option.bind_eq_some_iff.mp isKey with ⟨content, isContent, isKey⟩
  rcases Option.bind_eq_some_iff.mp isKey with ⟨⟨numbers, rest⟩, areNumbers, isKey⟩
  dsimp only at isKey
  split at isKey
  · have inside := Der.holds_of_nats? areNumbers
    exact ⟨_, (Der.isBlock_sequence inside).last (Der.onlyItem?_eq_some isContent)⟩
  · cases isKey

theorem isReadable_of_areExtensions {version : Nat} {bytes : List UInt8}
    (areExtensions : PrivateKey.areExtensions version bytes = true) : Der.IsReadable bytes := by
  unfold PrivateKey.areExtensions at areExtensions
  split at areExtensions
  · cases areExtensions
  · rename_i rest isRest
    apply Der.isReadable_of_behindOptions isRest
    split at areExtensions
    · split at areExtensions
      · rename_i content others isItem
        rw [Bool.and_eq_true] at areExtensions
        rcases (Der.isReadable_of_areOptions areExtensions.2).cons
          (Der.isBlock_option (by decide) _) isItem with ⟨blocks, holds⟩
        exact .inr ⟨_, holds⟩
      · cases areExtensions
    · rw [Bool.and_eq_true] at areExtensions
      exact Der.isReadable_of_areOptions areExtensions.2

theorem holds_algorithm : Holds [.objectId objectId, .other] algorithm := by
  have isId : Der.item? Der.Tag.objectId algorithm =
      some (objectIdContent, Der.write Der.Tag.null []) := by decide
  have isNull : Der.item? Der.Tag.null (Der.write Der.Tag.null []) = some ([], []) := by decide
  exact (Der.isBlock_objectId (by decide)).cons isId ((Der.isBlock_null []).last isNull)

theorem PrivateKey.holds_of_ofTagged? {bytes : List UInt8} {key : PrivateKey}
    (isKey : ofTagged? bytes = some key) :
    ∃ content blocks, ofBytes? content = some key ∧
      Holds [.sequence (.other :: .sequence [.objectId objectId, .other] :: .content content ::
        blocks)] bytes := by
  rcases Option.bind_eq_some_iff.mp isKey with ⟨inside, isInside, isKey⟩
  rcases Option.bind_eq_some_iff.mp isKey with ⟨⟨version, behindVersion⟩, isVersion, isKey⟩
  rcases Option.bind_eq_some_iff.mp isKey with ⟨⟨tag, behindTag⟩, isTag, isKey⟩
  rcases Option.bind_eq_some_iff.mp isKey with ⟨⟨content, rest⟩, isContent, isRead⟩
  rcases Der.nat?_item isVersion with ⟨versionContent, isVersion⟩
  dsimp only at isTag isContent isRead
  split at isRead
  · rename_i good
    rcases good with ⟨rfl, areExtensions⟩
    rcases (isReadable_of_areExtensions areExtensions).cons (Der.isBlock_octets content)
      isContent with ⟨blocks, holds⟩
    have behind := (Der.isBlock_sequence holds_algorithm).cons isTag holds
    have whole := (Der.isBlock_integer versionContent).cons isVersion behind
    exact ⟨content, blocks, isRead,
      (Der.isBlock_sequence whole).last (Der.onlyItem?_eq_some isInside)⟩
  · cases isRead

/-! ## Public keys -/

theorem PublicKey.short_of_isUsable {key : PublicKey} (usable : key.isUsable = true) :
    (Der.bytesOfNat key.modulus).length ≤ 1024 ∧ (Der.bytesOfNat key.exponent).length ≤ 5 := by
  simp only [isUsable, Bool.and_eq_true, decide_eq_true_eq] at usable
  have bounded : ∀ {value bits : Nat}, bitLength value ≤ bits → value < 2 ^ bits := by
    intro value bits most
    rcases Nat.eq_zero_or_pos value with rfl | positive
    · exact Nat.two_pow_pos bits
    · exact (bitLength_bounds positive).2.trans_le (Nat.pow_le_pow_right (by decide) most)
  have base : (256 : Nat) = 2 ^ 8 := by decide
  constructor
  · apply Der.length_bytesOfNat_le (by decide)
    rw [base, ← pow_mul]
    exact bounded usable.1.1.1.1.2
  · apply Der.length_bytesOfNat_le (by decide)
    rw [base, ← pow_mul]
    exact (bounded usable.2).trans_le (Nat.pow_le_pow_right (by decide) (by decide))

theorem PublicKey.length_numbers {key : PublicKey} (usable : key.isUsable = true) :
    (Der.writeNat key.modulus ++ Der.writeNat key.exponent).length ≤ 1043 := by
  rcases short_of_isUsable usable with ⟨shortModulus, shortExponent⟩
  have modulus := @Der.length_writeNat_le key.modulus (by omega)
  have exponent := @Der.length_writeNat_le key.exponent (by omega)
  rw [List.length_append]
  omega

theorem PublicKey.ofBytes?_write {key : PublicKey} (usable : key.isUsable = true) :
    ofBytes? key.write = some key := by
  rcases short_of_isUsable usable with ⟨shortModulus, shortExponent⟩
  have short := length_numbers usable
  have isExponent := Der.nat?_writeNat (by omega : (Der.bytesOfNat key.exponent).length < _) []
  rw [List.append_nil] at isExponent
  have areNumbers : Der.nats? 2 (Der.writeNat key.modulus ++ Der.writeNat key.exponent) =
      some ([key.modulus, key.exponent], []) := by
    simp [Der.nats?, Der.nat?_writeNat (by omega : (Der.bytesOfNat key.modulus).length < _),
      isExponent]
  rw [ofBytes?, write, Der.onlyItem?_write _ (by omega)]
  simp [areNumbers]

theorem PublicKey.holds_writeTagged {key : PublicKey} (usable : key.isUsable = true) :
    Holds [.sequence [.sequence [.objectId objectId, .other], .content key.write]]
      key.writeTagged := by
  have short := length_numbers usable
  have most : key.write.length ≤ 1049 :=
    (Der.length_write_le _ (by omega)).trans (by omega)
  have zeroed : (0 :: key.write).length < 256 ^ 4 := by
    rw [List.length_cons]
    omega
  have isBits := Der.item?_write Der.Tag.bits zeroed []
  rw [List.append_nil] at isBits
  have isTag := Der.item?_write Der.Tag.sequence (by decide : algorithm.length < _)
    (Der.write Der.Tag.bits (0 :: key.write))
  have tagLength : (Der.write Der.Tag.sequence algorithm).length = 15 := by decide
  have bitsLength := Der.length_write_le Der.Tag.bits zeroed
  rw [List.length_cons] at bitsLength
  have inside := (Der.isBlock_sequence holds_algorithm).cons isTag
    ((Der.isBlock_bits key.write).last isBits)
  apply (Der.isBlock_sequence inside).last
  apply Der.onlyItem?_eq_some
  exact Der.onlyItem?_write _ (by rw [List.length_append]; omega)

end TokenAuthority.Crypto.Rsa
