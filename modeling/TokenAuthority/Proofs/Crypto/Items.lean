import Mathlib.Tactic.SplitIfs
import TokenAuthority.Proofs.Crypto.Der

/-!
# Items and blocks

What is written as an item is read as that item, strictly. What is read strictly is read leniently
too, item by item, as blocks.
-/

namespace TokenAuthority.Crypto.Der

/-! ## Reading what was written -/

theorem split?_append (front rest : List UInt8) :
    split? front.length (front ++ rest) = some (front, rest) := by
  rw [split?, if_pos (by simp), List.splitAt_eq, List.take_left' rfl, List.drop_left' rfl]

theorem split?_eq_some {count : Nat} {bytes front rest : List UInt8}
    (split : split? count bytes = some (front, rest)) :
    bytes = front ++ rest ∧ front.length = count := by
  unfold split? at split
  split at split
  · rename_i long
    rw [List.splitAt_eq, Option.some.injEq, Prod.mk.injEq] at split
    rw [← split.1, ← split.2, List.take_append_drop, List.length_take, Nat.min_eq_left long]
    exact ⟨rfl, rfl⟩
  · cases split

theorem exists_head_bytesOfNat {value : Nat} (positive : 0 < value) :
    ∃ first rest, bytesOfNat value = first :: rest ∧ first ≠ 0 := by
  unfold bytesOfNat
  generalize [] = lower
  induction lower, value using bytesOfNatOnto.induct with
  | case1 lower value small =>
      refine ⟨UInt8.ofNat value, lower, by rw [bytesOfNatOnto, if_pos small], ?_⟩
      intro zero
      have same := congrArg UInt8.toNat zero
      rw [UInt8.toNat_ofNat', Nat.mod_eq_of_lt small] at same
      exact Nat.ne_of_gt positive same
  | case2 lower value large induction =>
      rw [bytesOfNatOnto, if_neg large]
      exact induction (by omega)

theorem strictLength?_writeLength {length : Nat} (small : length < 256 ^ 4) (rest : List UInt8) :
    strictLength? (writeLength length ++ rest) = some (length, rest) := by
  unfold writeLength
  split
  · rename_i short
    have first : (UInt8.ofNat length).toNat = length := by
      rw [UInt8.toNat_ofNat', Nat.mod_eq_of_lt (by omega)]
    rw [List.singleton_append, strictLength?, first, if_pos short]
  · rename_i long
    have most := length_bytesOfNat_le (by decide) small
    rcases exists_head_bytesOfNat (by omega : 0 < length) with ⟨first, others, bytes, notZero⟩
    have isLength := natOf_bytesOfNat length
    rw [bytes] at most isLength ⊢
    rw [List.length_cons] at most
    have count : (UInt8.ofNat (128 + (first :: others).length)).toNat = 129 + others.length := by
      rw [UInt8.toNat_ofNat', List.length_cons, Nat.mod_eq_of_lt (by omega)]
      omega
    have rest : 129 + others.length - 128 = (first :: others).length := by
      rw [List.length_cons]
      omega
    dsimp only
    rw [List.cons_append, strictLength?, count, if_neg (by omega)]
    dsimp only
    rw [if_neg (by omega), rest, split?_append]
    simp [isLength, long, notZero]

theorem item?_write (tag : UInt8) {content : List UInt8} (small : content.length < 256 ^ 4)
    (rest : List UInt8) : item? tag (write tag content ++ rest) = some (content, rest) := by
  rw [write, List.append_assoc, List.cons_append, item?, if_pos rfl,
    strictLength?_writeLength small]
  exact split?_append content rest

theorem onlyItem?_eq_some {tag : UInt8} {bytes content : List UInt8}
    (isContent : onlyItem? tag bytes = some content) : item? tag bytes = some (content, []) := by
  rcases Option.bind_eq_some_iff.mp isContent with ⟨⟨inside, rest⟩, isItem, isContent⟩
  dsimp only at isContent
  split at isContent
  · rename_i empty
    rw [isItem, List.isEmpty_iff.mp empty, Option.some.inj isContent]
  · cases isContent

theorem onlyItem?_write (tag : UInt8) {content : List UInt8} (small : content.length < 256 ^ 4) :
    onlyItem? tag (write tag content) = some content := by
  have isItem := item?_write tag small []
  rw [List.append_nil] at isItem
  rw [onlyItem?, isItem]
  rfl

theorem length_write_le (tag : UInt8) {content : List UInt8} (small : content.length < 256 ^ 4) :
    (write tag content).length ≤ content.length + 6 := by
  have most : (writeLength content.length).length ≤ 5 := by
    unfold writeLength
    split
    · exact Nat.succ_le_succ (Nat.zero_le 4)
    · exact Nat.succ_le_succ (length_bytesOfNat_le (by decide) small)
  rw [write, List.length_append, List.length_cons]
  omega

theorem nat?_writeNat {value : Nat} (small : (bytesOfNat value).length < 256 ^ 4 - 1)
    (rest : List UInt8) : nat? (writeNat value ++ rest) = some (value, rest) := by
  have isValue := natOf_bytesOfNat value
  unfold writeNat
  dsimp only
  rcases Nat.eq_zero_or_pos value with rfl | positive
  · rw [bytesOfNat, bytesOfNatOnto, if_pos (by decide)]
    rw [if_pos (by decide), nat?, item?_write _ (by decide)]
    rfl
  · rcases exists_head_bytesOfNat positive with ⟨first, others, bytes, notZero⟩
    rw [bytes] at small isValue ⊢
    rw [List.headD_cons]
    by_cases low : first.toNat < 128
    · rw [if_pos low, nat?, item?_write _ (by omega)]
      cases others with
      | nil =>
          have only : first.toNat = value := by
            rw [← isValue, natOf_cons]
            simp [natOf]
          rw [only] at low
          simp [only, low]
      | cons second others => simp [low, notZero, isValue]
    · rw [if_neg low, nat?, item?_write _ (by rw [List.length_cons]; omega)]
      have isNumber := natOf_zero_cons (first :: others)
      rw [isValue] at isNumber
      simp [low, isNumber]

theorem length_writeNat_le {value : Nat} (small : (bytesOfNat value).length < 256 ^ 4 - 1) :
    (writeNat value).length ≤ (bytesOfNat value).length + 7 := by
  unfold writeNat
  dsimp only
  split
  · have most := length_write_le Tag.integer (by omega : (bytesOfNat value).length < 256 ^ 4)
    omega
  · have zeroed : (0 :: bytesOfNat value).length < 256 ^ 4 := by
      rw [List.length_cons]
      omega
    have most := length_write_le Tag.integer zeroed
    rw [List.length_cons] at most
    omega

/-! ## What is read strictly -/

theorem strictLength?_eq_some {bytes rest : List UInt8} {length : Nat}
    (isLength : strictLength? bytes = some (length, rest)) :
    lenientLength? bytes = some (length, rest) ∧ rest.length < bytes.length := by
  cases bytes with
  | nil => cases isLength
  | cons first others =>
      rw [strictLength?] at isLength
      rw [lenientLength?]
      split at isLength
      · rename_i short
        cases isLength
        exact ⟨if_pos short, Nat.lt_succ_self _⟩
      · rename_i long
        dsimp only at isLength
        split at isLength
        · cases isLength
        · rename_i counts
          rcases Option.bind_eq_some_iff.mp isLength with ⟨⟨spelled, behind⟩, isSplit, isLength⟩
          dsimp only at isLength
          split at isLength
          · cases isLength
          · cases isLength
            rw [if_neg long, if_neg (by omega), isSplit]
            refine ⟨rfl, ?_⟩
            rw [(split?_eq_some isSplit).1, List.length_cons, List.length_append]
            omega

def blockWithin? (steps : Nat) (tag : UInt8) (content : List UInt8) : Option Block :=
  if tag.toNat < 64 then
    if tag.toNat % 32 = 16 then (blocksWithin? steps content).map .sequence
    else if tag.toNat % 32 = 17 then (blocksWithin? steps content).map fun _ => .other
    else leaf? (tag.toNat % 32) content
  else some .other

theorem blocksWithin?_item {tag : UInt8} {bytes content rest : List UInt8}
    (isItem : item? tag bytes = some (content, rest)) (short : tag.toNat % 32 ≠ 31) (steps : Nat) :
    content.length + rest.length + 2 ≤ bytes.length ∧
      blocksWithin? (steps + 1) bytes =
        (blockWithin? steps tag content).bind fun block =>
          if rest.isEmpty then some [block] else (blocksWithin? steps rest).map (block :: ·) := by
  cases bytes with
  | nil => cases isItem
  | cons first others =>
      rw [item?] at isItem
      split at isItem
      · rename_i isTag
        rcases Option.bind_eq_some_iff.mp isItem with ⟨⟨length, behind⟩, isLength, isSplit⟩
        rcases strictLength?_eq_some isLength with ⟨isLength, shorter⟩
        have isContent := (split?_eq_some isSplit).1
        dsimp only at isSplit isContent
        constructor
        · rw [isContent, List.length_append] at shorter
          rw [List.length_cons]
          omega
        · rw [isTag, blocksWithin?, tagNumber?, if_neg short]
          simp only [Option.bind_eq_bind, Option.bind_some, isLength, isSplit, blockWithin?]
          split_ifs <;> rfl
      · cases isItem

/-- However many steps there are, if they are enough, an item is this block. -/
def IsBlock (tag : UInt8) (content : List UInt8) (block : Block) : Prop :=
  tag.toNat % 32 ≠ 31 ∧ ∀ steps ≥ content.length, blockWithin? steps tag content = some block

def Holds (blocks : List Block) (bytes : List UInt8) : Prop :=
  ∀ steps ≥ bytes.length, blocksWithin? steps bytes = some blocks

theorem Holds.blocks?_eq {blocks : List Block} {bytes : List UInt8} (holds : Holds blocks bytes) :
    blocks? bytes = some blocks :=
  holds bytes.length (Nat.le_refl _)

variable {tag : UInt8} {bytes content rest : List UInt8} {block : Block} {blocks : List Block}

theorem IsBlock.last (isBlock : IsBlock tag content block)
    (isItem : item? tag bytes = some (content, [])) : Holds [block] bytes := by
  intro steps enough
  rcases isBlock with ⟨short, isBlock⟩
  cases steps with
  | zero =>
      have shorter := (blocksWithin?_item isItem short 0).1
      omega
  | succ steps =>
      rcases blocksWithin?_item isItem short steps with ⟨shorter, isBlocks⟩
      rw [isBlocks, isBlock steps (by omega)]
      rfl

theorem IsBlock.cons (isBlock : IsBlock tag content block)
    (isItem : item? tag bytes = some (content, rest)) (behind : Holds blocks rest) :
    Holds (block :: blocks) bytes := by
  intro steps enough
  rcases isBlock with ⟨short, isBlock⟩
  cases steps with
  | zero =>
      have shorter := (blocksWithin?_item isItem short 0).1
      omega
  | succ steps =>
      rcases blocksWithin?_item isItem short steps with ⟨shorter, isBlocks⟩
      have isRest := behind steps (by omega)
      have notEmpty : rest.isEmpty = false := by
        cases rest with
        | nil => cases steps <;> cases isRest
        | cons => rfl
      rw [isBlocks, isBlock steps (by omega), Option.bind_some, notEmpty, isRest]
      rfl

theorem isBlock_sequence (holds : Holds blocks content) :
    IsBlock Tag.sequence content (.sequence blocks) :=
  ⟨by decide, fun steps enough => by
    change (blocksWithin? steps content).map Block.sequence = _
    rw [holds steps enough]
    rfl⟩

theorem isBlock_integer (content : List UInt8) : IsBlock Tag.integer content .other :=
  ⟨by decide, fun _ _ => rfl⟩

theorem isBlock_octets (content : List UInt8) : IsBlock Tag.octets content (.content content) :=
  ⟨by decide, fun _ _ => rfl⟩

theorem isBlock_bits (content : List UInt8) : IsBlock Tag.bits (0 :: content) (.content content) :=
  ⟨by decide, fun _ _ => rfl⟩

theorem isBlock_null (content : List UInt8) : IsBlock Tag.null content .other :=
  ⟨by decide, fun _ _ => rfl⟩

theorem isBlock_objectId {arcs : List Nat} (areArcs : arcs? content = some arcs) :
    IsBlock Tag.objectId content (.objectId arcs) :=
  ⟨by decide, fun _ _ => by
    change (arcs? content).map Block.objectId = _
    rw [areArcs]
    rfl⟩

theorem isBlock_option (isOption : Tag.isOption tag = true) (content : List UInt8) :
    IsBlock tag content .other := by
  simp only [Tag.isOption, Bool.and_eq_true, decide_eq_true_eq] at isOption
  refine ⟨by omega, fun _ _ => ?_⟩
  rw [blockWithin?, if_neg (by omega)]

/-! ## Numbers and options -/

theorem nat?_item {value : Nat} (isNat : nat? bytes = some (value, rest)) :
    ∃ content, item? Tag.integer bytes = some (content, rest) := by
  rcases Option.bind_eq_some_iff.mp isNat with ⟨⟨content, behind⟩, isItem, isNat⟩
  dsimp only at isNat
  split at isNat
  · cases isNat
  · split at isNat
    · cases isNat
      exact ⟨_, isItem⟩
    · cases isNat
  · split at isNat
    · cases isNat
      exact ⟨_, isItem⟩
    · cases isNat

theorem holds_of_nats? {count : Nat} {values : List Nat}
    (areNats : nats? (count + 1) bytes = some (values, [])) :
    Holds (List.replicate (count + 1) .other) bytes := by
  induction count generalizing bytes values with
  | zero =>
      rcases Option.bind_eq_some_iff.mp areNats with ⟨⟨value, behind⟩, isNat, areNats⟩
      cases areNats
      rcases nat?_item isNat with ⟨content, isItem⟩
      exact (isBlock_integer content).last isItem
  | succ count induction =>
      rcases Option.bind_eq_some_iff.mp areNats with ⟨⟨value, behind⟩, isNat, areNats⟩
      rcases Option.bind_eq_some_iff.mp areNats with ⟨⟨others, last⟩, areOthers, areNats⟩
      cases areNats
      rcases nat?_item isNat with ⟨content, isItem⟩
      exact (isBlock_integer content).cons isItem (induction areOthers)

def IsReadable (bytes : List UInt8) : Prop :=
  bytes = [] ∨ ∃ blocks, Holds blocks bytes

theorem IsReadable.cons (behind : IsReadable rest) (isBlock : IsBlock tag content block)
    (isItem : item? tag bytes = some (content, rest)) :
    ∃ blocks, Holds (block :: blocks) bytes := by
  rcases behind with rfl | ⟨blocks, holds⟩
  · exact ⟨[], isBlock.last isItem⟩
  · exact ⟨blocks, isBlock.cons isItem holds⟩

theorem isReadable_of_areOptions {steps : Nat} (areAll : areOptions steps bytes = true) :
    IsReadable bytes := by
  induction steps generalizing bytes with
  | zero =>
      cases bytes with
      | nil => exact .inl rfl
      | cons => cases areAll
  | succ steps induction =>
      cases bytes with
      | nil => exact .inl rfl
      | cons tag behind =>
          rw [areOptions] at areAll
          simp only [Bool.and_eq_true] at areAll
          rcases areAll with ⟨⟨isOption, _⟩, areAll⟩
          split at areAll
          · rename_i content rest isItem
            rw [Bool.and_eq_true] at areAll
            rcases (induction areAll.2).cons (isBlock_option isOption content) isItem with
              ⟨blocks, holds⟩
            exact .inr ⟨_, holds⟩
          · cases areAll

theorem isReadable_of_behindOptions {number steps : Nat}
    (isBehind : behindOptionsBelow? number steps bytes = some rest) (readable : IsReadable rest) :
    IsReadable bytes := by
  induction steps generalizing bytes with
  | zero =>
      cases bytes <;> cases isBehind <;> exact readable
  | succ steps induction =>
      cases bytes with
      | nil =>
          cases isBehind
          exact readable
      | cons tag behind =>
          rw [behindOptionsBelow?] at isBehind
          split at isBehind
          · rename_i isOption
            rw [Bool.and_eq_true] at isOption
            rcases Option.bind_eq_some_iff.mp isBehind with ⟨⟨content, others⟩, isItem, isBehind⟩
            rcases (induction isBehind).cons (isBlock_option isOption.1 content) isItem with
              ⟨blocks, holds⟩
            exact .inr ⟨_, holds⟩
          · cases isBehind
            exact readable

end TokenAuthority.Crypto.Der
