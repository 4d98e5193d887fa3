import TokenAuthority.Proofs.Crypto.Armor

/-!
# Two readers of armour

The lenient reader takes the first block of a text. From a text with a single block, and no empty
line in it, it takes what the strict reader takes, and what was written it takes as it was written.
-/

namespace TokenAuthority.Crypto.Armor

/-! ## Looking for marks -/

variable {mark text front rest : List Char}

theorem cutBehind?_eq_some {lead seen missing : List Char} (isMark : mark = seen ++ missing)
    (cut : cutBehind? mark (seen.reverse ++ lead) missing text = some (front, rest)) :
    lead.reverse ++ seen ++ text = front ++ mark ++ rest := by
  induction text generalizing lead seen missing with
  | nil =>
      cases missing with
      | cons next missing => cases cut
      | nil =>
          rw [List.append_nil] at isMark
          subst isMark
          simp only [cutBehind?, Option.some.injEq, Prod.mk.injEq] at cut
          rw [← cut.1, ← cut.2, List.drop_left' List.length_reverse]
  | cons value text induction =>
      cases missing with
      | nil =>
          rw [List.append_nil] at isMark
          subst isMark
          simp only [cutBehind?, Option.some.injEq, Prod.mk.injEq] at cut
          rw [← cut.1, ← cut.2, List.drop_left' List.length_reverse]
      | cons next missing =>
          rw [cutBehind?] at cut
          by_cases same : value = next
          · subst same
            rw [if_pos rfl, ← List.cons_append, ← List.reverse_concat] at cut
            rw [← induction (by simpa using isMark) cut]
            simp
          · rw [if_neg same, ← List.nil_append (value :: _), ← List.reverse_nil] at cut
            rw [← induction rfl cut]
            simp

theorem eq_of_cut? (cut : cut? mark text = some (front, rest)) : text = front ++ mark ++ rest :=
  @cutBehind?_eq_some mark text front rest [] [] mark rfl cut

theorem cut?_eq_none (absent : ¬ mark <:+: text) : cut? mark text = none := by
  cases cut : cut? mark text with
  | none => rfl
  | some parts => exact absurd ⟨parts.1, parts.2, (eq_of_cut? cut).symm⟩ absent

theorem cutBehind?_mark (mark passed missing rest : List Char) :
    cutBehind? mark passed missing (missing ++ rest) =
      some (((missing.reverse ++ passed).drop mark.length).reverse, rest) := by
  induction missing generalizing passed with
  | nil =>
      cases rest <;> rfl
  | cons next missing induction =>
      rw [List.cons_append, cutBehind?, if_pos rfl, induction]
      simp

theorem cut?_of_not_mem {first : Char} (starts : mark.head? = some first) (absent : first ∉ front) :
    cut? mark (front ++ (mark ++ rest)) = some (front, rest) := by
  have passes : ∀ passed, cutBehind? mark passed mark (front ++ (mark ++ rest)) =
      cutBehind? mark (front.reverse ++ passed) mark (mark ++ rest) := by
    induction front with
    | nil => exact fun _ => rfl
    | cons value front induction =>
        intro passed
        rw [List.mem_cons, not_or] at absent
        cases mark with
        | nil => cases starts
        | cons next mark =>
            cases starts
            rw [List.cons_append, cutBehind?, if_neg (Ne.symm absent.1), induction absent.2]
            simp
  rw [cut?, passes, cutBehind?_mark]
  simp

theorem cutBehind?_behind {value : Char} (absent : value ∉ mark) {lead passed missing : List Char}
    (suffix : missing <:+ mark) (fails : ∀ parts,
      cutBehind? mark passed missing (lead ++ [value]) ≠ some parts) (rest : List Char) :
    cutBehind? mark passed missing (lead ++ value :: rest) =
      cutBehind? mark (value :: (lead.reverse ++ passed)) mark rest := by
  induction lead generalizing passed missing with
  | nil =>
      cases missing with
      | nil => exact absurd rfl (fails _)
      | cons next missing =>
          have differ : value ≠ next := by
            intro same
            rw [same] at absent
            exact absent (suffix.subset List.mem_cons_self)
          rw [List.nil_append, cutBehind?, if_neg differ]
          rfl
  | cons first lead induction =>
      cases missing with
      | nil => exact absurd rfl (fails _)
      | cons next missing =>
          rw [List.cons_append, cutBehind?] at fails ⊢
          by_cases same : first = next
          · rw [if_pos same] at fails ⊢
            rw [induction ((List.suffix_cons next missing).trans suffix) fails]
            simp
          · rw [if_neg same] at fails ⊢
            rw [induction List.suffix_rfl fails]
            simp

theorem cut?_of_line {lead : List Char} (noLineEnd : '\n' ∉ mark)
    (absent : ¬ mark <:+: lead ++ ['\n']) (rest : List Char) :
    cut? mark (lead ++ '\n' :: (mark ++ rest)) = some (lead ++ ['\n'], rest) := by
  have fails : ∀ parts, cutBehind? mark [] mark (lead ++ ['\n']) ≠ some parts := by
    intro parts cut
    exact absent ⟨parts.1, parts.2, (eq_of_cut? cut).symm⟩
  rw [cut?, cutBehind?_behind noLineEnd List.suffix_rfl fails, cutBehind?_mark]
  simp

/-! ## Lines -/

theorem filter_flatten_of_linesWithin? {keep : Char → Bool}
    (drops : ∀ lineEnd ∈ lineEnds, lineEnd.filter keep = []) {count : Nat} {text : List Char}
    {lines : List (List Char)} (areLines : linesWithin? count text = some lines) :
    lines.flatten.filter keep = text.filter keep := by
  induction count generalizing text lines with
  | zero => cases areLines
  | succ count induction =>
      rw [linesWithin?] at areLines
      split at areLines
      · rw [← Option.some.inj areLines, List.flatten_singleton]
        cases isEnd : beforeLineEnd? text with
        | none => rfl
        | some front =>
            rcases beforeLineEnd?_eq_some isEnd with ⟨lineEnd, member, rfl⟩
            rw [List.filter_append, drops lineEnd member, List.append_nil]
            rfl
      · rcases Option.bind_eq_some_iff.mp areLines with ⟨rest, isRest, areLines⟩
        rcases behindLineEnd?_eq_some isRest with ⟨lineEnd, member, isEnd⟩
        have whole : text.filter keep = (text.take width).filter keep ++ rest.filter keep := by
          conv_lhs => rw [← List.take_append_drop width text]
          rw [isEnd, List.filter_append, List.filter_append, drops lineEnd member]
          rfl
        rw [whole]
        split at areLines
        · rename_i empty
          rw [← Option.some.inj areLines, List.flatten_singleton, List.isEmpty_iff.mp empty]
          simp
        · rcases Option.bind_eq_some_iff.mp areLines with ⟨others, areOthers, isAll⟩
          rw [← Option.some.inj isAll, List.flatten_cons, List.filter_append, induction areOthers]

theorem filter_of_joined? {body : List Char} {content : List UInt8}
    (isRead : (joined? body).bind Text.Base64.standard.decode? = some content) :
    Text.Base64.standard.decode? (body.filter fun value => !Text.isBlank value) = some content ∧
      '-' ∉ body := by
  rcases Option.bind_eq_some_iff.mp isRead with ⟨digits, areDigits, isContent⟩
  rcases Option.bind_eq_some_iff.mp areDigits with ⟨lines, areLines, isJoined⟩
  split at isJoined
  · cases isJoined
  · have noBlank := Text.Base64.not_blank_of_decode? isContent
    have isFiltered : body.filter (fun value => !Text.isBlank value) = digits := by
      rw [← filter_flatten_of_linesWithin? (by decide) areLines, Option.some.inj isJoined,
        List.filter_eq_self]
      intro value member
      rw [(noBlank value member).1]
      rfl
    refine ⟨by rw [isFiltered, isContent], ?_⟩
    intro member
    have dash : '-' ∈ digits := by
      rw [← isFiltered, List.mem_filter]
      exact ⟨member, by decide⟩
    exact (noBlank '-' dash).2 rfl

/-! ## The lenient reader -/

theorem readLenient?_eq (text : String) :
    readLenient? text =
      (cut? beginMark text.toList).bind fun inside =>
        (cut? dashes inside.2).bind fun (label, rest) =>
          (cut? endMark (rest.dropWhile fun value =>
              value == ' ' || value == '\t' || value == '\n' || value == '\r')).bind
            fun (body, rest) => (cut? dashes rest).bind fun closing =>
              let (headers, data) := splitHeaders body
              if label.isEmpty || label != closing.1 || !areHeaders headers then none
              else
                (Text.Base64.standard.decode? (data.filter fun value => !Text.isBlank value)).bind
                  fun content => some { label := String.ofList label, content } := rfl

theorem splitHeaders_eq {body : List Char} (noEmptyLine : ¬ ['\n', '\n'] <:+: body)
    (noOtherEmptyLine : ¬ ['\r', '\n', '\r', '\n'] <:+: body) : splitHeaders body = ([], body) := by
  rw [splitHeaders, cut?_eq_none noEmptyLine, cut?_eq_none noOtherEmptyLine]
  rfl

theorem dropWhile_append_of_false {holds : Char → Bool} {first : Char} {rest : List Char}
    (fails : holds first = false) (front : List Char) :
    (front ++ first :: rest).dropWhile holds = front.dropWhile holds ++ first :: rest := by
  rw [List.dropWhile_append, List.dropWhile_cons_of_neg (by simp [fails])]
  split
  · rename_i empty
    rw [List.isEmpty_iff.mp empty, List.nil_append]
  · rfl

theorem filter_dropWhile {holds keep : Char → Bool}
    (drops : ∀ value, holds value = true → keep value = false) (text : List Char) :
    (text.dropWhile holds).filter keep = text.filter keep := by
  induction text with
  | nil => rfl
  | cons value rest induction =>
      rw [List.dropWhile_cons]
      split
      · rename_i dropped
        rw [induction, List.filter_cons_of_neg (by simp [drops value dropped])]
      · rfl

/-- What the lenient reader takes from a block: the marks in front and the lines inside may be what
they like, as long as nothing looks like a mark or like headers. -/
theorem readLenient?_block {front between after : List Char} {label : String}
    {content : List UInt8} (startsLine : front = [] ∨ ∃ lead, front = lead ++ ['\n'])
    (single : ¬ beginMark <:+: front) (named : label ≠ "") (plain : '-' ∉ label.toList)
    (noDash : '-' ∉ between) (noEmptyLine : ¬ ['\n', '\n'] <:+: between)
    (noOtherEmptyLine : ¬ ['\r', '\n', '\r', '\n'] <:+: between)
    (isContent : Text.Base64.standard.decode?
      (between.filter fun value => !Text.isBlank value) = some content) :
    readLenient? (String.ofList (front ++ opening label ++ between ++ closing label ++ after)) =
      some { label, content } := by
  let isFill := fun value => value == ' ' || value == '\t' || value == '\n' || value == '\r'
  have begins : ∀ rest, cut? beginMark (front ++ (beginMark ++ rest)) = some (front, rest) := by
    intro rest
    rcases startsLine with rfl | ⟨lead, rfl⟩
    · exact cut?_of_not_mem rfl List.not_mem_nil
    · rw [List.append_assoc]
      exact cut?_of_line (by decide) single rest
  have dropped : between.dropWhile isFill <:+ between := List.dropWhile_suffix _
  have filled : ∀ rest, (between ++ (endMark ++ rest)).dropWhile isFill =
      between.dropWhile isFill ++ (endMark ++ rest) :=
    fun rest => dropWhile_append_of_false (by decide) between
  have isText : front ++ opening label ++ between ++ closing label ++ after =
      front ++ (beginMark ++ (label.toList ++ (dashes ++ (between ++ (endMark ++
        (label.toList ++ (dashes ++ after))))))) := by
    simp only [opening, closing, List.append_assoc]
  have fills : ∀ value, isFill value = true → (!Text.isBlank value) = false := by
    intro value fill
    simp only [isFill, Bool.or_eq_true, beq_iff_eq] at fill
    rcases fill with ((rfl | rfl) | rfl) | rfl <;> rfl
  rw [readLenient?_eq, String.toList_ofList, isText, begins, Option.bind_some,
    cut?_of_not_mem rfl plain, Option.bind_some]
  change (cut? endMark ((between ++ _).dropWhile isFill)).bind _ = _
  rw [filled, cut?_of_not_mem rfl fun member => noDash (dropped.subset member), Option.bind_some]
  dsimp only
  rw [cut?_of_not_mem rfl plain, Option.bind_some,
    splitHeaders_eq (fun isInfix => noEmptyLine (isInfix.trans dropped.isInfix))
      (fun isInfix => noOtherEmptyLine (isInfix.trans dropped.isInfix))]
  dsimp only
  rw [filter_dropWhile fills, isContent]
  have notEmpty : label.toList.isEmpty = false := by simpa using named
  simp [notEmpty, areHeaders, areHeaders.go]

/-! ## What is read strictly -/

/-- Behind a mark that opens a block there is neither another one nor an empty line. -/
def IsSingle (text : List Char) : Prop :=
  ∀ rest, beginMark ++ rest <:+ text →
    ¬ beginMark <:+: rest ∧ ¬ ['\n', '\n'] <:+: rest ∧ ¬ ['\r', '\n', '\r', '\n'] <:+: rest

theorem isSingle_iff {text : List Char} :
    IsSingle text ↔ ∀ suffix ∈ text.tails, beginMark <+: suffix →
      let rest := suffix.drop beginMark.length
      ¬ beginMark <:+: rest ∧ ¬ ['\n', '\n'] <:+: rest ∧
        ¬ ['\r', '\n', '\r', '\n'] <:+: rest := by
  constructor
  · intro single suffix member opens
    rcases opens with ⟨rest, rfl⟩
    rw [List.drop_left' rfl]
    exact single rest ((List.mem_tails _ _).mp member)
  · intro single rest isSuffix
    have isRest := single _ ((List.mem_tails _ _).mpr isSuffix) (List.prefix_append _ _)
    rw [List.drop_left' rfl] at isRest
    exact isRest

instance : DecidablePred IsSingle := fun _ => decidable_of_iff _ isSingle_iff.symm

theorem readLenient?_of_readStrict? {label text : String} {content : List UInt8}
    (isRead : readStrict? label text = some content) (single : IsSingle text.toList)
    (named : label ≠ "") (plain : '-' ∉ label.toList) :
    readLenient? text = some { label, content } := by
  rcases exists_block isRead with ⟨block, isText, isContent⟩
  rcases filter_of_joined? isContent with ⟨isContent, noDash⟩
  have lineEnds_plain : ∀ lineEnd ∈ lineEnds, '-' ∉ lineEnd ∧
      lineEnd.filter (fun value => !Text.isBlank value) = [] := by decide
  have isBlock : text = String.ofList (block.front ++ opening label ++ block.between ++
      closing label ++ block.after) := by
    rw [← String.ofList_toList (s := text), isText]
    rfl
  have behindMark : beginMark ++ (label.toList ++ dashes ++ block.between ++ closing label ++
      block.after) <:+ text.toList := by
    rw [isText]
    exact ⟨block.front, by simp only [Block.text, opening, List.append_assoc]⟩
  have inside : block.between <:+: label.toList ++ dashes ++ block.between ++ closing label ++
      block.after :=
    ⟨label.toList ++ dashes, closing label ++ block.after, by simp only [List.append_assoc]⟩
  rcases single _ behindMark with ⟨_, noEmptyLine, noOtherEmptyLine⟩
  rw [isBlock]
  refine readLenient?_block block.startsLine ?_ named plain ?_
    (fun isInfix => noEmptyLine (isInfix.trans inside))
    (fun isInfix => noOtherEmptyLine (isInfix.trans inside)) ?_
  · intro another
    rcases another with ⟨before, behind, isFront⟩
    -- Otherwise the block's own mark would stand behind another one.
    have isSuffix : beginMark ++ (behind ++ opening label ++ block.between ++ closing label ++
        block.after) <:+ text.toList := by
      rw [isText]
      exact ⟨before, by simp only [Block.text, ← isFront, List.append_assoc]⟩
    refine (single _ isSuffix).1 ⟨behind, label.toList ++ dashes ++ block.between ++
      closing label ++ block.after, ?_⟩
    simp only [opening, List.append_assoc]
  · simp only [Block.between, List.mem_append, not_or]
    exact ⟨⟨(lineEnds_plain _ block.isOpened).1, noDash⟩, (lineEnds_plain _ block.isClosed).1⟩
  · simp only [Block.between, List.filter_append, (lineEnds_plain _ block.isOpened).2,
      (lineEnds_plain _ block.isClosed).2, List.nil_append, List.append_nil]
    exact isContent

/-! ## What is written -/

theorem filter_linesOf {keep : Char → Bool} (dropped : keep '\n' = false) (room : Nat)
    (digits : List Char) : (linesOf room digits).filter keep = digits.filter keep := by
  induction room, digits using linesOf.induct with
  | case1 room => simp [linesOf, dropped]
  | case2 value rest induction => simp [linesOf, dropped, List.filter_cons, induction]
  | case3 value rest room induction => simp [linesOf, List.filter_cons, induction]

theorem mem_linesOf {room : Nat} {digits : List Char} {value : Char}
    (member : value ∈ linesOf room digits) : value = '\n' ∨ value ∈ digits := by
  by_cases isLineEnd : value = '\n'
  · exact .inl isLineEnd
  · have kept : value ∈ (linesOf room digits).filter (· != '\n') :=
      List.mem_filter.mpr ⟨member, by simpa using isLineEnd⟩
    rw [filter_linesOf (by decide)] at kept
    exact .inr (List.mem_of_mem_filter kept)

theorem linesOf_noEmptyLine {digits : List Char} (plain : '\n' ∉ digits) (room : Nat) :
    ¬ ['\n', '\n'] <:+: linesOf room digits := by
  induction room, digits using linesOf.induct with
  | case1 room => simp [linesOf, List.infix_cons_iff]
  | case2 value rest induction =>
      rw [List.mem_cons, not_or] at plain
      simp [linesOf, List.infix_cons_iff, List.cons_prefix_cons, plain.1, induction plain.2]
  | case3 value rest room induction =>
      rw [List.mem_cons, not_or] at plain
      simp [linesOf, List.infix_cons_iff, List.cons_prefix_cons, plain.1, induction plain.2]

theorem readLenient?_write {armor : Armor} (named : armor.label ≠ "")
    (plain : '-' ∉ armor.label.toList) (filled : armor.content ≠ []) :
    readLenient? armor.write = some armor := by
  have isRead := Text.Base64.decode?_encode_standard armor.content
  have noBlank := Text.Base64.not_blank_of_decode? isRead
  have isText : armor.write = String.ofList ([] ++ opening armor.label ++
      ('\n' :: linesOf width (Text.Base64.standard.encode armor.content)) ++
      closing armor.label ++ ['\n']) := by
    simp only [write, opening, closing, List.append_assoc, List.nil_append, List.cons_append]
  rw [isText]
  generalize Text.Base64.standard.encode armor.content = digits at isRead noBlank
  have noLineEnd : '\n' ∉ digits := fun member => absurd (noBlank _ member).1 (by decide)
  -- Nothing of the body looks like a mark, like headers or like another end of a line.
  have inside : ∀ value ∈ '\n' :: linesOf width digits, value ≠ '-' ∧ value ≠ '\r' := by
    intro value member
    have isLine : value = '\n' ∨ value ∈ digits := by
      rcases List.mem_cons.mp member with isLineEnd | isLine
      · exact .inl isLineEnd
      · exact mem_linesOf isLine
    rcases isLine with rfl | isDigit
    · decide
    · refine ⟨(noBlank value isDigit).2, ?_⟩
      intro isReturn
      rw [isReturn] at isDigit
      exact absurd (noBlank _ isDigit).1 (by decide)
  refine readLenient?_block (.inl rfl) (by decide) named plain
    (fun member => (inside _ member).1 rfl) ?_
    (fun isInfix => (inside _ (isInfix.subset List.mem_cons_self)).2 rfl) ?_
  · cases digits with
    | nil => exact absurd (Option.some.inj isRead).symm filled
    | cons value rest =>
        have notFirst : '\n' ≠ value := fun same => noLineEnd (same ▸ List.mem_cons_self)
        rw [List.infix_cons_iff, List.cons_prefix_cons]
        intro isInfix
        rcases isInfix with ⟨_, first⟩ | later
        · exact notFirst (List.cons_prefix_cons.mp first).1
        · exact linesOf_noEmptyLine noLineEnd width later
  · rw [List.filter_cons_of_neg (by decide), filter_linesOf (by decide), List.filter_eq_self.mpr,
      isRead]
    intro value member
    rw [(noBlank value member).1]
    rfl

end TokenAuthority.Crypto.Armor
