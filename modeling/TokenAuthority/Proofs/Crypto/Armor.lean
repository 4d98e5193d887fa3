import Mathlib.Data.List.Infix
import TokenAuthority.Crypto.Armor
import TokenAuthority.Proofs.Text.Base64

/-!
# Armoured text

What the strict reader takes is one block at the end of a text: a line that opens it, lines of
base64 and a line that closes it.
-/

namespace TokenAuthority.Crypto.Armor

/-! ## Marks and ends of lines -/

def opening (label : String) : List Char := beginMark ++ label.toList ++ dashes

def closing (label : String) : List Char := endMark ++ label.toList ++ dashes

def lineEnds : List (List Char) := [['\n'], ['\r'], ['\r', '\n']]

theorem behind?_eq_some {mark text rest : List Char} (isRest : behind? mark text = some rest) :
    text = mark ++ rest := by
  induction mark generalizing text with
  | nil => exact Option.some.inj isRest
  | cons first mark induction =>
      cases text with
      | nil => cases isRest
      | cons value text =>
          rw [behind?] at isRest
          split at isRest
          · rename_i same
            rw [induction isRest, same, List.cons_append]
          · cases isRest

theorem before?_eq_some {mark text front : List Char} (isFront : before? mark text = some front) :
    text = front ++ mark := by
  rcases Option.map_eq_some_iff.mp isFront with ⟨rest, isRest, rfl⟩
  rw [← List.reverse_inj, List.reverse_append, List.reverse_reverse]
  exact behind?_eq_some isRest

theorem behindLineEnd?_eq_some {text rest : List Char} (isRest : behindLineEnd? text = some rest) :
    ∃ lineEnd ∈ lineEnds, text = lineEnd ++ rest := by
  unfold behindLineEnd? at isRest
  split at isRest
  · exact ⟨['\r', '\n'], by decide, by rw [← Option.some.inj isRest]; rfl⟩
  · exact ⟨['\r'], by decide, by rw [← Option.some.inj isRest]; rfl⟩
  · exact ⟨['\n'], by decide, by rw [← Option.some.inj isRest]; rfl⟩
  · cases isRest

theorem beforeLineEnd?_eq_some {text front : List Char}
    (isFront : beforeLineEnd? text = some front) :
    ∃ lineEnd ∈ lineEnds, text = front ++ lineEnd := by
  have turned : ∀ {lineEnd rest : List Char}, text.reverse = lineEnd.reverse ++ rest →
      text = rest.reverse ++ lineEnd := by
    intro lineEnd rest isText
    rw [← List.reverse_inj, isText, List.reverse_append, List.reverse_reverse]
  unfold beforeLineEnd? at isFront
  split at isFront
  · rename_i rest isText
    exact ⟨['\r', '\n'], by decide, by rw [← Option.some.inj isFront]; exact turned isText⟩
  · rename_i rest _ isText
    exact ⟨['\n'], by decide, by rw [← Option.some.inj isFront]; exact turned isText⟩
  · rename_i rest isText
    exact ⟨['\r'], by decide, by rw [← Option.some.inj isFront]; exact turned isText⟩
  · cases isFront

theorem fromBegin?_eq_some {text block : List Char} (isBlock : fromBegin? text = some block) :
    ∃ front, text = front ++ '\n' :: block := by
  induction text with
  | nil => cases isBlock
  | cons value rest induction =>
      rw [fromBegin?] at isBlock
      split at isBlock
      · cases isBlock
      · split at isBlock
        · rename_i opens
          cases isBlock
          exact ⟨[], by rw [opens.1]; rfl⟩
        · rcases induction isBlock with ⟨front, rfl⟩
          exact ⟨value :: front, rfl⟩

/-! ## Blocks -/

/-- A text with one block at its end, line by line. -/
structure Block (label : String) where
  front : List Char
  /-- The end of the opening line. -/
  opened : List Char
  body : List Char
  /-- The end of the last line in front of the closing one. -/
  closed : List Char
  after : List Char
  startsLine : front = [] ∨ ∃ lead, front = lead ++ ['\n']
  isOpened : opened ∈ lineEnds
  isClosed : closed ∈ lineEnds
  isAfter : after = [] ∨ after ∈ lineEnds

namespace Block

variable {label : String}

def between (block : Block label) : List Char :=
  block.opened ++ block.body ++ block.closed

def text (block : Block label) : List Char :=
  block.front ++ opening label ++ block.between ++ closing label ++ block.after

end Block

theorem readStrict?_eq (label text : String) :
    readStrict? label text =
      (if beginMark.isPrefixOf text.toList then some text.toList
        else fromBegin? text.toList).bind fun block =>
          (behind? (opening label) block).bind fun rest =>
            (behindLineEnd? rest).bind fun rest =>
              (before? (closing label) ((beforeLineEnd? rest).getD rest)).bind fun lines =>
                (beforeLineEnd? lines).bind fun body =>
                  (joined? body).bind Text.Base64.standard.decode? := by
  by_cases opens : beginMark.isPrefixOf text.toList = true
  · simp only [readStrict?, opens, if_true]
    rfl
  · simp only [readStrict?, opens]
    rfl

theorem exists_block {label text : String} {content : List UInt8}
    (isRead : readStrict? label text = some content) :
    ∃ block : Block label, text.toList = block.text ∧
      (joined? block.body).bind Text.Base64.standard.decode? = some content := by
  rw [readStrict?_eq] at isRead
  rcases Option.bind_eq_some_iff.mp isRead with ⟨block, isBlock, isRead⟩
  rcases Option.bind_eq_some_iff.mp isRead with ⟨inside, isInside, isRead⟩
  rcases Option.bind_eq_some_iff.mp isRead with ⟨rest, isRest, isRead⟩
  rcases Option.bind_eq_some_iff.mp isRead with ⟨lines, areLines, isRead⟩
  rcases Option.bind_eq_some_iff.mp isRead with ⟨body, isBody, isContent⟩
  have isFront : ∃ front, (front = [] ∨ ∃ lead, front = lead ++ ['\n']) ∧
      text.toList = front ++ block := by
    split at isBlock
    · exact ⟨[], .inl rfl, Option.some.inj isBlock⟩
    · rcases fromBegin?_eq_some isBlock with ⟨front, isText⟩
      exact ⟨front ++ ['\n'], .inr ⟨front, rfl⟩, by rw [isText, List.append_assoc]; rfl⟩
  have isAfter : ∃ after, (after = [] ∨ after ∈ lineEnds) ∧
      rest = (beforeLineEnd? rest).getD rest ++ after := by
    cases isEnd : beforeLineEnd? rest with
    | none => exact ⟨[], .inl rfl, by simp⟩
    | some front =>
        rcases beforeLineEnd?_eq_some isEnd with ⟨lineEnd, member, isText⟩
        exact ⟨lineEnd, .inr member, isText⟩
  rcases isFront with ⟨front, startsLine, isText⟩
  rcases behindLineEnd?_eq_some isRest with ⟨opened, isOpened, rfl⟩
  rcases isAfter with ⟨after, isAfter, isEnd⟩
  rcases beforeLineEnd?_eq_some isBody with ⟨closed, isClosed, rfl⟩
  refine ⟨{ front, opened, body, closed, after, startsLine, isOpened, isClosed, isAfter }, ?_,
    isContent⟩
  rw [isText, behind?_eq_some isInside, isEnd, before?_eq_some areLines]
  simp only [Block.text, Block.between, List.append_assoc]

theorem readStrict?_behind_line {lead block : List Char}
    (plain : ∀ value ∈ lead, value.toNat ≠ 0 ∧ value ≠ '\n' ∧ value ≠ '-')
    (opens : beginMark <+: block) (label : String) :
    readStrict? label (String.ofList (lead ++ '\n' :: block)) =
      readStrict? label (String.ofList block) := by
  have first : beginMark.isPrefixOf (lead ++ '\n' :: block) = false := by
    cases lead with
    | nil => rfl
    | cons value lead =>
        have noDash : '-' ≠ value := fun same => (plain value List.mem_cons_self).2.2 same.symm
        exact Bool.and_eq_false_imp.mpr fun same => absurd (beq_iff_eq.mp same) noDash
  have passed : fromBegin? (lead ++ '\n' :: block) = some block := by
    clear first
    induction lead with
    | nil =>
        have isPrefix := List.isPrefixOf_iff_prefix.mpr opens
        simp [fromBegin?, isPrefix]
    | cons value lead induction =>
        rw [List.forall_mem_cons] at plain
        rw [List.cons_append, fromBegin?, if_neg plain.1.1,
          if_neg (fun opens => plain.1.2.1 opens.1), induction plain.2]
  simp only [readStrict?_eq, String.toList_ofList, first, passed,
    List.isPrefixOf_iff_prefix.mpr opens, if_true, Bool.false_eq_true, if_false]

end TokenAuthority.Crypto.Armor
