import Mathlib
import TokenAuthority.Proofs.Json.Containers
import TokenAuthority.Proofs.Text.Base64
import TokenAuthority.Proofs.Text.Blank
import TokenAuthority.Token.Engine

/-!
# Cutting tokens

A token is cut where its parts were put together. The token of an authorization header is what
stands between the blanks behind the scheme.
-/

namespace TokenAuthority

namespace Token

/-! ## Bearer headers -/

theorem bearerToken_eq_ok {header token : String} (read : bearerToken header = .ok token) :
    ∃ before after, header.toList = bearerScheme ++ (before ++ token.toList ++ after) ∧
      (∀ value ∈ before, Text.isBlank value = true) ∧
      ∀ value ∈ after, Text.isBlank value = true := by
  simp only [bearerToken] at read
  split at read
  · cases read
  split at read
  · rename_i hasScheme
    split at read
    · cases read
    · cases read
      rcases Text.exists_blanks_trimChars (header.toList.drop bearerScheme.length) with
        ⟨before, after, split, beforeBlank, afterBlank⟩
      rcases List.isPrefixOf_iff_prefix.mp hasScheme with ⟨rest, same⟩
      rw [← same, List.drop_left] at split
      refine ⟨before, after, ?_, beforeBlank, afterBlank⟩
      rw [← same, String.toList_ofList, List.drop_left, ← split]
  · cases read

theorem bearerToken_append {token : String} (nonempty : token ≠ "")
    (noBlank : ∀ value ∈ token.toList, Text.isBlank value = false) :
    bearerToken ("Bearer " ++ token) = .ok token := by
  have text : ("Bearer " ++ token).toList = bearerScheme ++ token.toList := by
    rw [String.toList_append]
    rfl
  have notBlank : Text.isBlankText ("Bearer " ++ token) = false := by
    rw [Text.isBlankText, text]
    rfl
  have hasScheme : bearerScheme.isPrefixOf (bearerScheme ++ token.toList) = true :=
    List.isPrefixOf_iff_prefix.mpr (List.prefix_append _ _)
  have isToken : token.toList.isEmpty = false := by
    simpa [List.isEmpty_eq_false_iff] using nonempty
  simp only [bearerToken, notBlank, text, hasScheme, List.drop_left, Text.trimChars_eq_self noBlank,
    isToken, Bool.false_eq_true, if_false, if_true, String.ofList_toList]

namespace Parts

/-! ## Dots -/

theorem cutLast?_append {front behind : List Char} (noDot : '.' ∉ behind) :
    cutLast? (front ++ '.' :: behind) = some (front, behind) := by
  have passed : ∀ value ∈ behind.reverse, (value != '.') = true := by
    intro value member
    rw [bne_iff_ne]
    intro same
    rw [same] at member
    exact noDot (List.mem_reverse.mp member)
  have reversed : (front ++ '.' :: behind).reverse = behind.reverse ++ '.' :: front.reverse := by
    simp
  rw [cutLast?, reversed, List.span_eq_takeWhile_dropWhile, List.takeWhile_append_of_pos passed,
    List.dropWhile_append_of_pos passed]
  simp

theorem cutLast?_eq_some {text front behind : List Char}
    (cut : cutLast? text = some (front, behind)) :
    text = front ++ '.' :: behind ∧ '.' ∉ behind := by
  simp only [cutLast?, List.span_eq_takeWhile_dropWhile] at cut
  have whole := @List.takeWhile_append_dropWhile _ (· != '.') text.reverse
  have passed := @List.all_takeWhile _ (· != '.') text.reverse
  have stops := List.head?_dropWhile_not (· != '.') text.reverse
  split at cut
  · cases cut
  · rename_i behind' first before same
    cases cut
    rcases Prod.mk.inj same with ⟨isBehind, isFront⟩
    rw [isFront] at stops whole
    rw [isBehind] at whole passed
    have dot : first = '.' := by simpa using stops
    constructor
    · rw [← List.reverse_reverse text, ← whole, dot]
      simp
    · intro member
      have noDot := List.all_eq_true.mp passed '.' (List.mem_reverse.mp member)
      cases noDot

theorem toToken_of_ofToken? {token : List Char} {parts : Parts}
    (cut : ofToken? token = some parts) : parts.toToken = token := by
  simp only [ofToken?, Option.bind_eq_bind, Option.bind_eq_some_iff] at cut
  rcases cut with ⟨⟨signed, signature⟩, first, ⟨header, payload⟩, second, same⟩
  cases same
  rw [toToken, Parts.signed, ← (cutLast?_eq_some second).1, ← (cutLast?_eq_some first).1]

theorem ofToken?_toToken {parts : Parts} (payload : '.' ∉ parts.payload)
    (signature : '.' ∉ parts.signature) : ofToken? parts.toToken = some parts := by
  simp only [ofToken?, toToken, cutLast?_append signature, Option.bind_eq_bind, Option.bind_some,
    Parts.signed, cutLast?_append payload]

/-! ## Single parts -/

theorem noDot_writePart (text : String) : '.' ∉ writePart text := by
  intro member
  exact (Text.Base64.not_blank_of_mem_encode member).2 rfl

theorem document_writePart (spelling : Json.Spelling) :
    document (writePart spelling.text) = .ok spelling.document := by
  rw [document, writePart, Text.Base64.decode?_encode Text.Base64.lawful_urlSafe rfl]
  simp only [Text.Glyph.decode_encode, spelling.read?_text]

theorem readHeader_eq_ok_iff {parts : Parts} {header : Header} :
    parts.readHeader = .ok header ↔
      ∃ spelled, document parts.header = .ok spelled ∧
        Header.ofDocument? spelled = some header := by
  rw [readHeader]
  cases document parts.header with
  | error fault => simp [bind, Except.bind]
  | ok spelled =>
      cases read : Header.ofDocument? spelled <;> simp [bind, Except.bind, read]

theorem readClaims_eq_ok_iff {parts : Parts} {claims : Claims} :
    parts.readClaims = .ok claims ↔
      ∃ spelled, document parts.payload = .ok spelled ∧
        Claims.ofDocument? spelled = some claims := by
  rw [readClaims]
  cases document parts.payload with
  | error fault => simp [bind, Except.bind]
  | ok spelled =>
      cases read : Claims.ofDocument? spelled <;> simp [bind, Except.bind, read]

end Parts

/-! ## What is presented -/

theorem Engine.presented_eq_ok_iff {header : String} {bearer : Engine.Presented} :
    Engine.presented header = .ok bearer ↔
      bearerToken header = .ok bearer.token ∧
        ∃ parts, Parts.ofToken? bearer.token.toList = some parts ∧
          (∃ algorithm, parts.readHeader = .ok { algorithm, keyId := some bearer.keyId }) ∧
          bearer.keyId ≠ "" ∧ parts.readClaims = .ok bearer.claims := by
  constructor
  · intro read
    simp only [Engine.presented, bind, Except.bind, pure, Except.pure, Except.mapError] at read
    split at read
    · cases read
    rename_i token isToken
    split at read
    · rename_i parts cut
      cases isHeader : parts.readHeader with
      | error fault =>
          simp only [isHeader] at read
          cases read
      | ok tokenHeader =>
          simp only [isHeader] at read
          split at read
          · rename_i keyId isKey
            split at read
            · cases read
            · rename_i named
              cases isClaims : parts.readClaims with
              | error fault =>
                  simp only [isClaims] at read
                  cases read
              | ok claims =>
                  simp only [isClaims] at read
                  cases read
                  refine ⟨isToken, parts, cut, ⟨tokenHeader.algorithm, ?_⟩, by simpa using named,
                    isClaims⟩
                  rw [isHeader, ← isKey]
          · cases read
    · cases read
  · rintro ⟨isToken, parts, cut, ⟨algorithm, readHeader⟩, named, readClaims⟩
    have notEmpty : bearer.keyId.isEmpty = false := by simpa using named
    simp [Engine.presented, isToken, cut, readHeader, notEmpty, readClaims, bind, Except.bind, pure,
      Except.pure, Except.mapError]

end Token

end TokenAuthority
