import TokenAuthority.Client
import TokenAuthority.Proofs.Messages

/-!
# What a client takes for a yes

Whatever comes back on a question comes to one verdict, and so does silence. Only the statuses of
success make a yes, and only if the body then says what was asked for. A reply that denies says why,
in its own words if it has any, and any other reply is kept as it came.
-/

namespace TokenAuthority

theorem Text.lossy_encode (text : String) : lossy (encode text) = text := by
  have characters : (Glyph.ofString text).map (fun glyph => glyph.char?.getD (Char.ofNat 0xFFFD)) =
      text.toList := by
    rw [Glyph.ofString, List.map_map]
    exact List.map_id _
  rw [lossy, Glyph.decode_encode, characters, String.ofList_toList]

namespace Client

def reply? (client : Client) (sent : List Http.Message) (message : Http.Message) :
    Option Http.Reply :=
  (Http.exchange client.transport sent message).value

/-- The verdict on what comes back: `successes` are the statuses of a yes, and `meaning?` is what
the body then says. -/
inductive Judged {Answer : Type} (successes : List Http.Status)
    (meaning? : List UInt8 → Option Answer) : Option Http.Reply → Except Refusal Answer → Prop
  | silence : Judged successes meaning? none (.error .unreachable)
  | yes {status : Http.Status} {body : List UInt8} {answer : Answer}
      (succeeds : status ∈ successes) (answers : meaning? body = some answer) :
      Judged successes meaning? (some { status, body }) (.ok answer)
  | garbled {status : Http.Status} {body : List UInt8} (succeeds : status ∈ successes)
      (answersNothing : meaning? body = none) :
      Judged successes meaning? (some { status, body }) (.error .undecodable)
  | no {body : List UInt8} {message : String} (tells : message? body = some message) :
      Judged successes meaning? (some { status := .unauthorized, body })
        (.error (.unauthorized message))
  | bareNo {body : List UInt8} (tellsNothing : message? body = none) :
      Judged successes meaning? (some { status := .unauthorized, body })
        (.error (.unauthorized "unauthorized"))
  | other {status : Http.Status} {body : List UInt8} (fails : status ∉ successes)
      (noDenial : status ≠ .unauthorized) :
      Judged successes meaning? (some { status, body })
        (.error (.unexpected status (Text.lossy body)))

namespace Judged

variable {Answer : Type} {successes : List Http.Status} {meaning? : List UInt8 → Option Answer}
  {reply? : Option Http.Reply} {verdict : Except Refusal Answer}

theorem eq_ok_iff {answer : Answer} :
    Judged successes meaning? reply? (.ok answer) ↔
      ∃ reply, reply? = some reply ∧ reply.status ∈ successes ∧
        meaning? reply.body = some answer := by
  constructor
  · intro judged
    cases judged with
    | yes succeeds answers => exact ⟨_, rfl, succeeds, answers⟩
  · rintro ⟨reply, rfl, succeeds, answers⟩
    exact .yes succeeds answers

theorem unique (apart : .unauthorized ∉ successes) {other : Except Refusal Answer}
    (judged : Judged successes meaning? reply? verdict)
    (again : Judged successes meaning? reply? other) : verdict = other := by
  cases judged with
  | silence => cases again; rfl
  | yes succeeds answers =>
      cases again with
      | yes _ answersToo => rw [Option.some.inj (answers.symm.trans answersToo)]
      | garbled _ answersNothing => cases answers.symm.trans answersNothing
      | no | bareNo => exact absurd succeeds apart
      | other fails => exact absurd succeeds fails
  | garbled succeeds answersNothing =>
      cases again with
      | yes _ answers => cases answersNothing.symm.trans answers
      | garbled => rfl
      | no | bareNo => exact absurd succeeds apart
      | other fails => exact absurd succeeds fails
  | no tells =>
      cases again with
      | yes succeeds | garbled succeeds => exact absurd succeeds apart
      | no tellsToo => rw [Option.some.inj (tells.symm.trans tellsToo)]
      | bareNo tellsNothing => cases tells.symm.trans tellsNothing
      | other _ noDenial => exact absurd rfl noDenial
  | bareNo tellsNothing =>
      cases again with
      | yes succeeds | garbled succeeds => exact absurd succeeds apart
      | no tells => cases tellsNothing.symm.trans tells
      | bareNo => rfl
      | other _ noDenial => exact absurd rfl noDenial
  | other fails noDenial =>
      cases again with
      | yes succeeds | garbled succeeds => exact absurd succeeds fails
      | no | bareNo => exact absurd rfl noDenial
      | other => rfl

end Judged

theorem judged_refusalOf {Answer : Type} {successes : List Http.Status}
    (meaning? : List UInt8 → Option Answer) {reply : Http.Reply}
    (fails : reply.status ∉ successes) :
    Judged successes meaning? (some reply) (.error (refusalOf reply)) := by
  rcases reply with ⟨status, body⟩
  by_cases denies : status = .unauthorized
  · subst denies
    rw [refusalOf, if_pos rfl, messageOf]
    cases tells : message? body with
    | some message => exact .no tells
    | none => exact .bareNo tells
  · rw [refusalOf, if_neg denies]
    exact .other fails denies

theorem judged_identityOf (reply? : Option Http.Reply) :
    Judged [.ok] (Json.Document.meaning? Identity.ofDocument?) reply? (identityOf reply?) := by
  cases reply? with
  | none => exact .silence
  | some reply =>
      by_cases succeeds : reply.status = .ok
      · have isSuccess : reply.status ∈ [Http.Status.ok] := List.mem_singleton.mpr succeeds
        rw [identityOf, if_pos succeeds]
        cases answers : Json.Document.meaning? Identity.ofDocument? reply.body with
        | some identity => exact .yes isSuccess answers
        | none => exact .garbled isSuccess answers
      · rw [identityOf, if_neg succeeds]
        exact judged_refusalOf _ (mt List.mem_singleton.mp succeeds)

/-- A permission has no content, but a reply that has some is taken for one as well. -/
theorem judged_permissionOf (reply? : Option Http.Reply) :
    Judged [.noContent, .ok] (fun _ => some ()) reply? (permissionOf reply?) := by
  cases reply? with
  | none => exact .silence
  | some reply =>
      by_cases succeeds : reply.status = .noContent ∨ reply.status = .ok
      · rw [permissionOf, if_pos succeeds]
        exact .yes (by simpa using succeeds) rfl
      · rw [permissionOf, if_neg succeeds]
        exact judged_refusalOf _ (by simpa using succeeds)

variable (client : Client) (sent : List Http.Message)

theorem authenticate_eq_iff (header : String) (verdict : Except Refusal Identity) :
    (client.authenticate sent header).value = verdict ↔
      Judged [.ok] (Json.Document.meaning? Identity.ofDocument?)
        (client.reply? sent (client.authenticateMessage header)) verdict := by
  have judged := judged_identityOf (client.reply? sent (client.authenticateMessage header))
  constructor
  · rintro rfl
    exact judged
  · exact judged.unique (by decide)

theorem authorize_eq_iff (inquiry : Inquiry) (verdict : Except Refusal Unit) :
    (client.authorize sent inquiry).value = verdict ↔
      Judged [.noContent, .ok] (fun _ => some ())
        (client.reply? sent (client.authorizeMessage inquiry)) verdict := by
  have judged := judged_permissionOf (client.reply? sent (client.authorizeMessage inquiry))
  constructor
  · rintro rfl
    exact judged
  · exact judged.unique (by decide)

theorem message?_envelope (envelope : Envelope) :
    message? (Text.encode envelope.write) = some envelope.message := by
  rcases Json.fields_object ["message"] envelope.names_differ with ⟨fields, read, found⟩
  have isRead : Json.Fields.ofDocument? ["message"] false envelope.spelling.document =
      some fields := read
  have message : fields.get? "message" =
      some (Json.Spelling.ofText envelope.message).document := found "message" (by decide)
  rw [message?, Text.lossy_encode, ← envelope.text_spelling, Json.Spelling.read?_text]
  simp only [Option.bind_eq_bind, Option.bind_some, isRead, Json.Fields.required?, message,
    Json.Spelling.text?_ofText]

end Client

end TokenAuthority
