import TokenAuthority.Proofs.Keys.Provenance

/-!
# Keys that are gone

The service may say that it has no such key any more. Whoever hears that reports it, but the cache
stays as it was. So a document that is held when the news comes is served again as soon as a lookup
asks in vain; a key of which nothing is held stays away until the service hands it over again.
-/

namespace TokenAuthority.Keys.Traffic

variable {base : Url} {lifetime number : Nat} {traffic middle later : Traffic} {id : String}
  {url : Url} {reply : Option Http.Reply}

/-! ## Answers since then -/

/-- Whether, after the first so many answers, none has handed over a document for an id. -/
def Quiet (known : Nat) (id : String) (traffic : Traffic) : Prop :=
  ∀ answer ∈ traffic.answers.drop known, ∀ document, ¬ answer.Hands id document

theorem answers_leads (leads : traffic.Leads later) :
    ∃ more, later.answers = traffic.answers ++ more := by
  induction leads with
  | refl => exact ⟨[], (List.append_nil _).symm⟩
  | tail _ step induction =>
      rcases induction with ⟨more, same⟩
      cases step with
      | wait time => exact ⟨more, same⟩
      | look id => exact ⟨more, same⟩
      | close answered => exact ⟨more, same⟩
      | @hear number id url waiting reply =>
          let answer : Answer := { number, id, url, reply }
          refine ⟨more ++ [answer], ?_⟩
          rw [← List.append_assoc, ← same]
          rfl

theorem Quiet.mem_of_hands (leads : traffic.Leads later)
    (quiet : Quiet traffic.answers.length id later) {answer : Answer} {document : KeyDocument}
    (member : answer ∈ later.answers) (hands : answer.Hands id document) :
    answer ∈ traffic.answers := by
  rcases answers_leads leads with ⟨more, same⟩
  rw [same] at member
  rcases List.mem_append.mp member with known | isNew
  · exact known
  · refine absurd hands (quiet answer ?_ document)
    rw [same, List.drop_left]
    exact isNew

theorem Quiet.before {known : Nat} (quiet : Quiet known id later) (leads : traffic.Leads later) :
    Quiet known id traffic := by
  rcases answers_leads leads with ⟨more, same⟩
  intro answer member
  apply quiet answer
  rw [same, List.drop_append]
  exact List.mem_append_left _ member

theorem Quiet.mono {known more : Nat} (quiet : Quiet known id traffic) (fewer : known ≤ more) :
    Quiet more id traffic :=
  fun answer member => quiet answer (List.drop_subset_drop_left _ fewer member)

/-! ## Lookups since then -/

theorem Sound.found_iff (sound : traffic.Sound base lifetime) (leads : traffic.Leads later)
    (quiet : Quiet traffic.answers.length id later) (isLater : traffic.searches.length ≤ number)
    {ending : Ending} (ended : later.searches[number]? = some { id, stage := .ended ending })
    (document : KeyDocument) :
    ending.result = .ok document ↔
      ∃ cached, ending.held = some cached ∧ cached.document = document ∧
        (ending.answer = none ∧ ending.time - cached.fetchedAt < lifetime ∨
          ∃ reply fault, ending.answer = some reply ∧
            Service.documentOf id reply = .error (.service fault)) := by
  have accounted := (sound.leads leads).accounted number _ ended
  constructor
  · intro found
    cases accounted with
    | fresh known young =>
        cases found
        exact ⟨_, rfl, rfl, .inl ⟨rfl, young⟩⟩
    | stale own fails known =>
        cases found
        exact ⟨_, rfl, rfl, .inr ⟨_, _, rfl, fails⟩⟩
    | fetched own hands =>
        -- Its answer would be one of those before, and belong to an earlier lookup.
        have known := quiet.mem_of_hands leads own ⟨rfl, _, rfl, hands⟩
        exact absurd (sound.asked _ known).1 (Nat.not_lt.mpr isLater)
    | refused noUrl => cases found
    | missing own isMissing => cases found
    | failed own fails => cases found
  · intro served
    rcases served with ⟨cached, held, rfl, way⟩
    cases accounted with
    | fresh known young =>
        cases held
        rfl
    | stale own fails known =>
        cases held
        rfl
    | refused noUrl => cases held
    | failed own fails => cases held
    | fetched own hands =>
        rcases way with ⟨unasked, _⟩ | ⟨reply, fault, asked, fails⟩
        · cases unasked
        · cases asked
          cases (Service.documentOf_of_hands hands).symm.trans fails
    | missing own isMissing =>
        rcases way with ⟨unasked, _⟩ | ⟨reply, fault, asked, fails⟩
        · cases unasked
        · cases asked
          cases (Service.documentOf_of_missing isMissing).symm.trans fails

/-! ## Keys of which nothing is held -/

/-- No document of a key is in the cache, and no lookup has one that it has not put there yet. -/
structure Gone (id : String) (traffic : Traffic) : Prop where
  uncached : traffic.service.cache.get? id = none
  settled : ∀ (number : Nat) reply document,
    traffic.searches[number]? = some { id, stage := .answered (some reply) } →
    ¬ Hands reply document

theorem held_of_opened {other : String} {ending : Ending}
    (ended : traffic.opened other = { id, stage := .ended ending }) :
    ending.held = traffic.service.cache.get? id := by
  unfold opened at ended
  cases begun : traffic.service.start traffic.clock other with
  | found document =>
      rw [begun] at ended
      cases ended
      rfl
  | refused =>
      rw [begun] at ended
      cases ended
      rfl
  | ask url =>
      rw [begun] at ended
      cases ended

theorem opened_ne_answered {other : String} :
    traffic.opened other ≠ { id, stage := .answered reply } := by
  intro answered
  unfold opened at answered
  cases begun : traffic.service.start traffic.clock other with
  | _ =>
      rw [begun] at answered
      cases answered

theorem Step.of_ended (step : traffic.Step later) {ending : Ending}
    (ended : later.searches[number]? = some { id, stage := .ended ending }) :
    traffic.searches[number]? = some { id, stage := .ended ending } ∨
      ending.held = traffic.service.cache.get? id := by
  cases step with
  | wait time => exact .inl ended
  | look other =>
      rcases of_getElem?_concat ended with earlier | ⟨_, same⟩
      · exact .inl earlier
      · exact .inr (held_of_opened same.symm)
  | hear waiting reply =>
      rcases of_getElem?_set ended with earlier | ⟨_, same⟩
      · exact .inl earlier
      · cases same
  | close answered =>
      rcases of_getElem?_set ended with earlier | ⟨_, same⟩
      · exact .inl earlier
      · cases same
        exact .inr rfl

theorem Gone.step (gone : Gone id traffic) (step : traffic.Step later)
    (quiet : Quiet traffic.answers.length id later) : Gone id later := by
  cases step with
  | wait time => exact ⟨gone.uncached, gone.settled⟩
  | look other =>
      refine ⟨gone.uncached, ?_⟩
      intro number reply document answered
      rcases of_getElem?_concat answered with earlier | ⟨_, same⟩
      · exact gone.settled number reply document earlier
      · exact absurd same.symm opened_ne_answered
  | @hear changed other url waiting reply =>
      refine ⟨gone.uncached, ?_⟩
      intro number given document answered hands
      rcases of_getElem?_set answered with earlier | ⟨_, same⟩
      · exact gone.settled number given document earlier hands
      · cases same
        -- Had the answer handed over the document, it would not have been quiet.
        refine quiet { number := changed, id, url, reply := some given } ?_ document
          ⟨rfl, given, rfl, hands⟩
        rw [hear, List.drop_left]
        exact List.mem_cons_self
  | @close changed other reply isAnswered =>
      constructor
      · rcases get?_finish traffic.service traffic.clock other id reply with
          same | ⟨given, document, rfl, rfl, hands, _, _⟩
        · exact same.trans gone.uncached
        · exact absurd hands (gone.settled changed given document isAnswered)
      · intro number given document answered
        rcases of_getElem?_set answered with earlier | ⟨_, same⟩
        · exact gone.settled number given document earlier
        · cases same

theorem Gone.leads (gone : Gone id traffic) (leads : traffic.Leads later)
    (quiet : Quiet traffic.answers.length id later) :
    Gone id later ∧ ∀ number ending, traffic.searches.length ≤ number →
      later.searches[number]? = some { id, stage := .ended ending } → ending.held = none := by
  induction leads with
  | refl =>
      refine ⟨gone, ?_⟩
      intro number ending isLater ended
      exact absurd (List.getElem?_eq_some_iff.mp ended).1 (Nat.not_lt.mpr isLater)
  | @tail middle later before step induction =>
      rcases induction (quiet.before (.single step)) with ⟨stillGone, unheld⟩
      have fewer : traffic.answers.length ≤ middle.answers.length := by
        rcases answers_leads before with ⟨more, same⟩
        rw [same, List.length_append]
        exact Nat.le_add_right ..
      refine ⟨stillGone.step step (quiet.mono fewer), ?_⟩
      intro number ending isLater ended
      rcases step.of_ended ended with earlier | held
      · exact unheld number ending isLater earlier
      · exact held.trans stillGone.uncached

/-! ## Keys of which something is held -/

theorem quiet_asked (traffic : Traffic) (id : String) (url : Url) :
    Quiet traffic.answers.length id (traffic.asked id url 0 none) := by
  intro answer member document hands
  simp only [asked, close, hear, look, List.drop_left, List.mem_singleton] at member
  rcases hands.2 with ⟨reply, isReply, _⟩
  rw [member] at isReply
  cases isReply

theorem Sound.exists_served (sound : traffic.Sound base lifetime) {cached : Cached}
    (held : traffic.service.cache.get? id = some cached) :
    ∃ later ending, traffic.Leads later ∧ Quiet traffic.answers.length id later ∧
      later.searches[traffic.searches.length]? = some { id, stage := .ended ending } ∧
      ending.result = .ok cached.document := by
  cases begun : traffic.service.start traffic.clock id with
  | found document =>
      have first := getElem?_look traffic id
      simp only [Traffic.opened, begun] at first
      refine ⟨_, _, .single (.look id), ?_, first, ?_⟩
      · intro answer member
        simp [look] at member
      · rcases Service.fresh?_eq_some_iff.mp (Service.start_eq_found_iff.mp begun) with
          ⟨again, same, rfl, _⟩
        cases held.symm.trans same
        rfl
  | refused =>
      have noUrl := (Service.start_eq_refused_iff.mp begun).2
      rw [sound.sameBase] at noUrl
      cases held.symm.trans (sound.get?_of_noUrl noUrl)
  | ask url =>
      rcases leads_asked begun 0 none with ⟨leads, ending, ended, _, _, result⟩
      refine ⟨_, ending, leads, quiet_asked traffic id url, ended, ?_⟩
      have fails : Service.documentOf id none = .error (.service .unreachable) := rfl
      rw [result, (Service.finish_of_fault fails).2, held]

theorem Sound.gone_iff (sound : traffic.Sound base lifetime) :
    Gone id traffic ↔ ∀ later (number : Nat) ending document, traffic.Leads later →
      Quiet traffic.answers.length id later → traffic.searches.length ≤ number →
      later.searches[number]? = some { id, stage := .ended ending } →
      ending.result ≠ .ok document := by
  constructor
  · intro gone later number ending document leads quiet isLater ended found
    rcases (sound.found_iff leads quiet isLater ended document).mp found with ⟨cached, held, _⟩
    cases held.symm.trans ((gone.leads leads quiet).2 number ending isLater ended)
  · intro never
    constructor
    · cases held : traffic.service.cache.get? id with
      | none => rfl
      | some cached =>
          rcases sound.exists_served held with ⟨later, ending, leads, quiet, ended, found⟩
          exact absurd found (never later _ ending _ leads quiet (Nat.le_refl _) ended)
    · intro number reply document answered hands
      -- The lookup puts its document into the cache, where another finds it.
      have step : traffic.Step (traffic.close number id (some reply)) := .close answered
      have held : (traffic.close number id (some reply)).service.cache.get? id =
          some { document, fetchedAt := traffic.clock } := by
        rw [close, Service.finish_of_document (Service.documentOf_of_hands hands)]
        exact Register.get?_set_self ..
      rcases (sound.step step).exists_served held with ⟨later, ending, leads, quiet, ended, found⟩
      have isLater : traffic.searches.length ≤
          (traffic.close number id (some reply)).searches.length :=
        Nat.le_of_eq (length_close ..).symm
      exact absurd found (never later _ ending _ (leads.head step) quiet isLater ended)

/-- A lookup that is told that there is no such key leaves the cache as it was. Until the service
hands over the key again, a later lookup finds a document exactly if one is in the cache and either
fresh or asked for in vain, and none does exactly if nothing of the key is held by then. -/
theorem found_after_denial_iff (base : Url) (lifetime : Nat) (traffic : Traffic)
    (reached : (start base lifetime).Leads traffic) (number : Nat) (id : String) (url : Url)
    (waiting : traffic.searches[number]? = some { id, stage := .waiting url })
    (reply : Http.Reply) (isMissing : reply.status = .notFound) :
    let denied := traffic.hear number id url (some reply)
    ((denied.closing id (some reply)).result = .error (.notFound id) ∧
      (denied.close number id (some reply)).service = traffic.service) ∧
    (∀ later (other : Nat) ending document, denied.Leads later →
      Quiet denied.answers.length id later → denied.searches.length ≤ other →
      later.searches[other]? = some { id, stage := .ended ending } →
      (ending.result = .ok document ↔
        ∃ cached, ending.held = some cached ∧ cached.document = document ∧
          (ending.answer = none ∧ ending.time - cached.fetchedAt < lifetime ∨
            ∃ reply fault, ending.answer = some reply ∧
              Service.documentOf id reply = .error (.service fault))) ∧
      (ending.result = .ok document →
        ∃ answer ∈ traffic.answers, answer.Hands id document)) ∧
    (Gone id denied ↔ ∀ later (other : Nat) ending document, denied.Leads later →
      Quiet denied.answers.length id later → denied.searches.length ≤ other →
      later.searches[other]? = some { id, stage := .ended ending } →
      ending.result ≠ .ok document) := by
  intro denied
  have sound := ((sound_start base lifetime).leads reached).step (.hear waiting (some reply))
  have isError : Service.documentOf id (some reply) = .error (.notFound id) :=
    Service.documentOf_of_missing isMissing
  refine ⟨⟨?_, ?_⟩, ?_, sound.gone_iff⟩
  · rw [closing, Service.finish_of_missing isError]
  · rw [close, Service.finish_of_missing isError]
    rfl
  · intro later other ending document leads quiet isLater ended
    refine ⟨sound.found_iff leads quiet isLater ended document, ?_⟩
    intro found
    rcases ((sound.leads leads).of_found ended found).1 with ⟨answer, member, hands⟩
    refine ⟨answer, ?_, hands⟩
    rcases List.mem_append.mp (quiet.mem_of_hands leads member hands) with earlier | isDenial
    · exact earlier
    · -- The denial itself hands over nothing.
      rcases hands.2 with ⟨given, isReply, handsGiven⟩
      rw [List.mem_singleton.mp isDenial] at isReply
      cases isReply
      cases (Service.documentOf_of_hands handsGiven).symm.trans isError

/-! A key that is fetched, expires, and is taken back, and that a lookup comes to all the same when
the service cannot be reached. -/

def missingReply : Http.Reply where
  status := .notFound
  body := []

def deniedKey : Traffic :=
  (expiredKey.look "k").hear 1 "k" keyPlace (some missingReply)

theorem waiting_expiredKey :
    (expiredKey.look "k").searches[1]? = some { id := "k", stage := .waiting keyPlace } := by
  rw [← length_expiredKey]
  exact getElem?_look_of_ask start_expiredKey

theorem deniedKey_found :
    let closed := deniedKey.close 1 "k" (some missingReply)
    let later := closed.asked "k" keyPlace 0 none
    (start keyBase 1000).Leads (expiredKey.look "k") ∧ deniedKey.Leads later ∧
      Quiet deniedKey.answers.length "k" later ∧
      ∃ ending, later.searches[2]? = some { id := "k", stage := .ended ending } ∧
        ending.result = .ok keyDocument := by
  have reached := leads_expiredKey.tail (.look "k")
  rcases found_after_denial_iff keyBase 1000 (expiredKey.look "k") reached 1 "k" keyPlace
    waiting_expiredKey missingReply rfl with ⟨⟨_, sameService⟩, found_iff, _⟩
  have answered : deniedKey.searches[1]? =
      some { id := "k", stage := .answered (some missingReply) } :=
    getElem?_hear waiting_expiredKey (some missingReply)
  have asks : (deniedKey.close 1 "k" (some missingReply)).service.start
      (deniedKey.close 1 "k" (some missingReply)).clock "k" = .ask keyPlace := by
    rw [deniedKey, sameService, service_look, clock_close, clock_hear, clock_look]
    exact start_expiredKey
  rcases leads_asked asks 0 none with ⟨leads, ending, ended, held, answer, _⟩
  have second : (deniedKey.close 1 "k" (some missingReply)).searches.length = 2 := by
    rw [length_close, deniedKey, length_hear, length_look, length_expiredKey]
  have quiet := quiet_asked (deniedKey.close 1 "k" (some missingReply)) "k" keyPlace
  have laterLeads := leads.head (.close answered)
  rw [second] at ended
  refine ⟨reached, laterLeads, quiet, ending, ended, ?_⟩
  have isLater : deniedKey.searches.length ≤ 2 :=
    Nat.le_of_eq ((length_close ..).symm.trans second)
  refine ((found_iff _ 2 ending keyDocument laterLeads quiet isLater ended).1).mpr ?_
  refine ⟨{ document := keyDocument, fetchedAt := 0 }, ?_, rfl,
    .inr ⟨none, .unreachable, answer, rfl⟩⟩
  rw [held, deniedKey, sameService, service_look, service_expiredKey]
  exact Register.get?_set_self ..

end TokenAuthority.Keys.Traffic
