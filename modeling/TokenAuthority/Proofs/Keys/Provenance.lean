import TokenAuthority.Proofs.Keys.Traffic

/-!
# Where documents come from

However many lookups are under way, a document that one of them comes to was handed over by the
service for the id it looked for: it was fresh in the cache, or the lookup has fetched it, or the
lookup has asked in vain and found it in the cache. Nothing but a document that was fetched ever
changes the cache.
-/

namespace TokenAuthority.Keys.Traffic

variable {base : Url} {lifetime number : Nat} {traffic later : Traffic} {id : String} {url : Url}
  {reply : Option Http.Reply}

/-! ## How lookups begin and end -/

/-- A document that a lookup comes to was handed over for its id, and there are three ways to it:
it was there and fresh, it was fetched, or asking failed and it was there. -/
theorem Sound.of_found (sound : traffic.Sound base lifetime) {ending : Ending}
    (ended : traffic.searches[number]? = some { id, stage := .ended ending })
    {document : KeyDocument} (found : ending.result = .ok document) :
    (∃ answer ∈ traffic.answers, answer.Hands id document) ∧
      ((ending.answer = none ∧ ∃ cached, ending.held = some cached ∧ cached.document = document ∧
          ending.time - cached.fetchedAt < lifetime) ∨
        (∃ reply, ending.answer = some (some reply) ∧ Hands reply document) ∨
        ∃ reply fault cached, ending.answer = some reply ∧
          Service.documentOf id reply = .error (.service fault) ∧
          ending.held = some cached ∧ cached.document = document) := by
  cases sound.accounted number _ ended with
  | fresh known young =>
      cases found
      exact ⟨known, .inl ⟨rfl, _, rfl, rfl, young⟩⟩
  | fetched own hands =>
      cases found
      exact ⟨⟨_, own, rfl, _, rfl, hands⟩, .inr (.inl ⟨_, rfl, hands⟩)⟩
  | stale own fails known =>
      cases found
      exact ⟨known, .inr (.inr ⟨_, _, _, rfl, fails, rfl, rfl⟩)⟩
  | refused noUrl => cases found
  | missing own isMissing => cases found
  | failed own fails => cases found

theorem Sound.of_asked (sound : traffic.Sound base lifetime) {ending : Ending}
    (ended : traffic.searches[number]? = some { id, stage := .ended ending })
    (asked : ending.answer = some reply) :
    ∃ url, Service.keyUrl? base id = some url ∧ { number, id, url, reply } ∈ traffic.answers := by
  have own : ∃ url, { number, id, url, reply } ∈ traffic.answers := by
    cases sound.accounted number _ ended with
    | fresh known young => cases asked
    | refused noUrl => cases asked
    | fetched own hands =>
        cases asked
        exact ⟨_, own⟩
    | missing own isMissing =>
        cases asked
        exact ⟨_, own⟩
    | stale own fails known =>
        cases asked
        exact ⟨_, own⟩
    | failed own fails =>
        cases asked
        exact ⟨_, own⟩
  rcases own with ⟨url, own⟩
  exact ⟨url, (sound.asked _ own).2, own⟩

theorem Sound.of_missing (sound : traffic.Sound base lifetime) {ending : Ending}
    {given : Http.Reply}
    (ended : traffic.searches[number]? = some { id, stage := .ended ending })
    (asked : ending.answer = some (some given)) (isMissing : given.status = .notFound) :
    ending.result = .error (.notFound id) := by
  have isError : Service.documentOf id (some given) = .error (.notFound id) :=
    Service.documentOf_of_missing isMissing
  cases sound.accounted number _ ended with
  | fresh known young => cases asked
  | refused noUrl => cases asked
  | fetched own hands =>
      cases asked
      cases (Service.documentOf_of_hands hands).symm.trans isError
  | missing own again => rfl
  | stale own fails known =>
      cases asked
      cases fails.symm.trans isError
  | failed own fails =>
      cases asked
      cases fails.symm.trans isError

theorem Sound.opened_of_noUrl (sound : traffic.Sound base lifetime)
    (noUrl : Service.keyUrl? base id = none) :
    ∃ ending, traffic.opened id = { id, stage := .ended ending } ∧ ending.answer = none ∧
      ending.result = .error (.notFound id) := by
  have notFresh : traffic.service.fresh? traffic.clock id = none := by
    simp only [Service.fresh?, sound.get?_of_noUrl noUrl]
  have refused : traffic.service.start traffic.clock id = .refused := by
    simp only [Service.start, notFresh, sound.sameBase, noUrl]
  simp only [Traffic.opened, refused]
  exact ⟨_, rfl, rfl, rfl⟩

theorem Sound.opened_of_url (sound : traffic.Sound base lifetime)
    (isUrl : Service.keyUrl? base id = some url) :
    if traffic.service.isCached traffic.clock id then
      ∃ ending, traffic.opened id = { id, stage := .ended ending } ∧ ending.answer = none
    else traffic.opened id = { id, stage := .waiting url } := by
  unfold Traffic.opened Service.start Service.isCached
  cases traffic.service.fresh? traffic.clock id with
  | some document => exact ⟨_, rfl, rfl⟩
  | none =>
      rw [sound.sameBase, isUrl]
      rfl

theorem getElem?_close
    (answered : traffic.searches[number]? = some { id, stage := .answered reply }) :
    (traffic.close number id reply).searches[number]? =
      some { id, stage := .ended (traffic.closing id reply) } :=
  List.getElem?_set_self (List.getElem?_eq_some_iff.mp answered).1

theorem getElem?_hear (waiting : traffic.searches[number]? = some { id, stage := .waiting url })
    (reply : Option Http.Reply) :
    (traffic.hear number id url reply).searches[number]? = some { id, stage := .answered reply } :=
  List.getElem?_set_self (List.getElem?_eq_some_iff.mp waiting).1

theorem Step.of_changed (step : traffic.Step later)
    (changed : later.service.cache.get? id ≠ traffic.service.cache.get? id) :
    ∃ number given document,
      traffic.searches[number]? = some { id, stage := .answered (some given) } ∧
      later = traffic.close number id (some given) ∧ Hands given document ∧
      later.service.cache.get? id = some { document, fetchedAt := traffic.clock } ∧
      ∃ ending, later.searches[number]? = some { id, stage := .ended ending } ∧
        ending.result = .ok document := by
  cases step with
  | wait time => exact absurd rfl changed
  | look other => exact absurd rfl changed
  | hear waiting reply => exact absurd rfl changed
  | @close number other reply answered =>
      rcases get?_finish traffic.service traffic.clock other id reply with
        same | ⟨given, document, rfl, rfl, hands, isResult, isEntry⟩
      · exact absurd same changed
      · exact ⟨number, given, document, answered, rfl, hands, isEntry, _, getElem?_close answered,
          isResult⟩

theorem of_publicKey_eq_ok {result : Except KeyError KeyDocument} {text : String}
    (found : Service.publicKey result = .ok text) :
    ∃ document, result = .ok document ∧ document.publicText = text := by
  cases result with
  | error fault => cases found
  | ok document =>
      cases found
      exact ⟨document, rfl, rfl⟩

theorem of_privateKey_eq_ok {result : Except KeyError KeyDocument} {text : String}
    (found : Service.privateKey id result = .ok text) :
    ∃ document, result = .ok document ∧ document.privateText = some text := by
  cases result with
  | error fault => cases found
  | ok document =>
      refine ⟨document, rfl, ?_⟩
      cases isText : document.privateText with
      | none => simp [Service.privateKey, isText] at found
      | some held => simpa [Service.privateKey, isText] using found

/-! ## Lookups during which nothing else happens -/

/-- A lookup that asks and is answered after a time. -/
def asked (traffic : Traffic) (id : String) (url : Url) (delay : Nat)
    (reply : Option Http.Reply) : Traffic :=
  let number := traffic.searches.length
  let waiting : Traffic := { traffic.look id with clock := traffic.clock + delay }
  (waiting.hear number id url reply).close number id reply

theorem getElem?_look_of_ask (asks : traffic.service.start traffic.clock id = .ask url) :
    (traffic.look id).searches[traffic.searches.length]? = some { id, stage := .waiting url } := by
  rw [getElem?_look, opened, asks]

theorem leads_asked (asks : traffic.service.start traffic.clock id = .ask url) (delay : Nat)
    (reply : Option Http.Reply) :
    let later := traffic.asked id url delay reply
    traffic.Leads later ∧
      ∃ ending, later.searches[traffic.searches.length]? = some { id, stage := .ended ending } ∧
        ending.held = traffic.service.cache.get? id ∧ ending.answer = some reply ∧
        ending.result = (traffic.service.finish (traffic.clock + delay) id reply).result := by
  let waiting : Traffic := { traffic.look id with clock := traffic.clock + delay }
  have waits : (traffic.look id).Step waiting := .wait delay
  have isWaiting : waiting.searches[traffic.searches.length]? =
      some { id, stage := .waiting url } := getElem?_look_of_ask asks
  have isAnswered := getElem?_hear isWaiting reply
  refine ⟨?_, _, getElem?_close isAnswered, rfl, rfl, rfl⟩
  have begins : traffic.Leads waiting := .tail (.single (.look id)) waits
  exact (begins.tail (.hear isWaiting reply)).tail (.close isAnswered)

theorem service_asked (traffic : Traffic) (id : String) (url : Url) (delay : Nat)
    (reply : Option Http.Reply) :
    (traffic.asked id url delay reply).service =
      (traffic.service.finish (traffic.clock + delay) id reply).service := rfl

theorem length_asked (traffic : Traffic) (id : String) (url : Url) (delay : Nat)
    (reply : Option Http.Reply) :
    (traffic.asked id url delay reply).searches.length = traffic.searches.length + 1 := by
  simp [asked]

theorem find_leads (traffic : Traffic) (id : String) (transport : Http.Transport)
    (sent : List Http.Message) :
    let found := traffic.service.find traffic.clock id transport sent
    ∃ later ending, traffic.Leads later ∧ later.service = found.service ∧
      later.searches[traffic.searches.length]? = some { id, stage := .ended ending } ∧
      ending.result = found.result := by
  have begins : traffic.Leads (traffic.look id) := .single (.look id)
  have first := getElem?_look traffic id
  unfold Service.find
  cases begun : traffic.service.start traffic.clock id with
  | found document =>
      simp only [Traffic.opened, begun] at first
      exact ⟨_, _, begins, rfl, first, rfl⟩
  | refused =>
      simp only [Traffic.opened, begun] at first
      exact ⟨_, _, begins, rfl, first, rfl⟩
  | ask url =>
      dsimp only
      generalize Http.exchange transport sent (Service.messageAt url) = reply
      rcases leads_asked begun reply.delay reply.value with ⟨leads, ending, ended, _, _, result⟩
      exact ⟨_, ending, leads, rfl, ended, result⟩

/-- Whatever is cached under an id, or found by a lookup of the id, was handed over when the service
was asked for the key of that id: it was there and fresh, or was fetched, or was there when asking
had failed. Exactly those ids are asked about that can be and are not cached and fresh. -/
theorem documents_handed_over (base : Url) (lifetime : Nat) (traffic : Traffic)
    (reached : (start base lifetime).Leads traffic) :
    (∀ id cached, traffic.service.cache.get? id = some cached →
      ∃ answer ∈ traffic.answers, answer.Hands id cached.document ∧
        Service.keyUrl? base id = some answer.url) ∧
    (∀ number id ending, traffic.searches[number]? = some { id, stage := .ended ending } →
      (∀ reply, ending.answer = some reply → ∃ url, Service.keyUrl? base id = some url ∧
        { number, id, url, reply } ∈ traffic.answers) ∧
      (∀ reply, ending.answer = some (some reply) → reply.status = .notFound →
        ending.result = .error (.notFound id)) ∧
      (∀ document, ending.result = .ok document →
        (∃ answer ∈ traffic.answers, answer.Hands id document) ∧
        ((ending.answer = none ∧ ∃ cached, ending.held = some cached ∧
            cached.document = document ∧ ending.time - cached.fetchedAt < lifetime) ∨
          (∃ reply, ending.answer = some (some reply) ∧ Hands reply document) ∨
          ∃ reply fault cached, ending.answer = some reply ∧
            Service.documentOf id reply = .error (.service fault) ∧
            ending.held = some cached ∧ cached.document = document)) ∧
      (∀ text, Service.publicKey ending.result = .ok text →
        ∃ document, ending.result = .ok document ∧ document.publicText = text) ∧
      (∀ text, Service.privateKey id ending.result = .ok text →
        ∃ document, ending.result = .ok document ∧ document.privateText = some text) ∧
      ∀ fault, ending.result = .error fault →
        Service.publicKey ending.result = .error fault ∧
        Service.privateKey id ending.result = .error fault) ∧
    (∀ later id, traffic.Step later →
      later.service.cache.get? id ≠ traffic.service.cache.get? id →
      ∃ number given document,
        traffic.searches[number]? = some { id, stage := .answered (some given) } ∧
        later = traffic.close number id (some given) ∧ Hands given document ∧
        later.service.cache.get? id = some { document, fetchedAt := traffic.clock } ∧
        ∃ ending, later.searches[number]? = some { id, stage := .ended ending } ∧
          ending.result = .ok document) ∧
    (∀ id, Service.keyUrl? base id = none →
      ∃ ending, traffic.opened id = { id, stage := .ended ending } ∧ ending.answer = none ∧
        ending.result = .error (.notFound id)) ∧
    (∀ id url, Service.keyUrl? base id = some url →
      if traffic.service.isCached traffic.clock id then
        ∃ ending, traffic.opened id = { id, stage := .ended ending } ∧ ending.answer = none
      else traffic.opened id = { id, stage := .waiting url }) ∧
    (∀ id transport sent,
      let found := traffic.service.find traffic.clock id transport sent
      ∃ later ending, traffic.Leads later ∧ later.service = found.service ∧
        later.searches[traffic.searches.length]? = some { id, stage := .ended ending } ∧
        ending.result = found.result) := by
  have sound := (sound_start base lifetime).leads reached
  refine ⟨?_, ?_, fun _ _ step changed => step.of_changed changed,
    fun _ noUrl => sound.opened_of_noUrl noUrl, fun _ _ isUrl => sound.opened_of_url isUrl,
    fun id transport sent => find_leads traffic id transport sent⟩
  · intro id cached held
    rcases sound.cached id cached held with ⟨answer, member, hands⟩
    exact ⟨answer, member, hands, hands.1 ▸ (sound.asked answer member).2⟩
  · intro number id ending ended
    exact ⟨fun _ asked => sound.of_asked ended asked,
      fun _ asked isMissing => sound.of_missing ended asked isMissing,
      fun _ found => sound.of_found ended found, fun _ => of_publicKey_eq_ok,
      fun _ => of_privateKey_eq_ok, fun _ failed => by rw [failed]; exact ⟨rfl, rfl⟩⟩

/-! A key that is fetched, expires, and is served once more when the service cannot be reached. -/

def keyBase : Url where
  scheme := "http"
  host := some (.name "keys.example")
  path := .segments [""]

def keyPlace : Url :=
  { keyBase with path := .segments ["keys", "k"] }

def keyDocument : KeyDocument where
  publicText := "A"

def keyReply : Http.Reply where
  status := .ok
  body := Text.encode "\x7b\"public_pem\":\"A\"\x7d"

theorem hands_keyReply : Hands keyReply keyDocument :=
  ⟨rfl, by decide +kernel⟩

def fetchedKey : Traffic :=
  (start keyBase 1000).asked "k" keyPlace 0 (some keyReply)

def expiredKey : Traffic :=
  { fetchedKey with clock := fetchedKey.clock + 1000 }

theorem keyUrl?_keyBase : Service.keyUrl? keyBase "k" = some keyPlace := by
  decide +kernel

theorem leads_expiredKey : (start keyBase 1000).Leads expiredKey := by
  have asks : (start keyBase 1000).service.start 0 "k" = .ask keyPlace :=
    Service.start_eq_ask_iff.mpr ⟨rfl, keyUrl?_keyBase⟩
  exact (leads_asked asks 0 (some keyReply)).1.tail (.wait 1000)

theorem service_expiredKey :
    expiredKey.service = {
      base := keyBase
      lifetime := 1000
      cache := Register.empty.set "k" { document := keyDocument, fetchedAt := 0 } } := by
  have isDocument : Service.documentOf "k" (some keyReply) = .ok keyDocument :=
    Service.documentOf_of_hands hands_keyReply
  simp only [expiredKey, fetchedKey, service_asked, Service.finish_of_document isDocument]
  rfl

theorem length_expiredKey : expiredKey.searches.length = 1 := by
  simp only [expiredKey, fetchedKey, length_asked]
  rfl

theorem start_expiredKey :
    expiredKey.service.start expiredKey.clock "k" = .ask keyPlace := by
  rw [service_expiredKey]
  exact Service.start_eq_ask_iff.mpr ⟨by decide +kernel, keyUrl?_keyBase⟩

theorem expiredKey_handed_over :
    let served := expiredKey.asked "k" keyPlace 0 none
    (start keyBase 1000).Leads served ∧
      ∃ ending, served.searches[1]? = some { id := "k", stage := .ended ending } ∧
        ending.result = .ok keyDocument ∧
        ∃ answer ∈ served.answers, answer.Hands "k" keyDocument := by
  rcases leads_asked start_expiredKey 0 none with ⟨leads, ending, ended, _, _, result⟩
  rw [length_expiredKey] at ended
  have reached := leads_expiredKey.trans leads
  have fails : Service.documentOf "k" none = .error (.service .unreachable) := rfl
  have isDocument : ending.result = .ok keyDocument := by
    rw [result, (Service.finish_of_fault fails).2, service_expiredKey, Register.get?_set_self]
  have handedOver := (documents_handed_over keyBase 1000 _ reached).2.1 _ _ _ ended
  exact ⟨reached, ending, ended, isDocument, (handedOver.2.2.1 _ isDocument).1⟩

end TokenAuthority.Keys.Traffic
