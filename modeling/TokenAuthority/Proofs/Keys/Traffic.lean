import Mathlib.Data.List.Basic
import Mathlib.Logic.Relation
import TokenAuthority.Keys.Service

/-!
# Lookups at the same time

Many lookups of keys may be under way together. Each looks into the cache, and then it is over or
has asked; later its reply comes, and later still it looks at the cache again and is over. In
between others do the same, and time passes. A traffic follows a service through all this and keeps
what every lookup was answered and how it ended.

Whatever is cached under an id, and whatever a lookup of the id comes to, was handed over by the
service when it was asked for the key of that very id.
-/

namespace TokenAuthority.Keys

def Hands (reply : Http.Reply) (document : KeyDocument) : Prop :=
  reply.status.isSuccess = true ∧
    Json.Document.meaning? KeyDocument.ofDocument? reply.body = some document

structure Answer where
  /-- Of the lookup. -/
  number : Nat
  id : String
  url : Url
  reply : Option Http.Reply
  deriving DecidableEq

/-- Whether the service has handed over a document for an id. -/
def Answer.Hands (answer : Answer) (id : String) (document : KeyDocument) : Prop :=
  answer.id = id ∧ ∃ reply, answer.reply = some reply ∧ Keys.Hands reply document

structure Ending where
  time : Nat
  /-- What the cache held under the id just then. -/
  held : Option Cached
  /-- What came, if the lookup asked. -/
  answer : Option (Option Http.Reply)
  result : Except KeyError KeyDocument

inductive Stage where
  /-- It has asked. -/
  | waiting (url : Url)
  /-- It knows what came, and has not looked at the cache since. -/
  | answered (reply : Option Http.Reply)
  | ended (ending : Ending)

structure Search where
  id : String
  stage : Stage

/-- A service, the time, every lookup by its number, and every answer in order. -/
structure Traffic where
  service : Service
  clock : Nat := 0
  searches : List Search := []
  answers : List Answer := []

namespace Traffic

/-! ## Steps -/

/-- A lookup that has looked into the cache. -/
def opened (traffic : Traffic) (id : String) : Search where
  id := id
  stage :=
    let ended := fun result => Stage.ended {
      time := traffic.clock, held := traffic.service.cache.get? id, answer := none, result }
    match traffic.service.start traffic.clock id with
    | .found document => ended (.ok document)
    | .refused => ended (.error (.notFound id))
    | .ask url => .waiting url

def look (traffic : Traffic) (id : String) : Traffic :=
  { traffic with searches := traffic.searches ++ [traffic.opened id] }

def hear (traffic : Traffic) (number : Nat) (id : String) (url : Url)
    (reply : Option Http.Reply) : Traffic :=
  { traffic with
    searches := traffic.searches.set number { id, stage := .answered reply }
    answers := traffic.answers ++ [{ number, id, url, reply }] }

/-- How a lookup ends after it was answered. -/
def closing (traffic : Traffic) (id : String) (reply : Option Http.Reply) : Ending where
  time := traffic.clock
  held := traffic.service.cache.get? id
  answer := some reply
  result := (traffic.service.finish traffic.clock id reply).result

def close (traffic : Traffic) (number : Nat) (id : String) (reply : Option Http.Reply) : Traffic :=
  { traffic with
    service := (traffic.service.finish traffic.clock id reply).service
    searches := traffic.searches.set number { id, stage := .ended (traffic.closing id reply) } }

section Steps

variable (traffic : Traffic) (number : Nat) (id : String) (url : Url) (reply : Option Http.Reply)

@[simp]
theorem service_look : (traffic.look id).service = traffic.service := rfl

@[simp]
theorem clock_look : (traffic.look id).clock = traffic.clock := rfl

@[simp]
theorem length_look : (traffic.look id).searches.length = traffic.searches.length + 1 :=
  List.length_append

@[simp]
theorem clock_hear : (traffic.hear number id url reply).clock = traffic.clock := rfl

@[simp]
theorem length_hear :
    (traffic.hear number id url reply).searches.length = traffic.searches.length :=
  List.length_set

@[simp]
theorem clock_close : (traffic.close number id reply).clock = traffic.clock := rfl

@[simp]
theorem length_close :
    (traffic.close number id reply).searches.length = traffic.searches.length :=
  List.length_set

theorem getElem?_look :
    (traffic.look id).searches[traffic.searches.length]? = some (traffic.opened id) :=
  List.getElem?_concat_length

end Steps

inductive Step (traffic : Traffic) : Traffic → Prop
  | wait (time : Nat) : Step traffic { traffic with clock := traffic.clock + time }
  | look (id : String) : Step traffic (traffic.look id)
  | hear {number : Nat} {id : String} {url : Url}
      (waiting : traffic.searches[number]? = some { id, stage := .waiting url })
      (reply : Option Http.Reply) : Step traffic (traffic.hear number id url reply)
  | close {number : Nat} {id : String} {reply : Option Http.Reply}
      (answered : traffic.searches[number]? = some { id, stage := .answered reply }) :
      Step traffic (traffic.close number id reply)

def Leads : Traffic → Traffic → Prop :=
  Relation.ReflTransGen Step

end Traffic

/-! ## One lookup -/

namespace Service

variable {service : Service} {now : Nat} {id : String} {reply : Option Http.Reply}

theorem documentOf_of_hands {given : Http.Reply} {document : KeyDocument}
    (hands : Hands given document) : documentOf id (some given) = .ok document := by
  have isFound : given.status ≠ .notFound := by
    intro isMissing
    have success := hands.1
    rw [isMissing] at success
    cases success
  simp only [documentOf, if_neg isFound, hands.1, hands.2, if_true]

theorem documentOf_of_missing {given : Http.Reply} (isMissing : given.status = .notFound) :
    documentOf id (some given) = .error (.notFound id) := by
  simp only [documentOf, if_pos isMissing]

theorem documentOf_cases (id : String) (reply : Option Http.Reply) :
    (∃ given document, reply = some given ∧ Hands given document ∧
      documentOf id reply = .ok document) ∨
    (∃ given, reply = some given ∧ given.status = .notFound ∧
      documentOf id reply = .error (.notFound id)) ∨
    ∃ fault, documentOf id reply = .error (.service fault) := by
  cases reply with
  | none => exact .inr (.inr ⟨_, rfl⟩)
  | some given =>
      by_cases isMissing : given.status = .notFound
      · exact .inr (.inl ⟨given, rfl, isMissing, documentOf_of_missing isMissing⟩)
      by_cases success : given.status.isSuccess = true
      · cases meaning : Json.Document.meaning? KeyDocument.ofDocument? given.body with
        | some document =>
            have hands : Hands given document := ⟨success, meaning⟩
            exact .inl ⟨given, document, rfl, hands, documentOf_of_hands hands⟩
        | none =>
            refine .inr (.inr ⟨.undecodable, ?_⟩)
            simp only [documentOf, if_neg isMissing, success, meaning, if_true]
      · refine .inr (.inr ⟨.refused given.status, ?_⟩)
        simp only [documentOf, if_neg isMissing, success]
        rfl

theorem finish_of_document {document : KeyDocument}
    (isDocument : documentOf id reply = .ok document) :
    service.finish now id reply =
      { service := { service with cache := service.cache.set id { document, fetchedAt := now } }
        result := .ok document } := by
  simp only [finish, isDocument]

theorem finish_of_missing (isMissing : documentOf id reply = .error (.notFound id)) :
    service.finish now id reply = { service, result := .error (.notFound id) } := by
  simp only [finish, isMissing]

theorem finish_of_fault {fault : ServiceFault}
    (fails : documentOf id reply = .error (.service fault)) :
    (service.finish now id reply).service = service ∧
      (service.finish now id reply).result =
        match service.cache.get? id with
        | some cached => .ok cached.document
        | none => .error (.service fault) := by
  simp only [finish, fails]
  cases service.cache.get? id <;> exact ⟨rfl, rfl⟩

theorem fresh?_eq_some_iff {document : KeyDocument} :
    service.fresh? now id = some document ↔
      ∃ cached, service.cache.get? id = some cached ∧ cached.document = document ∧
        now - cached.fetchedAt < service.lifetime := by
  unfold fresh?
  cases service.cache.get? id with
  | none => simp
  | some cached => simp [and_comm]

theorem start_eq_found_iff {document : KeyDocument} :
    service.start now id = .found document ↔ service.fresh? now id = some document := by
  unfold start
  cases service.fresh? now id with
  | some document => simp
  | none => cases keyUrl? service.base id <;> simp

theorem start_eq_refused_iff :
    service.start now id = .refused ↔
      service.fresh? now id = none ∧ keyUrl? service.base id = none := by
  unfold start
  cases service.fresh? now id with
  | some document => simp
  | none => cases keyUrl? service.base id <;> simp

theorem start_eq_ask_iff {url : Url} :
    service.start now id = .ask url ↔
      service.fresh? now id = none ∧ keyUrl? service.base id = some url := by
  unfold start
  cases service.fresh? now id with
  | some document => simp
  | none => cases keyUrl? service.base id <;> simp

end Service

/-! ## What is known of a lookup -/

namespace Traffic

/-- What a lookup can be, and why, after some answers. -/
inductive Accounted (base : Url) (lifetime : Nat) (answers : List Answer) (number : Nat) :
    Search → Prop
  | waiting {id : String} {url : Url} (isUrl : Service.keyUrl? base id = some url) :
      Accounted base lifetime answers number { id, stage := .waiting url }
  | answered {id : String} {url : Url} {reply : Option Http.Reply}
      (own : { number, id, url, reply } ∈ answers) :
      Accounted base lifetime answers number { id, stage := .answered reply }
  | fresh {id : String} {time : Nat} {cached : Cached}
      (known : ∃ answer ∈ answers, answer.Hands id cached.document)
      (young : time - cached.fetchedAt < lifetime) :
      Accounted base lifetime answers number { id, stage := .ended {
        time, held := some cached, answer := none, result := .ok cached.document } }
  | refused {id : String} {time : Nat} (noUrl : Service.keyUrl? base id = none) :
      Accounted base lifetime answers number { id, stage := .ended {
        time, held := none, answer := none, result := .error (.notFound id) } }
  | fetched {id : String} {time : Nat} {held : Option Cached} {url : Url} {reply : Http.Reply}
      {document : KeyDocument} (own : { number, id, url, reply := some reply } ∈ answers)
      (hands : Hands reply document) :
      Accounted base lifetime answers number { id, stage := .ended {
        time, held, answer := some (some reply), result := .ok document } }
  | missing {id : String} {time : Nat} {held : Option Cached} {url : Url} {reply : Http.Reply}
      (own : { number, id, url, reply := some reply } ∈ answers)
      (isMissing : reply.status = .notFound) :
      Accounted base lifetime answers number { id, stage := .ended {
        time, held, answer := some (some reply), result := .error (.notFound id) } }
  | stale {id : String} {time : Nat} {cached : Cached} {url : Url} {reply : Option Http.Reply}
      {fault : ServiceFault} (own : { number, id, url, reply } ∈ answers)
      (fails : Service.documentOf id reply = .error (.service fault))
      (known : ∃ answer ∈ answers, answer.Hands id cached.document) :
      Accounted base lifetime answers number { id, stage := .ended {
        time, held := some cached, answer := some reply, result := .ok cached.document } }
  | failed {id : String} {time : Nat} {url : Url} {reply : Option Http.Reply}
      {fault : ServiceFault} (own : { number, id, url, reply } ∈ answers)
      (fails : Service.documentOf id reply = .error (.service fault)) :
      Accounted base lifetime answers number { id, stage := .ended {
        time, held := none, answer := some reply, result := .error (.service fault) } }

variable {base : Url} {lifetime number : Nat} {answers more : List Answer} {search : Search}

theorem Accounted.mono (accounted : Accounted base lifetime answers number search)
    (kept : answers ⊆ more) : Accounted base lifetime more number search := by
  have stillKnown {id : String} {document : KeyDocument}
      (known : ∃ answer ∈ answers, answer.Hands id document) :
      ∃ answer ∈ more, answer.Hands id document := by
    rcases known with ⟨answer, member, hands⟩
    exact ⟨answer, kept member, hands⟩
  cases accounted with
  | waiting isUrl => exact .waiting isUrl
  | answered own => exact .answered (kept own)
  | fresh known young => exact .fresh (stillKnown known) young
  | refused noUrl => exact .refused noUrl
  | fetched own hands => exact .fetched (kept own) hands
  | missing own isMissing => exact .missing (kept own) isMissing
  | stale own fails known => exact .stale (kept own) fails (stillKnown known)
  | failed own fails => exact .failed (kept own) fails

/-! ## What every traffic keeps -/

/-- Everything cached comes from an answer, every answer from a lookup that asked for the key of its
id, and every lookup is accounted for. -/
structure Sound (base : Url) (lifetime : Nat) (traffic : Traffic) : Prop where
  sameBase : traffic.service.base = base
  sameLifetime : traffic.service.lifetime = lifetime
  cached : ∀ id cached, traffic.service.cache.get? id = some cached →
    ∃ answer ∈ traffic.answers, answer.Hands id cached.document
  asked : ∀ answer ∈ traffic.answers, answer.number < traffic.searches.length ∧
    Service.keyUrl? base answer.id = some answer.url
  accounted : ∀ number search, traffic.searches[number]? = some search →
    Accounted base lifetime traffic.answers number search

def start (base : Url) (lifetime : Nat) : Traffic where
  service := { base, lifetime }

theorem sound_start (base : Url) (lifetime : Nat) : (start base lifetime).Sound base lifetime where
  sameBase := rfl
  sameLifetime := rfl
  cached := fun _ _ impossible => nomatch impossible
  asked := fun _ impossible => nomatch impossible
  accounted := fun _ _ impossible => nomatch impossible

variable {traffic later : Traffic} {id : String} {url : Url} {reply : Option Http.Reply}

theorem Sound.get?_of_noUrl (sound : traffic.Sound base lifetime)
    (noUrl : Service.keyUrl? base id = none) : traffic.service.cache.get? id = none := by
  cases held : traffic.service.cache.get? id with
  | none => rfl
  | some cached =>
      rcases sound.cached id cached held with ⟨answer, member, same, _⟩
      have isUrl := (sound.asked answer member).2
      rw [same, noUrl] at isUrl
      cases isUrl

theorem Sound.opened (sound : traffic.Sound base lifetime) (id : String) :
    Accounted base lifetime traffic.answers traffic.searches.length (traffic.opened id) := by
  unfold Traffic.opened Service.start
  cases found : traffic.service.fresh? traffic.clock id with
  | some document =>
      rcases Service.fresh?_eq_some_iff.mp found with ⟨cached, held, rfl, young⟩
      rw [held]
      exact .fresh (sound.cached id cached held) (sound.sameLifetime ▸ young)
  | none =>
      rw [sound.sameBase]
      cases isUrl : Service.keyUrl? base id with
      | some url => exact .waiting isUrl
      | none =>
          rw [sound.get?_of_noUrl isUrl]
          exact .refused isUrl

theorem Sound.closing (sound : traffic.Sound base lifetime)
    (own : { number, id, url, reply } ∈ traffic.answers) :
    Accounted base lifetime traffic.answers number
      { id, stage := .ended (traffic.closing id reply) } := by
  unfold Traffic.closing
  rcases Service.documentOf_cases id reply with
    ⟨given, document, rfl, hands, isDocument⟩ | ⟨given, rfl, isMissing, isError⟩ | ⟨fault, fails⟩
  · rw [Service.finish_of_document isDocument]
    exact .fetched own hands
  · rw [Service.finish_of_missing isError]
    exact .missing own isMissing
  · rw [(Service.finish_of_fault fails).2]
    cases held : traffic.service.cache.get? id with
    | some cached => exact .stale own fails (sound.cached id cached held)
    | none => exact .failed own fails

theorem get?_finish (service : Service) (now : Nat) (id other : String)
    (reply : Option Http.Reply) :
    (service.finish now id reply).service.cache.get? other = service.cache.get? other ∨
      ∃ given document, other = id ∧ reply = some given ∧ Hands given document ∧
        (service.finish now id reply).result = .ok document ∧
        (service.finish now id reply).service.cache.get? other =
          some { document, fetchedAt := now } := by
  rcases Service.documentOf_cases id reply with
    ⟨given, document, rfl, hands, isDocument⟩ | ⟨given, rfl, isMissing, isError⟩ | ⟨fault, fails⟩
  · rw [Service.finish_of_document isDocument]
    by_cases same : other = id
    · rw [same]
      exact .inr ⟨given, document, rfl, rfl, hands, rfl, Register.get?_set_self ..⟩
    · exact .inl (Register.get?_set_of_ne _ same _)
  · rw [Service.finish_of_missing isError]
    exact .inl rfl
  · rw [(Service.finish_of_fault fails).1]
    exact .inl rfl

theorem base_finish (service : Service) (now : Nat) (id : String) (reply : Option Http.Reply) :
    (service.finish now id reply).service.base = service.base ∧
      (service.finish now id reply).service.lifetime = service.lifetime := by
  rcases Service.documentOf_cases id reply with
    ⟨_, _, _, _, isDocument⟩ | ⟨_, _, _, isError⟩ | ⟨_, fails⟩
  · rw [Service.finish_of_document isDocument]
    exact ⟨rfl, rfl⟩
  · rw [Service.finish_of_missing isError]
    exact ⟨rfl, rfl⟩
  · rw [(Service.finish_of_fault fails).1]
    exact ⟨rfl, rfl⟩

/-! Lookups are numbered in the order in which they begin, and keep their number. -/

section Numbers

variable {opened : Search} {searches : List Search} {changed : Nat}

theorem of_getElem?_concat (found : (searches ++ [opened])[number]? = some search) :
    searches[number]? = some search ∨ number = searches.length ∧ search = opened := by
  rw [List.getElem?_append] at found
  split at found
  · exact .inl found
  · rw [List.getElem?_singleton] at found
    split at found
    · cases found
      exact .inr ⟨by omega, rfl⟩
    · cases found

theorem of_getElem?_set (found : (searches.set changed opened)[number]? = some search) :
    searches[number]? = some search ∨ number = changed ∧ search = opened := by
  rw [List.getElem?_set] at found
  split at found
  · split at found
    · cases found
      rename_i same _
      exact .inr ⟨same.symm, rfl⟩
    · cases found
  · exact .inl found

end Numbers

theorem Sound.step (sound : traffic.Sound base lifetime) (step : traffic.Step later) :
    later.Sound base lifetime := by
  cases step with
  | wait time =>
      exact ⟨sound.sameBase, sound.sameLifetime, sound.cached, sound.asked, sound.accounted⟩
  | look id =>
      refine ⟨sound.sameBase, sound.sameLifetime, sound.cached, ?_, ?_⟩
      · intro answer member
        rcases sound.asked answer member with ⟨earlier, isUrl⟩
        refine ⟨?_, isUrl⟩
        rw [length_look]
        exact Nat.lt_succ_of_lt earlier
      · intro number search found
        rcases of_getElem?_concat found with found | ⟨rfl, rfl⟩
        · exact sound.accounted number search found
        · exact sound.opened id
  | @hear number id url waiting reply =>
      -- Nothing that was answered is lost, and of the lookups only the one that asked is at another
      -- stage.
      have kept : traffic.answers ⊆ (traffic.hear number id url reply).answers :=
        List.subset_append_left ..
      have own : { number, id, url, reply } ∈ (traffic.hear number id url reply).answers :=
        List.mem_append_right _ List.mem_cons_self
      refine ⟨sound.sameBase, sound.sameLifetime, ?_, ?_, ?_⟩
      · intro id cached held
        rcases sound.cached id cached held with ⟨answer, member, hands⟩
        exact ⟨answer, kept member, hands⟩
      · intro answer member
        rw [length_hear]
        rcases List.mem_append.mp member with member | isNew
        · exact sound.asked answer member
        · rcases List.mem_singleton.mp isNew with rfl
          refine ⟨(List.getElem?_eq_some_iff.mp waiting).1, ?_⟩
          cases sound.accounted number _ waiting with
          | waiting isUrl => exact isUrl
      · intro other search found
        rcases of_getElem?_set found with found | ⟨rfl, rfl⟩
        · exact (sound.accounted other search found).mono kept
        · exact .answered own
  | @close number id reply answered =>
      have own : ∃ url, { number, id, url, reply } ∈ traffic.answers := by
        cases sound.accounted number _ answered with
        | answered own => exact ⟨_, own⟩
      rcases own with ⟨url, own⟩
      -- The cache changes only by a document that this answer has handed over.
      rcases base_finish traffic.service traffic.clock id reply with ⟨sameBase, sameLifetime⟩
      refine ⟨sameBase.trans sound.sameBase, sameLifetime.trans sound.sameLifetime, ?_, ?_, ?_⟩
      · intro other cached held
        rcases get?_finish traffic.service traffic.clock id other reply with
          same | ⟨given, document, rfl, rfl, hands, _, isNew⟩
        · exact sound.cached other cached (same.symm.trans held)
        · cases isNew.symm.trans held
          exact ⟨_, own, rfl, given, rfl, hands⟩
      · intro answer member
        rw [length_close]
        exact sound.asked answer member
      · intro other search found
        rcases of_getElem?_set found with found | ⟨rfl, rfl⟩
        · exact sound.accounted other search found
        · exact sound.closing own

theorem Sound.leads (sound : traffic.Sound base lifetime) (leads : traffic.Leads later) :
    later.Sound base lifetime := by
  induction leads with
  | refl => exact sound
  | tail _ step induction => exact induction.step step

end Traffic

end TokenAuthority.Keys
