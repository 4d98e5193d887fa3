import TokenAuthority.Http.Exchange
import TokenAuthority.Json.Record
import TokenAuthority.Keys.Lookup
import TokenAuthority.Messages
import TokenAuthority.Register

/-!
# The key service

Keys that another service keeps, with a cache in front. A document that is fresh is served without
asking. When the service fails, a document is served however old it is; when the service says that
it has no such key, none is served, and the cache stays as it was.

A lookup has two steps, since others may run while it waits: `start` finds a fresh document or says
what to ask for, and `finish` takes the reply.
-/

namespace TokenAuthority.Keys

structure KeyDocument where
  publicText : String
  privateText : Option String := none
  deriving DecidableEq, Repr

namespace KeyDocument

open Json in
def ofDocument? (document : Document) : Option KeyDocument := do
  let fields ← Fields.ofDocument? ["public_pem", "private_pem"] false document
  some {
    publicText := ← fields.required? "public_pem" Document.text?
    privateText := ← fields.optional? "private_pem" none (Document.nullable? Document.text?) }

end KeyDocument

/-- A document and the time at which it was fetched, in milliseconds. -/
structure Cached where
  document : KeyDocument
  fetchedAt : Nat
  deriving DecidableEq, Repr

structure Service where
  base : Url
  lifetime : Nat := 300000
  cache : Register Cached := Register.empty

namespace Service

def ofAddress (address : String) : Except ServiceFault Service :=
  match Url.parse? address with
  | none => .error (.badUrl address)
  | some url =>
      match url.path with
      | .unstructured _ => .error (.urlWithoutPath url.print)
      | .segments _ => .ok { base := url }

/-! ## Addresses of keys -/

def isControl (value : Char) : Bool :=
  value.toNat < 0x20 || (0x7F ≤ value.toNat && value.toNat < 0xA0)

def isSegment (id : String) : Bool :=
  !(id.isEmpty || id == "." || id == ".." || id.toList.any isControl)

def segmentOf (base : Url) (id : String) : String :=
  let reserved := if base.isSpecial then Url.Reserved.specialSegment else Url.Reserved.segment
  String.ofList (Text.Percent.encode reserved id.toList)

/-- Where the key of an id is: two segments below the base. -/
def keyUrl? (base : Url) (id : String) : Option Url :=
  match base.path with
  | .unstructured _ => none
  | .segments segments =>
      if isSegment id then
        let path := (Url.push (Url.push (Url.popEmpty segments) "keys") (segmentOf base id))
        some { base with path := .segments path, query := none, fragment := none }
      else none

/-! ## Lookup -/

def fresh? (service : Service) (now : Nat) (id : String) : Option KeyDocument :=
  match service.cache.get? id with
  | some cached => if now - cached.fetchedAt < service.lifetime then some cached.document else none
  | none => none

def isCached (service : Service) (now : Nat) (id : String) : Bool :=
  (service.fresh? now id).isSome

inductive Start where
  | found (document : KeyDocument)
  /-- No key has such an id. -/
  | refused
  | ask (url : Url)
  deriving DecidableEq, Repr

def start (service : Service) (now : Nat) (id : String) : Start :=
  match service.fresh? now id with
  | some document => .found document
  | none =>
      match keyUrl? service.base id with
      | none => .refused
      | some url => .ask url

def documentOf (id : String) : Option Http.Reply → Except KeyError KeyDocument
  | none => .error (.service .unreachable)
  | some reply =>
      if reply.status = .notFound then .error (.notFound id)
      else if reply.status.isSuccess then
        match Json.Document.meaning? KeyDocument.ofDocument? reply.body with
        | some document => .ok document
        | none => .error (.service .undecodable)
      else .error (.service (.refused reply.status))

/-- How a lookup ends: the service afterwards, the document or why there is none, and whether a
document was served that may no longer be fresh. -/
structure Finish where
  service : Service
  result : Except KeyError KeyDocument
  isStale : Bool := false

def finish (service : Service) (now : Nat) (id : String) (reply : Option Http.Reply) : Finish :=
  match documentOf id reply with
  | .ok document =>
      { service := { service with cache := service.cache.set id { document, fetchedAt := now } }
        result := .ok document }
  | .error (.service fault) =>
      match service.cache.get? id with
      | some cached => { service, result := .ok cached.document, isStale := true }
      | none => { service, result := .error (.service fault) }
  | .error fault => { service, result := .error fault }

def messageAt (url : Url) : Http.Message where
  method := "GET"
  url := url.print

def find (service : Service) (now : Nat) (id : String) (transport : Http.Transport)
    (sent : List Http.Message) : Finish :=
  match service.start now id with
  | .found document => { service, result := .ok document }
  | .refused => { service, result := .error (.notFound id) }
  | .ask url =>
      let reply := Http.exchange transport sent (messageAt url)
      service.finish (now + reply.delay) id reply.value

/-! ## Keys -/

def publicKey (found : Except KeyError KeyDocument) : Except KeyError String :=
  found.map (·.publicText)

def privateKey (id : String) (found : Except KeyError KeyDocument) : Except KeyError String :=
  match found with
  | .ok document =>
      match document.privateText with
      | some text => .ok text
      | none => .error (.privateKeyUnavailable id)
  | .error fault => .error fault

end Service

end TokenAuthority.Keys
