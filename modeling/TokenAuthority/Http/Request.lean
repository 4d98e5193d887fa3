import TokenAuthority.Net.Address
import TokenAuthority.Register
import TokenAuthority.Text.Utf8

/-!
# Requests

A request as it arrives: nothing is decoded, neither the path nor a header nor the body. A header
may come several times, and the first one counts.
-/

namespace TokenAuthority.Http

/-! ## Targets -/

/-- What a request is about: a path with or without a query, or a mere host. -/
inductive Target where
  | place (path : String) (query : Option String)
  | host
  deriving DecidableEq, Repr

namespace Target

def path : Target → String
  | .place path _ => if path.isEmpty then "/" else path
  | .host => ""

def text : Target → String
  | .place path none => if path.isEmpty then "/" else path
  | .place path (some query) => path ++ "?" ++ query
  | .host => ""

def ofPlace (text : List Char) : Target :=
  let (path, rest) := (text.takeWhile (· != '#')).span (· != '?')
  match rest with
  | _ :: query => .place (String.ofList path) (some (String.ofList query))
  | [] => .place (String.ofList path) none

def behindHost? : List Char → Option (List Char)
  | ':' :: '/' :: '/' :: rest => some (rest.dropWhile fun c => c != '/' && c != '?' && c != '#')
  | _ :: rest => behindHost? rest
  | [] => none

def ofLine (line : String) : Target :=
  match line.toList with
  | '/' :: rest => ofPlace ('/' :: rest)
  | ['*'] => .place "*" none
  | text =>
      match behindHost? text with
      | some rest => ofPlace rest
      | none => .host

example : (ofLine "http://h/x?y#z").text = "/x?y" := by decide +kernel
example : (ofLine "http://h").text = "/" := by decide +kernel

end Target

/-! ## Headers -/

def headerName (name : String) : String :=
  String.ofList (name.toList.map Char.toLower)

def isHeaderText (byte : UInt8) : Bool :=
  byte = 9 || (32 ≤ byte.toNat && byte.toNat < 127)

/-! ## Bodies -/

/-- A body as it comes in. Reading fails when more bytes come than `bound` allows. -/
structure Body where
  bytes : List UInt8 := []
  bound : Option Nat := none
  deriving DecidableEq, Repr

namespace Body

def read? (limit : Nat) (body : Body) : Option (List UInt8) :=
  let length := body.bytes.length
  if length ≤ limit && body.bound.all (length ≤ ·) then some body.bytes else none

end Body

/-! ## Requests -/

structure Request where
  method : String := "GET"
  target : Target
  headers : List (String × List UInt8) := []
  body : Body := {}
  sender : Option Net.Endpoint := none
  deriving DecidableEq, Repr

namespace Request

/-- The first header of a name, if all of it is text. -/
def headerText? (request : Request) (name : String) : Option String :=
  match request.headers.find? fun header => headerName header.1 == headerName name with
  | some (_, value) =>
      if value.all isHeaderText then
        some (String.ofList (value.map fun byte => Char.ofNat byte.toNat))
      else none
  | none => none

end Request

end TokenAuthority.Http
