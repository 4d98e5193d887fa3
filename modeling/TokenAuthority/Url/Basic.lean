import TokenAuthority.Url.Host

/-!
# Urls

The parts of a url, and its one written form. A path is either a list of segments or opaque: a text
below which no segment can be put.
-/

namespace TokenAuthority

namespace Url

inductive Path where
  | unstructured (text : String)
  | segments (segments : List String)
  deriving DecidableEq, Repr

end Url

structure Url where
  scheme : String
  username : String := ""
  password : String := ""
  host : Option Url.Host := none
  /-- Not there if it is the usual one of the scheme. -/
  port : Option Nat := none
  path : Url.Path
  query : Option String := none
  fragment : Option String := none
  deriving DecidableEq, Repr

namespace Url

/-! ## Schemes -/

def specialPorts : List (String × Option Nat) :=
  [("http", some 80), ("https", some 443), ("ws", some 80), ("wss", some 443), ("ftp", some 21),
   ("file", none)]

def isSpecialScheme (scheme : String) : Bool :=
  (specialPorts.lookup scheme).isSome

def usualPort? (scheme : String) : Option Nat :=
  (specialPorts.lookup scheme).join

def isSpecial (url : Url) : Bool :=
  isSpecialScheme url.scheme

/-! ## Printing -/

def printUserInfo (url : Url) : String :=
  if url.username.isEmpty && url.password.isEmpty then ""
  else
    url.username ++ (if url.password.isEmpty then "" else ":" ++ url.password) ++ "@"

def printAuthority (url : Url) : String :=
  match url.host with
  | none => ""
  | some host =>
      let port := match url.port with
        | some port => ":" ++ Nat.repr port
        | none => ""
      "//" ++ url.printUserInfo ++ host.print ++ port

/-- A path that starts with two slashes and follows no host is marked, so that it is not taken for a
host. -/
def printPath (url : Url) : String :=
  match url.path with
  | .unstructured text => text
  | .segments segments =>
      let mark := if url.host.isNone && 1 < segments.length && segments.head? == some "" then "/."
        else ""
      mark ++ String.join (segments.map ("/" ++ ·))

def print (url : Url) : String :=
  let query := match url.query with
    | some query => "?" ++ query
    | none => ""
  let fragment := match url.fragment with
    | some fragment => "#" ++ fragment
    | none => ""
  url.scheme ++ ":" ++ url.printAuthority ++ url.printPath ++ query ++ fragment

/-! ## Segments -/

/-- Takes an empty segment off the end of a path. A path of one empty segment is kept. -/
def popEmpty (segments : List String) : List String :=
  if 1 < segments.length ∧ segments.getLast? = some "" then segments.dropLast else segments

/-- Puts a segment at the end of a path. One empty segment alone makes room for it. -/
def push (segments : List String) (segment : String) : List String :=
  if segments = [""] then [segment] else segments ++ [segment]

end Url

end TokenAuthority
