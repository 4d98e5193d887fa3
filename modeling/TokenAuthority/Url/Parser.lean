import TokenAuthority.Url.Basic
import TokenAuthority.Word

/-!
# Reading urls

Reads an absolute url the way browsers do: blanks around it and line breaks in it do not matter, a
backslash is as good as a slash where hosts are domains, dots in paths are followed, and what may
not stand for itself is encoded. What is already encoded stays as it is.
-/

namespace TokenAuthority.Url

/-! ## Cutting -/

/-- What counts of a text: no control characters or blanks at its ends, no tabs or line breaks. -/
def relevant (text : List Char) : List Char :=
  let isMargin := fun value : Char => value.toNat ≤ 0x20
  let trimmed := ((text.dropWhile isMargin).reverse.dropWhile isMargin).reverse
  trimmed.filter fun value => value != '\t' && value != '\n' && value != '\r'

def cut (mark : Char) (text : List Char) : List Char × Option (List Char) :=
  match text.span (· != mark) with
  | (before, _ :: after) => (before, some after)
  | (before, []) => (before, none)

def cutLast (mark : Char) (text : List Char) : Option (List Char) × List Char :=
  match text.reverse.span (· != mark) with
  | (after, _ :: before) => (some before.reverse, after.reverse)
  | (_, []) => (none, text)

def cutScheme? (text : List Char) : Option (String × List Char) :=
  let isSchemeChar := fun value : Char =>
    value.isAlphanum || value == '+' || value == '-' || value == '.'
  match text, text.span isSchemeChar with
  | first :: _, (scheme, ':' :: rest) =>
      if first.isAlpha then some (String.ofList (scheme.map Char.toLower), rest) else none
  | _, _ => none

/-! ## Hosts and ports -/

/-- The text in front of the colon of a port and what follows. Colons in brackets do not count. -/
def cutPort : (inBrackets : Bool) → List Char → List Char × Option (List Char)
  | _, [] => ([], none)
  | inBrackets, value :: rest =>
      if value = ':' ∧ inBrackets = false then ([], some rest)
      else
        let inside := value = '[' ∨ (inBrackets ∧ value ≠ ']')
        let (before, after) := cutPort (decide inside) rest
        (value :: before, after)

def port? (scheme : String) (digits : List Char) : Option (Option Nat) :=
  match digits with
  | [] => some none
  | _ =>
      match (Text.digits? digits).filter (· < Word.size16) with
      | some port => some (if usualPort? scheme = some port then none else some port)
      | none => none

structure Authority where
  username : String := ""
  password : String := ""
  host : Host
  port : Option Nat := none

def encoded (reserved : Char → Bool) (text : List Char) : String :=
  String.ofList (Text.Percent.encode reserved text)

/-- Reads an authority, and gives what stands behind its port: a backslash ends a port under any
scheme. Whoever has a name or a password is on a host. An empty name and no password count only at
the very end of a url, `isEnd`. -/
def authority? (scheme : String) (isEnd : Bool) (text : List Char) :
    Option (Authority × List Char) := do
  let (userInfo, address) := cutLast '@' text
  let (username, password) := cut ':' (userInfo.getD [])
  let (name, behind) := cutPort false address
  let (digits, left) := (behind.getD []).span (· != '\\')
  let port ← port? scheme digits
  let isSpecial := isSpecialScheme scheme
  let isNobody := username.isEmpty && (password.getD []).isEmpty
  let isMissing := userInfo == some [] && address.isEmpty && !isEnd
  if name.isEmpty && (isSpecial || behind.isSome || !isNobody || isMissing) then none
  else
    let host ← if isSpecial then Host.ofDomain? name else Host.ofName? name
    let authority := {
      username := encoded Reserved.userInfo username
      password := encoded Reserved.userInfo (password.getD [])
      host, port }
    some (authority, left)

/-! ## Paths -/

def isDots (spellings : List String) (segment : List Char) : Bool :=
  spellings.contains (String.ofList (segment.map Char.toLower))

def leadsUp (segment : List Char) : Bool :=
  isDots ["..", ".%2e", "%2e.", "%2e%2e"] segment

def leadsNowhere (segment : List Char) : Bool :=
  isDots [".", "%2e"] segment

/-- Whether a segment is a drive: a letter and a colon, or a bar in its place. -/
def isDrive (segment : String) : Bool :=
  match segment.toList with
  | [letter, mark] => letter.isAlpha && (mark == ':' || mark == '|')
  | _ => false

/-- The segments above those reached. Nothing is above a drive. -/
def above (reached : List String) : List String :=
  if reached.getLast?.any isDrive then reached else reached.dropLast

def follow (reached : List String) : List (List Char) → List String
  | [] => reached
  | segment :: rest =>
      let reached :=
        if leadsUp segment then above reached
        else if leadsNowhere segment then reached
        else reached ++ [encoded Reserved.path segment]
      if rest.isEmpty && (leadsUp segment || leadsNowhere segment) then reached ++ [""]
      else follow reached rest

def followed (isSpecial : Bool) (text : List Char) : List String :=
  let text := if isSpecial then text.map fun value => if value = '\\' then '/' else value else text
  follow [] (Text.segments '/' text)

def isSlash (isSpecial : Bool) (value : Char) : Bool :=
  value == '/' || (isSpecial && value == '\\')

def behindSlash (isSpecial : Bool) (text : List Char) : List Char :=
  if text.head?.any (isSlash isSpecial) then text.tail else text

def pathOf (isSpecial : Bool) (text : List Char) : Path :=
  if text.isEmpty && !isSpecial then .segments []
  else .segments (followed isSpecial (behindSlash isSpecial text))

/-! ## Urls -/

structure Address where
  authority : Option Authority := none
  path : Path

def hostAndPath? (scheme : String) (isEnd : Bool) (text : List Char) : Option Address := do
  let isSpecial := isSpecialScheme scheme
  let (front, path) := text.span fun value => !isSlash isSpecial value
  let (authority, left) ← authority? scheme (isEnd && path.isEmpty) front
  some { authority := some authority, path := pathOf isSpecial (left ++ path) }

/-- The segments without empty ones at the front, of which one stays if nothing else is left. -/
def trimFront (segments : List String) : List String :=
  match segments.dropWhile (·.isEmpty) with
  | [] => [""]
  | segments => segments

/-- A file on a host. What lies on a drive is on no host, and a colon marks the drive. -/
def fileOn (host : Host) (text : List Char) : Address :=
  match followed true text with
  | first :: rest =>
      if isDrive first then
        let drive := String.ofList (first.toList.take 1 ++ [':'])
        { authority := some { host := .name "" }, path := .segments (drive :: rest) }
      else { authority := some { host }, path := .segments (trimFront (first :: rest)) }
  | [] => { authority := some { host }, path := .segments [""] }

def file? (text : List Char) : Option Address :=
  match text.span (isSlash true) with
  | (_ :: _ :: slashes, rest) =>
      let (name, path) := (slashes ++ rest).span fun value => !isSlash true value
      if name.isEmpty || isDrive (String.ofList name) then
        some (fileOn (.name "") (slashes ++ rest))
      else
        (Host.ofDomain? name).map fun host =>
          if host = .name "localhost" then fileOn (.name "") path
          else fileOn host (behindSlash true path)
  | (_, rest) => some (fileOn (.name "") rest)

def address? (scheme : String) (isEnd : Bool) (text : List Char) : Option Address :=
  if scheme = "file" then file? text
  else if isSpecialScheme scheme then hostAndPath? scheme isEnd (text.dropWhile (isSlash true))
  else
    match text with
    | '/' :: '/' :: rest => hostAndPath? scheme isEnd rest
    | '/' :: _ => some { path := pathOf false text }
    | _ => some { path := .unstructured (encoded Reserved.control text) }

def parse? (text : String) : Option Url := do
  let (scheme, rest) ← cutScheme? (relevant text.toList)
  let (rest, fragment) := cut '#' rest
  let (rest, query) := cut '?' rest
  let address ← address? scheme (query.isNone && fragment.isNone) rest
  let reserved := if isSpecialScheme scheme then Reserved.specialQuery else Reserved.query
  some {
    scheme
    username := (address.authority.map (·.username)).getD ""
    password := (address.authority.map (·.password)).getD ""
    host := address.authority.map (·.host)
    port := address.authority.bind (·.port)
    path := address.path
    query := query.map (encoded reserved)
    fragment := fragment.map (encoded Reserved.fragment) }

end TokenAuthority.Url
