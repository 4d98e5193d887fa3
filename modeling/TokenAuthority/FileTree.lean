import TokenAuthority.Text.Utf8

/-!
# Files

Folders with files and folders in them, as a reader finds them. A file may refuse to be read and a
folder to be listed. A folder whose listing breaks off midway counts as one that refuses from the
start, although a reader may find something wrong with a member that is listed before that, and
report this first.
-/

namespace TokenAuthority

inductive FileTree where
  | file (content : List UInt8)
  | unreadable
  | folder (members : List (String × FileTree))
  | unlistable

namespace FileTree

def emptyFolder : FileTree :=
  .folder []

/-! ## Building -/

def setMember (name : String) (member : FileTree) :
    List (String × FileTree) → List (String × FileTree)
  | [] => [(name, member)]
  | (first, held) :: rest =>
      if first = name then (name, member) :: rest else (first, held) :: setMember name member rest

def members : FileTree → List (String × FileTree)
  | .folder members => members
  | _ => []

/-- Puts something under a path, in folders that are made where there are none. A folder that is put
where one is stays as it is. -/
def put (placed : FileTree) : (path : List String) → FileTree → FileTree
  | [], held =>
      match placed, held with
      | .folder [], .folder members => .folder members
      | _, _ => placed
  | name :: rest, held =>
      let below := (held.members.lookup name).getD emptyFolder
      .folder (setMember name (put placed rest below) held.members)

/-! ## Finding -/

/-- What stands under a path. `above` are the folders on the way, nearest first: `..` leads back to
the nearest. -/
def findFrom? (above : List FileTree) : (path : List String) → FileTree → Option FileTree
  | [], held => some held
  | name :: rest, held =>
      match held with
      | .folder members =>
          if name = "" ∨ name = "." then findFrom? above rest held
          else if name = ".." then
            match above with
            | nearest :: others => findFrom? others rest nearest
            | [] => findFrom? [] rest held
          else
            match members.lookup name with
            | some member => findFrom? (held :: above) rest member
            | none => none
      | _ => none

def find? (path : List String) (tree : FileTree) : Option FileTree :=
  findFrom? [] path tree

def join (path name : String) : String :=
  if path.isEmpty ∨ path.endsWith "/" then path ++ name else path ++ "/" ++ name

end FileTree

end TokenAuthority
