import TokenAuthority.FileTree
import TokenAuthority.Keys.Lookup
import TokenAuthority.Keys.Material
import TokenAuthority.Register
import TokenAuthority.Text.Blank

/-!
# Key stores

Key material under its ids, filled once and only read after that. A store is made from a list, in
which the last material of an id counts, or from a folder of armoured files.
-/

namespace TokenAuthority.Keys

structure Store where
  materials : Register Material

namespace Store

def empty : Store where
  materials := Register.empty

def insert (store : Store) (material : Material) : Store where
  materials := store.materials.set material.id material

def ofList (materials : List Material) : Store :=
  materials.foldl insert empty

def get (store : Store) (id : String) : Except KeyError Material :=
  match store.materials.get? id with
  | some material => .ok material
  | none => .error (.notFound id)

def ids (store : Store) : List String :=
  store.materials.names

def size (store : Store) : Nat :=
  store.materials.entries.length

def isEmpty (store : Store) : Bool :=
  store.materials.entries.isEmpty

def lookup (store : Store) : Lookup where
  privateKey id := .now ((store.get id).map (·.privateText))
  publicKey id := .now ((store.get id).map (·.publicText))

end Store

/-! ## Folders -/

/-- How many bytes of a file are read; what follows is left unread. -/
def maximumSize : Nat := 1024 * 1024

def ending : List Char := ".pem".toList

/-- The name of a file without its ending, if the file counts. A name of two dots in front of the
ending is kept whole, since one dot is no name. -/
def stem? (name : String) : Option String :=
  let text := name.toList
  let stem := text.take (text.length - ending.length)
  if ending.length < text.length ∧ text.drop (text.length - ending.length) = ending then
    some (if stem = ['.'] then ".." else String.ofList stem)
  else none

def textOf (path : String) (content : List UInt8) : Except KeyError String :=
  let read := content.take maximumSize
  if read.all Text.isBlankByte then .error (.emptyFile path)
  else
    match Text.decode? read with
    | some text => .ok text
    | none => .error (.invalidKey path .notText)

def materialOf (path id : String) (content : List UInt8) : Except KeyError Material := do
  let text ← textOf path content
  (Material.ofPrivate id text).mapError (.invalidKey path)

def idOf (above : List String) (stem : String) : String :=
  "/".intercalate (above ++ [stem])

mutual

def materialsIn (path : String) (above : List String) (name : String) :
    FileTree → Except KeyError (List Material)
  | .folder members => materialsAmong (FileTree.join path name) (above ++ [name]) members
  | .unlistable => .error (.unlistable (FileTree.join path name))
  | .file content =>
      match stem? name with
      | some stem => do
          let material ← materialOf (FileTree.join path name) (idOf above stem) content
          .ok [material]
      | none => .ok []
  | .unreadable =>
      match stem? name with
      | some _ => .error (.unreadable (FileTree.join path name))
      | none => .ok []

def materialsAmong (path : String) (above : List String) :
    List (String × FileTree) → Except KeyError (List Material)
  | [] => .ok []
  | (name, member) :: rest => do
      let first ← materialsIn path above name member
      let others ← materialsAmong path above rest
      .ok (first ++ others)

end

namespace Store

/-- The store of a folder. One bad file is enough for there to be none. -/
def load (path : String) (root : Option FileTree) : Except KeyError Store :=
  match root with
  | some (.folder members) => (materialsAmong path [] members).map ofList
  | _ => .error (.unlistable path)

end Store

end TokenAuthority.Keys
