import NamespaceManifest.File.Path

/-!
# File trees

A file tree is what a program sees of a file system: the files below the root with their bytes and
permission bits, and the folders.  All changes to files are functions on trees.

A path is followed part by part.  Every part before the last one has to be a folder, also where a `..`
leads back out of it.  A change that the tree does not allow has a fault.
-/

namespace NamespaceManifest

/-- A file: its bytes and its permission bits. -/
structure File where
  bytes : ByteArray
  mode : Nat
  deriving BEq

instance : DecidableEq File
  | ⟨bytes, mode⟩, ⟨bytes', mode'⟩ =>
      match ByteArray.instDecidableEq bytes bytes', Nat.decEq mode mode' with
      | isTrue hbytes, isTrue hmode => isTrue (by rw [hbytes, hmode])
      | isFalse hbytes, _ => isFalse fun h => hbytes (congrArg File.bytes h)
      | _, isFalse hmode => isFalse fun h => hmode (congrArg File.mode h)

/-- The permission bits of a new file: its owner may write, all may read. -/
def File.newMode : Nat := 0o644

/-- The file without any bytes. -/
def File.empty : File := ⟨ByteArray.empty, File.newMode⟩

/-- Files and folders, by their parts below the root. -/
structure Tree where
  files : List (List String × File) := []
  folders : List (List String) := []

/-- What a path leads to: a file, a folder, nothing, a file where a folder is needed on the way, or a
part that no file can be named. -/
inductive Place where
  | file (f : File)
  | folder
  | missing
  | blocked
  | unnamable

/-- Why a file system refuses a change or a look. -/
inductive FileFault where
  | missing
  | occupied
  | notAFolder
  | isAFolder
  | nameTooLong
  deriving Repr, BEq, DecidableEq

/-- A fault in words. -/
def FileFault.message : FileFault → String
  | missing => "[Errno 2] No such file or directory"
  | occupied => "[Errno 17] File exists"
  | notAFolder => "[Errno 20] Not a directory"
  | isAFolder => "[Errno 21] Is a directory"
  | nameTooLong => "[Errno 36] File name too long"

namespace Tree

/-- The greatest number of bytes of a part of a path. -/
def nameLimit : Nat := 255

/-- The file at a key. -/
def find? (t : Tree) (key : List String) : Option File :=
  t.files.lookup key

/-- Whether a key is a folder; the root is one. -/
def isFolder (t : Tree) (key : List String) : Bool :=
  key.isEmpty || t.folders.contains key

/-- What parts lead to from a folder, which is given by its parts, last first. -/
def walk (t : Tree) : List String → List String → Place
  | _, [] => .folder
  | done, part :: parts =>
      if part == ".." then walk t (done.drop 1) parts
      else if nameLimit < part.utf8ByteSize then .unnamable
      else if t.isFolder (part :: done).reverse then walk t (part :: done) parts
      else
        match t.find? (part :: done).reverse, parts with
        | some f, [] => .file f
        | some _, _ => .blocked
        | none, _ => .missing

/-- What a path leads to. -/
def probe (t : Tree) (p : Path) : Place :=
  t.walk [] p.parts

/-- The file at a path, if there is one; a folder cannot be opened. -/
def open? (t : Tree) (p : Path) : Except FileFault (Option File) :=
  match t.probe p with
  | .file f => .ok (some f)
  | .folder => .error .isAFolder
  | .unnamable => .error .nameTooLong
  | .missing | .blocked => .ok none

/-- Whether a path leads to a folder. -/
def hasFolder (t : Tree) (p : Path) : Except FileFault Bool :=
  match t.probe p with
  | .folder => .ok true
  | .unnamable => .error .nameTooLong
  | _ => .ok false

/-- A tree with folders added. -/
def addFolders (t : Tree) (keys : List (List String)) : Tree :=
  { t with folders := t.folders ++ keys.filter fun k => !t.folders.contains k }

/-- A tree in which a path holds a file, in a folder that is there. -/
def put (t : Tree) (p : Path) (f : File) : Tree :=
  { t with files := (p.key, f) :: t.files.filter fun entry => entry.1 != p.key }

/-- A tree without the file at a path. -/
def erase (t : Tree) (p : Path) : Tree :=
  { t with files := t.files.filter fun entry => entry.1 != p.key }

/-- A tree with one more folder, in a folder that must be there.  The parts are given last first. -/
def addFolder (t : Tree) : List String → Except FileFault Tree
  | [] => .error .occupied
  | part :: before =>
      match t.walk [] before.reverse with
      | .missing => .error .missing
      | .file _ | .blocked => .error .notAFolder
      | .unnamable => .error .nameTooLong
      | .folder =>
          match t.walk [] (part :: before).reverse with
          | .missing => .ok (t.addFolders [({ parts := (part :: before).reverse } : Path).key])
          | .unnamable => .error .nameTooLong
          | _ => .error .occupied

/-- A folder that could not be added does no harm if there is one already. -/
def settle (t : Tree) (parts : List String) : Except FileFault Tree → Tree × Option FileFault
  | .ok made => (made, none)
  | .error fault =>
      match t.walk [] parts.reverse with
      | .folder => (t, none)
      | _ => (t, some fault)

/-- A tree with a folder and all folders on the way to it, as far as these can be added.  The parts are
given last first. -/
def addPath (t : Tree) : List String → Tree × Option FileFault
  | [] => (t, none)
  | part :: before =>
      match t.addFolder (part :: before) with
      | .error .missing =>
          match addPath t before with
          | (made, none) => made.settle (part :: before) (made.addFolder (part :: before))
          | (made, some fault) => (made, some fault)
      | result => t.settle (part :: before) result

/-- A tree in which a path leads to a folder, if that is possible. -/
def makeFolders (t : Tree) (p : Path) : Tree × Option FileFault :=
  t.addPath p.parts.reverse

/-- A tree in which a path holds a file, in folders that are made if they are missing. -/
def store (t : Tree) (p : Path) (f : File) : Tree × Option FileFault :=
  match t.makeFolders p.parent with
  | (made, some fault) => (made, some fault)
  | (made, none) =>
      match made.open? p with
      | .error fault => (made, some fault)
      | .ok _ => (made.put p f, none)

/-- A tree without the file at a path, which must be there. -/
def remove (t : Tree) (p : Path) : Except FileFault Tree :=
  match t.probe p with
  | .file _ => .ok (t.erase p)
  | .folder => .error .isAFolder
  | .missing => .error .missing
  | .blocked => .error .notAFolder
  | .unnamable => .error .nameTooLong

end Tree
end NamespaceManifest
