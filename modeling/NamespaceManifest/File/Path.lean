/-!
# Paths

A path is a sequence of parts, relative or below the root of the file system.  Empty parts and the
part `.` are left out when a path is read; the part `..` is kept until the path is resolved.  A root
written with exactly two slashes keeps both.
-/

namespace NamespaceManifest

/-- A path: the number of slashes of its root, and its parts. -/
structure Path where
  slashes : Nat := 0
  parts : List String := []
  deriving Repr, BEq, DecidableEq

namespace Path

/-- A text cut at its slashes. -/
def cutAtSlashes : List Char → List (List Char)
  | [] => [[]]
  | c :: s =>
      if c = '/' then [] :: cutAtSlashes s
      else
        match cutAtSlashes s with
        | [] => [[c]]
        | piece :: pieces => (c :: piece) :: pieces

/-- The path that a text denotes. -/
def ofText (s : String) : Path :=
  let leading := (s.toList.takeWhile (· == '/')).length
  let pieces := (cutAtSlashes s.toList).map String.ofList
  { slashes := if leading == 0 then 0 else if leading == 2 then 2 else 1
    parts := pieces.filter fun p => p != "" && p != "." }

/-- A path as text; the empty relative path is a dot. -/
def display (p : Path) : String :=
  if p.slashes == 0 && p.parts.isEmpty then "."
  else String.ofList (List.replicate p.slashes '/') ++ "/".intercalate p.parts

/-- Whether a path starts at the root of the file system. -/
def isAbsolute (p : Path) : Bool :=
  p.slashes != 0

/-- A path read from inside a folder: an absolute one stays as it is. -/
def join (folder p : Path) : Path :=
  if p.isAbsolute then p else { folder with parts := folder.parts ++ p.parts }

/-- The path of a text read from inside a folder. -/
def joinText (folder : Path) (s : String) : Path :=
  folder.join (ofText s)

/-- The last part of a path. -/
def name (p : Path) : String :=
  p.parts.getLast?.getD ""

/-- A path without its last part. -/
def parent (p : Path) : Path :=
  { p with parts := p.parts.dropLast }

/-- Parts with every `..` carried out against the parts before it, which are given last first. -/
def collapseOnto : List String → List String → List String
  | done, [] => done.reverse
  | done, part :: parts =>
      if part == ".." then collapseOnto (done.drop 1) parts else collapseOnto (part :: done) parts

/-- The parts of a path below the root, with every `..` carried out. -/
def key (p : Path) : List String :=
  collapseOnto [] p.parts

/-- The absolute path without `..` that a path means inside a folder. -/
def resolve (folder p : Path) : Path :=
  let whole := folder.join p
  { whole with parts := whole.key }

/-- A path as seen from a folder that contains it. -/
def relativeTo? (folder p : Path) : Option Path :=
  if folder.slashes == p.slashes && folder.parts.isPrefixOf p.parts then
    some { slashes := 0, parts := p.parts.drop folder.parts.length }
  else none

/-- The user whose home folder a path starts from, with the parts after it. -/
def homeUser? (p : Path) : Option (String × List String) :=
  match p.slashes, p.parts with
  | 0, first :: parts =>
      match first.toList with
      | '~' :: user => some (String.ofList user, parts)
      | _ => none
  | _, _ => none

end Path
end NamespaceManifest
