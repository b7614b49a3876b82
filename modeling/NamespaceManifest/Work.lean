import NamespaceManifest.Error
import NamespaceManifest.Log

/-!
# Work on a file tree

A piece of work starts from a workspace and leaves a workspace, log records and an outcome.  A workspace
is a file tree and, if log records go to a file as well, the journal that adds them there.  Work that
fails leaves the workspace as it was at that point, and the records made up to then.

A journal keeps a hold of its file.  When the file is removed or another one takes its place, records
still go to the old file, which nobody sees any more.
-/

namespace NamespaceManifest

/-- Where log records are added in a tree: the path, the least level of records, the number of records
so far, and the time of a record by its number. -/
structure Journal where
  path : Path
  least : Level
  clock : Nat → String
  count : Nat := 0

/-- A file tree with a journal. -/
structure Workspace where
  tree : Tree
  journal : Option Journal := none

namespace Workspace

/-- A workspace after one more log record. -/
def record (s : Workspace) (r : LogRecord) : Workspace :=
  match s.journal with
  | none => s
  | some j =>
      if r.isShown j.least then
        let old := (s.tree.find? j.path.key).getD File.empty
        let line := (r.fileLine (j.clock j.count)).toUTF8
        { tree := s.tree.put j.path { old with bytes := old.bytes ++ line }
          journal := some { j with count := j.count + 1 } }
      else s

/-- A workspace after some log records. -/
def recordAll (s : Workspace) (log : List LogRecord) : Workspace :=
  log.foldl record s

/-- A workspace whose journal has lost its file, if that is at a path. -/
def release (s : Workspace) (p : Path) : Workspace :=
  { s with journal := s.journal.filter fun j => j.path.key != p.key }

end Workspace

/-- What a piece of work leaves. -/
structure Run (α : Type) where
  workspace : Workspace
  log : List LogRecord
  outcome : Except Error α

/-- A piece of work on a workspace. -/
def Work (α : Type) := Workspace → Run α

namespace Work

variable {α β : Type}

/-- Work that does nothing and has a result. -/
def done (a : α) : Work α :=
  fun s => { workspace := s, log := [], outcome := .ok a }

/-- Work followed by more work on its result and its workspace. -/
def andThen (x : Work α) (f : α → Work β) : Work β :=
  fun s =>
    match (x s).outcome with
    | .ok a =>
        let next := f a (x s).workspace
        { next with log := (x s).log ++ next.log }
    | .error e => { workspace := (x s).workspace, log := (x s).log, outcome := .error e }

instance : Monad Work where
  pure := done
  bind := andThen

/-- Work that fails at once. -/
def fail (e : Error) : Work α :=
  fun s => { workspace := s, log := [], outcome := .error e }

/-- Work that only has an outcome. -/
def ofExcept : Except Error α → Work α
  | .ok a => done a
  | .error e => fail e

/-- The outcome of looking at the tree. -/
def inspect (f : Tree → Except Error α) : Work α :=
  fun s => { workspace := s, log := [], outcome := f s.tree }

/-- The file at a path, if there is one. -/
def open? (p : Path) : Work (Option File) :=
  inspect fun t => Error.atPath p (t.open? p)

/-- Log records and nothing else. -/
def records (log : List LogRecord) : Work Unit :=
  fun s => { workspace := s.recordAll log, log := log, outcome := .ok () }

/-- One log record. -/
def note (level : Level) (channel : Channel) (message : String) : Work Unit :=
  records [{ level := level, channel := channel, message := message }]

/-- The folder of a path made, with the folders on the way to it. -/
def makeFolders (p : Path) : Work Unit :=
  fun s =>
    let (made, fault) := s.tree.makeFolders p
    { workspace := { s with tree := made }
      log := []
      outcome :=
        match fault with
        | some f => .error (.fileSystem p f)
        | none => .ok () }

/-- A file put at a path, in the place of the one that may be there. -/
def replaceFile (p : Path) (f : File) : Work Unit :=
  fun s =>
    { workspace := { s with tree := s.tree.put p f }.release p, log := [], outcome := .ok () }

/-- The file at a path removed. -/
def eraseFile (p : Path) : Work Unit :=
  fun s =>
    { workspace := { s with tree := s.tree.erase p }.release p, log := [], outcome := .ok () }

end Work
end NamespaceManifest
