import NamespaceManifest.Evaluation.Module
import NamespaceManifest.Text.Lines
import NamespaceManifest.Text.Utf8
import NamespaceManifest.Work

/-!
# The environment of a command

Besides the file tree, work depends on the current folder, on the home folders of users, and on where
evaluators of modules come from.
-/

namespace NamespaceManifest

/-- The surroundings of a piece of work. -/
structure Environment where
  folder : Path
  home : String → Option Path := fun _ => none
  evaluatorOf : String → Except Error (Option Evaluator)

namespace Environment

/-- The evaluators of given modules. -/
def evaluatorsFrom (modules : Modules) (name : String) : Except Error (Option Evaluator) :=
  (modules.load name).map some

/-- A path with a home folder at its start written out. -/
def expand (env : Environment) (p : Path) : Except Error Path :=
  match p.homeUser? with
  | none => .ok p
  | some (user, parts) =>
      match env.home user with
      | some home => .ok { home with parts := home.parts ++ parts }
      | none => .error .homeUnknown

/-- The absolute path that a path means in the current folder. -/
def resolve (env : Environment) (p : Path) : Path :=
  env.folder.resolve p

end Environment

namespace Tree

/-- The text of a file with its newlines folded, which must be well formed. -/
def readText (t : Tree) (p : Path) : Except Error (Option (List Char)) := do
  match ← Error.atPath p (t.open? p) with
  | none => return none
  | some f =>
      match Text.Utf8.readStrict? f.bytes with
      | some s => .ok (some (Text.foldNewlines s.toList))
      | none => .error (.undecodable p)

end Tree
end NamespaceManifest
