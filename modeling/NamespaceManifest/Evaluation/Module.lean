import NamespaceManifest.Error
import NamespaceManifest.Evaluation.Fragment

/-!
# Modules as environments

A set of modules is given by name.  A module inside another one is written with dots, and is missing
when one of the modules on the way to it is.  A name that starts with a dot means nothing by itself.
-/

namespace NamespaceManifest

/-- Modules by name. -/
abbrev Modules := List (String × Bindings)

namespace Modules

/-- What is said of a module that does not exist, with the module that it should be inside of. -/
def missingText (outer : Option String) (name : String) : String :=
  "No module named " ++ Text.Literal.quote name
    ++ match outer with
      | some other => "; " ++ Text.Literal.quote other ++ " is not a package"
      | none => ""

/-- Why a module is missing, judged by the dotted names on the way to it. -/
def whyMissing (modules : Modules) : Option String → List String → Option String
  | _, [] => none
  | outer, part :: parts =>
      let here :=
        match outer with
        | some name => name ++ "." ++ part
        | none => part
      if (modules.lookup here).isSome then whyMissing modules (some here) parts
      else some (missingText outer here)

/-- The evaluator of a module. -/
def load (modules : Modules) (name : String) : Except Error Evaluator :=
  if name.isEmpty then .error .moduleUnnamed
  else if name.toList.head? == some '.' then .error (.moduleRelative name)
  else
    match whyMissing modules none (name.splitOn "."), modules.lookup name with
    | none, some bindings => .ok (Evaluator.ofBindings bindings)
    | some reason, _ => .error (.evaluation ⟨"", .moduleMissing name reason⟩)
    | none, none => .error (.evaluation ⟨"", .moduleMissing name (missingText none name)⟩)

end Modules
end NamespaceManifest
