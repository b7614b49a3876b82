import NamespaceManifest.Block.Basic
import NamespaceManifest.Evaluation.Token
import NamespaceManifest.Text.Utf8

/-!
# Evaluation of code fragments

An evaluator runs a fragment of code in the environment of a module and returns a value, which has
to be a text or a list of texts: these are manifest lines.

An evaluator can fail with an evaluation error of its own, which is passed on as it is, or in a way
that becomes an evaluation error only where the fragment stands.
-/

namespace NamespaceManifest

/-- Why an evaluation gives no manifest lines. -/
inductive EvaluationFault where
  | noEnvironment
  | failed (reason : String)
  | badResult (kind : String)
  | reported (text : String)
  | moduleMissing (name reason : String)
  deriving Repr, BEq, DecidableEq

/-- A fault in words. -/
def EvaluationFault.message : EvaluationFault → String
  | noEnvironment => "@evalNamespace requires a live module environment"
  | failed reason => "@evalNamespace failed: " ++ reason
  | badResult kind =>
      "evalNamespace must return a string or a sequence of strings, got " ++ kind
  | reported text => text
  | moduleMissing name reason => "Cannot import module '" ++ name ++ "': " ++ reason

/-- A fault and the location of the fragment, if it has one. -/
structure EvaluationError where
  location : String
  fault : EvaluationFault
  deriving Repr, BEq, DecidableEq

/-- An evaluation error in words. -/
def EvaluationError.message (e : EvaluationError) : String :=
  if e.location.isEmpty then e.fault.message
  else "[" ++ e.location ++ "] " ++ e.fault.message

/-- How an evaluator can fail on a fragment. -/
inductive FragmentFailure where
  | reported (e : EvaluationError)
  | unbound (name : String)
  | unknownFragment (code : String)
  | malformed (fault : Fragment.Fault) (location : String) (line : Nat)
  | nullCharacter
  deriving Repr, BEq, DecidableEq

namespace FragmentFailure

/-- How many bytes of a name a message shows. -/
def nameLimit : Nat := 200

/-- A name as messages show it: its first bytes, with a character that is cut there replaced. -/
def shownName (name : String) : String :=
  String.ofList (Text.Utf8.readLossy (name.toUTF8.extract 0 nameLimit))

/-- What stands after the last slash of a text. -/
def lastPart (s : String) : String :=
  String.ofList (s.toList.reverse.takeWhile (· != '/')).reverse

/-- A failure in words. -/
def message : FragmentFailure → String
  | reported e => e.message
  | unbound name => "name '" ++ shownName name ++ "' is not defined"
  | unknownFragment code => "unknown fragment: " ++ code
  | malformed fault location line =>
      fault.message ++ " (" ++ lastPart location ++ ", line " ++ toString line ++ ")"
  | nullCharacter => "source code string cannot contain null bytes"

end FragmentFailure

/-- Runs fragments for blocks; an announced one leaves a log record for every fragment. -/
structure Evaluator where
  run : String → Block → Except FragmentFailure Value
  announced : Bool := false

namespace Evaluation

/-- The texts of a list, if it holds nothing else. -/
def texts? : List Value → Option (List String)
  | [] => some []
  | .text s :: items => (texts? items).map (s :: ·)
  | _ :: _ => none

/-- The manifest lines that a result stands for. -/
def toLines (location : String) (result : Value) : Except EvaluationError (List String) :=
  match result with
  | .text s => .ok [s]
  | .list items =>
      match texts? items with
      | some lines => .ok lines
      | none => .error ⟨location, .badResult result.kindName⟩
  | _ => .error ⟨location, .badResult result.kindName⟩

/-- The manifest lines of a fragment of a block. -/
def linesOf (evaluator : Option Evaluator) (block : Block) (code : String) :
    Except EvaluationError (List String) :=
  match evaluator with
  | none => .error ⟨block.location, .noEnvironment⟩
  | some e =>
      match e.run code block with
      | .ok result => toLines block.location result
      | .error (.reported error) => .error error
      | .error failure => .error ⟨block.location, .failed failure.message⟩

end Evaluation
end NamespaceManifest
