import NamespaceManifest.Text.Lines
import NamespaceManifest.Text.Literal
import NamespaceManifest.Text.Digit

/-!
# Options and arguments

A command line is a list of words.  Some of them are options, which may take a value, and the others
are arguments.

* A word that starts with a hyphen is an option if it is the name of one, or the start of exactly one
  long name.  A value may follow a long name after an equals sign.
* One hyphen may join several options of one letter.
* A negative number, a single hyphen and a word with a space are arguments, and so is everything after
  two hyphens alone.

Words that look like options and are none of those known here are kept for the end.
-/

namespace NamespaceManifest
namespace CommandLine

/-- What an option sets. -/
inductive Setting where
  | help
  | verbose
  | quiet
  | logFile
  | blocks
  | module
  | importsOnly
  | dryRun
  | host
  | port
  deriving Repr, BEq, DecidableEq

/-- An option: its names, what it sets, and whether it takes a value. -/
structure Flag where
  names : List String
  setting : Setting
  takesValue : Bool
  deriving Repr, BEq, DecidableEq

/-- The names of an option as messages show them. -/
def Flag.label (f : Flag) : String :=
  "/".intercalate f.names

/-- What is wrong with a command line. -/
inductive UsageFault where
  | commandMissing
  | unrecognized (words : List String)
  | unknownCommand (word : String)
  | valueMissing (flag : Flag)
  | valueUnused (flag : Flag) (value : String)
  | notAnInteger (flag : Flag) (value : String)
  | ambiguous (word : String) (names : List String)
  deriving Repr, BEq, DecidableEq

/-- The commands. -/
def commandNames : List String :=
  ["build", "clean", "serve"]

/-- A fault in words. -/
def UsageFault.message : UsageFault → String
  | commandMissing => "the following arguments are required: command"
  | unrecognized words => "unrecognized arguments: " ++ " ".intercalate words
  | unknownCommand word =>
      "argument command: invalid choice: " ++ Text.Literal.quote word ++ " (choose from "
        ++ ", ".intercalate (commandNames.map Text.Literal.quote) ++ ")"
  | valueMissing flag => "argument " ++ flag.label ++ ": expected one argument"
  | valueUnused flag value =>
      "argument " ++ flag.label ++ ": ignored explicit argument " ++ Text.Literal.quote value
  | notAnInteger flag value =>
      "argument " ++ flag.label ++ ": invalid int value: " ++ Text.Literal.quote value
  | ambiguous word names =>
      "ambiguous option: " ++ word ++ " could match " ++ ", ".intercalate names

/-- A word of a command line: an argument, two hyphens alone, or an option by one of its names with the
value that is written together with it. -/
inductive Word where
  | argument
  | divider
  | option (flag : Option Flag) (name : String) (value : Option String)
  deriving Repr, BEq, DecidableEq

namespace Word

/-- The option of a name. -/
def flagNamed? (flags : List Flag) (name : String) : Option Flag :=
  flags.find? fun f => f.names.contains name

/-- A text cut at its first equals sign. -/
def cutAtEquals (s : String) : Option (String × String) :=
  let before := s.toList.takeWhile (· != '=')
  if before.length == s.length then none
  else some (String.ofList before, String.ofList (s.toList.drop (before.length + 1)))

/-- Whether a text is a negative number. -/
def isNegativeNumber : List Char → Bool
  | '-' :: s =>
      let whole := s.takeWhile Text.isDigit
      match s.drop whole.length with
      | [] => !whole.isEmpty
      | '.' :: digits => !digits.isEmpty && digits.all Text.isDigit
      | _ => false
  | _ => false

/-- The options that a word can be short for, by their full names and with the value written together
with it. -/
def expansions (flags : List Flag) (s : String) : List (Flag × String × Option String) :=
  let named := flags.flatMap fun f => f.names.map fun name => (f, name)
  match s.toList with
  | '-' :: '-' :: _ =>
      let (start, value) : String × Option String :=
        match cutAtEquals s with
        | some (before, after) => (before, some after)
        | none => (s, none)
      (named.filter fun entry => start.toList.isPrefixOf entry.2.toList).map fun entry =>
        (entry.1, entry.2, value)
  | '-' :: c :: tail =>
      named.filterMap fun entry =>
        if entry.2.toList == ['-', c] then some (entry.1, entry.2, some (String.ofList tail))
        else if s.toList.isPrefixOf entry.2.toList then some (entry.1, entry.2, none)
        else none
  | _ => []

/-- What a word that starts with a hyphen and names no option stands for. -/
def classifyOther (flags : List Flag) (s : String) : Except UsageFault Word :=
  match expansions flags s with
  | [(flag, name, value)] => .ok (.option (some flag) name value)
  | [] =>
      if Text.holdsUpToNewline isNegativeNumber s.toList || s.toList.contains ' ' then .ok .argument
      else .ok (.option none s none)
  | several => .error (.ambiguous s (several.map fun entry => entry.2.1))

/-- What a word stands for, before two hyphens alone. -/
def classify (flags : List Flag) (s : String) : Except UsageFault Word :=
  match s.toList with
  | '-' :: tail =>
      match flagNamed? flags s, tail with
      | some flag, _ => .ok (.option (some flag) s none)
      | none, [] => .ok .argument
      | none, _ =>
          match cutAtEquals s with
          | some (name, value) =>
              match flagNamed? flags name with
              | some flag => .ok (.option (some flag) name (some value))
              | none => classifyOther flags s
          | none => classifyOther flags s
  | _ => .ok .argument

/-- What the words of a command line stand for. -/
def classifyAll (flags : List Flag) : List String → Except UsageFault (List (String × Word))
  | [] => .ok []
  | s :: more =>
      if s == "--" then .ok ((s, .divider) :: more.map fun t => (t, .argument))
      else do
        let w ← classify flags s
        let ws ← classifyAll flags more
        return (s, w) :: ws

/-- Whether a word is an option. -/
def isOption : Word → Bool
  | option _ _ _ => true
  | _ => false

end Word
end CommandLine
end NamespaceManifest
