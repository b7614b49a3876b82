import NamespaceManifest.CommandLine.Option
import NamespaceManifest.File.Path
import NamespaceManifest.Number.Integer

/-!
# Reading a command line

A command line has options for the program, the name of a command, and everything that belongs to the
command.  The words are read from the left; where arguments stand before the next option, they are
handed to the argument that the program or the command takes, and what is left over is kept.

The outcome is what to do, a request for help, or a fault of the program or of the command.
-/

namespace NamespaceManifest
namespace CommandLine

/-- The request for help. -/
def helpFlag : Flag := ⟨["-h", "--help"], .help, false⟩

/-- More log records. -/
def verboseFlag : Flag := ⟨["-v", "--verbose"], .verbose, false⟩

/-- The options of the program. -/
def programFlags : List Flag :=
  [helpFlag, verboseFlag, ⟨["-q", "--quiet"], .quiet, false⟩, ⟨["--log-file"], .logFile, true⟩]

/-- The options of a command. -/
def commandFlags (command : String) : List Flag :=
  if command == "build" then
    [helpFlag, verboseFlag, ⟨["--blocks"], .blocks, true⟩, ⟨["--module"], .module, true⟩,
     ⟨["--pre-only"], .importsOnly, false⟩, ⟨["--dry-run"], .dryRun, false⟩]
  else if command == "serve" then
    [helpFlag, verboseFlag, ⟨["--host"], .host, true⟩, ⟨["--port"], .port, true⟩]
  else [helpFlag, verboseFlag]

/-- The argument that a list of words is read for: a single optional one, a command with everything
after it, or none. -/
inductive Slot where
  | optional
  | command
  | none
  deriving Repr, BEq, DecidableEq

namespace Slot

/-- How many of the words that come next belong to the argument, if it can be there. -/
def size? (slot : Slot) (words : List Word) : Option Nat :=
  let dividers := (words.takeWhile (· == .divider)).length
  match slot, words.drop dividers with
  | .none, _ => Option.none
  | .command, .argument :: rest => some (dividers + 1 + rest.length)
  | .command, _ => Option.none
  | .optional, .argument :: rest =>
      some (dividers + 1 + (rest.takeWhile (· == .divider)).length)
  | .optional, _ => some dividers

end Slot

/-- What an option with a value was given.  Two hyphens alone after the equals sign leave it blank. -/
inductive Given (α : Type) where
  | blank
  | value (a : α)
  deriving Repr, BEq, DecidableEq

/-- What leaves an option with a value blank. -/
def blankMark : String := "--"

namespace Given

/-- What a text gives. -/
def ofText (s : String) : Given String :=
  if s == blankMark then blank else value s

/-- The same with the value read in another way. -/
def map {α β : Type} (f : α → β) : Given α → Given β
  | blank => blank
  | value a => value (f a)

/-- The value, if there is one. -/
def value? {α : Type} : Given α → Option α
  | blank => none
  | value a => some a

end Given

/-- What has been read of a list of words. -/
structure Progress where
  settings : List (Setting × String) := []
  argument : Option (List String) := none
  slot : Slot
  extras : List String := []

namespace Progress

/-- One more setting; a port must be an integer, if it has a value at all. -/
def set (p : Progress) (flag : Flag) (value : String) : Except UsageFault Progress :=
  if flag.setting == .port && value != blankMark && (Number.integer? value).isNone then
    .error (.notAnInteger flag value)
  else .ok { p with settings := p.settings ++ [(flag.setting, value)] }

/-- Words that nothing is known about. -/
def leave (p : Progress) (words : List String) : Progress :=
  { p with extras := p.extras ++ words }

end Progress

/-- Options of one letter each that one hyphen joins: the first one, its name, and the letters after
it. -/
def readJoined (flags : List Flag) (next : List (String × Word)) :
    Nat → Flag → String → Option String → Progress →
    Except UsageFault (Progress × List (String × Word))
  | 0, _, _, _, p => .ok (p, next)
  | fuel + 1, flag, name, value, p =>
      match value with
      | some v =>
          if flag.takesValue then (p.set flag v).map fun p => (p, next)
          else
            match v.toList with
            | c :: tail =>
                if name.toList.take 2 == ['-', '-'] then .error (.valueUnused flag v)
                else
                  match Word.flagNamed? flags (String.ofList ['-', c]) with
                  | some other => do
                      let p ← p.set flag ""
                      readJoined flags next fuel other (String.ofList ['-', c])
                        (if tail.isEmpty then none else some (String.ofList tail)) p
                  | none => .error (.valueUnused flag v)
            | [] => .error (.valueUnused flag v)
      | none =>
          if flag.takesValue then
            match next with
            | (s, .argument) :: rest => (p.set flag s).map fun p => (p, rest)
            | _ => .error (.valueMissing flag)
          else (p.set flag "").map fun p => (p, next)

/-- Whether help is asked for among the settings. -/
def asksForHelp (p : Progress) : Bool :=
  p.settings.any fun entry => entry.1 == .help

/-- The argument taken from the words that come next, if it is still open. -/
def takeArgument (p : Progress) (words : List (String × Word)) : Progress × Nat :=
  match p.slot.size? (words.map (·.2)) with
  | some n =>
      ({ p with argument := some ((words.take n).map (·.1)), slot := .none }, n)
  | none => (p, 0)

/-- Reads words from the left until the options are used up or help is asked for. -/
def readWords (flags : List Flag) : Nat → Progress → List (String × Word) →
    Except UsageFault Progress
  | 0, p, words => .ok (p.leave (words.map (·.1)))
  | fuel + 1, p, words =>
      if asksForHelp p then .ok p
      else if words.any fun w => w.2.isOption then
        match words with
        | [] => .ok p
        | (s, .option none _ _) :: rest => readWords flags fuel (p.leave [s]) rest
        | (s, .option (some flag) name value) :: rest => do
            let (p, rest) ← readJoined flags rest (s.length + 1) flag name value p
            readWords flags fuel p rest
        | _ =>
            let (taken, n) := takeArgument p words
            if n == 0 then
              let plain := words.takeWhile fun w => !w.2.isOption
              readWords flags fuel (taken.leave (plain.map (·.1))) (words.drop plain.length)
            else readWords flags fuel taken (words.drop n)
      else
        let (taken, n) := takeArgument p words
        .ok (taken.leave ((words.drop n).map (·.1)))

/-- Reads all words for options and one argument. -/
def readAll (flags : List Flag) (slot : Slot) (words : List String) : Except UsageFault Progress := do
  let classified ← Word.classifyAll flags words
  readWords flags (2 * words.length + 2) { slot := slot } classified

/-- What a setting was given last. -/
def lastValue? (settings : List (Setting × String)) (s : Setting) : Option (Given String) :=
  (settings.reverse.find? fun entry => entry.1 == s).map fun entry => Given.ofText entry.2

/-- Whether a setting is made. -/
def isSet (settings : List (Setting × String)) (s : Setting) : Bool :=
  settings.any fun entry => entry.1 == s

/-- What to do. -/
inductive Command where
  | build (root : String) (blocks module : Option (Given String)) (importsOnly dryRun : Bool)
  | clean (root : String)
  | serve (host : Given String) (port : Given Int)
  deriving Repr, BEq, DecidableEq

/-- A command with the settings of the program. -/
structure Arguments where
  verbose : Bool
  quiet : Bool
  logFile : Option (Given Path)
  command : Command
  deriving Repr, BEq, DecidableEq

/-- Where the reading of a command line ends. -/
inductive Outcome where
  | run (arguments : Arguments)
  | help (program : String)
  | fault (program : String) (f : UsageFault)
  deriving Repr, BEq, DecidableEq

/-- The name of the program. -/
def programName : String := "nsgen"

/-- The root folder that the argument of a command names; two hyphens do not count. -/
def rootOf (p : Progress) : String :=
  ((p.argument.getD []).erase "--").headD "."

/-- The command of a name with its settings. -/
def commandOf (name : String) (p : Progress) : Command :=
  if name == "build" then
    .build (rootOf p) (lastValue? p.settings .blocks) (lastValue? p.settings .module)
      (isSet p.settings .importsOnly) (isSet p.settings .dryRun)
  else if name == "clean" then .clean (rootOf p)
  else
    .serve ((lastValue? p.settings .host).getD (.value "127.0.0.1"))
      (((lastValue? p.settings .port).map (·.map fun s => (Number.integer? s).getD 0)).getD
        (.value 8000))

/-- Where the reading of the words of a command ends, with the progress of the program before it. -/
def parseCommand (program : Progress) (name : String) (words : List String) : Outcome :=
  let title := programName ++ " " ++ name
  let slot := if name == "serve" then Slot.none else Slot.optional
  match readAll (commandFlags name) slot words with
  | .error f => .fault title f
  | .ok p =>
      if asksForHelp p then .help title
      else
        match program.extras ++ p.extras with
        | [] =>
            .run
              { verbose := isSet program.settings .verbose || isSet p.settings .verbose
                quiet := isSet program.settings .quiet
                logFile := (lastValue? program.settings .logFile).map (·.map Path.ofText)
                command := commandOf name p }
        | extras => .fault programName (.unrecognized extras)

/-- Where the reading of a command line ends. -/
def parse (words : List String) : Outcome :=
  match readAll programFlags .command words with
  | .error f => .fault programName f
  | .ok p =>
      if asksForHelp p then .help programName
      else
        match p.argument with
        | some (name :: rest) =>
            if commandNames.contains name then parseCommand p name rest
            else .fault programName (.unknownCommand name)
        | _ => .fault programName .commandMissing

end CommandLine
end NamespaceManifest
