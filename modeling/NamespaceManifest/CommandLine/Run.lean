import NamespaceManifest.Build
import NamespaceManifest.CommandLine.Parse

/-!
# Running a command line

A command works on a file tree and answers with an exit status, the text for the standard output and
the text for the standard error.  Log records go to the standard error and, if a log file is named, to
the end of that file.  The log file is opened before the command starts.

Missing files and faulty configurations end a command with a plain message; other failures of a build
are reported as such.  An error outside these two kinds ends the program without a status.
-/

namespace NamespaceManifest
namespace CommandLine

/-- How a command ends. -/
inductive Ending where
  | status (code : Nat)
  | error (e : Error)

/-- What a command answers. -/
structure Answer where
  ending : Ending
  output : String := ""
  errors : String := ""

/-- How an error is treated: with a plain message, as a failed build, or not at all. -/
inductive Treatment where
  | plain
  | failedBuild
  | none
  deriving Repr, BEq, DecidableEq

/-- How an error of a command is treated. -/
def treatment : Error → Treatment
  | .config _ | .rootMissing _ | .documentMissing _ => .plain
  | .document _ | .evaluation _ | .conflict _ | .invalidName _ => .failedBuild
  | _ => .none

/-- The least level of the log records that are shown; asking for more wins over asking for less. -/
def leastLevel (a : Arguments) : Level :=
  if a.verbose then .debug else if a.quiet then .warning else .info

/-- A path as seen from the current folder, if it lies inside. -/
def shownPath (env : Environment) (p : Path) : String :=
  ((env.folder.relativeTo? p).getD p).display

/-- What a successful build prints. -/
def buildText (env : Environment) (o : BuildOutcome) : String :=
  if o.dryRun then
    shownPath env o.path ++ " changes (dry-run):\n"
      ++ (if o.diff.isEmpty then "(no diff)" else o.diff) ++ "\n"
  else if o.written then o.path.name ++ " updated at " ++ shownPath env o.path ++ "\n"
  else o.path.name ++ " already up to date\n"

/-- What a clean prints. -/
def cleanText (removed : Bool) : String :=
  if removed then "Manifest removed\n" else "Nothing to clean\n"

/-- The work of a command and what it prints. -/
def work (env : Environment) : Command → Work String
  | .build root blocks module importsOnly dryRun => do
      let outcome ← Build.run env
        { root := root
          blocks := blocks.bind Given.value?
          module := module.bind Given.value?
          importsOnly := importsOnly
          dryRun := dryRun }
      return buildText env outcome
  | .clean root => do
      let removed ← Build.clean env root
      return cleanText removed
  | .serve _ _ => return ""

/-- Whether a command reports failures as failures of a build. -/
def reportsFailures : Command → Bool
  | .build _ _ _ _ _ => true
  | _ => false

/-- The answer to an error of a command. -/
def answerError (command : Command) (e : Error) : Answer :=
  match treatment e, reportsFailures command with
  | .plain, _ => { ending := .status 1, errors := e.message ++ "\n" }
  | .failedBuild, true =>
      { ending := .status 1
        errors := "nsgen build failed: " ++ e.message ++ "\nRun with --verbose for more details.\n" }
  | _, _ => { ending := .error e }

/-- A log file opened, in folders that are made if they are missing, with its journal. -/
def openJournal (env : Environment) (least : Level) (clock : Nat → String) (file : Path) :
    Work Journal := do
  let place := env.folder.join file
  Work.makeFolders place.parent
  let target := env.resolve file
  let old ← Work.open? target
  Work.replaceFile target (old.getD File.empty)
  return { path := target, least := least, clock := clock }

/-- The journal that the settings of the program ask for. -/
def journalFor (env : Environment) (clock : Nat → String) (a : Arguments) : Work (Option Journal) :=
  match a.logFile with
  | none => return none
  | some .blank => Work.fail .logFileBlank
  | some (.value file) => do
      let journal ← openJournal env (leastLevel a) clock file
      return some journal

/-- The answer of a command that was run. -/
def answerRun (a : Arguments) (run : Run String) : Answer :=
  let shown := run.log.filter (LogRecord.isShown (leastLevel a))
  let console := String.join (shown.map LogRecord.consoleLine)
  match run.outcome with
  | .ok text => { ending := .status 0, output := text, errors := console }
  | .error e =>
      let answer := answerError a.command e
      { answer with errors := console ++ answer.errors }

/-- Runs a command; the clock gives the time of every record of a log file by its number. -/
def runArguments (env : Environment) (clock : Nat → String) (a : Arguments) (t : Tree) :
    Tree × Answer :=
  let start := journalFor env clock a { tree := t }
  match start.outcome with
  | .error e => (start.workspace.tree, { ending := .error e })
  | .ok journal =>
      let run := work env a.command { start.workspace with journal := journal }
      (run.workspace.tree, answerRun a run)

/-- The help text of the program or of a command. -/
def helpText (program : String) : String :=
  "usage: " ++ program ++ " [-h] [-v] ...\n"

/-- Runs a command line. -/
def run (env : Environment) (clock : Nat → String) (words : List String) (t : Tree) :
    Tree × Answer :=
  match parse words with
  | .run arguments => runArguments env clock arguments t
  | .help program => (t, { ending := .status 0, output := helpText program })
  | .fault program f =>
      (t, { ending := .status 2, errors := program ++ ": error: " ++ f.message ++ "\n" })

end CommandLine
end NamespaceManifest
