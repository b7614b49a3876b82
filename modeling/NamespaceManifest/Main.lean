import NamespaceManifest.CommandLine.Footprint
import Std.Time.Zoned

/-!
# The program

Reads the places of the file system that a command looks at, runs the command on them, and carries
the changes back.
-/

namespace NamespaceManifest
namespace Program

/-- A tree with what the file system holds at a path. -/
def look (t : Tree) (p : Path) : IO Tree := do
  try
    let place ← IO.FS.realPath p.display
    if ← place.isDir then return (t.makeFolders p).1
    else
      let bytes ← IO.FS.readBinFile place
      return (t.store p { bytes := bytes, mode := File.newMode }).1
  catch _ => return t

/-- The part of the file system that a command line looks at. -/
def survey (env : Environment) (words : List String) : IO Tree := do
  let first ← (CommandLine.footprint env words {}).foldlM look {}
  (CommandLine.footprint env words first).foldlM look first

/-- The path of a key. -/
def placeOf (key : List String) : Path :=
  { slashes := 1, parts := key }

/-- Carries the changes from one tree to another into the file system. -/
def carry (before after : Tree) : IO Unit := do
  for (key, file) in after.files do
    if before.find? key != some file then
      IO.FS.createDirAll (placeOf key).parent.display
      IO.FS.writeBinFile (placeOf key).display file.bytes
  for (key, _) in before.files do
    if (after.find? key).isNone then
      IO.FS.removeFile (placeOf key).display

/-- A number in at least so many digits. -/
def padded (width n : Nat) : String :=
  let digits := toString n
  String.ofList (List.replicate (width - digits.length) '0') ++ digits

/-- The current local time, down to milliseconds. -/
def timeStamp : IO String := do
  let now ← Std.Time.PlainDateTime.now
  let date := "-".intercalate
    [padded 4 now.year.toInt.toNat, padded 2 now.month.toNat, padded 2 now.day.toNat]
  let time := ":".intercalate
    [padded 2 now.hour.toNat, padded 2 now.minute.toNat, padded 2 now.second.toNat]
  return date ++ " " ++ time ++ "," ++ padded 3 (now.nanosecond.toNat / 1000000)

/-- The surroundings of the program: no modules are at hand, and only the user's own home folder. -/
def surroundings : IO Environment := do
  let folder ← IO.currentDir
  let home ← IO.getEnv "HOME"
  return { folder := Path.ofText folder.toString
           home := fun user => if user == "" then home.map Path.ofText else none
           evaluatorOf := Environment.evaluatorsFrom [] }

/-- Whether a command line asks for the service, which has no network connection here. -/
def asksForService (words : List String) : Bool :=
  match CommandLine.parse words with
  | .run { command := .serve _ _, .. } => true
  | _ => false

/-- Runs a command line on the file system. -/
def run (words : List String) : IO UInt32 := do
  if asksForService words then
    IO.eprintln "nsgen serve: no network connection"
    return 1
  let env ← surroundings
  let before ← survey env words
  let time ← timeStamp
  let (after, answer) := CommandLine.run env (fun _ => time) words before
  carry before after
  IO.print answer.output
  IO.eprint answer.errors
  match answer.ending with
  | .status code => return code.toUInt32
  | .error e =>
      IO.eprintln e.message
      return 1

end Program
end NamespaceManifest

/-- Runs the command line. -/
def main (words : List String) : IO UInt32 :=
  NamespaceManifest.Program.run words
