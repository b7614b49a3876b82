import NamespaceManifest.Block.Issue

/-!
# Log records

Work leaves log records.  A record has a level, the part of the program that it comes from, and a
message.  How much is shown is a matter of the least level.
-/

namespace NamespaceManifest

/-- The weight of a log record. -/
inductive Level where
  | debug
  | info
  | warning
  deriving Repr, BEq, DecidableEq

namespace Level

/-- Levels in increasing weight. -/
def weight : Level → Nat
  | debug => 0
  | info => 1
  | warning => 2

/-- A level as it stands in log lines. -/
def display : Level → String
  | debug => "DEBUG"
  | info => "INFO"
  | warning => "WARNING"

end Level

/-- The part of the program that a log record comes from. -/
inductive Channel where
  | blocks
  | build
  | compiler
  | evaluation
  | writer
  deriving Repr, BEq, DecidableEq

/-- A channel as it stands in log files. -/
def Channel.display : Channel → String
  | blocks => "nsgen.blocks"
  | build => "nsgen.orchestrator"
  | compiler => "nsgen.compiler"
  | evaluation => "nsgen.evaluation"
  | writer => "nsgen.writer"

/-- A log record. -/
structure LogRecord where
  level : Level
  channel : Channel
  message : String
  deriving Repr, BEq, DecidableEq

namespace LogRecord

/-- A record on the console. -/
def consoleLine (r : LogRecord) : String :=
  "[nsgen] " ++ r.level.display ++ " " ++ r.message ++ "\n"

/-- A record in a log file, with the time at which it was made. -/
def fileLine (time : String) (r : LogRecord) : String :=
  time ++ " " ++ r.level.display ++ " " ++ r.channel.display ++ ": " ++ r.message ++ "\n"

/-- Whether a record is shown at a least level. -/
def isShown (least : Level) (r : LogRecord) : Bool :=
  least.weight ≤ r.level.weight

/-- The record of an issue. -/
def ofIssue (channel : Channel) (i : Issue) : LogRecord :=
  { level := .warning, channel := channel, message := i.display }

end LogRecord
end NamespaceManifest
