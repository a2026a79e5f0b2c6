import ImportLint.Config.Load

/-!
# Outcomes of commands

What a run leaves behind: its exit status, its output, the lines of its log, the failure that ended it, and the
files it wrote.
-/

namespace ImportLint

/-- The weight of a line of the log. -/
inductive LogLevel
  | debug
  | info
  | warn
  deriving DecidableEq, Repr

namespace LogLevel

def name : LogLevel → String
  | debug => "DEBUG"
  | info => "INFO"
  | warn => "WARN"

end LogLevel

/-- A line of the log. -/
structure LogLine where
  level : LogLevel
  message : String
  deriving DecidableEq, Repr

namespace LogLine

def text (l : LogLine) : String := l.level.name ++ " " ++ l.message

end LogLine

/-- Why a run cannot do what it is asked to. -/
inductive Failure
  | usage
  /-- The configuration cannot be read. -/
  | configUnreadable
  | config (e : ConfigError)
  /-- The standard input cannot be read. -/
  | inputUnreadable
  /-- The standard input is no inventory. -/
  | inputMalformed
  /-- The file at a path cannot be read or is no inventory. -/
  | badInput (path : String)
  | configExists (path : String)
  /-- The file to be written is a directory. -/
  | isDirectory
  deriving DecidableEq, Repr

namespace Failure

/-- The text for a failure; for a configuration it is the code of the error. -/
def text : Failure → String
  | usage => "usage"
  | configUnreadable => "modgraph_lint::config::io"
  | config e => e.code
  | inputUnreadable => "Failed to read input from stdin"
  | inputMalformed => "Failed to parse input from stdin"
  | badInput path => "Failed to load input: " ++ path
  | configExists path => "Configuration file already exists at " ++ path ++ ". Use --force to overwrite."
  | isDirectory => "Is a directory (os error 21)"

end Failure

/-- What a run leaves behind. -/
structure Outcome where
  exit : Nat
  output : String
  log : List LogLine
  failure? : Option Failure
  /-- The files written, with their contents. -/
  written : List (String × String)
  deriving DecidableEq, Repr

namespace Outcome

/-- The outcome of a run that ends well. -/
def success (output : String) : Outcome :=
  { exit := 0, output := output, log := [], failure? := none, written := [] }

/-- The outcome of a run that fails: status two and no output. -/
def failed (log : List LogLine) (f : Failure) : Outcome :=
  { exit := 2, output := "", log := log, failure? := some f, written := [] }

/-- The outcome with the lines of the log that are shown. -/
def shown (o : Outcome) (verbose : Bool) : Outcome :=
  { o with log := o.log.filter fun l => verbose || l.level != .debug }

end Outcome

end ImportLint
