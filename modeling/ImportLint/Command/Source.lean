import ImportLint.Command.Outcome
import ImportLint.Command.World

/-!
# Where the rules come from

The configuration of a run is the first that there is of: the file named by the user, whether it exists or not;
one of two files in the project; a file in the directory for all projects; and the recommended preset.
-/

namespace ImportLint

/-- Where the rules of a run come from. -/
inductive RuleSource
  /-- A file named by the user. -/
  | named (path : String)
  /-- A file of the project. -/
  | project (path : String)
  /-- The file for all projects. -/
  | global (path : String)
  | builtin
  deriving DecidableEq, Repr

namespace RuleSource

/-- How the source is shown. -/
def label : RuleSource → String
  | named path => path
  | project path => "project config " ++ path
  | global path => "global config " ++ path
  | builtin => "built-in recommended preset"

/-- The paths at which a project may have its configuration, the preferred one first. -/
def projectPaths (project : String) : List String :=
  [joinPath project "modgraph-lint.toml", joinPath project ".modgraph-lint.toml"]

/-- The directory for all projects. -/
def globalDirectory? (w : World) : Option String :=
  (w.env? "MODGRAPH_LINT_CONFIG_DIR").or (w.home?.map fun home => joinPath home ".modgraph-lint")

/-- The path of the configuration for all projects. -/
def globalPath? (w : World) : Option String :=
  (globalDirectory? w).map fun dir => joinPath dir "config.toml"

/-- Finds the source of the rules. Only regular files count, unless the user names one. -/
def find (w : World) (project : String) (named? : Option String) : RuleSource :=
  match named? with
  | some path => .named path
  | none =>
    match (projectPaths project).find? fun p => (w.look p).isFile with
    | some path => .project path
    | none =>
      match (globalPath? w).filter fun p => (w.look p).isFile with
      | some path => .global path
      | none => .builtin

/-- The text of the configuration; that of the preset alone is empty. -/
def text? (w : World) : RuleSource → Option String
  | named path => (w.look path).text?
  | project path => (w.look path).text?
  | global path => (w.look path).text?
  | builtin => some ""

/-- The weight of the note that tells the source. -/
def level : RuleSource → LogLevel
  | global _ => .info
  | _ => .debug

/-- Reads the rules of a source, with what is noted on the way. -/
def load (w : World) (s : RuleSource) : List LogLine × Except Failure RuleSet :=
  match s.text? w with
  | none => ([], .error .configUnreadable)
  | some text =>
    match Config.parse text with
    | .error e => ([], .error (.config e))
    | .ok c =>
      let notes := c.notes.map fun n => LogLine.mk .debug n.message
      match c.load with
      | .error e => (notes, .error (.config e))
      | .ok rules => (notes ++ [⟨s.level, "Using " ++ s.label⟩], .ok rules)

end RuleSource

end ImportLint
