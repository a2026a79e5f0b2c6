import ImportLint.Check
import ImportLint.Command.Line
import ImportLint.Command.Source
import ImportLint.Command.Template
import ImportLint.Import.Inventory

/-!
# Running commands

`Command.run` gives the outcome of a command line in a world. The rules are read before the input is looked at,
so a bad configuration is reported whatever the input is. A check ends with status one if its report has
errors, with status two if the rules or the input cannot be read, and with status zero otherwise.
-/

namespace ImportLint

open Json (Value)

namespace Report

/-- The report as the command prints it in JSON. -/
def outputJson (r : Report) : Value :=
  .table
    [("passed", .bool (!r.hasErrors)),
     ("summary", .table
       [("errors", .number (r.count .error)),
        ("warnings", .number (r.count .warning)),
        ("infos", .number (r.count .info)),
        ("modules", .number r.modulesChecked),
        ("edges", .number r.edgesChecked)]),
     ("violations", .list (r.violations.map Violation.json))]

/-- The report as the command prints it. -/
def output (r : Report) : Format → String
  | .text => String.join (r.violations.map fun v => v.paragraph ++ "\n") ++ r.summary ++ "\n"
  | .json => r.outputJson.sortKeys.renderPretty ++ "\n"
  | .compact => r.compact

end Report

namespace Command

/-- Reads the inventory at a path or from the standard input. -/
def readInventory (w : World) (path : String) : Except Failure Inventory :=
  if isStandardInput path then
    match w.input? with
    | none => .error .inputUnreadable
    | some text =>
      match Inventory.parse text with
      | .ok i => .ok i
      | .error _ => .error .inputMalformed
  else
    match (w.look path).text? with
    | none => .error (.badInput path)
    | some text =>
      match Inventory.parse text with
      | .ok i => .ok i
      | .error _ => .error (.badInput path)

/-- The note that there is nothing to check. -/
def emptyNote (s : RuleSource) (rules : RuleSet) : List LogLine :=
  if rules.isEmpty then [⟨.warn, "No rules enabled in " ++ s.label ++ "; the report will be empty"⟩] else []

/-- The notes on the making of a graph. -/
def graphNotes (g : Graph) : List LogLine :=
  (g.upgrades.toList.map fun u =>
    ⟨.debug, "Duplicate edge from " ++ u.source ++ ": " ++ u.new.name ++ " replaces " ++ u.old.name⟩) ++
    [⟨.debug, "Built graph with " ++ toString g.modules.size ++ " modules and " ++ toString g.edges.size ++
      " edges"⟩]

/-- The notes on a check. -/
def checkNotes (rules : RuleSet) (g : Graph) (r : Report) : List LogLine :=
  [⟨.debug, "Found " ++ toString (Components.ofGraph g).cycleCount ++ " dependency cycles"⟩,
   ⟨.debug, "Evaluated " ++ toString rules.checkCount ++ " checks, " ++ toString r.violations.length ++
     " violations"⟩]

/-- Checks an inventory by the rules of a source. -/
def checkWith (w : World) (s : RuleSource) (rules : RuleSet) (log : List LogLine) (input : String)
    (format : Format) : Outcome :=
  let log := log ++ emptyNote s rules
  match readInventory w input with
  | .error f => .failed log f
  | .ok inventory =>
    let g := inventory.graph
    let r := rules.check g
    let begun : LogLine :=
      ⟨.info, "Checking " ++ toString inventory.recordCount ++ " import records against " ++
        toString rules.checkCount ++ " rules"⟩
    { exit := if r.hasErrors then 1 else 0
      output := r.output format
      log := log ++ [begun] ++ graphNotes g ++ checkNotes rules g r
      failure? := none
      written := [] }

/-- Checks an inventory. -/
def check (w : World) (config? : Option String) (input : String) (format : Format) (project : String) :
    Outcome :=
  let s := RuleSource.find w project config?
  match s.load w with
  | (log, .error f) => .failed log f
  | (log, .ok rules) => checkWith w s rules log input format

/-- Writes a configuration to start from. -/
def init (w : World) (force : Bool) : Outcome :=
  match w.look configName, force with
  | .directory, true => .failed [] .isDirectory
  | state, _ =>
    if state.exists? && !force then .failed [] (.configExists configName)
    else { Outcome.success initOutput with written := [(configName, startingConfig)] }

/-- Does what a request asks for. -/
def perform (w : World) (r : Request) : Outcome :=
  match r.action with
  | .check input format project => check w r.config? input format project
  | .listRules => .success ruleList
  | .init force => init w force

/-- The variable that names the configuration. -/
def configVariable : String := "MODGRAPH_LINT_CONFIG"

/-- The outcome of a command line. Help has no text of its own here. -/
def run (w : World) (args : List String) : Outcome :=
  match Request.ofLine (w.env? configVariable) args with
  | .error .version => .success versionOutput
  | .error .help => .success ""
  | .error .usage => .failed [] .usage
  | .ok r => (perform w r).shown r.verbose

/-- The paths that a command line may look at. -/
def pathsOfInterest (w : World) (args : List String) : List String :=
  match Request.ofLine (w.env? configVariable) args with
  | .error _ => []
  | .ok r =>
    r.config?.toList ++
      match r.action with
      | .check input _ project => RuleSource.projectPaths project ++ (RuleSource.globalPath? w).toList ++ [input]
      | .listRules => []
      | .init _ => [configName]

end Command

end ImportLint
