import ImportLint.Report.Violation

/-!
# Reports

The violations found in one graph and the size of that graph. `Report.ofViolations` puts the violations in
order; those that the order does not tell apart stay as they came. A report that is read from JSON keeps the
order in which it is written.
-/

namespace ImportLint

open Document (Reader ReadError Shape)
open Json (Value)

/-- The violations found in one graph. -/
structure Report where
  violations : List Violation
  modulesChecked : Nat
  edgesChecked : Nat
  deriving DecidableEq, Repr

namespace Report

/-- The report of some violations, put in order. -/
def ofViolations (vs : List Violation) (modules edges : Nat) : Report :=
  { violations := vs.mergeSort Violation.mayPrecede, modulesChecked := modules, edgesChecked := edges }

/-- Whether some violation is at least as grave as a severity. -/
def hasAtLeast (r : Report) (s : Severity) : Bool := r.violations.any fun v => v.severity.atLeast s

def hasErrors (r : Report) : Bool := r.hasAtLeast .error

/-- The number of violations of a severity. -/
def count (r : Report) (s : Severity) : Nat := r.violations.countP fun v => v.severity == s

/-- The totals in one line. -/
def summary (r : Report) : String :=
  "Found " ++ toString (r.count .error) ++ " error(s), " ++ toString (r.count .warning) ++ " warning(s), " ++
    toString (r.count .info) ++ " info(s) in " ++ toString r.modulesChecked ++ " module(s), " ++
    toString r.edgesChecked ++ " edge(s)"

/-- A line for each violation. -/
def compact (r : Report) : String :=
  String.join (r.violations.map fun v => v.line ++ "\n")

def shape : Shape Report where
  name := "Report"
  fields :=
    [.need "violations" (Reader.list Violation.shape.reader) fun vs r => { r with violations := vs },
     .need "modules_checked" Reader.count fun n r => { r with modulesChecked := n },
     .need "edges_checked" Reader.count fun n r => { r with edgesChecked := n }]
  blank := { violations := [], modulesChecked := 0, edgesChecked := 0 }
  strict := false

/-- Reads a report from JSON. -/
def parse (text : String) : Except ReadError Report := Json.read shape.reader text

/-- Reads a list of violations from JSON. -/
def parseViolations (text : String) : Except ReadError (List Violation) :=
  Json.read (Reader.list Violation.shape.reader) text

def json (r : Report) : Value :=
  .table
    [("violations", .list (r.violations.map Violation.json)),
     ("modules_checked", .number r.modulesChecked),
     ("edges_checked", .number r.edgesChecked)]

end Report

end ImportLint
