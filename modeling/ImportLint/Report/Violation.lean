import ImportLint.Json.Parse
import ImportLint.Json.Value
import ImportLint.Rule.Severity

/-!
# Violations

A breach of a rule, its place in the order of a report, and its texts. Violations are read from and written as
JSON; a target or comment that is absent is left out there.
-/

namespace ImportLint

open Document (Reader Shape)
open Json (Value)

/-- A breach of a rule. -/
structure Violation where
  rule : String
  severity : Severity
  /-- The importing module. -/
  source : String
  /-- The label of the target; breaches by modules have none. -/
  target? : Option String
  message : String
  comment? : Option String
  deriving DecidableEq, Repr

namespace Severity

def reader : Reader Severity := Reader.choice ofName? (all.map name)

def json (s : Severity) : Value := .text s.name

end Severity

namespace Violation

/-- The order of a report: the graver breach first, then by source, rule, target (none first) and message. -/
def order (a b : Violation) : Ordering :=
  (compare b.severity.rank a.severity.rank).then <|
  (compare a.source b.source).then <|
  (compare a.rule b.rule).then <|
  (compare a.target? b.target?).then <|
  compare a.message b.message

/-- Whether a violation may stand before another in a report. -/
def mayPrecede (a b : Violation) : Bool := (a.order b).isLE

/-- The target as shown behind the source. -/
def arrow (v : Violation) : String :=
  match v.target? with
  | some t => " -> " ++ t
  | none => ""

/-- The violation in one line. -/
def line (v : Violation) : String :=
  v.source ++ v.arrow ++ ": " ++ v.severity.name ++ " [" ++ v.rule ++ "] " ++ v.message

/-- The violation over several lines, with its comment. -/
def paragraph (v : Violation) : String :=
  let note := match v.comment? with
    | some c => "  = note: " ++ c ++ "\n"
    | none => ""
  v.rule ++ " " ++ v.source ++ v.arrow ++ "\n  " ++ v.severity.name ++ ": " ++ v.message ++ "\n" ++ note

def shape : Shape Violation where
  name := "Violation"
  fields :=
    [.need "rule" Reader.text fun s v => { v with rule := s },
     .need "severity" Severity.reader fun s v => { v with severity := s },
     .need "from" Reader.text fun s v => { v with source := s },
     .want "to" (Reader.optional Reader.text) fun t v => { v with target? := t },
     .need "message" Reader.text fun s v => { v with message := s },
     .want "comment" (Reader.optional Reader.text) fun c v => { v with comment? := c }]
  blank := { rule := "", severity := .info, source := "", target? := none, message := "", comment? := none }
  strict := false

/-- A member of a table, left out if the value is absent. -/
def present (key : String) (text? : Option String) : List (String × Value) :=
  (text?.map fun s => (key, Value.text s)).toList

def json (v : Violation) : Value :=
  .table
    ([("rule", .text v.rule), ("severity", v.severity.json), ("from", .text v.source)] ++
      present "to" v.target? ++ [("message", .text v.message)] ++ present "comment" v.comment?)

end Violation

end ImportLint
