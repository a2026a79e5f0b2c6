/-!
# Severities

How grave a breach of a rule is. Errors are graver than warnings, and warnings than infos.
-/

namespace ImportLint

/-- How grave a breach of a rule is. -/
inductive Severity
  | info
  | warning
  | error
  deriving DecidableEq, Repr

namespace Severity

/-- Every severity, the least grave first. -/
def all : List Severity := [info, warning, error]

def name : Severity → String
  | info => "info"
  | warning => "warning"
  | error => "error"

/-- The severity with a name. -/
def ofName? : String → Option Severity
  | "info" => some info
  | "warning" => some warning
  | "error" => some error
  | _ => none

/-- The place in the order of gravity. -/
def rank : Severity → Nat
  | info => 0
  | warning => 1
  | error => 2

/-- Whether a severity is at least as grave as another. -/
def atLeast (s t : Severity) : Bool := t.rank ≤ s.rank

end Severity

end ImportLint
