import ImportLint.Document.Tree
import ImportLint.Text.Quoted

/-!
# Faults in documents

What can be wrong with a document: its text breaks off, its text is malformed, or its content is not what it
should be. `Fault.detail` is the message for a fault of content.
-/

namespace ImportLint.Document

/-- What is wrong with the content of a document. -/
inductive Fault
  | missingField (name : String)
  | duplicateField (name : String)
  | unknownField (name : String) (known : List String)
  | unknownVariant (name : String) (known : List String)
  | invalidType (found : Found) (expected : String)
  /-- A number out of range or a list too short. -/
  | invalidValue
  deriving DecidableEq, Repr

/-- Why a document cannot be read. -/
inductive ReadError
  | ended
  | malformed
  | content (fault : Fault)
  deriving DecidableEq, Repr

namespace Break

/-- The error at a break where a value is read. -/
def error : Break → ReadError
  | malformed => .malformed
  | notKey _ => .malformed
  | unpaired _ => .malformed
  | _ => .ended

/-- The error at a break where a value is passed over: a number that the end of the text cuts off counts as
malformed, and half a surrogate pair does no harm. -/
def errorPassedOver : Break → ReadError
  | malformed => .malformed
  | notKey _ => .malformed
  | endedInNumber => .malformed
  | unpaired later => later.errorPassedOver
  | _ => .ended

/-- The error at a break where one of several names is due: any beginning but that of a string counts as
malformed. -/
def errorAtName : Break → ReadError
  | ended => .ended
  | endedInText => .ended
  | _ => .malformed

end Break

namespace Found

def message : Found → String
  | int n => "integer `" ++ toString n ++ "`"
  | float digits => "floating point `" ++ digits ++ "`"
  | bool b => "boolean `" ++ (if b then "true" else "false") ++ "`"
  | text s => "string " ++ Text.quoted s
  | null => "null"
  | list => "sequence"
  | table => "map"

end Found

/-- A list of names as messages show what was expected. -/
def oneOf : List String → String
  | [] => "nothing"
  | [a] => "`" ++ a ++ "`"
  | [a, b] => "`" ++ a ++ "` or `" ++ b ++ "`"
  | names => "one of " ++ ", ".intercalate (names.map fun a => "`" ++ a ++ "`")

namespace Fault

/-- The message for a fault; faults of number and length have none of their own. -/
def detail : Fault → Option String
  | missingField name => some ("missing field `" ++ name ++ "`")
  | duplicateField name => some ("duplicate field `" ++ name ++ "`")
  | unknownField name known => some ("unknown field `" ++ name ++ "`, expected " ++ oneOf known)
  | unknownVariant name known => some ("unknown variant `" ++ name ++ "`, expected " ++ oneOf known)
  | invalidType found expected => some ("invalid type: " ++ found.message ++ ", expected " ++ expected)
  | invalidValue => none

end Fault

namespace ReadError

/-- The message for an error of content. -/
def detail : ReadError → Option String
  | content fault => fault.detail
  | _ => none

end ReadError

end ImportLint.Document
