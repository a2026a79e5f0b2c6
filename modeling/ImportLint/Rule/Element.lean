import ImportLint.Rule.Pattern

/-!
# Elements

Elements are the parts of an architecture. A list of patterns says which module belongs to which element: the
first pattern that matches decides, and a module that none matches is unclassified.
-/

namespace ImportLint

/-- Whether a character may stand in the name of an element. -/
def isElementChar (c : Char) : Bool :=
  ('a' ≤ c && c ≤ 'z') || c.isDigit || c == '-' || c == '_'

/-- Whether a text may be the name of an element. -/
def isElementName (text : String) : Bool :=
  text != "" && text.toList.all isElementChar

/-- The name of an element. -/
structure ElementName where
  text : String
  valid : isElementName text = true
  deriving DecidableEq

namespace ElementName

def ofText (text : String) : Except RuleError ElementName :=
  if text = "" then .error .emptyElementName
  else if h : isElementName text = true then .ok { text := text, valid := h }
  else .error (.invalidElementName text)

end ElementName

variable [PatternLanguage]

/-- Puts the modules that a pattern matches into an element. -/
structure ElementPattern where
  element : ElementName
  pattern : PathPattern
  deriving DecidableEq

/-- The element of a module, by the first pattern that matches its id. -/
def classify (patterns : List ElementPattern) (id : String) : Option ElementName :=
  (patterns.find? fun p => p.pattern.isMatch id).map ElementPattern.element

/-- How the element of a module is shown. -/
def elementLabel : Option ElementName → String
  | some name => name.text
  | none => "unclassified"

end ImportLint
