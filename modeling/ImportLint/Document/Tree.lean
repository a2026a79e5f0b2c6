/-!
# Documents as read

`Tree` is a document after its text has been read and before it is known what it should hold. Reading never
fails: where the text breaks off or goes wrong, the tree holds a `Break` in that place and nothing behind it.
A reader that walks the tree from front to back therefore meets the problems of a document in the order of
its text, whether they are problems of form or of content.
-/

namespace ImportLint.Document

/-- The kinds of values, as messages name them. -/
inductive Found
  | int (n : Int)
  | float (text : String)
  | bool (b : Bool)
  | text (s : String)
  | null
  | list
  | table
  deriving DecidableEq, Repr

/-- Why a text cannot be read on. -/
inductive Break
  /-- The text ends where something is due. -/
  | ended
  /-- The text ends inside a string. -/
  | endedInText
  /-- The text ends inside a word; `null` tells whether the word begins like `null`. -/
  | endedInWord (null : Bool)
  /-- The text ends inside a number. -/
  | endedInNumber
  /-- A value that is no string stands where a key is due. -/
  | notKey (found : Found)
  /-- A string with half a surrogate pair in it breaks off later. -/
  | unpaired (later : Break)
  /-- Something else stands where a certain thing is due. -/
  | malformed
  deriving DecidableEq, Repr

/-- How a list or a table ends. -/
inductive Stop
  /-- By its closing bracket. -/
  | closed
  /-- By a break where a comma or the closing bracket is due. -/
  | beforeComma (b : Break)
  /-- By a break behind a comma, where a key is due. -/
  | beforeKey (b : Break)
  deriving DecidableEq, Repr

/-- A key of a table. -/
inductive Key
  | text (s : String)
  /-- A string with half a surrogate pair in it. -/
  | unpaired
  deriving DecidableEq, Repr

/-- A value of a document. -/
inductive Tree
  | null
  | bool (b : Bool)
  | int (n : Int)
  /-- A number that is no integer, as messages show it. -/
  | float (text : String)
  /-- A number too large to be represented. -/
  | overflow
  | text (s : String)
  /-- A string with half a surrogate pair in it. -/
  | unpaired
  | list (items : List Tree) (stop : Stop)
  | table (members : List (Key × Tree)) (stop : Stop)
  | broken (b : Break)
  deriving Inhabited

namespace Stop

/-- The break at the end, if the bracket does not close. -/
def break? : Stop → Option Break
  | closed => none
  | beforeComma b => some b
  | beforeKey b => some b

end Stop

namespace Tree

/-- What a part of a document is, for a message; `none` where the text itself is at fault. -/
def found? : Tree → Option Found
  | null => some .null
  | bool b => some (.bool b)
  | int n => some (.int n)
  | float t => some (.float t)
  | text s => some (.text s)
  | list _ _ => some .list
  | table _ _ => some .table
  | overflow => none
  | unpaired => none
  | broken _ => none

mutual

/-- The first break inside a value whose content is of no interest. -/
def firstBreak : Tree → Option Break
  | list items stop => firstBreakOfItems items <|> stop.break?
  | table members stop => firstBreakOfMembers members <|> stop.break?
  | broken b => some b
  | _ => none

def firstBreakOfItems : List Tree → Option Break
  | [] => none
  | t :: ts => t.firstBreak <|> firstBreakOfItems ts

def firstBreakOfMembers : List (Key × Tree) → Option Break
  | [] => none
  | (_, t) :: ms => t.firstBreak <|> firstBreakOfMembers ms

end

end Tree

end ImportLint.Document
