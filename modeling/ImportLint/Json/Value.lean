/-!
# JSON values and their texts

Values to be written as JSON: `render` writes them without blanks, `renderPretty` over several lines with two
blanks per level, and `sortKeys` puts the members of every table in the order of their keys.
-/

namespace ImportLint.Json

/-- A JSON value. All numbers this library writes are naturals. -/
inductive Value
  | null
  | bool (b : Bool)
  | number (n : Nat)
  | text (s : String)
  | list (items : List Value)
  | table (members : List (String × Value))
  deriving Inhabited

/-- A hexadecimal digit in lower case. -/
def hexChar (n : Nat) : Char := Nat.digitChar n

/-- How a character is written inside a string: quotes, backslashes and controls as escapes, all else as it
is. -/
def escapeChar (c : Char) : List Char :=
  match c with
  | '"' => ['\\', '"']
  | '\\' => ['\\', '\\']
  | '\x08' => ['\\', 'b']
  | '\x0c' => ['\\', 'f']
  | '\n' => ['\\', 'n']
  | '\r' => ['\\', 'r']
  | '\t' => ['\\', 't']
  | c =>
    if c.toNat < 0x20 then ['\\', 'u', '0', '0', hexChar (c.toNat / 16), hexChar (c.toNat % 16)]
    else [c]

/-- A string as JSON. -/
def renderText (s : String) : List Char :=
  '"' :: s.toList.flatMap escapeChar ++ ['"']

namespace Value

mutual

/-- The text of a value, without blanks. -/
def chars : Value → List Char
  | null => "null".toList
  | bool b => (if b then "true" else "false").toList
  | number n => Nat.toDigits 10 n
  | text s => renderText s
  | list [] => ['[', ']']
  | list (v :: vs) => '[' :: v.chars ++ itemChars vs
  | table [] => ['\x7b', '\x7d']
  | table ((k, v) :: ms) => '\x7b' :: renderText k ++ ':' :: v.chars ++ memberChars ms

/-- The text of a list behind its first item. -/
def itemChars : List Value → List Char
  | [] => [']']
  | v :: vs => ',' :: v.chars ++ itemChars vs

/-- The text of a table behind its first member. -/
def memberChars : List (String × Value) → List Char
  | [] => ['\x7d']
  | (k, v) :: ms => ',' :: renderText k ++ ':' :: v.chars ++ memberChars ms

end

/-- The start of a line at a level. -/
def newLine (level : Nat) : List Char := '\n' :: List.replicate (2 * level) ' '

mutual

/-- The text of a value over several lines; `level` counts the lists and tables around it. -/
def prettyChars (level : Nat) : Value → List Char
  | list [] => ['[', ']']
  | list (v :: vs) => '[' :: newLine (level + 1) ++ v.prettyChars (level + 1) ++ prettyItems level vs
  | table [] => ['\x7b', '\x7d']
  | table ((k, v) :: ms) =>
    '\x7b' :: newLine (level + 1) ++ renderText k ++ ':' :: ' ' :: v.prettyChars (level + 1) ++
      prettyMembers level ms
  | v => v.chars

/-- The lines of a list behind its first item. -/
def prettyItems (level : Nat) : List Value → List Char
  | [] => newLine level ++ [']']
  | v :: vs => ',' :: newLine (level + 1) ++ v.prettyChars (level + 1) ++ prettyItems level vs

/-- The lines of a table behind its first member. -/
def prettyMembers (level : Nat) : List (String × Value) → List Char
  | [] => newLine level ++ ['\x7d']
  | (k, v) :: ms =>
    ',' :: newLine (level + 1) ++ renderText k ++ ':' :: ' ' :: v.prettyChars (level + 1) ++
      prettyMembers level ms

end

/-- The text of a value in one line. -/
def render (v : Value) : String := String.ofList v.chars

/-- The text of a value over several lines. -/
def renderPretty (v : Value) : String := String.ofList (v.prettyChars 0)

mutual

/-- The same value with the members of every table in the order of their keys. -/
def sortKeys : Value → Value
  | list items => list (sortKeysOfItems items)
  | table members => table ((sortKeysOfMembers members).mergeSort fun a b => decide (a.1 ≤ b.1))
  | v => v

def sortKeysOfItems : List Value → List Value
  | [] => []
  | v :: vs => v.sortKeys :: sortKeysOfItems vs

def sortKeysOfMembers : List (String × Value) → List (String × Value)
  | [] => []
  | (k, v) :: ms => (k, v.sortKeys) :: sortKeysOfMembers ms

end

/-- A value or `null`. -/
def option {α : Type} (f : α → Value) : Option α → Value
  | none => null
  | some a => f a

end Value

end ImportLint.Json
