import ImportLint.Toml.Number
import ImportLint.Toml.Table

/-!
# Reading TOML texts

`parse` turns a text into a document tree, or refuses it as malformed. A text is a list of lines: assignments,
headers of tables and arrays of tables, comments and blank lines; the values on them may span several lines.
-/

namespace ImportLint.Toml

open Document (Tree)

/-- The items of an array, behind its bracket; `items` are those so far in reverse. -/
def arrayItems (value : List Char → Option (Tree × List Char)) : Nat → List Tree → List Char → Option (Tree × List Char)
  | 0, _, _ => none
  | fuel + 1, items, cs =>
    match skipLines false cs with
    | ']' :: cs => some (.list items.reverse .closed, cs)
    | cs => do
      let (t, cs) ← value cs
      match skipLines false cs with
      | ',' :: cs => arrayItems value fuel (t :: items) cs
      | ']' :: cs => pure (.list (t :: items).reverse .closed, cs)
      | _ => none

/-- The assignment of a value to a key. -/
def assignment (parts : List String) (t : Tree) : Option Assignment :=
  match parts.reverse with
  | k :: path => some { path := path.reverse, key := k, value := t }
  | [] => none

/-- A key, an equality sign and a value. -/
def keyValue (value : List Char → Option (Tree × List Char)) (cs : List Char) : Option (Assignment × List Char) := do
  let (parts, cs) ← key cs
  let (t, cs) ← value (skipSpaces (← expect? '=' cs))
  pure (← assignment parts t, cs)

/-- The members of a table on one line, behind its brace; `members` are those so far in reverse. -/
def inlineMembers (value : List Char → Option (Tree × List Char)) : Nat → List Assignment → List Char → Option (Tree × List Char)
  | 0, _, _ => none
  | fuel + 1, members, cs => do
    let (a, cs) ← keyValue value cs
    match skipSpaces cs with
    | ',' :: cs => inlineMembers value fuel (a :: members) cs
    | '\x7d' :: cs => pure (← tableOf (a :: members).reverse, cs)
    | _ => none

/-- A table on one line, behind its brace. -/
def inlineTable (value : List Char → Option (Tree × List Char)) (cs : List Char) : Option (Tree × List Char) :=
  match skipSpaces cs with
  | '\x7d' :: cs => some (.table [] .closed, cs)
  | cs => inlineMembers value (cs.length + 1) [] cs

/-- A value that holds no other values. -/
def scalar (cs : List Char) : Option (Tree × List Char) :=
  match cs with
  | '"' :: _ => (string cs).map fun (s, cs) => (.text s, cs)
  | '\'' :: _ => (string cs).map fun (s, cs) => (.text s, cs)
  | 't' :: 'r' :: 'u' :: 'e' :: cs => some (.bool true, cs)
  | 'f' :: 'a' :: 'l' :: 's' :: 'e' :: cs => some (.bool false, cs)
  | _ => (dateTime cs).or (number cs)

/-- A value with at most so many levels of arrays and tables. -/
def value : Nat → List Char → Option (Tree × List Char)
  | 0, cs => scalar cs
  | levels + 1, cs =>
    match cs with
    | '[' :: cs => arrayItems (value levels) (cs.length + 1) [] cs
    | '\x7b' :: cs => inlineTable (value levels) cs
    | cs => scalar cs

/-- The lines read so far, all in reverse: the assignments below the last header, that header, the sections
before it, and the assignments before the first header. -/
structure Lines where
  current : List Assignment
  header? : Option (Bool × List String × String)
  sections : List Section
  top : List Assignment

namespace Lines

/-- Completes the section of the last header. -/
def close (l : Lines) : Lines :=
  match l.header? with
  | none => { l with top := l.current, current := [] }
  | some (isArray, path, k) =>
    { l with
      sections := { isArray := isArray, path := path, key := k, assignments := l.current.reverse } :: l.sections
      current := [] }

/-- Starts a section. -/
def addHeader (l : Lines) (isArray : Bool) (parts : List String) : Option Lines :=
  match parts.reverse with
  | k :: path => some { l.close with header? := some (isArray, path.reverse, k) }
  | [] => none

/-- The document of the lines. -/
def document (l : Lines) : Option Tree :=
  documentOf l.close.top.reverse l.close.sections.reverse

end Lines

/-- Takes a line that is neither blank nor a comment. -/
def takeLine (l : Lines) (cs : List Char) : Option (Lines × List Char) := do
  match cs with
  | '[' :: '[' :: cs =>
    let (parts, cs) ← key cs
    let cs ← expect? ']' cs >>= expect? ']' >>= lineEnd?
    pure (← l.addHeader true parts, cs)
  | '[' :: cs =>
    let (parts, cs) ← key cs
    let cs ← expect? ']' cs >>= lineEnd?
    pure (← l.addHeader false parts, cs)
  | cs =>
    let (a, cs) ← keyValue (value depthLimit) cs
    pure ({ l with current := a :: l.current }, ← lineEnd? cs)

/-- Takes all lines. Every step takes at least one character, so `fuel` is enough if it exceeds their
number. -/
def takeLines : Nat → Lines → List Char → Option Lines
  | 0, _, _ => none
  | fuel + 1, l, cs =>
    match skipLines false cs with
    | [] => some l
    | cs => do
      let (l, cs) ← takeLine l cs
      takeLines fuel l cs

/-- The document of a text; a byte order mark at its start is skipped. -/
def parse (text : String) : Option Tree := do
  let cs := match text.toList with
    | '\ufeff' :: cs => cs
    | cs => cs
  let l ← takeLines (cs.length + 1) { current := [], header? := none, sections := [], top := [] } cs
  l.document

end ImportLint.Toml
