import ImportLint.Text.Hex

/-!
# Blanks, comments and strings of TOML

The readers here take the characters that are left of a text and give back those behind what they have read,
or nothing if the text is malformed there.
-/

namespace ImportLint.Toml

/-- A blank inside a line. -/
def isSpace (c : Char) : Bool := c == ' ' || c == '\t'

/-- Any character but the controls; a tab is none of them here. -/
def isText (c : Char) : Bool := c == '\t' || (0x20 ≤ c.toNat && c.toNat != 0x7f)

/-- Skips blanks inside a line. -/
def skipSpaces (cs : List Char) : List Char := cs.dropWhile isSpace

/-- Takes the end of a line. -/
def newline? : List Char → Option (List Char)
  | '\n' :: cs => some cs
  | '\r' :: '\n' :: cs => some cs
  | _ => none

/-- Skips a comment up to the end of its line. -/
def skipComment : List Char → List Char
  | '#' :: cs => cs.dropWhile isText
  | cs => cs

/-- Takes what may stand behind an expression: blanks, a comment, and the end of the line or of the text. -/
def lineEnd? (cs : List Char) : Option (List Char) :=
  match skipComment (skipSpaces cs) with
  | [] => some []
  | cs => newline? cs

/-- Skips blanks, ends of lines and comments. -/
def skipLines : Bool → List Char → List Char
  | _, [] => []
  | _, '\n' :: cs => skipLines false cs
  | _, '\r' :: '\n' :: cs => skipLines false cs
  | true, c :: cs => if isText c then skipLines true cs else c :: cs
  | false, c :: cs =>
    if isSpace c then skipLines false cs else if c = '#' then skipLines true cs else c :: cs

/-- The character of an escape by a single letter. -/
def escapedChar? : Char → Option Char
  | 'b' => some '\x08'
  | 'f' => some '\x0c'
  | 'n' => some '\n'
  | 'r' => some '\r'
  | 't' => some '\t'
  | '"' => some '"'
  | '\\' => some '\\'
  | _ => none

/-- The character with a number of exactly `count` hexadecimal digits. -/
def hexChar : Nat → Nat → List Char → Option (Char × List Char)
  | 0, n, cs => (Text.scalar? n).map fun c => (c, cs)
  | count + 1, n, c :: cs => do hexChar count (16 * n + (← Text.hexValue? c)) cs
  | _ + 1, _, [] => none

/-- An escape, behind its backslash. -/
def escape : List Char → Option (Char × List Char)
  | 'u' :: cs => hexChar 4 0 cs
  | 'U' :: cs => hexChar 8 0 cs
  | c :: cs => (escapedChar? c).map fun x => (x, cs)
  | [] => none

/-- A string between double quotes, behind the first of them; `text` has its characters so far in reverse. -/
def basicText : Nat → List Char → List Char → Option (String × List Char)
  | 0, _, _ => none
  | fuel + 1, text, cs =>
    match cs with
    | [] => none
    | '"' :: cs => some (String.ofList text.reverse, cs)
    | '\\' :: cs => do
      let (x, cs) ← escape cs
      basicText fuel (x :: text) cs
    | c :: cs => if isText c then basicText fuel (c :: text) cs else none

/-- A string between single quotes, behind the first of them. -/
def literalText (cs : List Char) : Option (String × List Char) :=
  match cs.dropWhile fun c => isText c && c != '\'' with
  | '\'' :: rest => some (String.ofList (cs.takeWhile fun c => isText c && c != '\''), rest)
  | _ => none

/-- Skips blanks and ends of lines. -/
def skipBlankLines : List Char → List Char
  | '\r' :: '\n' :: cs => skipBlankLines cs
  | c :: cs => if isSpace c || c == '\n' then skipBlankLines cs else c :: cs
  | [] => []

/-- Skips blanks and ends of lines behind a backslash; there must be an end of line among them. -/
def joinLines? (cs : List Char) : Option (List Char) :=
  (newline? (skipSpaces cs)).map skipBlankLines

/-- Takes a run of quotes inside or at the end of a string over several lines. Up to two of them belong to the
string; three close it, with up to two before them. The result tells whether the string is closed. -/
def quoteRun (quote : Char) (cs : List Char) : Nat × Bool × List Char :=
  let n := (cs.takeWhile (· == quote)).length
  if n < 3 then (n, false, cs.drop n) else (min (n - 3) 2, true, cs.drop (min n 5))

/-- A string over several lines, behind its opening quotes. A backslash has a meaning only if `escapes`. -/
def longText (quote : Char) (escapes : Bool) : Nat → List Char → List Char → Option (String × List Char)
  | 0, _, _ => none
  | fuel + 1, text, cs =>
    match cs with
    | [] => none
    | '\n' :: cs => longText quote escapes fuel ('\n' :: text) cs
    | '\r' :: '\n' :: cs => longText quote escapes fuel ('\n' :: text) cs
    | c :: rest =>
      if c = quote then
        let (n, closed, cs) := quoteRun quote cs
        let text := List.replicate n quote ++ text
        if closed then some (String.ofList text.reverse, cs) else longText quote escapes fuel text cs
      else if c = '\\' ∧ escapes then
        match joinLines? rest with
        | some cs => longText quote escapes fuel text cs
        | none => do
          let (x, cs) ← escape rest
          longText quote escapes fuel (x :: text) cs
      else if isText c then longText quote escapes fuel (c :: text) rest
      else none

/-- Skips an end of line. -/
def skipNewline (cs : List Char) : List Char := (newline? cs).getD cs

/-- A string in one of its four forms. -/
def string : List Char → Option (String × List Char)
  | '"' :: '"' :: '"' :: cs => longText '"' true (cs.length + 1) [] (skipNewline cs)
  | '"' :: cs => basicText (cs.length + 1) [] cs
  | '\'' :: '\'' :: '\'' :: cs => longText '\'' false (cs.length + 1) [] (skipNewline cs)
  | '\'' :: cs => literalText cs
  | _ => none

/-- A character of a key without quotes. -/
def isKeyChar (c : Char) : Bool := c.isAlphanum || c == '-' || c == '_'

/-- One part of a key. -/
def keyPart : List Char → Option (String × List Char)
  | '"' :: cs => basicText (cs.length + 1) [] cs
  | '\'' :: cs => literalText cs
  | cs =>
    match cs.takeWhile isKeyChar with
    | [] => none
    | name => some (String.ofList name, cs.dropWhile isKeyChar)

/-- The parts of a key behind those in `parts`, which are in reverse. -/
def keyParts : Nat → List String → List Char → Option (List String × List Char)
  | 0, _, _ => none
  | fuel + 1, parts, cs => do
    let (part, cs) ← keyPart (skipSpaces cs)
    match skipSpaces cs with
    | '.' :: cs => keyParts fuel (part :: parts) cs
    | cs => pure ((part :: parts).reverse, cs)

/-- How many parts a key may have at most, and how deeply values may be nested. -/
def depthLimit : Nat := 79

/-- A key: its parts, joined by dots, with the blanks around it. -/
def key (cs : List Char) : Option (List String × List Char) := do
  let (parts, cs) ← keyParts (cs.length + 1) [] cs
  if parts.length ≤ depthLimit then pure (parts, cs) else none

end ImportLint.Toml
