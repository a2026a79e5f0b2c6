import ImportLint.Json.Number
import ImportLint.Text.Hex

/-!
# Lexemes of JSON texts

`lexemes` cuts a text into brackets, separators, words, numbers and strings. It goes through the text one
character at a time; `Lexer.step` takes in a character and `Lexer.finish` the end of the text. The first
malformed lexeme is the last one: nothing is read behind it.
-/

namespace ImportLint.Json

open Document (Break Tree)
open Text (hexValue?)

/-- A lexeme of a JSON text. -/
inductive Lexeme
  | openList
  | closeList
  | openTable
  | closeTable
  | comma
  | colon
  /-- A word or a number. -/
  | scalar (t : Tree)
  | text (s : String)
  /-- A string with half a surrogate pair in it. -/
  | unpaired
  /-- A string that breaks off. -/
  | brokenText (b : Break)
  /-- Anything else that breaks off. -/
  | broken (b : Break)

/-- The place inside a number. -/
inductive NumberPlace
  | sign | zero | whole | point | fraction | exponent | exponentSign | power
  deriving DecidableEq, Repr

/-- What an escape inside a string still waits for. -/
inductive Escape
  /-- No escape is open. -/
  | none
  /-- The character behind the backslash. -/
  | letter
  /-- Four bytes of hexadecimal digits: the bytes and the value so far, and whether all were digits. `lead?`
  is the first half of a surrogate pair that waits for its second half. -/
  | code (lead? : Option Nat) (bytes : Nat) (value : Nat) (valid : Bool)
  /-- The backslash of the second half of a surrogate pair. -/
  | tail (lead : Nat)
  /-- The letter behind that backslash. -/
  | tailLetter (lead : Nat)
  deriving DecidableEq, Repr

/-- What the lexer is in the middle of. -/
inductive Mode
  | between
  /-- A word: the letters still due, and its value. -/
  | word (due : List Char) (t : Tree)
  | number (place : NumberPlace) (digits : Digits)
  /-- A string: its characters so far in reverse, whether a surrogate has been found without its partner, and
  the open escape. -/
  | text (chars : List Char) (unpaired : Bool) (escape : Escape)
  /-- Behind a lexeme that breaks off. -/
  | stopped

/-- The lexemes so far in reverse, and what comes next. -/
structure Lexer where
  done : List Lexeme
  mode : Mode

/-- The white space of JSON. -/
def isSpace (c : Char) : Bool :=
  c == ' ' || c == '\n' || c == '\r' || c == '\t'

def digitValue (c : Char) : Nat := c.toNat - '0'.toNat

/-- The character of an escape by a single letter. -/
def escapedChar? : Char → Option Char
  | '"' => some '"'
  | '\\' => some '\\'
  | '/' => some '/'
  | 'b' => some '\x08'
  | 'f' => some '\x0c'
  | 'n' => some '\n'
  | 'r' => some '\r'
  | 't' => some '\t'
  | _ => none

namespace Lexer

/-- Adds a lexeme. -/
def emit (l : Lexer) (x : Lexeme) : Lexer :=
  { done := x :: l.done, mode := .between }

/-- Adds a lexeme that breaks off. -/
def stop (l : Lexer) (x : Lexeme) : Lexer :=
  { done := x :: l.done, mode := .stopped }

/-- The lexeme for a string that breaks off; a lone surrogate in it comes before the break. -/
def cutText (unpaired : Bool) (b : Break) : Lexeme :=
  .brokenText (if unpaired then .unpaired b else b)

/-- Starts a lexeme with a character that is none of white space, bracket and separator. -/
def start (l : Lexer) (c : Char) : Lexer :=
  if c = '"' then { l with mode := .text [] false .none }
  else if c = 'n' then { l with mode := .word "ull".toList .null }
  else if c = 't' then { l with mode := .word "rue".toList (.bool true) }
  else if c = 'f' then { l with mode := .word "alse".toList (.bool false) }
  else if c = '-' then { l with mode := .number .sign ⟨true, [], [], false, []⟩ }
  else if c = '0' then { l with mode := .number .zero ⟨false, [0], [], false, []⟩ }
  else if c.isDigit then { l with mode := .number .whole ⟨false, [digitValue c], [], false, []⟩ }
  else l.stop (.broken .malformed)

/-- Takes in a character between two lexemes. -/
def between (l : Lexer) (c : Char) : Lexer :=
  if isSpace c then l
  else if c = '[' then l.emit .openList
  else if c = ']' then l.emit .closeList
  else if c = '\x7b' then l.emit .openTable
  else if c = '\x7d' then l.emit .closeTable
  else if c = ',' then l.emit .comma
  else if c = ':' then l.emit .colon
  else l.start c

/-- Takes in a character inside a word. -/
def word (l : Lexer) (due : List Char) (t : Tree) (c : Char) : Lexer :=
  match due with
  | [] => l.stop (.broken .malformed)
  | d :: due =>
    if c ≠ d then l.stop (.broken .malformed)
    else if due.isEmpty then l.emit (.scalar t)
    else { l with mode := .word due t }

/-- Goes on inside a number. -/
def goOn (l : Lexer) (place : NumberPlace) (digits : Digits) : Lexer :=
  { l with mode := .number place digits }

/-- Takes in a character inside a number; the digits of each part are kept in reverse until it ends. -/
def number (l : Lexer) (place : NumberPlace) (n : Digits) (c : Char) : Lexer :=
  let d := digitValue c
  let isE := c = 'e' ∨ c = 'E'
  let ended := (l.emit (.scalar n.reverse.tree)).between c
  let bad := l.stop (.broken .malformed)
  match place with
  | .sign =>
    if c = '0' then l.goOn .zero { n with whole := [0] }
    else if c.isDigit then l.goOn .whole { n with whole := [d] }
    else bad
  | .zero =>
    if c.isDigit then bad
    else if c = '.' then l.goOn .point n
    else if isE then l.goOn .exponent n
    else ended
  | .whole =>
    if c.isDigit then l.goOn .whole { n with whole := d :: n.whole }
    else if c = '.' then l.goOn .point n
    else if isE then l.goOn .exponent n
    else ended
  | .point => if c.isDigit then l.goOn .fraction { n with fraction := [d] } else bad
  | .fraction =>
    if c.isDigit then l.goOn .fraction { n with fraction := d :: n.fraction }
    else if isE then l.goOn .exponent n
    else ended
  | .exponent =>
    if c = '+' then l.goOn .exponentSign n
    else if c = '-' then l.goOn .exponentSign { n with powerNegative := true }
    else if c.isDigit then l.goOn .power { n with power := [d] }
    else bad
  | .exponentSign => if c.isDigit then l.goOn .power { n with power := [d] } else bad
  | .power => if c.isDigit then l.goOn .power { n with power := d :: n.power } else ended

/-- Goes on inside a string. -/
def goOnText (l : Lexer) (chars : List Char) (unpaired : Bool) (escape : Escape) : Lexer :=
  { l with mode := .text chars unpaired escape }

/-- Takes in a character of a string in which no escape is open. -/
def plainText (l : Lexer) (chars : List Char) (unpaired : Bool) (c : Char) : Lexer :=
  if c = '"' then l.emit (if unpaired then .unpaired else .text (String.ofList chars.reverse))
  else if c = '\\' then l.goOnText chars unpaired .letter
  else if c.toNat < 0x20 then l.stop (cutText unpaired .malformed)
  else l.goOnText (c :: chars) unpaired .none

/-- Takes in the character behind a backslash. -/
def escapeLetter (l : Lexer) (chars : List Char) (unpaired : Bool) (c : Char) : Lexer :=
  if c = 'u' then l.goOnText chars unpaired (.code none 0 0 true)
  else match escapedChar? c with
    | some x => l.goOnText (x :: chars) unpaired .none
    | none => l.stop (cutText unpaired .malformed)

/-- Ends an escape by number. A surrogate must have its partner next to it. -/
def escapeCode (l : Lexer) (chars : List Char) (unpaired : Bool) (lead? : Option Nat) (n : Nat) : Lexer :=
  let low := 0xDC00 ≤ n ∧ n ≤ 0xDFFF
  let high := 0xD800 ≤ n ∧ n ≤ 0xDBFF
  match lead? with
  | some lead =>
    if low then
      l.goOnText (Char.ofNat (0x10000 + (lead - 0xD800) * 0x400 + (n - 0xDC00)) :: chars) unpaired .none
    else l.goOnText chars true .none
  | none =>
    if low then l.goOnText chars true .none
    else if high ∧ !unpaired then l.goOnText chars unpaired (.tail n)
    else l.goOnText (Char.ofNat n :: chars) unpaired .none

/-- Takes in a character inside a string. -/
def text (l : Lexer) (chars : List Char) (unpaired : Bool) (escape : Escape) (c : Char) : Lexer :=
  match escape with
  | .none => l.plainText chars unpaired c
  | .letter => l.escapeLetter chars unpaired c
  | .code lead? bytes value valid =>
    let bytes := bytes + c.utf8Size
    let value := 16 * value + (hexValue? c).getD 0
    let valid := valid && (hexValue? c).isSome
    if bytes < 4 then l.goOnText chars unpaired (.code lead? bytes value valid)
    else if valid then l.escapeCode chars unpaired lead? value
    else l.stop (cutText unpaired .malformed)
  | .tail lead =>
    if c = '\\' then l.goOnText chars unpaired (.tailLetter lead) else l.plainText chars true c
  | .tailLetter lead =>
    if c = 'u' then l.goOnText chars unpaired (.code (some lead) 0 0 true) else l.escapeLetter chars true c

/-- Takes in a character. -/
def step (l : Lexer) (c : Char) : Lexer :=
  match l.mode with
  | .between => l.between c
  | .word due t => l.word due t c
  | .number place digits => l.number place digits c
  | .text chars unpaired escape => l.text chars unpaired escape c
  | .stopped => l

/-- Whether a number may end at a place. -/
def mayEnd : NumberPlace → Bool
  | .zero | .whole | .fraction | .power => true
  | _ => false

/-- Takes in the end of the text. -/
def finish (l : Lexer) : Lexer :=
  match l.mode with
  | .between => l
  | .word _ t => l.stop (.broken (.endedInWord (match t with | .null => true | _ => false)))
  | .number place digits =>
    if mayEnd place then l.emit (.scalar digits.reverse.tree) else l.stop (.broken .endedInNumber)
  | .text _ unpaired _ => l.stop (cutText unpaired .endedInText)
  | .stopped => l

end Lexer

/-- The lexemes of a text, in order. -/
def lexemes (chars : List Char) : List Lexeme :=
  (chars.foldl Lexer.step ⟨[], .between⟩).finish.done.reverse

end ImportLint.Json
