import ImportLint.Document.Shape
import ImportLint.Json.Lexeme

/-!
# Reading JSON texts

`parse` turns a text into a document tree. The lexemes go through an automaton whose stack holds the open
lists and tables; `State.step` takes in a lexeme and `State.finish` the end of the text. Nothing is refused
here: where the text goes wrong the tree breaks off, and `Parsed.trailing` tells whether something stands
behind the value.
-/

namespace ImportLint.Json

open Document (Break Key Stop Tree ReadError Reader)

/-- An open list or table. -/
inductive Frame
  /-- A list with its items so far, in reverse. -/
  | list (items : List Tree)
  /-- A table with its members so far, in reverse, and the key that waits for its value. -/
  | entry (members : List (Key × Tree)) (key : Key)

/-- What is due next, with the open lists and tables, innermost first. -/
inductive State
  | value (stack : List Frame)
  /-- A first item or the closing bracket. -/
  | firstItem (stack : List Frame)
  /-- A first key or the closing bracket. -/
  | firstKey (stack : List Frame)
  /-- A key behind a comma. -/
  | key (members : List (Key × Tree)) (stack : List Frame)
  | colon (members : List (Key × Tree)) (key : Key) (stack : List Frame)
  /-- A comma or the closing bracket of a list. -/
  | afterItem (items : List Tree) (stack : List Frame)
  /-- A comma or the closing bracket of a table. -/
  | afterMember (members : List (Key × Tree)) (stack : List Frame)
  /-- The value is complete. -/
  | done (t : Tree)
  /-- The value is complete and something stands behind it. -/
  | doneTrailing (t : Tree)

namespace State

/-- Puts a complete value where it belongs. -/
def push (t : Tree) : List Frame → State
  | [] => done t
  | .list items :: stack => afterItem (t :: items) stack
  | .entry members k :: stack => afterMember ((k, t) :: members) stack

/-- The document when its text breaks off inside the innermost value. -/
def unwind (b : Break) : Tree → List Frame → Tree
  | t, [] => t
  | t, .list items :: stack => unwind b (.list (t :: items).reverse (.beforeComma b)) stack
  | t, .entry members k :: stack => unwind b (.table ((k, t) :: members).reverse (.beforeComma b)) stack

/-- The end of the document at a break where a value is due. -/
def breakOff (b : Break) (stack : List Frame) : State :=
  done (unwind b (.broken b) stack)

/-- Takes in a lexeme where a value is due. -/
def stepValue (stack : List Frame) : Lexeme → State
  | .openList => firstItem stack
  | .openTable => firstKey stack
  | .scalar t => push t stack
  | .text s => push (.text s) stack
  | .unpaired => push .unpaired stack
  | .brokenText b => breakOff b stack
  | .broken b => breakOff b stack
  | .closeList | .closeTable | .comma | .colon => breakOff .malformed stack

/-- The break at a lexeme that is no key where a key is due. -/
def keyBreak : Lexeme → Break
  | .brokenText b => b
  | .scalar t => (t.found?.map .notKey).getD .malformed
  | .openList => .notKey .list
  | .openTable => .notKey .table
  | _ => .malformed

/-- Takes in a lexeme. -/
def step : State → Lexeme → State
  | value stack, x => stepValue stack x
  | firstItem stack, .closeList => push (.list [] .closed) stack
  | firstItem stack, x => stepValue (.list [] :: stack) x
  | firstKey stack, .closeTable => push (.table [] .closed) stack
  | firstKey stack, .text s => colon [] (.text s) stack
  | firstKey stack, .unpaired => colon [] .unpaired stack
  | firstKey stack, x => done (unwind (keyBreak x) (.table [] (.beforeComma (keyBreak x))) stack)
  | key members stack, .text s => colon members (.text s) stack
  | key members stack, .unpaired => colon members .unpaired stack
  | key members stack, x =>
    done (unwind (keyBreak x) (.table members.reverse (.beforeKey (keyBreak x))) stack)
  | colon members k stack, .colon => value (.entry members k :: stack)
  | colon members k stack, _ => breakOff .malformed (.entry members k :: stack)
  | afterItem items stack, .comma => value (.list items :: stack)
  | afterItem items stack, .closeList => push (.list items.reverse .closed) stack
  | afterItem items stack, _ => done (unwind .malformed (.list items.reverse (.beforeComma .malformed)) stack)
  | afterMember members stack, .comma => key members stack
  | afterMember members stack, .closeTable => push (.table members.reverse .closed) stack
  | afterMember members stack, _ =>
    done (unwind .malformed (.table members.reverse (.beforeComma .malformed)) stack)
  | done t, _ => doneTrailing t
  | doneTrailing t, _ => doneTrailing t

/-- The document at the end of the text. -/
def finish : State → Tree
  | value stack => unwind .ended (.broken .ended) stack
  | firstItem stack => unwind .ended (.list [] (.beforeComma .ended)) stack
  | firstKey stack => unwind .ended (.table [] (.beforeComma .ended)) stack
  | key members stack => unwind .ended (.table members.reverse (.beforeKey .ended)) stack
  | colon members k stack => unwind .ended (.broken .ended) (.entry members k :: stack)
  | afterItem items stack => unwind .ended (.list items.reverse (.beforeComma .ended)) stack
  | afterMember members stack => unwind .ended (.table members.reverse (.beforeComma .ended)) stack
  | done t => t
  | doneTrailing t => t

/-- Whether something stands behind the value. -/
def trailing : State → Bool
  | doneTrailing _ => true
  | _ => false

end State

/-- The document of a text, and whether something stands behind it. -/
def parse (text : String) : Tree × Bool :=
  let s := (lexemes text.toList).foldl State.step (.value [])
  (s.finish, s.trailing)

/-- Reads a value from a text; what stands behind it is an error once the value itself is right. -/
def read {α : Type} (r : Reader α) (text : String) : Except ReadError α := do
  let (t, trailing) := parse text
  let a ← r t
  if trailing then .error .malformed else .ok a

end ImportLint.Json
