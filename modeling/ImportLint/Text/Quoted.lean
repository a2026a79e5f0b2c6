import ImportLint.Unicode.Property

/-!
# Quoted text

Text between double quotes, as messages show it: what would be invisible or would run into its neighbours is
written as an escape.
-/

namespace ImportLint.Text

/-- The hexadecimal digits of a number, in lower case and without leading zeros. -/
def hexDigits (n : Nat) : List Char :=
  Nat.toDigits 16 n

/-- How a character is written between double quotes: the common controls by a letter, the quote and the
backslash behind a backslash, and what is not printable or joins its neighbour by its number. -/
def quotedChar (c : Char) : List Char :=
  match c with
  | '\x00' => ['\\', '0']
  | '\t' => ['\\', 't']
  | '\n' => ['\\', 'n']
  | '\r' => ['\\', 'r']
  | '"' => ['\\', '"']
  | '\\' => ['\\', '\\']
  | c =>
    if Unicode.isPrintable c && !Unicode.Property.has .graphemeExtend c.toNat then [c]
    else '\\' :: 'u' :: '\x7b' :: hexDigits c.toNat ++ ['\x7d']

/-- A text between double quotes. -/
def quoted (s : String) : String :=
  String.ofList ('"' :: s.toList.flatMap quotedChar ++ ['"'])

end ImportLint.Text
