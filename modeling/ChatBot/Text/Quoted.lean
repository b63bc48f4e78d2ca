-- Texts in double quotes, as error messages show them: what would not show is
-- written as an escape.
import ChatBot.Text.Printable

namespace ChatBot.Text

/-- The hexadecimal digits of a number, small letters. -/
def hexDigits (n : Nat) : List Char := Nat.toDigits 16 n

/-- The escape of a code point, such as the characters `\u{feff}`. -/
def codePointEscape (c : Char) : List Char :=
  '\\' :: 'u' :: '\x7b' :: hexDigits c.toNat ++ ['\x7d']

/-- One character inside the quotes. -/
def quoteChar (c : Char) : List Char :=
  match c with
  | '\x00' => ['\\', '0']
  | '\t' => ['\\', 't']
  | '\r' => ['\\', 'r']
  | '\n' => ['\\', 'n']
  | '\\' => ['\\', '\\']
  | '"' => ['\\', '"']
  | c => if isPrintable c then [c] else codePointEscape c

/-- A text in quotes. -/
def quoted (s : String) : String :=
  String.ofList ('"' :: s.toList.flatMap quoteChar ++ ['"'])

end ChatBot.Text
