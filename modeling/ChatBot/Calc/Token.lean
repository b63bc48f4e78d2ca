-- The tokens of an expression: numbers, the five operators and parentheses,
-- with white space between them. Each token knows the byte where it starts.
import ChatBot.Reading
import ChatBot.Text.Blank
import ChatBot.Text.Bytes
import ChatBot.Calc.Failure
import ChatBot.Calc.Numeral

namespace ChatBot.Calc

/-- What a token is. -/
inductive Lexeme
  | number (n : Numeral)
  | plus
  | minus
  | star
  | slash
  | caret
  | opening
  | closing
  deriving DecidableEq

namespace Lexeme

/-- The characters that write a lexeme. -/
def chars : Lexeme → List Char
  | .number n => n.chars
  | .plus => ['+']
  | .minus => ['-']
  | .star => ['*']
  | .slash => ['/']
  | .caret => ['^']
  | .opening => ['(']
  | .closing => [')']

/-- The character that a lexeme starts with. -/
def glyph : Lexeme → Char
  | .number n => n.glyph
  | .plus => '+'
  | .minus => '-'
  | .star => '*'
  | .slash => '/'
  | .caret => '^'
  | .opening => '('
  | .closing => ')'

/-- The lexeme of one fixed character. -/
def ofSign? : Char → Option Lexeme
  | '+' => some .plus
  | '-' => some .minus
  | '*' => some .star
  | '/' => some .slash
  | '^' => some .caret
  | '(' => some .opening
  | ')' => some .closing
  | _ => none

end Lexeme

/-- A lexeme, and the count of UTF-8 bytes before it. -/
structure Token where
  offset : Nat
  lexeme : Lexeme
  deriving DecidableEq

/-- The characters that number texts are made of. -/
def isNumeric (c : Char) : Bool := c.isDigit || c == '.'

/-- The tokens of `cs`, which starts at byte `offset`. A run of digits and points is one
number, as long as it can be. -/
def scan (offset : Nat) (cs : List Char) : Except Failure (List Token) :=
  match cs with
  | [] => .ok []
  | c :: rest =>
    if Text.isBlank c then scan (offset + c.utf8Size) rest
    else match Lexeme.ofSign? c with
    | some sign => do
      let tokens ← scan (offset + c.utf8Size) rest
      return ⟨offset, sign⟩ :: tokens
    | none =>
      if isNumeric c then
        let run := c :: rest.takeWhile isNumeric
        match Numeral.ofChars? run with
        | none => .error (.invalidNumber (String.ofList run))
        | some n => do
          let tokens ← scan (offset + Text.byteLength run) (rest.dropWhile isNumeric)
          return ⟨offset, .number n⟩ :: tokens
      else .error (.unexpected c offset)
termination_by cs.length
decreasing_by
  · exact Nat.lt_succ_self _
  · exact Nat.lt_succ_self _
  · exact Nat.lt_succ_of_le (length_dropWhile_le _ _)

/-- The tokens of an expression. -/
def tokens (expression : String) : Except Failure (List Token) := scan 0 expression.toList

end ChatBot.Calc
