-- Strings in JSON documents: escapes, and characters that are written as a pair
-- of surrogates.
import ChatBot.Text.Hexadecimal

namespace ChatBot.Json

/-- What stands in a string: a character, or a 16-bit unit written in hexadecimal. -/
inductive Piece
  | char (c : Char)
  | unit (n : Nat)
  deriving DecidableEq, Repr

def isHighSurrogate (n : Nat) : Bool := 0xD800 ≤ n && n ≤ 0xDBFF

def isLowSurrogate (n : Nat) : Bool := 0xDC00 ≤ n && n ≤ 0xDFFF

/-- The characters that the pieces stand for; none if a surrogate has no partner right
beside it. -/
def joinPieces : List Piece → Option (List Char)
  | [] => some []
  | .char c :: more => (joinPieces more).map (c :: ·)
  | .unit n :: more =>
    if isLowSurrogate n then none
    else if isHighSurrogate n then
      match more with
      | .unit m :: more =>
        if isLowSurrogate m then
          (joinPieces more).map
            (Char.ofNat (0x10000 + (n - 0xD800) * 0x400 + (m - 0xDC00)) :: ·)
        else none
      | _ => none
    else (joinPieces more).map (Char.ofNat n :: ·)

/-- The character that an escape of one letter stands for. -/
def escapedChar? : Char → Option Char
  | '"' => some '"'
  | '\\' => some '\\'
  | '/' => some '/'
  | 'b' => some '\x08'
  | 'f' => some '\x0c'
  | 'n' => some '\n'
  | 'r' => some '\r'
  | 't' => some '\t'
  | _ => none

/-! ## Writing -/

/-- The two hexadecimal digits of a control character. -/
def hexPair (n : Nat) : List Char := [Text.hexDigit (n / 16), Text.hexDigit (n % 16)]

/-- A character inside a string: quotes, backslashes and control characters are escaped. -/
def writeChar (c : Char) : List Char :=
  match c with
  | '"' => ['\\', '"']
  | '\\' => ['\\', '\\']
  | '\x08' => ['\\', 'b']
  | '\x0c' => ['\\', 'f']
  | '\n' => ['\\', 'n']
  | '\r' => ['\\', 'r']
  | '\t' => ['\\', 't']
  | c => if c.toNat < 0x20 then '\\' :: 'u' :: '0' :: '0' :: hexPair c.toNat else [c]

/-- A string with its quotes. -/
def writeText (s : String) : List Char := '"' :: s.toList.flatMap writeChar ++ ['"']

end ChatBot.Json
