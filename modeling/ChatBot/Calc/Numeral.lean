-- Number texts: ASCII digits with at most one point among them, and at least
-- one digit.
import ChatBot.Decimal.Nearest

namespace ChatBot.Calc

/-- A number text, cut at its point. -/
structure Numeral where
  whole : List Char
  /-- The digits after the point; `none` if there is no point. -/
  fraction : Option (List Char)
  allDigits : (whole ++ fraction.getD []).all Char.isDigit = true
  hasDigit : whole ++ fraction.getD [] ≠ []
  deriving DecidableEq

namespace Numeral

/-- The text that the numeral was cut from. -/
def chars (n : Numeral) : List Char :=
  n.whole ++ match n.fraction with
    | none => []
    | some ds => '.' :: ds

/-- The character that the text starts with. -/
def glyph (n : Numeral) : Char := n.chars.headD '.'

/-- The numeral with the given digits, if they are digits and not none at all. -/
def ofParts? (whole : List Char) (fraction : Option (List Char)) : Option Numeral :=
  if h : (whole ++ fraction.getD []).all Char.isDigit = true ∧ whole ++ fraction.getD [] ≠ [] then
    some ⟨whole, fraction, h.1, h.2⟩
  else none

/-- Cuts a text at its point, if it is a number text. -/
def ofChars? (cs : List Char) : Option Numeral :=
  match cs.dropWhile Char.isDigit with
  | [] => ofParts? cs none
  | c :: ds => if c = '.' then ofParts? (cs.takeWhile Char.isDigit) (some ds) else none

/-- All digits, before and after the point. -/
def allOf (n : Numeral) : List Char := n.whole ++ n.fraction.getD []

/-- The count of digits after the point. -/
def places (n : Numeral) : Nat := (n.fraction.getD []).length

/-- The double nearest to the number that the text writes. -/
def toFloat (n : Numeral) : Float :=
  Decimal.nearest (Decimal.valueOfDigits n.allOf) (Decimal.tenTo n.places)

end Numeral

end ChatBot.Calc
