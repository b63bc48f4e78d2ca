-- Why an expression has no value, and what the bot says about it.
import ChatBot.Decimal.Digits

namespace ChatBot.Calc

/-- Why an expression has no value. Offsets count the UTF-8 bytes before the place. -/
inductive Failure
  | empty
  | unexpectedEnd
  | unexpected (found : Char) (offset : Nat)
  | invalidNumber (text : String)
  | divisionByZero
  | nonFinite
  | tooDeep
  deriving DecidableEq, Repr

/-- The wording of a failure. -/
def Failure.message : Failure → String
  | .empty => "empty expression"
  | .unexpectedEnd => "unexpected end of expression"
  | .unexpected found offset =>
    "unexpected '" ++ found.toString ++ "' at position " ++ Decimal.text offset
  | .invalidNumber text => "invalid number '" ++ text ++ "'"
  | .divisionByZero => "division by zero"
  | .nonFinite => "result is not a finite number"
  | .tooDeep => "expression nested too deeply"

end ChatBot.Calc
