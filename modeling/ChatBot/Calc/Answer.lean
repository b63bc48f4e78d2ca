-- How a value is written: a whole number below 10^15 as such, any other value
-- in the fewest digits that read back.
import ChatBot.Decimal.Plain

namespace ChatBot.Calc

/-- From here on whole numbers, too, are written as the fewest digits that read back. -/
def wholeLimit : Nat := Decimal.tenTo 15

/-- The text of a value. Zero has no sign. -/
def answer (x : Float) : String :=
  let b := Decimal.Binary64.ofFloat x
  String.ofList <| match b with
    | .finite negative mantissa exponent =>
      match Decimal.Binary64.whole? mantissa exponent with
      | some n =>
        if n < wholeLimit then Decimal.signed (negative && n != 0) (Decimal.digits n) else b.plain
      | none => b.plain
    | _ => b.plain

end ChatBot.Calc
