-- The arithmetic that expressions are worked out in. The reader of expressions
-- knows nothing of it but these operations.
import ChatBot.Calc.Numeral

namespace ChatBot.Calc

/-- Numbers to calculate with. -/
structure Arithmetic (α : Type) where
  ofNumeral : Numeral → α
  add : α → α → α
  sub : α → α → α
  mul : α → α → α
  div : α → α → α
  pow : α → α → α
  neg : α → α
  /-- Whether a number must not divide another. -/
  isZero : α → Bool
  isFinite : α → Bool

/-- Double-precision arithmetic. Both zeros count as zero. -/
def Arithmetic.double : Arithmetic Float where
  ofNumeral := Numeral.toFloat
  add := Float.add
  sub := Float.sub
  mul := Float.mul
  div := Float.div
  pow := Float.pow
  neg := Float.neg
  isZero x := x == 0.0
  isFinite := Float.isFinite

end ChatBot.Calc
