-- Double-precision numbers, taken apart: a sign, a whole number, and the power
-- of two that it is multiplied by.
import ChatBot.Decimal.Powers

namespace ChatBot.Decimal

/-- What the 64 bits of a double stand for. -/
inductive Binary64
  | nan
  | infinite (negative : Bool)
  /-- The number `mantissa * 2 ^ exponent`, negated if `negative`. -/
  | finite (negative : Bool) (mantissa : Nat) (exponent : Int)
  deriving DecidableEq, Repr

namespace Binary64

/-- The number of bits below the leading one. -/
def fractionBits : Nat := 52

/-- The power of two of the smallest double that is not zero. -/
def leastExponent : Int := -1074

/-- The 11 bits of the exponent, all set: infinities and what is not a number. -/
def topExponent : Nat := 2047

/-- Reads the sign bit, the 11 bits of the exponent and the 52 bits of the fraction. -/
def ofBits (bits : UInt64) : Binary64 :=
  let n := bits.toNat
  let negative := twoTo 63 ≤ n
  let biased := n / twoTo fractionBits % 2048
  let fraction := n % twoTo fractionBits
  if biased = topExponent then
    if fraction = 0 then .infinite negative else .nan
  else if biased = 0 then .finite negative fraction leastExponent
  else .finite negative (fraction + twoTo fractionBits) (biased - 1075)

def ofFloat (x : Float) : Binary64 := ofBits x.toBits

/-- A finite double as a quotient of whole numbers, without its sign. -/
def ratio (mantissa : Nat) (exponent : Int) : Nat × Nat :=
  (mantissa * twoTo exponent.toNat, twoTo (-exponent).toNat)

end Binary64

end ChatBot.Decimal
