-- The double nearest to a quotient of whole numbers, found without any
-- rounding on the way. Halfway between two doubles, the even one is taken.
import ChatBot.Decimal.Binary64
import ChatBot.Decimal.Digits

namespace ChatBot.Decimal

/-- `num / den` to the nearest whole number; halfway between two, the even one. -/
def roundHalfEven (num den : Nat) : Nat :=
  let floor := num / den
  let doubled := 2 * (num % den)
  if doubled < den then floor
  else if den < doubled then floor + 1
  else floor + floor % 2

/-- `num / den` counted in steps of `2 ^ exponent`. -/
def inSteps (num den : Nat) (exponent : Int) : Nat × Nat :=
  (num * twoTo (-exponent).toNat, den * twoTo exponent.toNat)

/-- The step at which `num / den` has 53 bits before the point, or the least step of all
if the number is too small for that. -/
def stepFor (num den : Nat) : Int :=
  let guess : Int := num.log2 - den.log2 - 53
  let (n, d) := inSteps num den guess
  max (if n / d < twoTo 53 then guess else guess + 1) Binary64.leastExponent

/-- The bits of `mantissa * 2 ^ exponent`, where the mantissa has at most 53 bits or is
`2 ^ 53`: a mantissa with 53 bits carries one into the exponent. -/
def packBits (mantissa : Nat) (exponent : Int) : UInt64 :=
  let raised := (exponent - Binary64.leastExponent).toNat
  let packed := raised * twoTo Binary64.fractionBits + mantissa
  UInt64.ofNat (min packed (Binary64.topExponent * twoTo Binary64.fractionBits))

/-- The bits of the double nearest to `num / den`; infinity if it is too large. -/
def nearestBits (num den : Nat) : UInt64 :=
  if num = 0 then 0
  else
    let exponent := stepFor num den
    let (n, d) := inSteps num den exponent
    packBits (roundHalfEven n d) exponent

/-- The double nearest to `num / den`, for a `den` that is not zero. -/
def nearest (num den : Nat) : Float := Float.ofBits (nearestBits num den)

end ChatBot.Decimal
