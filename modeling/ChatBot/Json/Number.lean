-- The numbers of JSON documents. Whole numbers are kept as such while 64 bits
-- hold them; any other number is a double, worked out from as many digits as
-- 64 bits hold and one power of ten, in one or more rounded steps.
import ChatBot.Decimal.Plain

namespace ChatBot.Json

/-- A number in a document. -/
inductive Number
  /-- A whole number below `2 ^ 64`. -/
  | natural (n : Nat)
  /-- The whole number `-n`, for an `n` from one to `2 ^ 63`. -/
  | negative (n : Nat)
  | real (x : Float)
  deriving DecidableEq

/-- The parts of a number text. -/
structure Literal where
  negative : Bool
  whole : List Char
  fraction : Option (List Char)
  /-- The sign of the power of ten, set if it is negative, and its digits. -/
  exponent : Option (Bool × List Char)

/-- Whole numbers below this one fit into 64 bits. -/
def wordLimit : Nat := Decimal.twoTo 64

/-- Takes digits into a whole number while 64 bits hold it. Gives the number and the
digits that were not taken. -/
def takeDigits (n : Nat) : List Char → Nat × List Char
  | [] => (n, [])
  | d :: ds =>
    let next := 10 * n + (d.toNat - '0'.toNat)
    if next < wordLimit then takeDigits next ds else (n, d :: ds)

/-- A power of ten, kept within 32 bits. -/
def clampPower (n : Int) : Int := max (-2147483648) (min n 2147483647)

/-- The largest power of ten that is a double. -/
def topPower : Nat := 308

/-- The double nearest to a power of ten. -/
def powerOfTen (n : Nat) : Float := Decimal.nearest (Decimal.tenTo n) 1

/-- Divides by powers of ten, at most `10 ^ 308` at a time. -/
def divideByPower : (steps : Nat) → Float → (power : Nat) → Float
  | 0, x, _ => x
  | steps + 1, x, power =>
    if power ≤ topPower then x / powerOfTen power
    else if x == 0.0 then x
    else divideByPower steps (x / powerOfTen topPower) (power - topPower)

/-- `significand * 10 ^ power` in doubles; none if that is too large. Three divisions by
`10 ^ 308` turn every 64-bit number into zero. -/
def scale (significand : Nat) (power : Int) : Option Float :=
  let x := Decimal.nearest significand 1
  if 0 ≤ power then
    if power.toNat ≤ topPower then
      let y := x * powerOfTen power.toNat
      if y.isInf then none else some y
    else if significand = 0 then some x
    else none
  else some (divideByPower 4 x (-power).toNat)

/-- The number of a literal with a point, a power of ten, or too many digits. -/
def Literal.real? (l : Literal) : Option Float :=
  let (head, restWhole) := takeDigits 0 l.whole
  let (significand, restFraction) := takeDigits head (l.fraction.getD [])
  let taken := (l.fraction.getD []).length - restFraction.length
  let shift : Int := restWhole.length - taken
  let magnitude := match l.exponent with
    | none => scale significand shift
    | some (down, ds) =>
      let power := Decimal.valueOfDigits ds
      if 2147483648 ≤ power then
        if significand = 0 ∨ down then some 0.0 else none
      else scale significand (clampPower (if down then shift - power else shift + power))
  magnitude.map fun x => if l.negative then -x else x

/-- The number that a literal stands for; none if it is too large for a double. The text of
minus zero is a double, for whole numbers have no such value. -/
def Literal.value? (l : Literal) : Option Number :=
  match l.fraction, l.exponent, takeDigits 0 l.whole with
  | none, none, (n, []) =>
    if !l.negative then some (.natural n)
    else if 1 ≤ n ∧ n ≤ Decimal.twoTo 63 then some (.negative n)
    else some (.real (-(Decimal.nearest n 1)))
  | _, _, _ => l.real?.map .real

/-! ## Writing -/

/-- Digits with one point, and a power of ten where the number is at least `10 ^ 16` or below
`10 ^ -5`. A number without places gets the place `0`. -/
def writeScaled (s : Decimal.Scaled) : List Char :=
  let ds := Decimal.digits s.digits
  let point : Int := ds.length + s.exponent
  if 0 ≤ s.exponent ∧ point ≤ 16 then ds ++ List.replicate s.exponent.toNat '0' ++ ['.', '0']
  else if 0 < point ∧ point ≤ 16 then ds.take point.toNat ++ '.' :: ds.drop point.toNat
  else if -5 < point ∧ point ≤ 0 then '0' :: '.' :: List.replicate (-point).toNat '0' ++ ds
  else
    let power := point - 1
    let head := if ds.length = 1 then ds else ds.take 1 ++ '.' :: ds.drop 1
    head ++ 'e' :: (if power < 0 then '-' :: Decimal.digits power.natAbs
      else Decimal.digits power.natAbs)

/-- The text of a number. There is none for infinities, so they are written as nothing known. -/
def Number.chars : Number → List Char
  | .natural n => Decimal.digits n
  | .negative n => '-' :: Decimal.digits n
  | .real x =>
    match Decimal.Binary64.ofFloat x with
    | .finite minus mantissa exponent =>
      Decimal.signed minus (writeScaled (Decimal.shortest mantissa exponent))
    | _ => "null".toList

end ChatBot.Json
