-- The shortest decimal of a double: the fewest digits that read back as the
-- same double, and of those the digits nearest to it. All of it is worked out
-- on whole numbers.
import ChatBot.Decimal.Binary64
import ChatBot.Decimal.Digits

namespace ChatBot.Decimal

/-- The number `digits * 10 ^ exponent`. -/
structure Scaled where
  digits : Nat
  exponent : Int
  deriving DecidableEq, Repr

namespace Scaled

/-- The same number without zeros at the end of its digits. -/
def strip : Nat → Scaled → Scaled
  | 0, s => s
  | fuel + 1, s =>
    if s.digits ≠ 0 ∧ s.digits % 10 = 0 then strip fuel ⟨s.digits / 10, s.exponent + 1⟩ else s

end Scaled

/-- The reals that read as the double `mantissa * 2 ^ exponent`, in quarters of its step:
from `low` to `high` over `den`, the two ends included if `closed`. -/
structure Basin where
  low : Nat
  value : Nat
  high : Nat
  den : Nat
  closed : Bool
  deriving DecidableEq, Repr

namespace Basin

/-- Halfway to the two neighbours. Below a power of two the neighbour is only half as far,
except at the least exponent. An even double takes the halfway points for itself. -/
def ofFinite (mantissa : Nat) (exponent : Int) : Basin :=
  let up := twoTo exponent.toNat
  let near := mantissa = twoTo Binary64.fractionBits ∧ Binary64.leastExponent < exponent
  { low := (4 * mantissa - (if near then 1 else 2)) * up
    value := 4 * mantissa * up
    high := (4 * mantissa + 2) * up
    den := 4 * twoTo (-exponent).toNat
    closed := mantissa % 2 = 0 }

/-- Whether `num / scale` lies in the basin. -/
def holds (b : Basin) (num scale : Nat) : Bool :=
  if b.closed then b.low * scale ≤ num * b.den && num * b.den ≤ b.high * scale
  else b.low * scale < num * b.den && num * b.den < b.high * scale

/-- The least power of ten above the number. From one on it is the count of digits before
the point; below one it counts down with the zeros after the point. -/
def magnitude (b : Basin) : Int :=
  if b.den ≤ b.value then (digits (b.value / b.den)).length
  else 1 - (digits ((b.den + b.value - 1) / b.value - 1)).length

/-- The digits nearest to the number on the grid with the given step of ten, if a point
of that grid reads back. Of two that are equally near, the upper one. -/
def onGrid (b : Basin) (step : Int) : Option Nat :=
  let up := tenTo step.toNat
  let down := tenTo (-step).toNat
  let num := b.value * down
  let den := b.den * up
  let below := num / den
  let above := below + 1
  let belowHolds := b.holds (below * up) down
  let aboveHolds := b.holds (above * up) down
  match belowHolds, aboveHolds with
  | true, true => some (if 2 * (num % den) < den then below else above)
  | true, false => some below
  | false, true => some above
  | false, false => none

/-- Tries grids of more and more digits, up to seventeen. -/
def search (b : Basin) : (grids : Nat) → (step : Int) → Scaled
  | 0, step => ⟨b.value * tenTo (-step).toNat / (b.den * tenTo step.toNat), step⟩
  | grids + 1, step =>
    match b.onGrid step with
    | some n => ⟨n, step⟩
    | none => search b grids (step - 1)

end Basin

/-- The shortest decimal that reads back as `mantissa * 2 ^ exponent`. -/
def shortest (mantissa : Nat) (exponent : Int) : Scaled :=
  if mantissa = 0 then ⟨0, 0⟩
  else
    let b := Basin.ofFinite mantissa exponent
    (b.search 17 (b.magnitude - 1)).strip 20

end ChatBot.Decimal
