-- Doubles written out plainly: no exponent, however large or small the number.
import ChatBot.Decimal.Shortest
import ChatBot.Decimal.Nearest

namespace ChatBot.Decimal

/-- Digits with the point set where the exponent says, zeros filled in on either side. -/
def Scaled.positional (s : Scaled) : List Char :=
  let ds := Decimal.digits s.digits
  if 0 ≤ s.exponent then ds ++ List.replicate s.exponent.toNat '0'
  else
    let places := (-s.exponent).toNat
    if places < ds.length then ds.take (ds.length - places) ++ '.' :: ds.drop (ds.length - places)
    else '0' :: '.' :: List.replicate (places - ds.length) '0' ++ ds

/-- A minus sign, if there is one. -/
def signed (negative : Bool) (ds : List Char) : List Char :=
  if negative then '-' :: ds else ds

/-- A double in the fewest digits that read back, never with an exponent. -/
def Binary64.plain : Binary64 → List Char
  | .nan => "NaN".toList
  | .infinite negative => signed negative "inf".toList
  | .finite negative mantissa exponent => signed negative (shortest mantissa exponent).positional

/-- `mantissa * 2 ^ exponent` as a whole number, if it is one. -/
def Binary64.whole? (mantissa : Nat) (exponent : Int) : Option Nat :=
  let (n, d) := Binary64.ratio mantissa exponent
  if n % d = 0 then some (n / d) else none

/-- A number with a fixed count of places after the point, rounded half to even. -/
def fixedPlaces (places : Nat) (num den : Nat) : List Char :=
  let scaled := roundHalfEven (num * tenTo places) den
  let ds := digits scaled
  let padded := List.replicate (places + 1 - ds.length) '0' ++ ds
  let cut := padded.length - places
  if places = 0 then padded else padded.take cut ++ '.' :: padded.drop cut

/-- A double with a fixed count of places after the point. -/
def Binary64.fixed (places : Nat) : Binary64 → List Char
  | .nan => "NaN".toList
  | .infinite negative => signed negative "inf".toList
  | .finite negative mantissa exponent =>
    let (n, d) := ratio mantissa exponent
    signed negative (fixedPlaces places n d)

end ChatBot.Decimal
