-- Digits: decimal digits and the numbers that they write.

namespace ChatBot.Decimal

/-- The number that a row of decimal digits writes. -/
def valueOfDigits (ds : List Char) : Nat :=
  ds.foldl (fun n d => 10 * n + (d.toNat - '0'.toNat)) 0

/-- The digits of a number in base ten, `0` for zero. -/
def digits (n : Nat) : List Char := Nat.toDigits 10 n

/-- The digits of a number as text. -/
def text (n : Nat) : String := String.ofList (digits n)

end ChatBot.Decimal
