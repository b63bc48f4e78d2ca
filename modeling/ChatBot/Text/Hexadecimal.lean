-- Hexadecimal digits, small and capital.

namespace ChatBot.Text

/-- The number of a hexadecimal digit. -/
def hexDigit? (c : Char) : Option Nat :=
  if c.isDigit then some (c.toNat - '0'.toNat)
  else if 'a' ≤ c ∧ c ≤ 'f' then some (c.toNat - 'a'.toNat + 10)
  else if 'A' ≤ c ∧ c ≤ 'F' then some (c.toNat - 'A'.toNat + 10)
  else none

/-- The small digit of a number below sixteen. -/
def hexDigit (n : Nat) : Char := Nat.digitChar n

/-- The capital digit of a number below sixteen. -/
def upperHexDigit (n : Nat) : Char := (Nat.digitChar n).toUpper

theorem hexDigit?_hexDigit {n : Nat} (h : n < 16) : hexDigit? (hexDigit n) = some n := by
  revert n
  decide

theorem hexDigit?_upperHexDigit {n : Nat} (h : n < 16) :
    hexDigit? (upperHexDigit n) = some n := by
  revert n
  decide

end ChatBot.Text
