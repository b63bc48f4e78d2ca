-- Random choices. The source of randomness is a row of 32-bit numbers that are
-- drawn one after the other; when they are used up, zeros follow for ever.
import ChatBot.Decimal.Powers

namespace ChatBot

/-- A source of random numbers. -/
structure Draws where
  /-- The numbers to come, before the zeros. -/
  ahead : List UInt32
  /-- How many numbers have been drawn. -/
  used : Nat
  deriving DecidableEq, Repr

namespace Draws

def ofList (numbers : List UInt32) : Draws := ⟨numbers, 0⟩

/-- The count of 32-bit numbers. -/
def span : Nat := Decimal.twoTo 32

/-- The largest low half that is accepted in a choice among `n`: the largest multiple of
`n` by a power of two that 32 bits hold, less one. -/
def zone (n : Nat) : Nat := n * Decimal.twoTo (31 - n.log2) - 1

theorem scaled_lt {n : Nat} (h : 0 < n) (v : UInt32) : v.toNat * n / span < n := by
  have hv : v.toNat < span := v.toNat_lt
  exact Nat.div_lt_of_lt_mul (Nat.mul_lt_mul_of_pos_right hv h)

/-- Draws until a number is accepted. Its product with `n` has 64 bits: the low half decides
whether it is accepted, the high half is the choice. A zero always is. -/
def belowFrom {n : Nat} (h : 0 < n) : List UInt32 → Nat → Fin n × Draws
  | [], used => (⟨0, h⟩, ⟨[], used + 1⟩)
  | v :: ahead, used =>
    if v.toNat * n % span ≤ zone n then (⟨v.toNat * n / span, scaled_lt h v⟩, ⟨ahead, used + 1⟩)
    else belowFrom h ahead (used + 1)

/-- A number below `n`. -/
def below {n : Nat} (h : 0 < n) (d : Draws) : Fin n × Draws := belowFrom h d.ahead d.used

/-- One item of a list that is not empty. -/
def pick {α : Type} (items : List α) (h : items ≠ []) (d : Draws) : α × Draws :=
  let (i, d) := d.below (List.length_pos_iff.2 h)
  (items.get i, d)

end Draws

end ChatBot
