-- Powers of two and of ten.

namespace ChatBot.Decimal

/-- Two, multiplied by itself so many times. -/
def twoTo (n : Nat) : Nat := Nat.pow 2 n

/-- Ten, multiplied by itself so many times. -/
def tenTo (n : Nat) : Nat := Nat.pow 10 n

@[simp] theorem twoTo_zero : twoTo 0 = 1 := rfl

theorem twoTo_succ (n : Nat) : twoTo (n + 1) = twoTo n * 2 := rfl

theorem twoTo_pos (n : Nat) : 0 < twoTo n := Nat.pow_pos (by decide)

@[simp] theorem tenTo_zero : tenTo 0 = 1 := rfl

theorem tenTo_succ (n : Nat) : tenTo (n + 1) = tenTo n * 10 := rfl

theorem tenTo_pos (n : Nat) : 0 < tenTo n := Nat.pow_pos (by decide)

end ChatBot.Decimal
