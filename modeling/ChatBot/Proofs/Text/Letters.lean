-- Letters and their cases, one by one. Making an ASCII letter small leaves every
-- other character as it is.

namespace ChatBot.Text

/-- Only capitals are changed when a character is made small. -/
theorem eq_or_capital_of_toLower {c d : Char} (h : c.toLower = d) :
    c = d ∨ (c.toNat + 32 = d.toNat ∧ 65 ≤ c.toNat ∧ c.toNat ≤ 90) := by
  subst h
  unfold Char.toLower
  split
  · rename_i hcapital
    right
    have hlow : 65 ≤ c.toNat := hcapital.1
    have hhigh : c.toNat ≤ 90 := hcapital.2
    refine ⟨?_, hlow, hhigh⟩
    have hsum : (c.val + ('a'.val - 'A'.val)).toNat = (c.toNat + 32) % 2 ^ 32 :=
      UInt32.toNat_add _ _
    exact (hsum.trans (Nat.mod_eq_of_lt (by omega))).symm
  · exact .inl rfl

theorem eq_of_toLower {c d : Char} (h : c.toLower = d) (hd : d.toNat < 97) : c = d := by
  rcases eq_or_capital_of_toLower h with h | h
  · exact h
  · omega

theorem toNat_toLower_of_capital {c : Char} (hlow : 65 ≤ c.toNat) (hhigh : c.toNat ≤ 90) :
    c.toLower.toNat = c.toNat + 32 := by
  have hcapital : c.val ≥ 'A'.val ∧ c.val ≤ 'Z'.val := ⟨hlow, hhigh⟩
  have hsum : (c.val + ('a'.val - 'A'.val)).toNat = (c.toNat + 32) % 2 ^ 32 :=
    UInt32.toNat_add _ _
  unfold Char.toLower
  rw [dif_pos hcapital]
  exact hsum.trans (Nat.mod_eq_of_lt (by omega))

theorem toLower_of_not_capital {c : Char} (h : ¬ (65 ≤ c.toNat ∧ c.toNat ≤ 90)) :
    c.toLower = c := by
  rcases eq_or_capital_of_toLower (c := c) rfl with hsame | ⟨-, hlow, hhigh⟩
  · exact hsame.symm
  · exact absurd ⟨hlow, hhigh⟩ h

/-- A small letter stays small. -/
theorem toLower_toLower (c : Char) : c.toLower.toLower = c.toLower := by
  by_cases h : 65 ≤ c.toNat ∧ c.toNat ≤ 90
  · apply toLower_of_not_capital
    rw [toNat_toLower_of_capital h.1 h.2]
    omega
  · rw [toLower_of_not_capital h, toLower_of_not_capital h]

end ChatBot.Text
