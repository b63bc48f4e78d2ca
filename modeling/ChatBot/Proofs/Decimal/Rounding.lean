-- Rounding to the nearest double. Around each double lie the numbers that round to it,
-- from halfway to the one neighbour to halfway to the other.
import ChatBot.Decimal.Nearest
import ChatBot.Proofs.Decimal.Doubles

namespace ChatBot.Decimal

/-! ## Powers of two -/

theorem two_zpow_pos (k : ℤ) : (0 : ℚ) < 2 ^ k := zpow_pos (by norm_num) k

theorem le_of_two_zpow_lt {j k : ℤ} (h : (2 : ℚ) ^ j < 2 ^ k) : j < k :=
  (zpow_lt_zpow_iff_right₀ (by norm_num)).1 h

/-- A power of two as a quotient of whole numbers. -/
theorem twoTo_div_twoTo (k : ℤ) : (twoTo k.toNat : ℚ) / twoTo (-k).toNat = 2 ^ k := by
  rcases Int.le_total 0 k with h | h
  · lift k to ℕ using h
    simp [twoTo]
  · obtain ⟨n, rfl⟩ : ∃ n : ℕ, k = -n := ⟨(-k).toNat, by omega⟩
    simp [twoTo]

/-! ## The parts of rounding -/

/-- Counted in steps, a number is so many times smaller. -/
theorem inSteps_ratio (num den : ℕ) (k : ℤ) :
    ((inSteps num den k).1 : ℚ) / (inSteps num den k).2 = (num / den : ℚ) / 2 ^ k := by
  have hk := twoTo_div_twoTo k
  have hup : (twoTo k.toNat : ℚ) ≠ 0 := by exact_mod_cast (twoTo_pos _).ne'
  have hdown : (twoTo (-k).toNat : ℚ) ≠ 0 := by exact_mod_cast (twoTo_pos _).ne'
  unfold inSteps
  rw [← hk]
  push_cast
  field_simp

theorem inSteps_pos {den : ℕ} (h : 0 < den) (num : ℕ) (k : ℤ) : 0 < (inSteps num den k).2 :=
  Nat.mul_pos h (twoTo_pos _)

/-- A quotient that is less than one away from a whole number is next to it. -/
theorem eq_div_or_succ {num den r : ℕ} (hlow : den * r < num + den)
    (hhigh : num < den * r + den) : r = num / den ∨ r = num / den + 1 := by
  have hden : 0 < den := by
    apply Nat.pos_of_ne_zero
    rintro rfl
    omega
  have hbelow : num / den < r + 1 := by
    rw [Nat.div_lt_iff_lt_mul hden, Nat.add_mul, Nat.one_mul, Nat.mul_comm r]
    exact hhigh
  have habove : r < num / den + 2 := by
    have hsucc : r - 1 ≤ num / den := by
      rw [Nat.le_div_iff_mul_le hden, Nat.sub_mul, Nat.one_mul, Nat.mul_comm r]
      omega
    omega
  omega

/-- What is at most a half away is rounded to, and half away if it is even. -/
theorem roundHalfEven_of_near {num den r : ℕ} (hden : 0 < den)
    (hlow : 2 * (den * r) ≤ 2 * num + den) (hhigh : 2 * num ≤ 2 * (den * r) + den)
    (hodd : r % 2 = 1 → 2 * (den * r) < 2 * num + den ∧ 2 * num < 2 * (den * r) + den) :
    roundHalfEven num den = r := by
  have hsplit := Nat.div_add_mod num den
  have hmod := Nat.mod_lt num hden
  -- it can only be rounded to one of the whole numbers beside it
  have hlow' : den * r < num + den := by omega
  have hhigh' : num < den * r + den := by omega
  unfold roundHalfEven
  dsimp only
  rcases eq_div_or_succ hlow' hhigh' with rfl | rfl
  · split
    · rfl
    · split
      · omega
      · omega
  · rw [Nat.mul_add] at hlow hhigh hodd
    split
    · omega
    · split
      · rfl
      · omega

/-- The same, with the distance as a fraction. -/
theorem roundHalfEven_eq {num den r : ℕ} (hden : 0 < den) (hlow : (r : ℚ) - 1 / 2 ≤ num / den)
    (hhigh : (num / den : ℚ) ≤ r + 1 / 2)
    (hodd : r % 2 = 1 → (r : ℚ) - 1 / 2 < num / den ∧ (num / den : ℚ) < r + 1 / 2) :
    roundHalfEven num den = r := by
  have hpos : (0 : ℚ) < den := by exact_mod_cast hden
  rw [le_div_iff₀ hpos] at hlow
  rw [div_le_iff₀ hpos] at hhigh
  rw [lt_div_iff₀ hpos, div_lt_iff₀ hpos] at hodd
  apply roundHalfEven_of_near hden
  · have h : (2 * (den * r) : ℚ) ≤ 2 * num + den := by linarith
    exact_mod_cast h
  · have h : (2 * num : ℚ) ≤ 2 * (den * r) + den := by linarith
    exact_mod_cast h
  · intro hr
    obtain ⟨habove, hbelow⟩ := hodd hr
    have habove : (2 * (den * r) : ℚ) < 2 * num + den := by linarith
    have hbelow : (2 * num : ℚ) < 2 * (den * r) + den := by linarith
    exact ⟨by exact_mod_cast habove, by exact_mod_cast hbelow⟩

theorem toNat_packBits {mantissa : ℕ} {exponent : ℤ}
    (h : (exponent + 1074).toNat * 2 ^ 52 + mantissa < 2047 * 2 ^ 52) :
    (packBits mantissa exponent).toNat = (exponent + 1074).toNat * 2 ^ 52 + mantissa := by
  have hpacked : packBits mantissa exponent =
    UInt64.ofNat (min ((exponent + 1074).toNat * 2 ^ 52 + mantissa) (2047 * 2 ^ 52)) := rfl
  rw [hpacked, UInt64.toNat_ofNat', Nat.min_eq_left (Nat.le_of_lt h), Nat.mod_eq_of_lt]
  omega

theorem log2_bounds {n : ℕ} (h : 0 < n) :
    (2 : ℚ) ^ (n.log2 : ℤ) ≤ n ∧ (n : ℚ) < 2 ^ ((n.log2 : ℤ) + 1) := by
  have hlow : 2 ^ n.log2 ≤ n := Nat.log2_self_le h.ne'
  have hhigh : n < 2 ^ (n.log2 + 1) := Nat.lt_log2_self
  constructor
  · rw [zpow_natCast]
    exact_mod_cast hlow
  · exact_mod_cast hhigh

/-- A quotient lies between two powers of two, as the lengths of its parts tell. -/
theorem ratio_between {num den : ℕ} (hnum : 0 < num) (hden : 0 < den) :
    (2 : ℚ) ^ ((num.log2 : ℤ) - den.log2 - 1) < num / den ∧
      (num / den : ℚ) < 2 ^ ((num.log2 : ℤ) - den.log2 + 1) := by
  have hpos : (0 : ℚ) < den := by exact_mod_cast hden
  obtain ⟨hnumlow, hnumhigh⟩ := log2_bounds hnum
  obtain ⟨hdenlow, hdenhigh⟩ := log2_bounds hden
  constructor
  · rw [lt_div_iff₀ hpos]
    calc (2 : ℚ) ^ ((num.log2 : ℤ) - den.log2 - 1) * den
        < 2 ^ ((num.log2 : ℤ) - den.log2 - 1) * 2 ^ ((den.log2 : ℤ) + 1) :=
          mul_lt_mul_of_pos_left hdenhigh (two_zpow_pos _)
      _ = 2 ^ (num.log2 : ℤ) := by
          rw [← zpow_add₀ (by norm_num)]
          congr 1
          ring
      _ ≤ num := hnumlow
  · rw [div_lt_iff₀ hpos]
    calc (num : ℚ) < 2 ^ ((num.log2 : ℤ) + 1) := hnumhigh
      _ = 2 ^ ((num.log2 : ℤ) - den.log2 + 1) * 2 ^ (den.log2 : ℤ) := by
          rw [← zpow_add₀ (by norm_num)]
          congr 1
          ring
      _ ≤ 2 ^ ((num.log2 : ℤ) - den.log2 + 1) * den :=
          mul_le_mul_of_nonneg_left hdenlow (two_zpow_pos _).le

/-- Whether the whole part of a quotient is below a bound. -/
theorem div_lt_iff_ratio {n d : ℕ} (hd : 0 < d) (bound : ℕ) :
    n / d < bound ↔ (n / d : ℚ) < bound := by
  have hpos : (0 : ℚ) < d := by exact_mod_cast hd
  rw [Nat.div_lt_iff_lt_mul hd, div_lt_iff₀ hpos]
  exact_mod_cast Iff.rfl

/-- The step is the one at which 53 bits stand before the point, but not less than the least. -/
theorem stepFor_eq {num den : ℕ} (hnum : 0 < num) (hden : 0 < den) :
    ∃ s : ℤ, stepFor num den = max s (-1074) ∧ (2 : ℚ) ^ (s + 52) ≤ num / den ∧
      (num / den : ℚ) < 2 ^ (s + 53) := by
  obtain ⟨hlow, hhigh⟩ := ratio_between hnum hden
  obtain ⟨guess, hguess⟩ : ∃ guess : ℤ, guess = num.log2 - den.log2 - 53 := ⟨_, rfl⟩
  have hstep : stepFor num den = max (if (inSteps num den guess).1 / (inSteps num den guess).2 <
      2 ^ 53 then guess else guess + 1) (-1074) := by
    rw [hguess]
    rfl
  have hcut := div_lt_iff_ratio (n := (inSteps num den guess).1) (inSteps_pos hden num guess) (2 ^ 53)
  have hbound : (num / den : ℚ) / 2 ^ guess < (2 ^ 53 : ℕ) ↔
      (num / den : ℚ) < 2 ^ (guess + 53) := by
    rw [div_lt_iff₀ (two_zpow_pos _), zpow_add₀ (by norm_num), mul_comm]
    norm_num
  rw [inSteps_ratio, hbound] at hcut
  rw [hstep]
  split
  · rename_i h
    refine ⟨guess, rfl, ?_, hcut.1 h⟩
    rw [show guess + 52 = num.log2 - den.log2 - 1 by omega]
    exact hlow.le
  · rename_i h
    rw [hcut, not_lt] at h
    refine ⟨guess + 1, rfl, ?_, ?_⟩
    · rw [show guess + 1 + 52 = guess + 53 by omega]
      exact h
    · rw [show guess + 1 + 53 = num.log2 - den.log2 + 1 by omega]
      exact hhigh

/-! ## What rounds to a double -/

namespace Double

/-- The number that a finite double stands for, without its sign. -/
def size (d : Double) : ℚ := d.mantissa * 2 ^ d.exponent

/-- Whether the next smaller double is only half as far away as the next larger one. -/
def Edge (d : Double) : Prop := d.mantissa = 2 ^ 52 ∧ -1074 < d.exponent

instance (d : Double) : Decidable d.Edge := inferInstanceAs (Decidable (_ ∧ _))

/-- Halfway to the next smaller double, counted in the double's own steps. -/
def lowEnd (d : Double) : ℚ := d.mantissa - (if d.Edge then 1 / 4 else 1 / 2)

/-- Halfway to the next larger double, counted in the double's own steps. -/
def highEnd (d : Double) : ℚ := d.mantissa + 1 / 2

/-- What rounds to a double: all that is closer to it than to its neighbours, and the two halfway
points if its mantissa is even. -/
structure Attracts (d : Double) (q : ℚ) : Prop where
  low : d.lowEnd * 2 ^ d.exponent ≤ q
  high : q ≤ d.highEnd * 2 ^ d.exponent
  odd : d.mantissa % 2 = 1 → d.lowEnd * 2 ^ d.exponent < q ∧ q < d.highEnd * 2 ^ d.exponent

theorem half_le_lowEnd (d : Double) : (d.mantissa : ℚ) - 1 / 2 ≤ d.lowEnd := by
  unfold lowEnd
  split
  · linarith
  · linarith

theorem lowEnd_pos {d : Double} (hd : 0 < d.mantissa) : 0 < d.lowEnd := by
  have hmantissa : (1 : ℚ) ≤ d.mantissa := by exact_mod_cast hd
  have hlow := d.half_le_lowEnd
  linarith

theorem highEnd_lt (d : Double) : d.highEnd < 2 ^ (53 : ℤ) := by
  have hmantissa : (d.mantissa : ℚ) + 1 ≤ 2 ^ 53 := by exact_mod_cast d.mantissa_lt
  have hpower : (2 : ℚ) ^ (53 : ℤ) = 2 ^ 53 := by norm_num
  unfold highEnd
  rw [hpower]
  linarith

theorem Attracts.pos {d : Double} {q : ℚ} (hd : 0 < d.mantissa) (h : d.Attracts q) : 0 < q :=
  lt_of_lt_of_le (mul_pos (lowEnd_pos hd) (two_zpow_pos _)) h.low

theorem Attracts.num_ne_zero {d : Double} {num den : ℕ} (hd : 0 < d.mantissa)
    (h : d.Attracts (num / den)) : num ≠ 0 := by
  rintro rfl
  have hpos := h.pos hd
  simp at hpos

/-- At its own step, what a double attracts rounds to its mantissa. -/
theorem Attracts.round_own {d : Double} {num den : ℕ} (hden : 0 < den)
    (h : d.Attracts (num / den)) :
    roundHalfEven (inSteps num den d.exponent).1 (inSteps num den d.exponent).2 = d.mantissa := by
  have hlow := d.half_le_lowEnd
  have hstep := two_zpow_pos d.exponent
  apply roundHalfEven_eq (inSteps_pos hden num d.exponent)
  · rw [inSteps_ratio, le_div_iff₀ hstep]
    exact (mul_le_mul_of_nonneg_right hlow hstep.le).trans h.low
  · rw [inSteps_ratio, div_le_iff₀ hstep]
    exact h.high
  · intro hodd
    obtain ⟨habove, hbelow⟩ := h.odd hodd
    rw [inSteps_ratio, lt_div_iff₀ hstep, div_lt_iff₀ hstep]
    exact ⟨(mul_le_mul_of_nonneg_right hlow hstep.le).trans_lt habove, hbelow⟩

/-- At the step below, what the first double of a new step attracts rounds to twice its
mantissa. -/
theorem Attracts.round_below {d : Double} {num den : ℕ} (hden : 0 < den)
    (h : d.Attracts (num / den)) (hd : d.Edge) (hbelow : (num / den : ℚ) < 2 ^ (d.exponent + 52)) :
    roundHalfEven (inSteps num den (d.exponent - 1)).1 (inSteps num den (d.exponent - 1)).2 =
      2 ^ 53 := by
  have hstep := two_zpow_pos (d.exponent - 1)
  have hdouble : (2 : ℚ) ^ d.exponent = 2 * 2 ^ (d.exponent - 1) := by
    rw [← zpow_one_add₀ (by norm_num)]
    congr 1
    omega
  have hlow := h.low
  rw [lowEnd, if_pos hd, hd.1, hdouble] at hlow
  rw [zpow_add₀ (by norm_num), hdouble] at hbelow
  apply roundHalfEven_eq (inSteps_pos hden num _)
  · rw [inSteps_ratio, le_div_iff₀ hstep]
    push_cast at hlow ⊢
    linarith
  · rw [inSteps_ratio, div_le_iff₀ hstep]
    norm_num at hbelow ⊢
    linarith
  · intro hodd
    norm_num at hodd

/-- Only the first double of a new step attracts what belongs to the step below. -/
theorem Attracts.edge {d : Double} {q : ℚ} (h : d.Attracts q) (hexponent : d.exponent ≠ -1074)
    (hbelow : q < 2 ^ (d.exponent + 52)) : d.Edge := by
  have hleast := d.least
  have hfull : 2 ^ 52 ≤ d.mantissa := d.full.resolve_right hexponent
  have hunit := two_zpow_pos d.exponent
  refine ⟨?_, by omega⟩
  by_contra hne
  have hmantissa : (2 ^ 52 + 1 : ℚ) ≤ d.mantissa := by
    have hmore : 2 ^ 52 + 1 ≤ d.mantissa := by omega
    exact_mod_cast hmore
  have hlow := d.half_le_lowEnd
  have hstart : (2 ^ 52 : ℚ) * 2 ^ d.exponent ≤ d.lowEnd * 2 ^ d.exponent :=
    mul_le_mul_of_nonneg_right (by linarith) hunit.le
  rw [zpow_add₀ (by norm_num)] at hbelow
  norm_num at hbelow hstart
  linarith [h.low]

/-- What a double attracts has at most as many bits before the point as its mantissa, at its own
step. -/
theorem Attracts.step_le {d : Double} {q : ℚ} (h : d.Attracts q) {s : ℤ}
    (hs : (2 : ℚ) ^ (s + 52) ≤ q) : s ≤ d.exponent := by
  have hunit := two_zpow_pos d.exponent
  have hlt : (2 : ℚ) ^ (s + 52) < 2 ^ (d.exponent + 53) := by
    rw [zpow_add₀ (by norm_num) d.exponent, mul_comm]
    exact (hs.trans h.high).trans_lt (mul_lt_mul_of_pos_right d.highEnd_lt hunit)
  have hlt := le_of_two_zpow_lt hlt
  omega

/-- What the first double of a new step attracts has at most one bit less. -/
theorem Attracts.le_step {d : Double} {q : ℚ} (h : d.Attracts q) (hedge : d.Edge) {s : ℤ}
    (hs : q < 2 ^ (s + 53)) : d.exponent - 1 ≤ s := by
  have hunit := two_zpow_pos d.exponent
  have hgt : (2 : ℚ) ^ (d.exponent + 51) < 2 ^ (s + 53) := by
    have hstart := h.low
    rw [lowEnd, if_pos hedge, hedge.1] at hstart
    rw [zpow_add₀ (by norm_num)]
    norm_num at hstart ⊢
    linarith
  have hgt := le_of_two_zpow_lt hgt
  omega

/-- The step at which a number that a double attracts is rounded. -/
theorem Attracts.step {d : Double} {num den : ℕ} (hd : 0 < d.mantissa) (hden : 0 < den)
    (h : d.Attracts (num / den)) : stepFor num den = d.exponent ∨
      d.Edge ∧ (num / den : ℚ) < 2 ^ (d.exponent + 52) ∧ stepFor num den = d.exponent - 1 := by
  have hleast := d.least
  obtain ⟨s, hs, hlow, hhigh⟩ := stepFor_eq (Nat.pos_of_ne_zero (h.num_ne_zero hd)) hden
  have hle := h.step_le hlow
  rw [hs]
  by_cases hfull : (2 : ℚ) ^ (d.exponent + 52) ≤ num / den
  · have hge := le_of_two_zpow_lt (hfull.trans_lt hhigh)
    left
    omega
  · rcases eq_or_ne d.exponent (-1074) with hexponent | hexponent
    · left
      omega
    · have hbelow := lt_of_not_ge hfull
      have hedge := h.edge hexponent hbelow
      have hlt := le_of_two_zpow_lt (hlow.trans_lt hbelow)
      have hge := h.le_step hedge hhigh
      refine .inr ⟨hedge, hbelow, ?_⟩
      omega

/-- All that a double attracts rounds to it. -/
theorem nearestBits_of_attracts {d : Double} {num den : ℕ} (hd : 0 < d.mantissa)
    (hden : 0 < den) (h : d.Attracts (num / den)) : nearestBits num den = d.abs.bits := by
  have hcode : d.abs.bits.toNat = d.magnitude := by
    rw [toNat_bits]
    exact Nat.zero_add _
  have hmagnitude := d.magnitude_lt
  have hleast := d.least
  unfold magnitude at hcode hmagnitude
  apply UInt64.toNat_inj.1
  unfold nearestBits
  rw [if_neg (h.num_ne_zero hd), hcode]
  rcases h.step hd hden with hstep | ⟨hedge, hbelow, hstep⟩
  · dsimp only
    rw [hstep, h.round_own hden, toNat_packBits hmagnitude]
  · -- the mantissa carries one into the exponent
    obtain ⟨hmantissa, hexponent⟩ := hedge
    have hcarry : (d.exponent - 1 + 1074).toNat * 2 ^ 52 + 2 ^ 53 =
        (d.exponent + 1074).toNat * 2 ^ 52 + d.mantissa := by
      omega
    dsimp only
    rw [hstep, h.round_below hden ⟨hmantissa, hexponent⟩ hbelow, toNat_packBits, hcarry]
    rw [hcarry]
    exact hmagnitude

end Double

end ChatBot.Decimal
