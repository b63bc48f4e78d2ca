-- The fewest digits that read back. However the search for them ends, what it finds is
-- attracted by the double; and it stops before the point if the double is a whole number.
import ChatBot.Decimal.Shortest
import ChatBot.Proofs.Decimal.Rounding

namespace ChatBot.Decimal

/-! ## Powers of ten -/

theorem ten_zpow_pos (k : ℤ) : (0 : ℚ) < 10 ^ k := zpow_pos (by norm_num) k

/-- A power of ten as a quotient of whole numbers. -/
theorem tenTo_div_tenTo (k : ℤ) : (tenTo k.toNat : ℚ) / tenTo (-k).toNat = 10 ^ k := by
  rcases Int.le_total 0 k with h | h
  · lift k to ℕ using h
    simp [tenTo]
  · obtain ⟨n, rfl⟩ : ∃ n : ℕ, k = -n := ⟨(-k).toNat, by omega⟩
    simp [tenTo]

/-! ## The basin of a double -/

namespace Double

/-- The basin of a double. -/
abbrev basin (d : Double) : Basin := Basin.ofFinite d.mantissa d.exponent

variable {d : Double}

theorem basin_den_pos (d : Double) : 0 < d.basin.den := Nat.mul_pos (by decide) (twoTo_pos _)

/-- So many quarters of a step. -/
theorem quarters_ratio (d : Double) (quarters : ℕ) :
    ((quarters * twoTo d.exponent.toNat : ℕ) : ℚ) / d.basin.den =
      quarters / 4 * 2 ^ d.exponent := by
  have hpower := twoTo_div_twoTo d.exponent
  have hden : d.basin.den = 4 * twoTo (-d.exponent).toNat := rfl
  rw [hden, ← hpower]
  push_cast
  ring

theorem basin_value (d : Double) : (d.basin.value : ℚ) / d.basin.den = d.size := by
  have hvalue : d.basin.value = 4 * d.mantissa * twoTo d.exponent.toNat := rfl
  rw [hvalue, quarters_ratio, size]
  push_cast
  ring

theorem basin_high (d : Double) :
    (d.basin.high : ℚ) / d.basin.den = d.highEnd * 2 ^ d.exponent := by
  have hhigh : d.basin.high = (4 * d.mantissa + 2) * twoTo d.exponent.toNat := rfl
  rw [hhigh, quarters_ratio, highEnd]
  push_cast
  ring

theorem basin_low (hd : 0 < d.mantissa) :
    (d.basin.low : ℚ) / d.basin.den = d.lowEnd * 2 ^ d.exponent := by
  have hlow : d.basin.low =
    (4 * d.mantissa - (if d.Edge then 1 else 2)) * twoTo d.exponent.toNat := rfl
  rw [hlow, quarters_ratio, lowEnd]
  by_cases hedge : d.Edge
  · rw [if_pos hedge, if_pos hedge, Nat.cast_sub (by omega)]
    push_cast
    ring
  · rw [if_neg hedge, if_neg hedge, Nat.cast_sub (by omega)]
    push_cast
    ring

/-- The ends of the basin, compared with a quotient. -/
theorem low_le_iff (hd : 0 < d.mantissa) {num scale : ℕ} (hscale : 0 < scale) :
    (d.basin.low * scale ≤ num * d.basin.den ↔ d.lowEnd * 2 ^ d.exponent ≤ num / scale) ∧
      (d.basin.low * scale < num * d.basin.den ↔ d.lowEnd * 2 ^ d.exponent < num / scale) := by
  have hden : (0 : ℚ) < d.basin.den := by exact_mod_cast d.basin_den_pos
  have hscale : (0 : ℚ) < scale := by exact_mod_cast hscale
  rw [← basin_low hd, div_le_div_iff₀ hden hscale, div_lt_div_iff₀ hden hscale]
  constructor
  · exact_mod_cast Iff.rfl
  · exact_mod_cast Iff.rfl

theorem le_high_iff (d : Double) {num scale : ℕ} (hscale : 0 < scale) :
    (num * d.basin.den ≤ d.basin.high * scale ↔
        (num / scale : ℚ) ≤ d.highEnd * 2 ^ d.exponent) ∧
      (num * d.basin.den < d.basin.high * scale ↔
        (num / scale : ℚ) < d.highEnd * 2 ^ d.exponent) := by
  have hden : (0 : ℚ) < d.basin.den := by exact_mod_cast d.basin_den_pos
  have hscale : (0 : ℚ) < scale := by exact_mod_cast hscale
  rw [← basin_high, div_le_div_iff₀ hscale hden, div_lt_div_iff₀ hscale hden]
  constructor
  · exact_mod_cast Iff.rfl
  · exact_mod_cast Iff.rfl

/-- The basin holds what the double attracts. -/
theorem holds_iff (hd : 0 < d.mantissa) {num scale : ℕ} (hscale : 0 < scale) :
    d.basin.holds num scale = true ↔ d.Attracts (num / scale) := by
  obtain ⟨hlow, hlow'⟩ := @low_le_iff d hd num scale hscale
  obtain ⟨hhigh, hhigh'⟩ := @le_high_iff d num scale hscale
  have hclosed : d.basin.closed = decide (d.mantissa % 2 = 0) := rfl
  unfold Basin.holds
  rw [hclosed]
  by_cases heven : d.mantissa % 2 = 0
  · simp only [heven, decide_true, if_true, Bool.and_eq_true, decide_eq_true_eq, hlow, hhigh]
    constructor
    · rintro ⟨habove, hbelow⟩
      exact ⟨habove, hbelow, by omega⟩
    · intro h
      exact ⟨h.low, h.high⟩
  · have hodd : d.mantissa % 2 = 1 := by omega
    simp only [heven, decide_false, Bool.false_eq_true, if_false, Bool.and_eq_true,
      decide_eq_true_eq, hlow', hhigh']
    constructor
    · rintro ⟨habove, hbelow⟩
      exact ⟨habove.le, hbelow.le, fun _ => ⟨habove, hbelow⟩⟩
    · intro h
      exact h.odd hodd

theorem size_pos (hd : 0 < d.mantissa) : 0 < d.size :=
  mul_pos (by exact_mod_cast hd) (two_zpow_pos _)

/-- What lies less than a quarter of a step below a double is attracted by it. -/
theorem attracts_of_close {q : ℚ} (hlow : d.size - 1 / 4 * 2 ^ d.exponent < q)
    (hhigh : q ≤ d.size) : d.Attracts q := by
  have hunit := two_zpow_pos d.exponent
  have hend : d.lowEnd ≤ d.mantissa - 1 / 4 := by
    unfold lowEnd
    split
    · exact le_refl _
    · linarith
  have habove : d.lowEnd * 2 ^ d.exponent < q := by
    apply lt_of_le_of_lt _ hlow
    unfold size
    rw [← sub_mul]
    exact mul_le_mul_of_nonneg_right hend hunit.le
  have hbelow : q < d.highEnd * 2 ^ d.exponent := by
    apply lt_of_le_of_lt hhigh
    unfold size highEnd
    exact mul_lt_mul_of_pos_right (by linarith) hunit
  exact ⟨habove.le, hbelow.le, fun _ => ⟨habove, hbelow⟩⟩

/-- A double attracts itself. -/
theorem attracts_size (d : Double) : d.Attracts d.size := by
  have hunit := two_zpow_pos d.exponent
  exact attracts_of_close (by linarith) (le_refl _)

end Double

/-! ## The search -/

namespace Scaled

/-- The number that is written. -/
def size (s : Scaled) : ℚ := s.digits * 10 ^ s.exponent

end Scaled

namespace Basin

/-- A point of a grid that is taken is held by the basin. -/
theorem holds_of_onGrid {b : Basin} {step : ℤ} {n : ℕ} (h : b.onGrid step = some n) :
    b.holds (n * tenTo step.toNat) (tenTo (-step).toNat) = true := by
  unfold onGrid at h
  dsimp only at h
  split at h
  · rename_i hbelow habove
    cases h
    split
    · exact hbelow
    · exact habove
  · rename_i hbelow _
    cases h
    exact hbelow
  · rename_i _ habove
    cases h
    exact habove
  · cases h

/-- Where no point of a grid is taken, the one next below the number is not held. -/
theorem not_holds_of_onGrid {b : Basin} {step : ℤ} (h : b.onGrid step = none) :
    b.holds (b.value * tenTo (-step).toNat / (b.den * tenTo step.toNat) * tenTo step.toNat)
      (tenTo (-step).toNat) = false := by
  unfold onGrid at h
  dsimp only at h
  split at h
  · cases h
  · cases h
  · cases h
  · assumption

theorem search_of_some {b : Basin} {step : ℤ} {n : ℕ} (h : b.onGrid step = some n) (grids : ℕ) :
    b.search (grids + 1) step = ⟨n, step⟩ := by
  rw [search, h]

theorem search_of_none {b : Basin} {step : ℤ} (h : b.onGrid step = none) (grids : ℕ) :
    b.search (grids + 1) step = b.search grids (step - 1) := by
  rw [search, h]

/-- The search ends on one of its grids, or with what is left when it has tried them all. -/
theorem search_cases (b : Basin) (grids : ℕ) (step : ℤ) :
    (∃ place n, b.onGrid place = some n ∧ b.search grids step = ⟨n, place⟩) ∨
      b.search grids step = b.search 0 (step - grids) := by
  induction grids generalizing step with
  | zero => simp
  | succ grids ih =>
    cases hgrid : b.onGrid step with
    | some n => exact .inl ⟨step, n, hgrid, search_of_some hgrid grids⟩
    | none =>
      have hleft : step - (grids + 1 : ℕ) = step - 1 - grids := by
        push_cast
        ring
      rw [search_of_none hgrid, hleft]
      exact ih (step - 1)

end Basin

/-! ## The size of a double in digits -/

theorem length_digits_pos (n : ℕ) : 0 < (digits n).length := Nat.length_toDigits_pos

/-- A number is at least the power of ten that its digits tell. -/
theorem tenTo_le_of_pos {n : ℕ} (h : 0 < n) : 10 ^ ((digits n).length - 1) ≤ n := by
  by_contra hlt
  have hpos := length_digits_pos n
  by_cases hone : (digits n).length = 1
  · rw [hone] at hlt
    omega
  · have hshort := (Nat.length_toDigits_le_iff (b := 10) (n := n) (by decide) (by omega)).2
      (lt_of_not_ge hlt)
    have hdigits : (digits n).length = (Nat.toDigits 10 n).length := rfl
    omega

theorem lt_tenTo (n : ℕ) : n < 10 ^ (digits n).length :=
  (Nat.length_toDigits_le_iff (by decide) (length_digits_pos n)).1 (le_refl _)

/-- A quotient is at most the power of ten that the digits of its inverse tell. -/
theorem le_tenTo_mul {num den : ℕ} (hnum : 0 < num) :
    den ≤ 10 ^ (digits ((den + num - 1) / num - 1)).length * num := by
  have hpower := lt_tenTo ((den + num - 1) / num - 1)
  have hceil := Nat.lt_mul_div_succ (den + num - 1) hnum
  have hle : (den + num - 1) / num ≤ 10 ^ (digits ((den + num - 1) / num - 1)).length := by omega
  have hmul := Nat.mul_le_mul_left num hle
  rw [Nat.mul_comm num (10 ^ _)] at hmul
  rw [Nat.mul_add] at hceil
  omega

/-- The magnitude of a number does not promise too much. -/
theorem Basin.ten_zpow_le {b : Basin} (hvalue : 0 < b.value) (hden : 0 < b.den) :
    (10 : ℚ) ^ (b.magnitude - 1) ≤ b.value / b.den := by
  unfold Basin.magnitude
  split
  · rename_i hwhole
    have hpower := tenTo_le_of_pos (Nat.div_pos hwhole hden)
    have hlength := length_digits_pos (b.value / b.den)
    have hexponent : ((digits (b.value / b.den)).length : ℤ) - 1 =
      ((digits (b.value / b.den)).length - 1 : ℕ) := by omega
    rw [hexponent, zpow_natCast]
    calc (10 : ℚ) ^ ((digits (b.value / b.den)).length - 1)
        ≤ (b.value / b.den : ℕ) := by exact_mod_cast hpower
      _ ≤ b.value / b.den := Nat.cast_div_le
  · have hinverse := @le_tenTo_mul b.value b.den hvalue
    obtain ⟨zeros, hzeros⟩ : ∃ zeros, zeros =
      (digits ((b.den + b.value - 1) / b.value - 1)).length := ⟨_, rfl⟩
    have hdenq : (0 : ℚ) < b.den := by exact_mod_cast hden
    rw [← hzeros] at hinverse ⊢
    rw [show 1 - (zeros : ℤ) - 1 = -(zeros : ℤ) by ring, zpow_neg, zpow_natCast,
      le_div_iff₀ hdenq, inv_mul_le_iff₀ (by positivity)]
    exact_mod_cast hinverse

namespace Double

/-- A double is at least the power of ten below its magnitude. -/
theorem ten_zpow_le_size {d : Double} (hd : 0 < d.mantissa) :
    (10 : ℚ) ^ (d.basin.magnitude - 1) ≤ d.size := by
  have hvalue : 0 < d.basin.value := Nat.mul_pos (Nat.mul_pos (by decide) hd) (twoTo_pos _)
  rw [← basin_value]
  exact Basin.ten_zpow_le hvalue d.basin_den_pos

/-- Counted in steps of a grid, a double is so many times smaller. -/
theorem grid_ratio (d : Double) (step : ℤ) :
    ((d.basin.value * tenTo (-step).toNat : ℕ) : ℚ) / (d.basin.den * tenTo step.toNat : ℕ) =
      d.size / 10 ^ step := by
  have hup : (tenTo step.toNat : ℚ) ≠ 0 := by exact_mod_cast (tenTo_pos _).ne'
  have hdown : (tenTo (-step).toNat : ℚ) ≠ 0 := by exact_mod_cast (tenTo_pos _).ne'
  have hden : (d.basin.den : ℚ) ≠ 0 := by exact_mod_cast d.basin_den_pos.ne'
  rw [← tenTo_div_tenTo, ← basin_value]
  push_cast
  field_simp

theorem grid_den_pos (d : Double) (step : ℤ) : 0 < d.basin.den * tenTo step.toNat :=
  Nat.mul_pos d.basin_den_pos (tenTo_pos _)

/-- The point of a grid that is next below a double. -/
theorem floor_between (d : Double) (step : ℤ) :
    (d.basin.search 0 step).size ≤ d.size ∧
      d.size < (d.basin.search 0 step).size + 10 ^ step := by
  have hgrid := ten_zpow_pos step
  have hden : (0 : ℚ) < (d.basin.den * tenTo step.toNat : ℕ) := by
    exact_mod_cast d.grid_den_pos step
  have hratio := d.grid_ratio step
  have hlow : ((d.basin.search 0 step).digits : ℚ) ≤ d.size / 10 ^ step := by
    rw [← hratio]
    exact Nat.cast_div_le
  have hhigh : d.size / 10 ^ step < (d.basin.search 0 step).digits + 1 := by
    rw [← hratio, div_lt_iff₀ hden]
    have hsucc := Nat.lt_mul_div_succ (d.basin.value * tenTo (-step).toNat) (d.grid_den_pos step)
    rw [Nat.mul_comm (d.basin.den * tenTo step.toNat)] at hsucc
    exact_mod_cast hsucc
  rw [le_div_iff₀ hgrid] at hlow
  rw [div_lt_iff₀ hgrid, add_mul, one_mul] at hhigh
  exact ⟨hlow, hhigh⟩

/-- Seventeen grids are enough: what is left after them is still attracted. -/
theorem attracts_left {d : Double} (hd : 0 < d.mantissa) {step : ℤ}
    (hstep : d.basin.magnitude - 1 = step + 17) : d.Attracts (d.basin.search 0 step).size := by
  have hunit := two_zpow_pos d.exponent
  have hmantissa : (d.mantissa : ℚ) < 2 ^ 53 := by exact_mod_cast d.mantissa_lt
  obtain ⟨hbelow, habove⟩ := d.floor_between step
  -- the step of the grid is small against the step of the double
  have hgrid : (10 : ℚ) ^ step * 10 ^ 17 < 2 ^ 53 * 2 ^ d.exponent := by
    have hpower : (10 : ℚ) ^ step * 10 ^ 17 = 10 ^ (d.basin.magnitude - 1) := by
      rw [hstep, zpow_add₀ (by norm_num)]
      norm_num
    rw [hpower]
    exact (ten_zpow_le_size hd).trans_lt (mul_lt_mul_of_pos_right hmantissa hunit)
  apply attracts_of_close _ hbelow
  norm_num at hgrid
  linarith

/-- What the search finds is attracted by the double. -/
theorem attracts_search {d : Double} (hd : 0 < d.mantissa) :
    d.Attracts (d.basin.search 17 (d.basin.magnitude - 1)).size := by
  rcases d.basin.search_cases 17 (d.basin.magnitude - 1) with ⟨place, n, hgrid, hfound⟩ | hleft
  · have hholds := (holds_iff hd (tenTo_pos _)).1 (Basin.holds_of_onGrid hgrid)
    rw [hfound]
    unfold Scaled.size
    rw [← tenTo_div_tenTo, ← mul_div_assoc]
    exact_mod_cast hholds
  · rw [hleft]
    apply attracts_left hd
    push_cast
    ring

/-! ## Whole numbers -/

/-- The grid of whole numbers has a whole double as one of its points. -/
theorem onGrid_zero {d : Double} (hd : 0 < d.mantissa) {n : ℕ} (hn : d.size = n) :
    ∃ n, d.basin.onGrid 0 = some n := by
  cases hgrid : d.basin.onGrid 0 with
  | some n => exact ⟨n, rfl⟩
  | none =>
    have hden : (d.basin.den : ℚ) ≠ 0 := by exact_mod_cast d.basin_den_pos.ne'
    have hvalue : d.basin.value = n * d.basin.den := by
      have hratio := basin_value d
      rw [hn, div_eq_iff hden] at hratio
      exact_mod_cast hratio
    have hfloor : d.basin.value / d.basin.den = n := by
      rw [hvalue, Nat.mul_div_cancel n d.basin_den_pos]
    have hnot : d.basin.holds n 1 = false := by
      simpa [hfloor] using Basin.not_holds_of_onGrid hgrid
    have hself : d.basin.holds n 1 = true := by
      rw [holds_iff hd Nat.one_pos, Nat.cast_one, div_one, ← hn]
      exact d.attracts_size
    rw [hself] at hnot
    cases hnot

/-- A search that begins at whole numbers does not go on behind the point for a whole double. -/
theorem exponent_search {d : Double} (hd : 0 < d.mantissa) {n : ℕ} (hn : d.size = n)
    (grids : ℕ) {step : ℤ} (hstep : 0 ≤ step) : 0 ≤ (d.basin.search grids step).exponent := by
  induction grids generalizing step with
  | zero => exact hstep
  | succ grids ih =>
    cases hgrid : d.basin.onGrid step with
    | some n =>
      rw [Basin.search_of_some hgrid]
      exact hstep
    | none =>
      have hne : step ≠ 0 := by
        rintro rfl
        obtain ⟨m, hsome⟩ := onGrid_zero hd hn
        rw [hgrid] at hsome
        cases hsome
      rw [Basin.search_of_none hgrid]
      exact ih (by omega)

theorem magnitude_pos {d : Double} (h : 1 ≤ d.size) : 1 ≤ d.basin.magnitude := by
  have hden : (0 : ℚ) < d.basin.den := by exact_mod_cast d.basin_den_pos
  have hwhole : d.basin.den ≤ d.basin.value := by
    rw [← basin_value, one_le_div hden] at h
    exact_mod_cast h
  have hlength := length_digits_pos (d.basin.value / d.basin.den)
  unfold Basin.magnitude
  rw [if_pos hwhole]
  omega

end Double

/-! ## Zeros at the end -/

namespace Scaled

theorem size_strip (fuel : ℕ) (s : Scaled) : (s.strip fuel).size = s.size := by
  induction fuel generalizing s with
  | zero => rfl
  | succ fuel ih =>
    unfold strip
    split
    · rename_i h
      have hdigits : (s.digits : ℚ) = (s.digits / 10 : ℕ) * 10 := by
        have hcut : s.digits = s.digits / 10 * 10 := by omega
        exact_mod_cast hcut
      rw [ih]
      unfold size
      rw [hdigits, zpow_add₀ (by norm_num), zpow_one]
      ring
    · rfl

theorem exponent_strip (fuel : ℕ) (s : Scaled) : s.exponent ≤ (s.strip fuel).exponent := by
  induction fuel generalizing s with
  | zero => exact le_refl _
  | succ fuel ih =>
    unfold strip
    split
    · have hmore := ih ⟨s.digits / 10, s.exponent + 1⟩
      dsimp only at hmore
      omega
    · exact le_refl _

end Scaled

/-! ## The shortest digits -/

/-- The shortest digits of a double are attracted by it, and a whole double has none behind the
point. -/
theorem attracts_shortest {d : Double} (hd : 0 < d.mantissa) :
    d.Attracts (shortest d.mantissa d.exponent).size ∧
      ∀ n : ℕ, d.size = n → 0 ≤ (shortest d.mantissa d.exponent).exponent := by
  have hshortest : shortest d.mantissa d.exponent =
    (d.basin.search 17 (d.basin.magnitude - 1)).strip 20 := if_neg hd.ne'
  rw [hshortest]
  constructor
  · rw [Scaled.size_strip]
    exact Double.attracts_search hd
  · intro n hn
    have hpos := Double.size_pos hd
    have hone : 1 ≤ d.size := by
      rw [hn] at hpos ⊢
      exact_mod_cast hpos
    have hmagnitude := Double.magnitude_pos hone
    exact (Double.exponent_search hd hn 17 (by omega)).trans (Scaled.exponent_strip _ _)

end ChatBot.Decimal
