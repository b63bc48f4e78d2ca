-- What the text of a value is worth. The text is an expression again, a number with or
-- without a sign, and its value is the one that was written.
import ChatBot.Calc.Answer
import ChatBot.Proofs.Calc.Layouts
import ChatBot.Proofs.Decimal.Digits
import ChatBot.Proofs.Decimal.Fewest

namespace ChatBot.Calc

open Decimal (Double Scaled digits valueOfDigits tenTo)

/-- A numeral as answers have it: digits before the point, and behind it if there is one. -/
structure Numeral.Neat (n : Numeral) : Prop where
  whole : n.whole ≠ []
  fraction : n.fraction ≠ some []

/-- The number that a numeral writes. -/
def Numeral.size (n : Numeral) : ℚ := valueOfDigits n.allOf / tenTo n.places

theorem size_of_nonneg {s : Scaled} (h : 0 ≤ s.exponent) :
    s.size = (s.digits * 10 ^ s.exponent.toNat : ℕ) := by
  have hpower := Decimal.tenTo_div_tenTo s.exponent
  rw [show (-s.exponent).toNat = 0 by omega, Decimal.tenTo_zero, Nat.cast_one, div_one] at hpower
  unfold Scaled.size
  rw [← hpower]
  simp [Decimal.tenTo]

theorem size_of_neg {s : Scaled} (h : ¬ 0 ≤ s.exponent) :
    s.size = s.digits / tenTo (-s.exponent).toNat := by
  have hpower := Decimal.tenTo_div_tenTo s.exponent
  rw [show s.exponent.toNat = 0 by omega, Decimal.tenTo_zero, Nat.cast_one] at hpower
  unfold Scaled.size
  rw [← hpower, mul_one_div]

/-- With zeros up to the point. -/
theorem exists_padded (s : Scaled) (h : 0 ≤ s.exponent) : ∃ n : Numeral,
    n.chars = digits s.digits ++ List.replicate s.exponent.toNat '0' ∧ n.Neat ∧
      n.size = s.size ∧ n.fraction = none := by
  have hne := Decimal.digits_ne_nil s.digits
  have hall : ∀ c ∈ digits s.digits ++ List.replicate s.exponent.toNat '0', c.isDigit = true := by
    intro c hc
    rcases List.mem_append.1 hc with hc | hc
    · exact Decimal.isDigit_of_mem_digits hc
    · exact Decimal.isDigit_of_mem_zeros hc
  let n : Numeral := ⟨digits s.digits ++ List.replicate s.exponent.toNat '0', none,
    by rw [Option.getD_none, List.append_nil]; exact List.all_eq_true.2 hall, by simp [hne]⟩
  have hvalue : valueOfDigits n.allOf = s.digits * 10 ^ s.exponent.toNat := by
    simp [n, Numeral.allOf, Decimal.valueOfDigits_append_zeros]
  refine ⟨n, List.append_nil _, ⟨by simp [n, hne], by simp [n]⟩, ?_, rfl⟩
  rw [Numeral.size, hvalue, size_of_nonneg h]
  simp [n, Numeral.places]

/-- With the point among the digits. -/
theorem exists_pointed (value : ℕ) {places : ℕ} (hplaces : 0 < places)
    (h : places < (digits value).length) : ∃ n : Numeral,
      n.chars = (digits value).take ((digits value).length - places) ++
        '.' :: (digits value).drop ((digits value).length - places) ∧
      n.Neat ∧ n.size = value / tenTo places := by
  have hall : ∀ c ∈ digits value, c.isDigit = true := fun c => Decimal.isDigit_of_mem_digits
  let n : Numeral := ⟨(digits value).take ((digits value).length - places),
    some ((digits value).drop ((digits value).length - places)),
    by simpa using hall, by simp [Decimal.digits_ne_nil]⟩
  have hcount : n.places = places := by
    simp [n, Numeral.places]
    omega
  refine ⟨n, rfl, ⟨?_, ?_⟩, ?_⟩
  · apply List.ne_nil_of_length_pos
    rw [List.length_take]
    omega
  · intro hnone
    have hlength := congrArg List.length (Option.some.inj hnone)
    rw [List.length_drop, List.length_nil] at hlength
    omega
  · rw [Numeral.size, hcount]
    simp [n, Numeral.allOf]

/-- With zeros down to the first digit. -/
theorem exists_lowered (value : ℕ) {places : ℕ} (h : (digits value).length ≤ places) :
    ∃ n : Numeral,
      n.chars = '0' :: '.' :: List.replicate (places - (digits value).length) '0' ++ digits value ∧
      n.Neat ∧ n.size = value / tenTo places := by
  have hall : ∀ c ∈ '0' :: (List.replicate (places - (digits value).length) '0' ++ digits value),
      c.isDigit = true := by
    intro c hc
    rcases List.mem_cons.1 hc with rfl | hc
    · rfl
    rcases List.mem_append.1 hc with hc | hc
    · exact Decimal.isDigit_of_mem_zeros hc
    · exact Decimal.isDigit_of_mem_digits hc
  let n : Numeral := ⟨['0'],
    some (List.replicate (places - (digits value).length) '0' ++ digits value),
    by rw [Option.getD_some, List.singleton_append]; exact List.all_eq_true.2 hall, by simp⟩
  have hcount : n.places = places := by
    simp [n, Numeral.places]
    omega
  have hvalue : valueOfDigits n.allOf = value := by
    have hone := Decimal.valueOfDigits_zeros_append (places - (digits value).length + 1)
      (digits value)
    rw [Decimal.valueOfDigits_digits] at hone
    exact hone
  refine ⟨n, rfl, ⟨by simp [n], by simp [n, Decimal.digits_ne_nil]⟩, ?_⟩
  rw [Numeral.size, hcount, hvalue]

/-- Scaled digits are written as a numeral, with nothing behind the point if their exponent is not
negative. -/
theorem exists_positional (s : Scaled) : ∃ n : Numeral, n.chars = s.positional ∧ n.Neat ∧
    n.size = s.size ∧ (0 ≤ s.exponent → n.fraction = none) := by
  unfold Scaled.positional
  dsimp only
  by_cases hexponent : 0 ≤ s.exponent
  · rw [if_pos hexponent]
    obtain ⟨n, hchars, hneat, hsize, hfraction⟩ := exists_padded s hexponent
    exact ⟨n, hchars, hneat, hsize, fun _ => hfraction⟩
  · rw [if_neg hexponent, size_of_neg hexponent]
    by_cases hinside : (-s.exponent).toNat < (digits s.digits).length
    · rw [if_pos hinside]
      obtain ⟨n, hchars, hneat, hsize⟩ := exists_pointed s.digits (by omega) hinside
      exact ⟨n, hchars, hneat, hsize, fun h => absurd h hexponent⟩
    · rw [if_neg hinside]
      obtain ⟨n, hchars, hneat, hsize⟩ := exists_lowered s.digits (Nat.le_of_not_lt hinside)
      exact ⟨n, hchars, hneat, hsize, fun h => absurd h hexponent⟩

/-! ## Scanning and reading -/

/-- The tokens of a signed number. -/
def signedTokens (negative : Bool) (n : Numeral) : List Token :=
  if negative then [⟨0, .minus⟩, ⟨1, .number n⟩] else [⟨0, .number n⟩]

theorem tokens_signed (negative : Bool) (n : Numeral) :
    tokens (String.ofList (Decimal.signed negative n.chars)) = .ok (signedTokens negative n) := by
  have hscan : ∀ offset, scan offset n.chars = .ok [⟨offset, .number n⟩] := by
    intro offset
    have hnumber : scan offset (n.chars ++ []) = _ := scan_number n (by nofun) offset
    rw [List.append_nil, scan_nil] at hnumber
    exact hnumber
  unfold tokens
  rw [String.toList_ofList]
  cases negative with
  | false => exact hscan 0
  | true =>
    unfold Decimal.signed
    rw [if_pos rfl, scan_sign (x := .minus) rfl, hscan]
    rfl

/-- The tree of a signed number. -/
def signedTree (negative : Bool) (n : Numeral) : Expression :=
  let number : Phrase .signed := .unsigned (.base (.number n))
  .chain (.chain (if negative then .sign .minus number else number) .done) .done

theorem spelled_signed (negative : Bool) (n : Numeral) :
    (signedTokens negative n).map Token.lexeme = (signedTree negative n).lexemes ++ [] := by
  cases negative with
  | false => rfl
  | true => rfl

theorem nesting_signed (negative : Bool) (n : Numeral) : (signedTree negative n).nesting < 65 := by
  cases negative with
  | false => simp [signedTree, Tree.nesting]
  | true => simp [signedTree, Tree.nesting]

theorem value_signed {α : Type} (A : Arithmetic α) (negative : Bool) (n : Numeral) :
    (signedTree negative n).value A =
      some (if negative then A.neg (A.ofNumeral n) else A.ofNumeral n) := by
  cases negative with
  | false => rfl
  | true => rfl

/-- A signed number is worth what it writes. -/
theorem evaluate_signed {α : Type} {A : Arithmetic α} {negative : Bool} {n : Numeral} {v : α}
    (hv : (if negative then A.neg (A.ofNumeral n) else A.ofNumeral n) = v)
    (hfinite : A.isFinite v = true) :
    evaluate A (String.ofList (Decimal.signed negative n.chars)) = .ok v := by
  have hreads : Reads A 65 (.chain .sums) (expression A (signed A nestingLimit)) :=
    reads_expression (reads_signed A nestingLimit)
  have hne : signedTokens negative n ≠ [] := by
    cases negative with
    | false => exact List.cons_ne_nil _ _
    | true => exact List.cons_ne_nil _ _
  obtain ⟨r, hr, hrv, hrest⟩ := hreads.complete (signedTree negative n)
    (spelled_signed negative n) (ends_nil _) (nesting_signed negative n) (value_signed A negative n)
  rw [hv] at hrv
  rw [evaluate_eq_ok]
  refine ⟨_, tokens_signed negative n, hne, r, hr, List.map_eq_nil_iff.1 hrest, ?_, hrv⟩
  rw [hrv]
  exact hfinite

/-! ## The text of a value -/

variable {d : Double}

/-- A double is found to be a whole number, if it is one. -/
theorem whole?_eq_some_iff (d : Double) (n : Nat) :
    Decimal.Binary64.whole? d.mantissa d.exponent = some n ↔ d.size = n := by
  have hdown : (Decimal.twoTo (-d.exponent).toNat : ℚ) ≠ 0 := by
    exact_mod_cast (Decimal.twoTo_pos _).ne'
  have hpos := Decimal.twoTo_pos (-d.exponent).toNat
  have hsize : d.size = (d.mantissa * Decimal.twoTo d.exponent.toNat : ℕ) /
      Decimal.twoTo (-d.exponent).toNat := by
    unfold Double.size
    rw [← Decimal.twoTo_div_twoTo]
    push_cast
    ring
  rw [hsize, div_eq_iff hdown]
  unfold Decimal.Binary64.whole? Decimal.Binary64.ratio
  dsimp only
  constructor
  · intro h
    split at h
    · rename_i hmod
      have hn : d.mantissa * Decimal.twoTo d.exponent.toNat =
          n * Decimal.twoTo (-d.exponent).toNat := by
        rw [← Option.some.inj h, Nat.div_mul_cancel (Nat.dvd_of_mod_eq_zero hmod)]
      exact_mod_cast hn
    · cases h
  · intro h
    have hn : d.mantissa * Decimal.twoTo d.exponent.toNat =
        n * Decimal.twoTo (-d.exponent).toNat := by exact_mod_cast h
    rw [hn, if_pos (Nat.mul_mod_left _ _), Nat.mul_div_cancel _ hpos]

/-- A numeral that a double attracts is read as it, but for the sign. -/
theorem toFloat_of_attracts (hd : 0 < d.mantissa) {n : Numeral} (h : d.Attracts n.size) :
    n.toFloat = d.abs.toFloat :=
  congrArg Float.ofBits (Double.nearestBits_of_attracts hd (Decimal.tenTo_pos _) h)

/-- The digits of a whole number, as a numeral. -/
theorem exists_digits (n : Nat) : ∃ m : Numeral, m.chars = digits n ∧ m.Neat ∧ m.size = n ∧
    m.fraction = none := by
  obtain ⟨m, hchars, hneat, hsize, hfraction⟩ := exists_positional ⟨n, 0⟩
  refine ⟨m, ?_, hneat, ?_, hfraction (le_refl 0)⟩
  · simpa [Scaled.positional] using hchars
  · simpa [Scaled.size] using hsize

/-- What the text of a double that is not zero is made of: its sign, and a numeral that it
attracts. -/
structure Written (d : Double) (text : String) (n : Numeral) : Prop where
  text : text = String.ofList (Decimal.signed d.negative n.chars)
  neat : n.Neat
  attracts : d.Attracts n.size
  whole : ∀ k : ℕ, d.size = k → n.fraction = none

theorem exists_plain (hd : 0 < d.mantissa) : ∃ n, Written d (String.ofList d.parts.plain) n := by
  obtain ⟨hattracts, hwhole⟩ := Decimal.attracts_shortest hd
  obtain ⟨n, hchars, hneat, hsize, hfraction⟩ :=
    exists_positional (Decimal.shortest d.mantissa d.exponent)
  refine ⟨n, ?_, hneat, ?_, fun k hk => hfraction (hwhole k hk)⟩
  · rw [hchars]
    rfl
  · rwa [hsize]

theorem exists_written (hd : 0 < d.mantissa) : ∃ n, Written d (answer d.toFloat) n := by
  have hplain := exists_plain hd
  unfold answer
  rw [d.ofFloat_toFloat]
  unfold Double.parts at hplain ⊢
  dsimp only at hplain ⊢
  cases hwhole : Decimal.Binary64.whole? d.mantissa d.exponent with
  | none => exact hplain
  | some n =>
    have hsize := (whole?_eq_some_iff d n).1 hwhole
    dsimp only
    split
    · have hpos := Double.size_pos hd
      have hne : n ≠ 0 := by
        rintro rfl
        rw [hsize] at hpos
        simp at hpos
      obtain ⟨m, hchars, hneat, hm, hfraction⟩ := exists_digits n
      refine ⟨m, ?_, hneat, ?_, fun _ _ => hfraction⟩
      · rw [hchars, bne_iff_ne.2 hne, Bool.and_true]
      · rw [hm, ← hsize]
        exact d.attracts_size
    · exact hplain

theorem answer_of_zero (hd : d.mantissa = 0) : answer d.toFloat = String.ofList (digits 0) := by
  have hwhole : Decimal.Binary64.whole? d.mantissa d.exponent = some 0 := by
    rw [whole?_eq_some_iff, Double.size, hd]
    simp
  unfold answer
  rw [d.ofFloat_toFloat]
  unfold Double.parts
  dsimp only
  rw [hwhole]
  cases d.negative with
  | false => rfl
  | true => rfl

/-- A numeral that writes zero is read as the zero without a sign. -/
theorem toFloat_of_size_eq_zero {n : Numeral} (h : n.size = 0) : n.toFloat = Double.zero.toFloat := by
  have hscale : (tenTo n.places : ℚ) ≠ 0 := by exact_mod_cast (Decimal.tenTo_pos _).ne'
  have hvalue : valueOfDigits n.allOf = 0 := by
    unfold Numeral.size at h
    rw [div_eq_zero_iff] at h
    exact_mod_cast h.resolve_right hscale
  unfold Numeral.toFloat
  rw [hvalue]
  rfl

/-! ## The law of answers -/

/-- Whether a double is a whole number. -/
def IsWhole (x : Float) : Prop :=
  ∃ negative mantissa exponent, Decimal.Binary64.ofFloat x = .finite negative mantissa exponent ∧
    ∃ k : ℕ, (mantissa * 2 ^ exponent : ℚ) = k

/-- What the text of a value is, and what it is worth as an expression. -/
structure ReadsBack (x : Float) (text : String) : Prop where
  /-- The text is a numeral, with a minus sign or without one, and with nothing behind the point if
  the value is a whole number. -/
  plain : ∃ (negative : Bool) (n : Numeral),
    text = String.ofList (Decimal.signed negative n.chars) ∧ n.Neat ∧
      (IsWhole x → n.fraction = none)
  /-- It is worth the value, to the bit; only the sign of zero is lost. -/
  worth : ∃ w, evaluate .double text = .ok w ∧ (w == x) = true ∧
    w.toBits = if x.toBits = Double.negativeZero then 0 else x.toBits

theorem size_of_isWhole (h : IsWhole d.toFloat) : ∃ k : ℕ, d.size = k := by
  obtain ⟨negative, mantissa, exponent, hparts, hwhole⟩ := h
  rw [d.ofFloat_toFloat] at hparts
  cases hparts
  exact hwhole

theorem readsBack_of_zero (hd : d.mantissa = 0) : ReadsBack d.toFloat (answer d.toFloat) := by
  obtain ⟨n, hchars, hneat, hsize, hfraction⟩ := exists_digits 0
  have htext : answer d.toFloat = String.ofList (Decimal.signed false n.chars) := by
    rw [answer_of_zero hd, hchars]
    rfl
  have hvalue : n.toFloat = Double.zero.toFloat := toFloat_of_size_eq_zero (by simpa using hsize)
  rw [htext]
  refine ⟨⟨false, n, rfl, hneat, fun _ => hfraction⟩, Double.zero.toFloat, ?_, ?_, ?_⟩
  · exact evaluate_signed hvalue Double.zero.isFinite_toFloat
  · exact Double.beq_of_zero rfl hd
  · rw [d.toBits_toFloat, Double.toBits_toFloat, Double.bits_of_zero rfl rfl]
    cases hnegative : d.negative with
    | true => rw [if_pos (d.bits_eq_negativeZero_iff.2 ⟨hnegative, hd⟩)]
    | false => rw [Double.bits_of_zero hd hnegative, ite_self]

theorem readsBack_of_pos (hd : 0 < d.mantissa) : ReadsBack d.toFloat (answer d.toFloat) := by
  obtain ⟨n, htext, hneat, hattracts, hwhole⟩ := exists_written hd
  have hvalue : (if d.negative then Float.neg n.toFloat else n.toFloat) = d.toFloat := by
    rw [toFloat_of_attracts hd hattracts, Double.neg_toFloat]
    cases hnegative : d.negative with
    | true => rw [if_pos rfl, Double.neg_abs_eq_self hnegative]
    | false => rw [if_neg Bool.false_ne_true, Double.abs_eq_self hnegative]
  rw [htext]
  refine ⟨⟨d.negative, n, rfl, hneat, ?_⟩, d.toFloat, ?_, d.beq_self, ?_⟩
  · intro h
    obtain ⟨k, hk⟩ := size_of_isWhole h
    exact hwhole k hk
  · exact evaluate_signed hvalue d.isFinite_toFloat
  · rw [d.toBits_toFloat, if_neg]
    intro hzero
    obtain ⟨-, hmantissa⟩ := d.bits_eq_negativeZero_iff.1 hzero
    omega

/-- The text of a finite value is a numeral that reads back as the value. -/
theorem an_answer_is_worth_its_value (x : Float) (hx : x.isFinite = true) :
    ReadsBack x (answer x) := by
  obtain ⟨d, rfl⟩ := Double.exists_toFloat hx
  rcases Nat.eq_zero_or_pos d.mantissa with hzero | hpos
  · exact readsBack_of_zero hzero
  · exact readsBack_of_pos hpos

/-- Minus one tenth. -/
def minusTenth : Float := Float.ofBits 0xBFB999999999999A

theorem minus_one_tenth_reads_back :
    minusTenth.isFinite = true ∧ answer minusTenth = "-0.1" ∧
      ReadsBack minusTenth (answer minusTenth) :=
  ⟨by decide +kernel, by decide +kernel, an_answer_is_worth_its_value minusTenth (by decide +kernel)⟩

end ChatBot.Calc
