-- Finite doubles, each with the one mantissa and the one exponent that its bits stand
-- for, and what the arithmetic of doubles does with their bits.
import Mathlib
import ChatBot.Decimal.Binary64

namespace ChatBot.Decimal

open Float.Model (Format UnpackedFloat)
open Float.Model.UnpackedFloat (Sign isNaNBits unpackSign unpackExponent unpackMantissa)

/-! ## The three fields -/

theorem toNat_append {m n : Nat} (x : BitVec m) (y : BitVec n) :
    (x ++ y).toNat = x.toNat * 2 ^ n + y.toNat := by
  rw [BitVec.toNat_append, ← Nat.shiftLeft_add_eq_or_of_lt y.isLt, Nat.shiftLeft_eq]

theorem toNat_unpackExponent (bits : BitVec 64) :
    (@unpackExponent .binary64 bits).toNat = bits.toNat / 2 ^ 52 % 2048 := by
  simp [unpackExponent, Nat.shiftRight_eq_div_pow]

theorem toNat_unpackMantissa (bits : BitVec 64) :
    (@unpackMantissa .binary64 bits).toNat = bits.toNat % 2 ^ 52 := by
  simp [unpackMantissa]

theorem toNat_unpackSign (bits : BitVec 64) :
    (@unpackSign .binary64 bits).toNat = bits.toNat / 2 ^ 63 := by
  have hbits := bits.isLt
  simp [unpackSign, Nat.shiftRight_eq_div_pow]
  omega

/-! ## Finite doubles -/

/-- A finite double, `mantissa * 2 ^ exponent`, negated if `negative`. All 53 bits of the mantissa
are used, unless the exponent is the least one. -/
structure Double where
  negative : Bool
  mantissa : Nat
  exponent : Int
  mantissa_lt : mantissa < 2 ^ 53
  least : -1074 ≤ exponent
  most : exponent ≤ 971
  full : 2 ^ 52 ≤ mantissa ∨ exponent = -1074

namespace Double

/-- The 63 bits below the sign, as a number. Where all bits of the mantissa are used, the first of
them counts as one more in the exponent. -/
def magnitude (d : Double) : Nat := (d.exponent + 1074).toNat * 2 ^ 52 + d.mantissa

/-- All 64 bits, as a number. -/
def code (d : Double) : Nat := (if d.negative then 2 ^ 63 else 0) + d.magnitude

def bits (d : Double) : UInt64 := UInt64.ofNat d.code

def toFloat (d : Double) : Float := Float.ofBits d.bits

def parts (d : Double) : Binary64 := .finite d.negative d.mantissa d.exponent

/-- The same number with the other sign. -/
def neg (d : Double) : Double := { d with negative := !d.negative }

/-- The same number without a sign. -/
def abs (d : Double) : Double := { d with negative := false }

/-- The zero without a sign. -/
def zero : Double := ⟨false, 0, -1074, by decide, by decide, by decide, .inr rfl⟩

theorem magnitude_lt (d : Double) : d.magnitude < 2047 * 2 ^ 52 := by
  have hmantissa := d.mantissa_lt
  have hmost := d.most
  unfold magnitude
  omega

theorem code_lt (d : Double) : d.code < 2 ^ 64 := by
  have hmagnitude := d.magnitude_lt
  unfold code
  split
  · omega
  · omega

@[simp] theorem toNat_bits (d : Double) : d.bits.toNat = d.code := by
  unfold bits
  rw [UInt64.toNat_ofNat', Nat.mod_eq_of_lt d.code_lt]

/-! ## Signs and zeros -/

/-- The bits of the zero that has a sign. -/
def negativeZero : UInt64 := 0x8000000000000000

theorem abs_eq_self {d : Double} (h : d.negative = false) : d.abs = d := by
  cases d
  cases h
  rfl

theorem neg_abs_eq_self {d : Double} (h : d.negative = true) : d.abs.neg = d := by
  cases d
  cases h
  rfl

theorem magnitude_eq_zero_iff (d : Double) : d.magnitude = 0 ↔ d.mantissa = 0 := by
  have hfull := d.full
  unfold magnitude
  omega

theorem bits_eq_negativeZero_iff (d : Double) :
    d.bits = negativeZero ↔ d.negative = true ∧ d.mantissa = 0 := by
  have hmagnitude := d.magnitude_lt
  have hzero : negativeZero.toNat = 2 ^ 63 := rfl
  rw [← UInt64.toNat_inj, toNat_bits, hzero, ← magnitude_eq_zero_iff]
  unfold code
  cases d.negative with
  | true => simp
  | false =>
    simp
    omega

theorem bits_of_zero {d : Double} (hd : d.mantissa = 0) (h : d.negative = false) : d.bits = 0 := by
  rw [← UInt64.toNat_inj, toNat_bits, code, h, (magnitude_eq_zero_iff d).2 hd]
  rfl

end Double

/-! ## Reading the bits -/

theorem ofBits_eq (bits : UInt64) :
    let n := bits.toNat
    Binary64.ofBits bits =
      if n / 2 ^ 52 % 2048 = 2047 then
        if n % 2 ^ 52 = 0 then .infinite (2 ^ 63 ≤ n) else .nan
      else if n / 2 ^ 52 % 2048 = 0 then .finite (2 ^ 63 ≤ n) (n % 2 ^ 52) (-1074)
      else .finite (2 ^ 63 ≤ n) (n % 2 ^ 52 + 2 ^ 52) ((n / 2 ^ 52 % 2048 : Nat) - 1075) := rfl

/-- The sign bit, and the bits below it. -/
theorem Double.code_eq (d : Double) {n : Nat} (hsign : d.negative = decide (2 ^ 63 ≤ n))
    (hrest : d.magnitude = n % 2 ^ 63) (hn : n < 2 ^ 64) : d.code = n := by
  unfold code
  rw [hsign, hrest]
  by_cases hnegative : 2 ^ 63 ≤ n
  · rw [decide_eq_true hnegative, if_pos rfl]
    omega
  · rw [decide_eq_false hnegative, if_neg Bool.false_ne_true]
    omega

/-- Bits whose exponent is not at the top are those of a finite double. -/
theorem exists_bits {bits : UInt64} (h : bits.toNat / 2 ^ 52 % 2048 ≠ 2047) :
    ∃ d : Double, d.bits = bits := by
  have hn := bits.toNat_lt
  by_cases hsmall : bits.toNat / 2 ^ 52 % 2048 = 0
  · let d : Double := ⟨2 ^ 63 ≤ bits.toNat, bits.toNat % 2 ^ 52, -1074, by omega, by omega,
      by omega, .inr rfl⟩
    have hrest : d.magnitude = bits.toNat % 2 ^ 63 := by
      simp only [Double.magnitude, d]
      omega
    refine ⟨d, UInt64.toNat_inj.1 ?_⟩
    rw [d.toNat_bits, d.code_eq rfl hrest hn]
  · let d : Double := ⟨2 ^ 63 ≤ bits.toNat, bits.toNat % 2 ^ 52 + 2 ^ 52,
      (bits.toNat / 2 ^ 52 % 2048 : Nat) - 1075, by omega, by omega, by omega, .inl (by omega)⟩
    have hrest : d.magnitude = bits.toNat % 2 ^ 63 := by
      simp only [Double.magnitude, d]
      omega
    refine ⟨d, UInt64.toNat_inj.1 ?_⟩
    rw [d.toNat_bits, d.code_eq rfl hrest hn]

theorem Double.code_sign (d : Double) : decide (2 ^ 63 ≤ d.code) = d.negative := by
  have hmagnitude := d.magnitude_lt
  unfold code
  cases d.negative with
  | true => simp
  | false =>
    apply decide_eq_false
    rw [if_neg Bool.false_ne_true]
    omega

theorem Double.code_mod (d : Double) : d.code % 2 ^ 63 = d.magnitude := by
  have hmagnitude := d.magnitude_lt
  unfold code
  split
  · omega
  · omega

/-- The bits of a finite double stand for it. -/
theorem Double.ofBits_bits (d : Double) : Binary64.ofBits d.bits = d.parts := by
  have hmantissa := d.mantissa_lt
  have hleast := d.least
  have hmost := d.most
  have hmod := d.code_mod
  unfold magnitude at hmod
  rw [ofBits_eq, d.toNat_bits, d.code_sign]
  unfold parts
  by_cases hfull : 2 ^ 52 ≤ d.mantissa
  · rw [if_neg (by omega), if_neg (by omega)]
    congr 1
    · omega
    · omega
  · have hexponent : d.exponent = -1074 := d.full.resolve_left hfull
    rw [if_neg (by omega), if_pos (by omega)]
    congr 1
    · omega
    · omega

/-! ## Unpacking and packing -/

namespace Double

/-- The sign as the arithmetic of doubles has it. -/
def sign (d : Double) : Sign := if d.negative then .negative else .positive

/-- A finite double as the arithmetic of doubles has it, unpacked. -/
def unpacked (d : Double) : UnpackedFloat :=
  if h : d.mantissa = 0 then .zero d.sign
  else .finite d.sign d.mantissa d.exponent (Nat.pos_of_ne_zero h)

theorem sign_neg (d : Double) : d.neg.sign = -d.sign := by
  unfold sign neg
  cases d.negative with
  | true => rfl
  | false => rfl

theorem neg_unpacked (d : Double) : d.unpacked.neg = d.neg.unpacked := by
  unfold unpacked
  rw [sign_neg]
  by_cases h : d.mantissa = 0
  · have hneg : d.neg.mantissa = 0 := h
    rw [dif_pos h, dif_pos hneg]
    rfl
  · have hneg : ¬ d.neg.mantissa = 0 := h
    rw [dif_neg h, dif_neg hneg]
    rfl

theorem code_eq_fields (d : Double) : d.code = d.sign.toBitVec.toNat * 2 ^ 63 + d.magnitude := by
  unfold code sign
  cases d.negative with
  | true => simp [Sign.toBitVec]
  | false => simp [Sign.toBitVec]

theorem ofBitVec_unpackSign (d : Double) :
    Sign.ofBitVec (@unpackSign .binary64 d.bits.toBitVec) = d.sign := by
  have hcode := d.code_eq_fields
  have hmagnitude := d.magnitude_lt
  have hbits : d.bits.toBitVec.toNat = d.code := d.toNat_bits
  have hsign : @unpackSign .binary64 d.bits.toBitVec = d.sign.toBitVec := by
    apply BitVec.eq_of_toNat_eq
    rw [toNat_unpackSign, hbits]
    omega
  rw [hsign, Sign.ofBitVec_toBitVec]

/-- The fields of a double that uses all bits of its mantissa. -/
theorem fields_of_full {d : Double} (h : 2 ^ 52 ≤ d.mantissa) :
    (@unpackExponent .binary64 d.bits.toBitVec).toNat = (d.exponent + 1075).toNat ∧
      (@unpackMantissa .binary64 d.bits.toBitVec).toNat = d.mantissa - 2 ^ 52 := by
  have hmantissa := d.mantissa_lt
  have hleast := d.least
  have hmost := d.most
  have hmod := d.code_mod
  have hbits : d.bits.toBitVec.toNat = d.code := d.toNat_bits
  unfold magnitude at hmod
  rw [toNat_unpackExponent, toNat_unpackMantissa, hbits]
  omega

theorem fields_of_small {d : Double} (h : d.mantissa < 2 ^ 52) :
    (@unpackExponent .binary64 d.bits.toBitVec).toNat = 0 ∧
      (@unpackMantissa .binary64 d.bits.toBitVec).toNat = d.mantissa := by
  have hexponent : d.exponent = -1074 := d.full.resolve_left (by omega)
  have hmod := d.code_mod
  have hbits : d.bits.toBitVec.toNat = d.code := d.toNat_bits
  unfold magnitude at hmod
  rw [toNat_unpackExponent, toNat_unpackMantissa, hbits]
  omega

/-- The exponent at the top is that of no number. -/
theorem unpackExponent_ne_top (d : Double) :
    @unpackExponent .binary64 d.bits.toBitVec ≠ -1#11 := by
  have hmost := d.most
  intro htop
  rcases Nat.lt_or_ge d.mantissa (2 ^ 52) with hsmall | hfull
  · have hbiased := (fields_of_small hsmall).1
    rw [htop] at hbiased
    cases hbiased
  · have hbiased := (fields_of_full hfull).1
    rw [htop] at hbiased
    simp at hbiased
    omega

theorem unpack_of_full {d : Double} (h : 2 ^ 52 ≤ d.mantissa) :
    UnpackedFloat.unpack .binary64 d.bits.toBitVec = d.unpacked := by
  have hleast := d.least
  obtain ⟨hbiased, hfraction⟩ := fields_of_full h
  have hnormal : @unpackExponent .binary64 d.bits.toBitVec ≠ 0#11 := by
    intro hzero
    rw [hzero] at hbiased
    simp at hbiased
    omega
  have hne : ¬ d.mantissa = 0 := by omega
  unfold UnpackedFloat.unpack unpacked
  simp only [d.unpackExponent_ne_top, if_false, ofBitVec_unpackSign]
  rw [if_neg hnormal, dif_neg hne]
  congr 1
  · -- the first bit of the mantissa comes back
    rw [toNat_append, hfraction]
    simp
    omega
  · rw [hbiased]
    simp [Format.exponentBias]
    omega

theorem unpack_of_small {d : Double} (h : d.mantissa < 2 ^ 52) :
    UnpackedFloat.unpack .binary64 d.bits.toBitVec = d.unpacked := by
  have hexponent : d.exponent = -1074 := d.full.resolve_left (by omega)
  obtain ⟨hbiased, hfraction⟩ := fields_of_small h
  have hfield : @unpackExponent .binary64 d.bits.toBitVec = 0#11 := BitVec.eq_of_toNat_eq hbiased
  have hfinite : ¬ (0#11 = -1#11) := by decide
  unfold UnpackedFloat.unpack unpacked
  simp only [hfield, hfinite, if_false, if_true, ofBitVec_unpackSign]
  by_cases hzero : d.mantissa = 0
  · have hnone : @unpackMantissa .binary64 d.bits.toBitVec = 0#52 := by
      apply BitVec.eq_of_toNat_eq
      rw [hfraction, hzero]
      rfl
    rw [dif_pos hnone, dif_pos hzero]
  · have hsome : @unpackMantissa .binary64 d.bits.toBitVec ≠ 0#52 := by
      intro hnone
      rw [hnone] at hfraction
      exact hzero hfraction.symm
    rw [dif_neg hsome, dif_neg hzero]
    congr 1
    rw [hexponent]
    rfl

/-- The bits of a finite double unpack to it. -/
theorem unpack_bits (d : Double) :
    UnpackedFloat.unpack .binary64 d.bits.toBitVec = d.unpacked := by
  rcases Nat.lt_or_ge d.mantissa (2 ^ 52) with hsmall | hfull
  · exact unpack_of_small hsmall
  · exact unpack_of_full hfull

/-- What is unpacked is packed again. -/
theorem pack_unpacked (d : Double) :
    UnpackedFloat.pack .binary64 d.unpacked = d.bits.toBitVec := by
  have hnumber : @isNaNBits .binary64 d.bits.toBitVec = false := by
    apply decide_eq_false
    rintro ⟨htop, -⟩
    exact d.unpackExponent_ne_top htop
  rw [← unpack_bits, UnpackedFloat.pack_unpack, hnumber, if_neg Bool.false_ne_true]

/-! ## The arithmetic of finite doubles -/

@[simp] theorem toBits_toFloat (d : Double) : d.toFloat.toBits = d.bits := by
  have hpack : d.toFloat.toBits.toBitVec =
    UnpackedFloat.pack .binary64 (UnpackedFloat.unpack .binary64 d.bits.toBitVec) := rfl
  rw [unpack_bits, pack_unpacked] at hpack
  exact UInt64.eq_of_toBitVec_eq hpack

theorem unpack_toFloat (d : Double) : d.toFloat.toModel.unpack = d.unpacked := by
  have hunpack : d.toFloat.toModel.unpack =
    UnpackedFloat.unpack .binary64 d.toFloat.toBits.toBitVec := rfl
  rw [hunpack, toBits_toFloat, unpack_bits]

theorem ofFloat_toFloat (d : Double) : Binary64.ofFloat d.toFloat = d.parts := by
  unfold Binary64.ofFloat
  rw [toBits_toFloat, ofBits_bits]

theorem isFinite_toFloat (d : Double) : d.toFloat.isFinite = true := by
  have hfinite : d.toFloat.isFinite = d.toFloat.toModel.unpack.isFinite := rfl
  rw [hfinite, unpack_toFloat]
  unfold unpacked
  split
  · rfl
  · rfl

theorem neg_toFloat (d : Double) : Float.neg d.toFloat = d.neg.toFloat := by
  apply Float.toBits_inj.1
  have hpack : (Float.neg d.toFloat).toBits.toBitVec =
    UnpackedFloat.pack .binary64 d.toFloat.toModel.unpack.neg := rfl
  rw [unpack_toFloat, neg_unpacked, pack_unpacked] at hpack
  rw [toBits_toFloat]
  exact UInt64.eq_of_toBitVec_eq hpack

/-- A finite double is equal to itself. -/
theorem beq_self (d : Double) : (d.toFloat == d.toFloat) = true := by
  apply Float.beq_self_iff.2
  intro hnan
  have hfinite := d.isFinite_toFloat
  rw [hnan] at hfinite
  cases hfinite

/-- The two zeros are equal. -/
theorem beq_of_zero {d d' : Double} (h : d.mantissa = 0) (h' : d'.mantissa = 0) :
    (d.toFloat == d'.toFloat) = true := by
  have hbeq : (d.toFloat == d'.toFloat) =
    d.toFloat.toModel.unpack.beq d'.toFloat.toModel.unpack := rfl
  rw [hbeq, unpack_toFloat, unpack_toFloat]
  unfold unpacked
  rw [dif_pos h, dif_pos h']
  rfl

/-- The exponent of a finite number does not have all its bits set. -/
theorem biased_ne_of_isFinite {x : Float} (h : x.isFinite = true) :
    x.toBits.toNat / 2 ^ 52 % 2048 ≠ 2047 := by
  intro htop
  have hexponent : @unpackExponent .binary64 x.toBits.toBitVec = -1#11 := by
    apply BitVec.eq_of_toNat_eq
    rw [toNat_unpackExponent]
    exact htop
  have hfinite : x.isFinite = (UnpackedFloat.unpack .binary64 x.toBits.toBitVec).isFinite := rfl
  rw [hfinite] at h
  unfold UnpackedFloat.unpack at h
  simp only [hexponent, if_true] at h
  split at h
  · cases h
  · cases h

/-- Every finite double is one of these. -/
theorem exists_toFloat {x : Float} (h : x.isFinite = true) : ∃ d : Double, d.toFloat = x := by
  obtain ⟨d, hbits⟩ := exists_bits (biased_ne_of_isFinite h)
  refine ⟨d, ?_⟩
  rw [toFloat, hbits, Float.ofBits_toBits]

end Double

end ChatBot.Decimal
