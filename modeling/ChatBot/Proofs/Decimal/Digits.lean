-- Digits and the numbers that they write: a number is read back from its digits, also when
-- other characters follow.
import Mathlib.Algebra.GroupWithZero.Nat
import ChatBot.Decimal.Digits
import ChatBot.Proofs.Text.Stripping

namespace ChatBot.Decimal

theorem valueOfDigits_append_zeros (ds : List Char) (count : Nat) :
    valueOfDigits (ds ++ List.replicate count '0') = valueOfDigits ds * 10 ^ count := by
  have happend : valueOfDigits (ds ++ List.replicate count '0') =
    Nat.ofDigitChars 10 (ds ++ List.replicate count '0') 0 := rfl
  rw [happend, Nat.ofDigitChars_append, Nat.ofDigitChars_replicate_zero, Nat.mul_comm]
  rfl

theorem valueOfDigits_zeros_append (count : Nat) (ds : List Char) :
    valueOfDigits (List.replicate count '0' ++ ds) = valueOfDigits ds := by
  have happend : valueOfDigits (List.replicate count '0' ++ ds) =
    Nat.ofDigitChars 10 (List.replicate count '0' ++ ds) 0 := rfl
  rw [happend, Nat.ofDigitChars_append, Nat.ofDigitChars_replicate_zero, Nat.mul_zero]
  rfl

@[simp] theorem valueOfDigits_digits (n : Nat) : valueOfDigits (digits n) = n :=
  Nat.ofDigitChars_ten_toDigits

theorem digits_ne_nil (n : Nat) : digits n ≠ [] :=
  List.ne_nil_of_length_pos Nat.length_toDigits_pos

theorem isDigit_of_mem_digits {n : Nat} {c : Char} (h : c ∈ digits n) : c.isDigit = true :=
  Nat.isDigit_of_mem_toDigits (by decide) (by decide) h

theorem isDigit_of_mem_zeros {count : Nat} {c : Char} (h : c ∈ List.replicate count '0') :
    c.isDigit = true := by
  rw [List.eq_of_mem_replicate h]
  rfl

theorem digits_injective : Function.Injective digits := by
  intro m n h
  have hvalue := congrArg valueOfDigits h
  rwa [valueOfDigits_digits, valueOfDigits_digits] at hvalue

/-- Digits end where something else begins. -/
theorem eq_of_digits_append {m n : Nat} {rest rest' : List Char}
    (hrest : ∀ c, rest.head? = some c → c.isDigit = false)
    (hrest' : ∀ c, rest'.head? = some c → c.isDigit = false)
    (h : digits m ++ rest = digits n ++ rest') : m = n ∧ rest = rest' := by
  obtain ⟨hm, htail⟩ := Text.span_append (fun c => isDigit_of_mem_digits) hrest
  obtain ⟨hn, htail'⟩ := Text.span_append (fun c => isDigit_of_mem_digits) hrest'
  rw [h] at hm htail
  exact ⟨digits_injective (hm.symm.trans hn), htail.symm.trans htail'⟩

end ChatBot.Decimal
