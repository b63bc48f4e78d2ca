-- The order of texts by their characters is the order of their UTF-8 bytes.
import Mathlib.Data.List.Lex
import Mathlib.Data.String.Basic
import Mathlib.Tactic.SplitIfs
import ChatBot.Text.Bytes

namespace ChatBot.Text

/-- The bytes of a smaller character come first, whatever follows. -/
theorem lex_utf8EncodeChar {c d : Char} (h : c < d) (bytes other : List UInt8) :
    List.Lex (· < ·) (String.utf8EncodeChar c ++ bytes) (String.utf8EncodeChar d ++ other) := by
  have hlt : c.val.toNat < d.val.toNat := h
  have hbound : d.val.toNat < 1114112 := by
    have hvalid := d.valid
    simp only [UInt32.isValidChar, Nat.isValidChar] at hvalid
    omega
  unfold String.utf8EncodeChar
  generalize c.val.toNat = m at *
  generalize d.val.toNat = n at *
  dsimp only
  -- the lead bytes of longer characters are larger; of two as long ones, the first group of six
  -- bits that differs decides
  have hsecond : ∀ k, k / 4096 = k / 64 / 64 := by omega
  have hthird : ∀ k, k / 262144 = k / 64 / 64 / 64 := by omega
  split_ifs <;>
    simp only [List.cons_append, List.nil_append, List.cons_lex_cons_iff, UInt8.lt_iff_toNat_lt,
      ← UInt8.toNat_inj, UInt8.toNat_ofNat', hsecond, hthird] <;> omega

/-- The bytes of a text come before those of a later one. -/
theorem lex_utf8Bytes {cs ds : List Char} (h : List.Lex (· < ·) cs ds) :
    List.Lex (· < ·) (utf8Bytes cs) (utf8Bytes ds) := by
  induction h with
  | @nil d ds =>
    have hne : utf8Bytes (d :: ds) ≠ [] := by
      simp [utf8Bytes]
    obtain ⟨b, more, hb⟩ := List.exists_cons_of_ne_nil hne
    rw [hb]
    exact .nil
  | @rel c cs d ds hcd => exact lex_utf8EncodeChar hcd (utf8Bytes cs) (utf8Bytes ds)
  | @cons c cs ds _ ih =>
    have happend : ∀ cs, utf8Bytes (c :: cs) = String.utf8EncodeChar c ++ utf8Bytes cs :=
      fun _ => List.flatMap_cons
    rw [happend, happend]
    exact List.Lex.append_left _ ih _

/-- A text comes before another one just when its bytes do. -/
theorem lt_iff_utf8Bytes_lt (s t : String) :
    s < t ↔ utf8Bytes s.toList < utf8Bytes t.toList := by
  rw [String.lt_iff_toList_lt]
  constructor
  · exact fun h => List.lex_lt.1 (lex_utf8Bytes (List.lex_lt.2 h))
  · intro h
    rcases lt_trichotomy s.toList t.toList with hlt | heq | hgt
    · exact hlt
    · rw [heq] at h
      exact absurd h (List.lt_irrefl _)
    · exact absurd (List.lex_lt.1 (lex_utf8Bytes (List.lex_lt.2 hgt))) (List.lt_asymm h)

end ChatBot.Text
