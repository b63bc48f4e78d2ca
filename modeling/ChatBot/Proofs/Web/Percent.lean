-- Percent encoding loses nothing: whatever is kept as it is, the bytes of the
-- text come back, and no two texts have the same bytes.
import ChatBot.Text.Bytes
import ChatBot.Web.Percent

namespace ChatBot

/-! ## Bytes of texts -/

/-- A text is known by its bytes. -/
theorem Text.utf8Bytes_injective : Function.Injective Text.utf8Bytes := by
  intro cs ds h
  have hencode : cs.utf8Encode = ds.utf8Encode := congrArg List.toByteArray h
  have hfront : cs <+: ds :=
    List.isPrefix_of_utf8Encode_append_eq_utf8Encode .empty (by simpa using hencode)
  have hback : ds <+: cs :=
    List.isPrefix_of_utf8Encode_append_eq_utf8Encode .empty (by simpa using hencode.symm)
  exact hfront.eq_of_length_le hback.length_le

namespace Web

/-! ## What is written is read back -/

theorem percentDecode_percentByte (b : UInt8) (rest : List Char) :
    percentDecode (percentByte b ++ rest) = b :: percentDecode rest := by
  have hb : b.toNat < 256 := b.toNat_lt
  have hhigh := Text.hexDigit?_upperHexDigit (n := b.toNat / 16) (by omega)
  have hlow := Text.hexDigit?_upperHexDigit (n := b.toNat % 16) (by omega)
  have hvalue : UInt8.ofNat (16 * (b.toNat / 16) + b.toNat % 16) = b := by
    rw [Nat.div_add_mod, UInt8.ofNat_toNat]
  simp only [percentByte, List.cons_append, List.nil_append, percentDecode, hhigh, hlow, hvalue]

theorem percentDecode_percentBytes (bytes : List UInt8) (rest : List Char) :
    percentDecode (bytes.flatMap percentByte ++ rest) = bytes ++ percentDecode rest := by
  induction bytes with
  | nil => rfl
  | cons b more ih =>
    rw [List.flatMap_cons, List.append_assoc, percentDecode_percentByte, ih, List.cons_append]

/-- Only a percent sign means more than itself. -/
theorem percentDecode_cons {c : Char} (h : c ≠ '%') (rest : List Char) :
    percentDecode (c :: rest) = String.utf8EncodeChar c ++ percentDecode rest := by
  rw [percentDecode]
  intro a b rest' hc
  exact absurd hc h

/-- As long as percent signs are written out, a text is read back as its bytes. -/
theorem percentDecode_percentEncode {keep : Char → Bool} (hkeep : keep '%' = false)
    (cs : List Char) : percentDecode (percentEncode keep cs) = Text.utf8Bytes cs := by
  induction cs with
  | nil => rfl
  | cons c more ih =>
    have hcons : percentEncode keep (c :: more) =
        (if keep c then [c] else (String.utf8EncodeChar c).flatMap percentByte) ++
          percentEncode keep more := List.flatMap_cons
    have hbytes : Text.utf8Bytes (c :: more) = String.utf8EncodeChar c ++ Text.utf8Bytes more :=
      List.flatMap_cons
    rw [hcons, hbytes, ← ih]
    split
    · rename_i hkept
      have hne : c ≠ '%' := by
        rintro rfl
        rw [hkeep] at hkept
        contradiction
      exact percentDecode_cons hne _
    · exact percentDecode_percentBytes _ _

/-- A text of kept characters stands for itself. -/
theorem percentEncode_of_kept {keep : Char → Bool} {cs : List Char} (h : ∀ c ∈ cs, keep c = true) :
    percentEncode keep cs = cs := by
  induction cs with
  | nil => rfl
  | cons c more ih =>
    have hmore := ih fun d hd => h d (List.mem_cons_of_mem c hd)
    unfold percentEncode at hmore ⊢
    rw [List.flatMap_cons, if_pos (h c List.mem_cons_self), hmore]
    rfl

end Web

end ChatBot
