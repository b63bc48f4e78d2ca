-- Pairs in a query: whatever their texts are, they come back after the pairs that
-- were there before.
import ChatBot.Proofs.Web.Percent
import ChatBot.Web.Form

namespace ChatBot.Web.Form

/-! ## Names and values -/

theorem upperHexDigit_ne {n : Nat} (h : n < 16) :
    Text.upperHexDigit n ≠ '+' ∧ Text.upperHexDigit n ≠ '&' ∧ Text.upperHexDigit n ≠ '=' := by
  revert n
  decide

/-- A character that means something between the names and values of a form. -/
def IsMark (c : Char) : Prop := c = '+' ∨ c = '&' ∨ c = '='

theorem not_isMark_of_kept {c : Char} (h : kept c = true) : ¬ IsMark c := by
  rintro (rfl | rfl | rfl) <;> exact absurd h (by decide)

/-- Percent encoding writes no marks. -/
theorem not_isMark_encoded {c d : Char} (h : d ∈ percentEncode kept [c]) : ¬ IsMark d := by
  unfold percentEncode at h
  rw [List.flatMap_singleton] at h
  split at h
  · rename_i hkept
    rw [List.mem_singleton.1 h]
    exact not_isMark_of_kept hkept
  · obtain ⟨b, -, hd⟩ := List.mem_flatMap.1 h
    have hb : b.toNat < 256 := b.toNat_lt
    have hhigh := upperHexDigit_ne (n := b.toNat / 16) (by omega)
    have hlow := upperHexDigit_ne (n := b.toNat % 16) (by omega)
    unfold percentByte at hd
    unfold IsMark
    rcases List.mem_cons.1 hd with rfl | hd
    · decide
    rcases List.mem_cons.1 hd with rfl | hd
    · simp [hhigh]
    · rw [List.mem_singleton.1 hd]
      simp [hlow]

/-- A name or a value holds neither ampersands nor equals signs. -/
theorem ne_of_mem_encodeText {cs : List Char} {d : Char} (h : d ∈ encodeText cs) :
    d ≠ '&' ∧ d ≠ '=' := by
  obtain ⟨c, -, hd⟩ := List.mem_flatMap.1 h
  split at hd
  · rw [List.mem_singleton.1 hd]
    decide
  · have hmark := not_isMark_encoded hd
    exact ⟨fun heq => hmark (.inr (.inl heq)), fun heq => hmark (.inr (.inr heq))⟩

/-- With its plus signs read as spaces, a text is percent encoded. -/
theorem map_encodeText (cs : List Char) :
    (encodeText cs).map (fun c => if c = '+' then ' ' else c) =
      percentEncode (fun c => kept c || c == ' ') cs := by
  induction cs with
  | nil => rfl
  | cons c more ih =>
    have hencode : encodeText (c :: more) =
        (if c = ' ' then ['+'] else percentEncode kept [c]) ++ encodeText more := List.flatMap_cons
    have hpercent : ∀ keep : Char → Bool, percentEncode keep (c :: more) =
        percentEncode keep [c] ++ percentEncode keep more := fun keep => by simp [percentEncode]
    rw [hencode, hpercent, List.map_append, ih]
    congr 1
    by_cases hspace : c = ' '
    · subst hspace
      rfl
    · have hsame : (percentEncode kept [c]).map (fun c => if c = '+' then ' ' else c) =
          percentEncode kept [c] := by
        conv => rhs; rw [← List.map_id (percentEncode kept [c])]
        exact List.map_congr_left fun d hd => if_neg fun heq => not_isMark_encoded hd (.inl heq)
      rw [if_neg hspace, hsame]
      simp [percentEncode, hspace]

/-- A name or a value is read back. -/
theorem decodeText_encodeText (cs : List Char) : decodeText (encodeText cs) = Text.utf8Bytes cs := by
  unfold decodeText
  rw [map_encodeText, percentDecode_percentEncode rfl]

/-! ## Pairs -/

/-- A pair as bytes. -/
def asBytes (pair : String × String) : List UInt8 × List UInt8 :=
  (Text.utf8Bytes pair.1.toList, Text.utf8Bytes pair.2.toList)

theorem asBytes_injective : Function.Injective asBytes := by
  rintro ⟨a, b⟩ ⟨c, d⟩ h
  obtain ⟨ha, hb⟩ := Prod.mk.inj h
  obtain rfl := String.toList_injective (Text.utf8Bytes_injective ha)
  obtain rfl := String.toList_injective (Text.utf8Bytes_injective hb)
  rfl

theorem decodePair_encodePair (pair : String × String) :
    decodePair (encodePair pair) = asBytes pair := by
  have hname : ∀ c ∈ encodeText pair.1.toList, (c != '=') = true := fun c hc => by
    simpa using (ne_of_mem_encodeText hc).2
  unfold decodePair encodePair asBytes
  rw [List.takeWhile_append_of_pos hname, List.dropWhile_append_of_pos hname]
  simp [decodeText_encodeText]

theorem decode_encodePair (query : List Char) (pair : String × String) :
    decode ((if query = [] then [] else query ++ ['&']) ++ encodePair pair) =
      decode query ++ [asBytes pair] := by
  have hfree : '&' ∉ encodePair pair := by
    unfold encodePair
    intro h
    rcases List.mem_append.1 h with h | h
    · exact (ne_of_mem_encodeText h).1 rfl
    · rcases List.mem_cons.1 h with h | h
      · exact absurd h (by decide)
      · exact (ne_of_mem_encodeText h).1 rfl
  have hsplit : (encodePair pair).splitOn '&' = [encodePair pair] := List.splitOn_eq_singleton hfree
  have hone : ([encodePair pair].filter (· ≠ [])).map decodePair = [asBytes pair] := by
    simp [encodePair, ← decodePair_encodePair]
  unfold decode
  split
  · rename_i hquery
    rw [hquery, List.nil_append, hsplit, hone]
    rfl
  · rw [List.append_assoc, List.singleton_append, List.splitOn_append_cons_self, hsplit,
      List.filter_append, List.map_append, hone]

/-- Pairs that are added come back after those that were there. -/
theorem decode_append (query : List Char) (pairs : List (String × String)) :
    decode (append query pairs) = decode query ++ pairs.map asBytes := by
  unfold append
  induction pairs generalizing query with
  | nil => simp
  | cons pair more ih =>
    rw [List.foldl_cons, ih, decode_encodePair, List.map_cons, List.append_assoc,
      List.singleton_append]

end ChatBot.Web.Form
