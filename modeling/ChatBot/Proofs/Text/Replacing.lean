-- What is left of a text when a piece of it is replaced everywhere: what stands
-- between the places stays as it is, and a text stays the same as a whole only if
-- it has no such place, or what is put in is what stood there.
import Mathlib.Data.List.Infix
import ChatBot.Text.Replace

namespace ChatBot.Text

variable {sought value : List Char}

theorem toList_replaced (s sought value : String) :
    (replaced s sought value).toList = replaceAll sought.toList value.toList s.toList :=
  String.toList_ofList

/-! ## One place after the other -/

/-- What is read on from, behind a piece at the front. -/
theorem eq_append_of_isPrefixOf {c : Char} {rest : List Char} (hsought : sought ≠ [])
    (h : sought.isPrefixOf (c :: rest) = true) :
    c :: rest = sought ++ rest.drop (sought.length - 1) := by
  obtain ⟨behind, hbehind⟩ := List.isPrefixOf_iff_prefix.1 h
  have hlength := List.length_pos_iff.2 hsought
  have hdrop : (c :: rest).drop sought.length = behind := by rw [← hbehind, List.drop_left]
  rw [show sought.length = sought.length - 1 + 1 by omega, List.drop_succ_cons] at hdrop
  rw [hdrop, hbehind]

/-- Where the piece stands, the value takes its place. -/
theorem replaceAll_append (hsought : sought ≠ []) (value rest : List Char) :
    replaceAll sought value (sought ++ rest) = value ++ replaceAll sought value rest := by
  obtain ⟨c, more, rfl⟩ := List.exists_cons_of_ne_nil hsought
  have hfront : (c :: more).isPrefixOf (c :: (more ++ rest)) = true := by simp
  rw [List.cons_append, replaceAll, if_pos hfront]
  simp

/-- If a front is passed over in the same way whatever stands behind it, a pass over it and one
over the rest are a pass over both. -/
theorem replaceAll_append_of_front {front put : List Char}
    (h : ∀ rest, replaceAll sought value (front ++ rest) = put ++ replaceAll sought value rest)
    (rest : List Char) :
    replaceAll sought value (front ++ rest) =
      replaceAll sought value front ++ replaceAll sought value rest := by
  have hfront := h []
  rw [List.append_nil, replaceAll_nil, List.append_nil] at hfront
  rw [h, hfront]

/-- A character with which the piece does not begin stays. -/
theorem replaceAll_cons_of_head {c d : Char} {more : List Char} (h : d ≠ c)
    (value rest : List Char) :
    replaceAll (c :: more) value (d :: rest) = d :: replaceAll (c :: more) value rest := by
  apply replaceAll_cons_of_not_isPrefixOf
  simp [List.isPrefixOf, Ne.symm h]

/-- Nothing is replaced in a text without the first character of the piece. -/
theorem replaceAll_append_of_head_not_mem {c : Char} {more cs : List Char} (h : c ∉ cs)
    (value rest : List Char) :
    replaceAll (c :: more) value (cs ++ rest) = cs ++ replaceAll (c :: more) value rest := by
  induction cs with
  | nil => rfl
  | cons d ds ih =>
    simp only [List.mem_cons, not_or] at h
    rw [List.cons_append, replaceAll_cons_of_head (Ne.symm h.1), ih h.2, List.cons_append]

/-- The piece stands at the front of two texts alike if they differ only behind a character that
it does not hold. -/
theorem isPrefixOf_append_cons {c : Char} (hc : c ∉ sought) (cs rest : List Char) :
    sought.isPrefixOf (cs ++ c :: rest) = sought.isPrefixOf cs := by
  induction sought generalizing cs with
  | nil => simp
  | cons s more ih =>
    simp only [List.mem_cons, not_or] at hc
    cases cs with
    | nil => simp [List.isPrefixOf, Ne.symm hc.1]
    | cons d ds => simp [List.isPrefixOf, ih hc.2 ds]

/-- No place reaches over a character that the piece does not hold. -/
theorem replaceAll_append_cons {c : Char} (hc : c ∉ sought) (value cs rest : List Char) :
    replaceAll sought value (cs ++ c :: rest) =
      replaceAll sought value cs ++ replaceAll sought value (c :: rest) := by
  fun_induction replaceAll sought value cs with
  | case1 => rfl
  | case2 d ds hfront ih =>
    have hlength : sought.length - 1 ≤ ds.length := by
      have hle := (List.isPrefixOf_iff_prefix.1 hfront).length_le
      simp only [List.length_cons] at hle
      omega
    have hfront' : sought.isPrefixOf (d :: (ds ++ c :: rest)) = true := by
      rw [← List.cons_append, isPrefixOf_append_cons hc, hfront]
    rw [List.cons_append, replaceAll, if_pos hfront', List.drop_append_of_le_length hlength, ih,
      List.append_assoc]
  | case3 d ds hfront ih =>
    have hfront' : sought.isPrefixOf (d :: (ds ++ c :: rest)) = false := by
      rw [← List.cons_append, isPrefixOf_append_cons hc, Bool.eq_false_iff]
      exact hfront
    rw [List.cons_append, replaceAll_cons_of_not_isPrefixOf value hfront', ih, List.cons_append]

/-! ## How often something is replaced -/

/-- The count of the places in which a value is put. -/
def places (sought : List Char) : List Char → Nat
  | [] => 0
  | c :: rest =>
    if sought.isPrefixOf (c :: rest) then 1 + places sought (rest.drop (sought.length - 1))
    else places sought rest
termination_by cs => cs.length
decreasing_by
  · exact Nat.lt_succ_of_le (List.drop_sublist _ _).length_le
  · exact Nat.lt_succ_self _

theorem places_pos_of_infix (hsought : sought ≠ []) {cs : List Char} (h : sought <:+: cs) :
    0 < places sought cs := by
  fun_induction places sought cs with
  | case1 => exact absurd (List.infix_nil.1 h) hsought
  | case2 c rest hfront ih => omega
  | case3 c rest hfront ih =>
    rcases List.infix_cons_iff.1 h with hprefix | hrest
    · exact absurd (List.isPrefixOf_iff_prefix.2 hprefix) hfront
    · exact ih hrest

/-- Without a place, nothing is replaced. -/
theorem replaceAll_of_not_infix {cs : List Char} (h : ¬ sought <:+: cs) (value : List Char) :
    replaceAll sought value cs = cs := by
  fun_induction replaceAll sought value cs with
  | case1 => rfl
  | case2 c rest hfront ih => exact absurd (List.isPrefixOf_iff_prefix.1 hfront).isInfix h
  | case3 c rest hfront ih => rw [ih fun hrest => h (List.infix_cons hrest)]

/-- Any measure of texts that adds up over their characters changes in the same way in each
place. -/
theorem measure_replaceAll (hsought : sought ≠ []) (measure : List Char → Nat)
    (happend : ∀ cs ds, measure (cs ++ ds) = measure cs + measure ds) (value cs : List Char) :
    measure (replaceAll sought value cs) + places sought cs * measure sought =
      measure cs + places sought cs * measure value := by
  fun_induction places sought cs with
  | case1 => simp
  | case2 c rest hfront ih =>
    rw [eq_append_of_isPrefixOf hsought hfront, replaceAll_append hsought, happend, happend]
    simp only [Nat.add_mul, Nat.one_mul]
    omega
  | case3 c rest hfront ih =>
    have hfront' : sought.isPrefixOf (c :: rest) = false := Bool.eq_false_iff.2 hfront
    have hcons : ∀ ds, measure (c :: ds) = measure [c] + measure ds := fun ds => happend [c] ds
    rw [replaceAll_cons_of_not_isPrefixOf value hfront', hcons, hcons rest]
    omega

theorem length_replaceAll (hsought : sought ≠ []) (value cs : List Char) :
    (replaceAll sought value cs).length + places sought cs * sought.length =
      cs.length + places sought cs * value.length :=
  measure_replaceAll hsought List.length (fun _ _ => List.length_append) value cs

theorem count_replaceAll (hsought : sought ≠ []) (c : Char) (value cs : List Char) :
    (replaceAll sought value cs).count c + places sought cs * sought.count c =
      cs.count c + places sought cs * value.count c :=
  measure_replaceAll hsought (List.count c) (fun _ _ => List.count_append) value cs

/-! ## Texts that stay the same -/

/-- A value of the same length is found again where the piece first stood. -/
theorem value_eq_of_replaceAll_eq (hlength : value.length = sought.length) {cs : List Char}
    (hplace : sought <:+: cs) (h : replaceAll sought value cs = cs) : value = sought := by
  fun_induction replaceAll sought value cs with
  | case1 =>
    obtain rfl := List.infix_nil.1 hplace
    exact List.length_eq_zero_iff.1 hlength
  | case2 c rest hfront ih =>
    obtain ⟨behind, hbehind⟩ := List.isPrefixOf_iff_prefix.1 hfront
    rw [← hbehind] at h
    exact (List.append_inj h hlength).1
  | case3 c rest hfront ih =>
    rcases List.infix_cons_iff.1 hplace with hprefix | hrest
    · exact absurd (List.isPrefixOf_iff_prefix.2 hprefix) hfront
    · exact ih hrest (List.cons_injective h)

/-- A text stays the same only if the piece does not stand in it, or is put back. -/
theorem replaceAll_eq_self_iff (hsought : sought ≠ []) (value cs : List Char) :
    replaceAll sought value cs = cs ↔ ¬ sought <:+: cs ∨ value = sought := by
  constructor
  · intro h
    by_cases hplace : sought <:+: cs
    · right
      apply value_eq_of_replaceAll_eq _ hplace h
      have hpos := places_pos_of_infix hsought hplace
      have hcount := length_replaceAll hsought value cs
      rw [h] at hcount
      have hmul : places sought cs * value.length = places sought cs * sought.length := by omega
      exact Nat.eq_of_mul_eq_mul_left hpos hmul
    · exact .inl hplace
  · rintro (hplace | rfl)
    · exact replaceAll_of_not_infix hplace value
    · fun_induction replaceAll value value cs with
      | case1 => rfl
      | case2 c rest hfront ih => rw [ih, ← eq_append_of_isPrefixOf hsought hfront]
      | case3 c rest hfront ih => rw [ih]

end ChatBot.Text
