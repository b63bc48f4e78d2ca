-- What the lower case of a text says about the text. Only one character beyond ASCII
-- becomes a character of ASCII, the sign for kelvin; all others leave one beyond it.
import ChatBot.Proofs.Text.Letters
import ChatBot.Text.Lowercase

namespace ChatBot.Text

/-- The sign for kelvin, a capital of its own for the small k. -/
def kelvinSign : Char := '\u212a'

/-- The small letter of a character, if that is one of ASCII. -/
def plainLower (c : Char) : Char := if c = kelvinSign then 'k' else c.toLower

/-- A character beyond ASCII that stays beyond it in lower case. -/
def Foreign (c : Char) : Prop := 128 ≤ c.toNat ∧ c ≠ kelvinSign

instance (c : Char) : Decidable (Foreign c) := inferInstanceAs (Decidable (_ ∧ _))

theorem plainLower_of_foreign {c : Char} (h : Foreign c) : plainLower c = c := by
  have hhigh := h.1
  unfold plainLower
  rw [if_neg h.2, toLower_of_not_capital (by omega)]

theorem toLower_plainLower (c : Char) : (plainLower c).toLower = plainLower c := by
  unfold plainLower
  split
  · rfl
  · exact toLower_toLower c

theorem plainLower_toLower (c : Char) : plainLower c.toLower = plainLower c := by
  by_cases h : c = kelvinSign
  · subst h
    rfl
  · have hlower : c.toLower ≠ kelvinSign := by
      intro hsign
      rcases eq_or_capital_of_toLower hsign with hc | ⟨hsum, -, hhigh⟩
      · exact h hc
      · have hcode : kelvinSign.toNat = 0x212A := rfl
        omega
    unfold plainLower
    rw [if_neg h, if_neg hlower, toLower_toLower]

/-- Among small letters, only the sign for kelvin is changed. -/
theorem eq_or_kelvin_of_plainLower {c d : Char} (hc : c.toLower = c) (h : plainLower c = d) :
    c = d ∨ c = kelvinSign ∧ d = 'k' := by
  unfold plainLower at h
  split at h
  · rename_i hsign
    exact .inr ⟨hsign, h.symm⟩
  · exact .inl (hc.symm.trans h)

/-! ## The table of capitals -/

/-- A run of capitals beyond ASCII, with small letters that are characters beyond ASCII, too. -/
def CapitalRun.staysForeign (r : CapitalRun) : Bool :=
  128 ≤ r.first && 128 ≤ r.first + r.shift &&
    (r.last + r.shift < 0xD800 || (0xE000 ≤ r.first + r.shift && r.last + r.shift < 0x110000))

/-- Of all runs of capitals, two lead into ASCII. -/
theorem run_cases : ∀ r ∈ capitals,
    (r.first = 0x41 ∧ r.last = 0x5A ∧ r.shift = 32) ∨ (r.first = 0x212A ∧ r.last = 0x212A) ∨
      r.staysForeign = true := by
  decide +kernel

theorem CapitalRun.bounds {r : CapitalRun} {n : Nat} (h : r.holds n = true) :
    r.first ≤ n ∧ n ≤ r.last := by
  simp only [holds, Bool.and_eq_true, decide_eq_true_eq] at h
  exact h.1

theorem toNat_ofNat {n : Nat} (h : n < 0xD800 ∨ 0xE000 ≤ n ∧ n < 0x110000) :
    (Char.ofNat n).toNat = n := by
  have hvalid : n.isValidChar := h.imp id fun h => ⟨by omega, h.2⟩
  unfold Char.ofNat
  rw [dif_pos hvalid]
  rfl

/-- The small letter for a run that stays beyond ASCII. -/
theorem foreign_of_staysForeign {r : CapitalRun} (hr : r.staysForeign = true) {c : Char}
    (h : r.holds c.toNat = true) :
    128 ≤ c.toNat ∧ 128 ≤ (Char.ofNat (c.toNat + r.shift).toNat).toNat := by
  obtain ⟨hlow, hhigh⟩ := r.bounds h
  simp only [CapitalRun.staysForeign, Bool.and_eq_true, Bool.or_eq_true, decide_eq_true_eq] at hr
  obtain ⟨⟨hfirst, hshifted⟩, hvalid⟩ := hr
  refine ⟨by omega, ?_⟩
  rw [toNat_ofNat (by omega)]
  omega

/-! ## One character -/

/-- The lower case of a character is its small letter in ASCII, or the character and its lower
case are beyond ASCII. -/
theorem lowerChar_cases (c : Char) :
    lowerChar c = plainLower c ∨ Foreign c ∧ 128 ≤ (lowerChar c).toNat := by
  by_cases hkelvin : c = kelvinSign
  · subst hkelvin
    exact .inl (by decide +kernel)
  unfold lowerChar plainLower
  rw [if_neg hkelvin]
  cases hfind : capitals.find? (·.holds c.toNat) with
  | none =>
    left
    symm
    apply toLower_of_not_capital
    intro hcapital
    have hnot := List.find?_eq_none.1 hfind ⟨0x41, 0x5A, 1, 32⟩ List.mem_cons_self
    simp [CapitalRun.holds, hcapital, Nat.mod_one] at hnot
  | some r =>
    have hholds := List.find?_some hfind
    obtain ⟨hlow, hhigh⟩ := r.bounds hholds
    dsimp only
    rcases run_cases r (List.mem_of_find?_eq_some hfind) with ⟨hfirst, hlast, hshift⟩ |
      ⟨hfirst, hlast⟩ | hforeign
    · left
      rw [← Char.toNat_inj, toNat_toLower_of_capital (by omega) (by omega), toNat_ofNat (by omega)]
      omega
    · have hsign : kelvinSign.toNat = 0x212A := rfl
      exact absurd (Char.toNat_inj.1 (by omega)) hkelvin
    · obtain ⟨hc, hsmall⟩ := foreign_of_staysForeign hforeign hholds
      exact .inr ⟨⟨hc, hkelvin⟩, hsmall⟩

/-- Among its neighbours, too: a foreign character leaves one beyond ASCII, and any other one its
small letter. -/
theorem lowerIn_cases (before : List Char) (c : Char) (after : List Char) :
    lowerIn before c after = [plainLower c] ∨
      Foreign c ∧ ∃ d ∈ lowerIn before c after, 128 ≤ d.toNat := by
  unfold lowerIn
  split
  · rename_i hsigma
    subst hsigma
    refine .inr ⟨by decide, ?_⟩
    split
    · exact ⟨'ς', List.mem_singleton_self _, by decide⟩
    · exact ⟨'σ', List.mem_singleton_self _, by decide⟩
  · split
    · rename_i hdotted
      subst hdotted
      exact .inr ⟨by decide, '\u0307', by simp, by decide⟩
    · rcases lowerChar_cases c with h | ⟨hforeign, hsmall⟩
      · exact .inl (congrArg (fun d => [d]) h)
      · exact .inr ⟨hforeign, lowerChar c, List.mem_singleton_self _, hsmall⟩

/-- No ASCII capital is left. -/
theorem toLower_of_mem_lowerIn {before : List Char} {c d : Char} {after : List Char}
    (h : d ∈ lowerIn before c after) : d.toLower = d := by
  unfold lowerIn at h
  split at h
  · split at h
    · rw [List.mem_singleton.1 h]
      rfl
    · rw [List.mem_singleton.1 h]
      rfl
  · split at h
    · rcases List.mem_cons.1 h with rfl | h
      · rfl
      · rw [List.mem_singleton.1 h]
        rfl
    · rw [List.mem_singleton.1 h]
      rcases lowerChar_cases c with hplain | ⟨-, hhigh⟩
      · rw [hplain, toLower_plainLower]
      · exact toLower_of_not_capital (by omega)

/-! ## Whole texts -/

theorem map_toLower_lowerFrom (before cs : List Char) :
    (lowerFrom before cs).map Char.toLower = lowerFrom before cs := by
  induction cs generalizing before with
  | nil => rfl
  | cons c after ih =>
    rw [lowerFrom_cons, List.map_append, ih]
    congr 1
    calc (lowerIn before c after).map Char.toLower
        = (lowerIn before c after).map id :=
          List.map_congr_left fun d hd => toLower_of_mem_lowerIn hd
      _ = lowerIn before c after := List.map_id _

/-- The lower case of a text is the row of its small letters in ASCII, unless there is a character
beyond ASCII in both. -/
theorem lowerFrom_cases (before cs : List Char) :
    lowerFrom before cs = cs.map plainLower ∨
      (∃ c ∈ cs, Foreign c) ∧ ∃ d ∈ lowerFrom before cs, 128 ≤ d.toNat := by
  induction cs generalizing before with
  | nil => exact .inl rfl
  | cons c after ih =>
    rw [lowerFrom_cons]
    rcases lowerIn_cases before c after with hplain | ⟨hforeign, d, hd, hhigh⟩
    · rcases ih (c :: before) with hmore | ⟨⟨e, he, hforeign⟩, d, hd, hhigh⟩
      · exact .inl (by rw [hplain, hmore, List.map_cons, List.singleton_append])
      · exact .inr ⟨⟨e, List.mem_cons_of_mem c he, hforeign⟩, d, List.mem_append_right _ hd, hhigh⟩
    · exact .inr ⟨⟨c, List.mem_cons_self, hforeign⟩, d, List.mem_append_left _ hd, hhigh⟩

theorem lowerFrom_eq_iff {row : List Char} (hrow : ∀ d ∈ row, d.toNat < 128)
    (before cs : List Char) : lowerFrom before cs = row ↔ cs.map plainLower = row := by
  rcases lowerFrom_cases before cs with hplain | ⟨⟨c, hc, hforeign⟩, d, hd, hhigh⟩
  · rw [hplain]
  · constructor
    · intro h
      have hlow := hrow d (h ▸ hd)
      omega
    · intro h
      have hmem : plainLower c ∈ row := h ▸ List.mem_map_of_mem hc
      have hlow := hrow _ hmem
      rw [plainLower_of_foreign hforeign] at hlow
      exact absurd hforeign.1 (Nat.not_le.2 hlow)

end ChatBot.Text
