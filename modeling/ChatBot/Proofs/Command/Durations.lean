-- How long the bot has been running reads back from what it says: the hours, minutes
-- and seconds in the text make the whole seconds that it was made of. So uptimes look
-- alike only if they have as many.
import Mathlib.Data.List.Basic
import ChatBot.Command.Dispatch
import ChatBot.Proofs.Decimal.Digits

namespace ChatBot.Command

/-! ## Amounts of time -/

inductive TimeUnit
  | hours
  | minutes
  | seconds
  deriving DecidableEq

/-- The letter that stands behind the count. -/
def TimeUnit.letter : TimeUnit → Char
  | .hours => 'h'
  | .minutes => 'm'
  | .seconds => 's'

def TimeUnit.ofLetter? : Char → Option TimeUnit
  | 'h' => some .hours
  | 'm' => some .minutes
  | 's' => some .seconds
  | _ => none

/-- So many of a unit. -/
structure Amount where
  count : Nat
  unit : TimeUnit
  deriving DecidableEq

namespace Amount

/-- Digits and one letter behind them. -/
def read? (word : List Char) : Option Amount :=
  match word.takeWhile Char.isDigit, word.dropWhile Char.isDigit with
  | d :: ds, [letter] =>
    (TimeUnit.ofLetter? letter).map fun unit => ⟨Decimal.valueOfDigits (d :: ds), unit⟩
  | _, _ => none

def chars (a : Amount) : List Char := Decimal.digits a.count ++ [a.unit.letter]

theorem read?_chars (a : Amount) : read? a.chars = some a := by
  obtain ⟨count, unit⟩ := a
  have hletter : ∀ c, [unit.letter].head? = some c → c.isDigit = false := by
    rintro c ⟨⟩
    cases unit <;> rfl
  obtain ⟨hdigits, hrest⟩ :=
    Text.span_append (fun c => Decimal.isDigit_of_mem_digits (n := count)) hletter
  obtain ⟨d, ds, hcons⟩ := List.exists_cons_of_ne_nil (Decimal.digits_ne_nil count)
  unfold read? chars
  rw [hdigits, hrest, hcons]
  dsimp only
  rw [← hcons, Decimal.valueOfDigits_digits]
  cases unit <;> rfl

theorem blank_not_mem_chars (a : Amount) : ' ' ∉ a.chars := by
  obtain ⟨count, unit⟩ := a
  intro h
  rcases List.mem_append.1 h with h | h
  · exact absurd (Decimal.isDigit_of_mem_digits h) (by decide)
  · rw [List.mem_singleton] at h
    cases unit <;> cases h

end Amount

/-- The amounts that stand in a text, with a blank between two of them. -/
def readAmounts (text : String) : Option (List Amount) :=
  (text.toList.splitOn ' ').mapM Amount.read?

theorem mapM_read?_chars (amounts : List Amount) :
    (amounts.map Amount.chars).mapM Amount.read? = some amounts := by
  induction amounts with
  | nil => rfl
  | cons a more ih =>
    rw [List.map_cons, List.mapM_cons, Amount.read?_chars, ih]
    rfl

/-- How many of a unit there are: none if the unit is left out. -/
def countOf (unit : TimeUnit) (amounts : List Amount) : Nat :=
  ((amounts.find? fun a => a.unit == unit).map Amount.count).getD 0

/-! ## Whole seconds -/

/-- The amounts that are shown for whole seconds. -/
def shownAmounts (seconds : Nat) : List Amount :=
  let hours : Amount := ⟨seconds / 3600, .hours⟩
  let minutes : Amount := ⟨seconds % 3600 / 60, .minutes⟩
  let rest : Amount := ⟨seconds % 60, .seconds⟩
  if 0 < hours.count then [hours, minutes, rest]
  else if 0 < minutes.count then [minutes, rest]
  else [rest]

theorem shownAmounts_ne_nil (seconds : Nat) : shownAmounts seconds ≠ [] := by
  unfold shownAmounts
  dsimp only
  split
  · exact List.cons_ne_nil _ _
  · split <;> exact List.cons_ne_nil _ _

theorem toList_durationText (seconds : Nat) :
    (durationText seconds).toList =
      [' '].intercalate ((shownAmounts seconds).map Amount.chars) := by
  unfold durationText shownAmounts
  dsimp only
  split
  · simp [Decimal.text, Amount.chars, TimeUnit.letter]
  · split
    · simp [Decimal.text, Amount.chars, TimeUnit.letter]
    · simp [Decimal.text, Amount.chars, TimeUnit.letter]

theorem readAmounts_durationText (seconds : Nat) :
    readAmounts (durationText seconds) = some (shownAmounts seconds) := by
  have hblank : ∀ word ∈ (shownAmounts seconds).map Amount.chars, ' ' ∉ word := by
    intro word hword
    obtain ⟨a, -, rfl⟩ := List.mem_map.1 hword
    exact a.blank_not_mem_chars
  have hne : (shownAmounts seconds).map Amount.chars ≠ [] :=
    fun h => shownAmounts_ne_nil seconds (List.map_eq_nil_iff.1 h)
  unfold readAmounts
  rw [toList_durationText, List.splitOn_intercalate ' ' hblank hne, mapM_read?_chars]

example : durationText 3725 = "1h 2m 5s" ∧
    readAmounts "1h 2m 5s" = some [⟨1, .hours⟩, ⟨2, .minutes⟩, ⟨5, .seconds⟩] := by decide

/-- Amounts that make so many seconds, as a clock counts them. Units in front that would be zero
are left out. -/
structure Makes (total : Nat) (amounts : List Amount) : Prop where
  units : amounts.map Amount.unit <:+ [.hours, .minutes, .seconds]
  sum : 3600 * countOf .hours amounts + 60 * countOf .minutes amounts +
    countOf .seconds amounts = total
  minutes : countOf .minutes amounts < 60
  seconds : countOf .seconds amounts < 60
  leading : amounts.head?.map Amount.count = some 0 ↔ total = 0

theorem makes_shownAmounts (seconds : Nat) : Makes seconds (shownAmounts seconds) := by
  have hminutes : seconds % 3600 / 60 < 60 := by omega
  have hseconds : seconds % 60 < 60 := by omega
  unfold shownAmounts
  dsimp only
  split
  · rename_i hhours
    refine ⟨List.suffix_refl _, ?_, hminutes, hseconds, ?_⟩
    · change 3600 * (seconds / 3600) + 60 * (seconds % 3600 / 60) + seconds % 60 = seconds
      omega
    · change some (seconds / 3600) = some 0 ↔ seconds = 0
      simp only [Option.some.injEq]
      omega
  · split
    · refine ⟨List.suffix_cons _ _, ?_, hminutes, hseconds, ?_⟩
      · change 3600 * 0 + 60 * (seconds % 3600 / 60) + seconds % 60 = seconds
        omega
      · change some (seconds % 3600 / 60) = some 0 ↔ seconds = 0
        simp only [Option.some.injEq]
        omega
    · refine ⟨(List.suffix_cons _ _).trans (List.suffix_cons _ _), ?_,
        Nat.zero_lt_succ 59, hseconds, ?_⟩
      · change 3600 * 0 + 60 * 0 + seconds % 60 = seconds
        omega
      · change some (seconds % 60) = some 0 ↔ seconds = 0
        simp only [Option.some.injEq]
        omega

/-! ## The law of the uptime -/

theorem durationText_injective : Function.Injective durationText := by
  intro seconds seconds' h
  have hread := readAmounts_durationText seconds
  rw [h, readAmounts_durationText seconds', Option.some.injEq] at hread
  have hmakes := makes_shownAmounts seconds
  rw [← hread] at hmakes
  exact hmakes.sum.symm.trans (makes_shownAmounts seconds').sum

/-- Of the uptime, the statistics tell the whole seconds. -/
theorem statsReply_eq_iff (counters : State.Counters) (uptime uptime' : Nat) :
    statsReply ⟨counters, uptime⟩ = statsReply ⟨counters, uptime'⟩ ↔
      uptime / 1000 = uptime' / 1000 := by
  unfold statsReply
  dsimp only
  rw [String.append_left_inj, String.append_right_inj, durationText_injective.eq_iff]

/-- What is said of an uptime reads back as hours, minutes and seconds that make its whole
seconds. So uptimes that look alike have as many. -/
theorem an_uptime_reads_back_to_the_second :
    (∀ seconds, ∃ amounts, readAmounts (durationText seconds) = some amounts ∧
      Makes seconds amounts) ∧
    (∀ seconds seconds', durationText seconds = durationText seconds' ↔ seconds = seconds') ∧
    ∀ counters uptime uptime',
      statsReply ⟨counters, uptime⟩ = statsReply ⟨counters, uptime'⟩ ↔
        uptime / 1000 = uptime' / 1000 :=
  ⟨fun seconds => ⟨_, readAmounts_durationText seconds, makes_shownAmounts seconds⟩,
    fun _ _ => durationText_injective.eq_iff, statsReply_eq_iff⟩

end ChatBot.Command
