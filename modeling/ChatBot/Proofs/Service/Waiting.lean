-- How time passes, and when a request to stop is noticed. Waits and calls are all
-- that happens to a world, so what each of them keeps is kept for good.
import ChatBot.Service.World

namespace ChatBot.Service.World

open Chat (SyncToken)

variable {σ α : Type}

/-! ## Waits and calls in a row -/

/-- What a world is some waits and calls later. -/
inductive Later (w : World σ) : World σ → Prop
  | refl : Later w w
  | sleep {v : World σ} (h : Later w v) (delay : Nat) : Later w (v.sleep delay)
  | perform {v : World σ} (h : Later w v) {α : Type} (call : Call) (phase : Phase)
      (cursor : Option SyncToken) (answered : Answer α × σ) :
      Later w (v.perform call phase cursor answered).2

theorem Later.trans {u v w : World σ} (h : Later u v) (h' : Later v w) : Later u w := by
  induction h' with
  | refl => exact h
  | sleep _ delay ih => exact ih.sleep delay
  | perform _ call phase cursor answered ih => exact ih.perform call phase cursor answered

/-- The world when a call has begun and its answer is not there yet. -/
def began (w : World σ) (call : Call) (phase : Phase) (cursor : Option SyncToken)
    (answered : Answer α × σ) : World σ :=
  { w with
    server := answered.2
    stop := { w.stop with requested := w.stop.requested || answered.1.stops }
    log := w.log ++ [⟨call, w.now, phase, cursor⟩] }

theorem perform_eq (w : World σ) (call : Call) (phase : Phase) (cursor : Option SyncToken)
    (answered : Answer α × σ) :
    w.perform call phase cursor answered =
      (answered.1.result, (w.began call phase cursor answered).sleep answered.1.delay) := rfl

@[simp] theorem sleep_alarm (w : World σ) (delay : Nat) :
    (w.sleep delay).stop.alarm = w.stop.alarm := by
  unfold sleep
  split
  · rfl
  · rfl

/-- The alarm stays as it was set. -/
theorem Later.alarm {w v : World σ} (h : Later w v) : v.stop.alarm = w.stop.alarm := by
  induction h with
  | refl => rfl
  | sleep _ delay ih => rw [sleep_alarm, ih]
  | perform _ call phase cursor answered ih => rw [perform_eq, sleep_alarm, ← ih]; rfl

/-- A request that was made is not taken back. -/
theorem Later.requested {w v : World σ} (h : Later w v) (hw : w.stop.requested = true) :
    v.stop.requested = true := by
  induction h with
  | refl => exact hw
  | sleep _ delay ih => exact requested_sleep ih delay
  | perform _ call phase cursor answered ih => exact requested_perform (.inl ih) call phase cursor

theorem now_le_sleep (w : World σ) (delay : Nat) : w.now ≤ (w.sleep delay).now := by
  unfold sleep
  split
  · exact Nat.le_refl _
  · exact Nat.le_add_right _ _

/-- Time does not go back. -/
theorem Later.now {w v : World σ} (h : Later w v) : w.now ≤ v.now := by
  induction h with
  | refl => exact Nat.le_refl _
  | sleep _ delay ih => exact Nat.le_trans ih (now_le_sleep _ delay)
  | @perform v _ _ call phase cursor answered ih =>
    exact Nat.le_trans ih (now_le_sleep (v.began call phase cursor answered) _)

/-- The record only grows. -/
theorem Later.log {w v : World σ} (h : Later w v) : w.log <+: v.log := by
  induction h with
  | refl => exact List.prefix_rfl
  | sleep _ delay ih => rwa [sleep_log]
  | perform _ call phase cursor answered ih =>
    rw [perform_log]
    exact ih.trans (List.prefix_append _ _)

/-! ## The alarm -/

/-- As long as nothing is requested, the time is before the alarm, or none has passed yet. -/
def Early (start : Nat) (w : World σ) : Prop :=
  w.stop.requested = false → ∀ alarm, w.stop.alarm = some alarm → w.now < alarm ∨ w.now = start

theorem Early.sleep {start : Nat} {w : World σ} (h : w.Early start) (delay : Nat) :
    (w.sleep delay).Early start := by
  unfold World.sleep
  split
  · exact h
  · intro hrequested alarm halarm
    left
    simp only [Bool.or_eq_false_iff] at hrequested
    have hby := hrequested.2
    unfold alarmBy at hby
    rw [show w.stop.alarm = some alarm from halarm] at hby
    exact Nat.lt_of_not_le (of_decide_eq_false hby)

theorem Later.early {w v : World σ} (h : Later w v) {start : Nat} (hw : w.Early start) :
    v.Early start := by
  induction h with
  | refl => exact hw
  | sleep _ delay ih => exact ih.sleep delay
  | @perform v _ _ call phase cursor answered ih =>
    have hbegan : (v.began call phase cursor answered).Early start := by
      intro hrequested
      exact ih (Bool.or_eq_false_iff.1 hrequested).1
    rw [perform_eq]
    exact hbegan.sleep _

/-- When nothing has happened yet, it is early. -/
theorem early_now (w : World σ) : w.Early w.now := fun _ _ _ => .inr rfl

/-! ## Pauses -/

/-- The world when the alarm has gone off. -/
def atAlarm (w : World σ) (alarm : Nat) : World σ :=
  { w with now := max w.now alarm, stop := { w.stop with requested := true } }

/-- What a pause comes to: none after the request, one that the alarm ends, or a full wait. -/
theorem pause_cases (w : World σ) (delay : Nat) :
    (w.stop.requested = true ∧ w.pause delay = w) ∨
    (w.stop.requested = false ∧ delay ≠ 0 ∧ ∃ alarm, w.stop.alarm = some alarm ∧
      alarm ≤ w.now + delay ∧ w.pause delay = w.atAlarm alarm) ∨
    (w.pause delay = w.sleep delay ∧ (w.pause delay).stop.requested = false) := by
  obtain ⟨server, now, ⟨requested, alarm⟩, log⟩ := w
  unfold pause sleep alarmBy
  cases requested with
  | true => simp
  | false =>
    by_cases hdelay : delay = 0
    · simp [hdelay]
    · cases alarm with
      | none => simp [hdelay]
      | some alarm =>
        by_cases hby : alarm ≤ now + delay
        · simp [hdelay, hby, atAlarm]
        · simp [hdelay, hby]

/-- A pause that is not cut short is a wait. -/
theorem pause_eq_sleep {w : World σ} {delay : Nat}
    (h : (w.pause delay).stop.requested = false) : w.pause delay = w.sleep delay := by
  rcases pause_cases w delay with ⟨hw, heq⟩ | ⟨-, -, alarm, -, -, heq⟩ | ⟨heq, -⟩
  · rw [heq, hw] at h
    cases h
  · rw [heq] at h
    cases h
  · exact heq

/-- After a pause the request has come if it would have come in a wait as long. -/
theorem requested_pause_eq (w : World σ) (delay : Nat) :
    (w.pause delay).stop.requested = (w.sleep delay).stop.requested := by
  rcases pause_cases w delay with ⟨hw, heq⟩ | ⟨-, hdelay, alarm, halarm, hby, heq⟩ | ⟨heq, -⟩
  · rw [heq, hw, requested_sleep hw]
  · have hsleep : (w.sleep delay).stop.requested = true := by
      simp [sleep, hdelay, alarmBy, halarm, hby]
    rw [heq, hsleep]
    rfl
  · rw [heq]

/-- A pause in which the request comes ends with the alarm. -/
theorem pause_cut {w : World σ} {delay : Nat} (hw : w.stop.requested = false)
    (h : (w.pause delay).stop.requested = true) :
    ∃ alarm, w.stop.alarm = some alarm ∧ delay ≠ 0 ∧ alarm ≤ w.now + delay ∧
      (w.pause delay).now = max w.now alarm := by
  rcases pause_cases w delay with ⟨hw', -⟩ | ⟨-, hdelay, alarm, halarm, hby, heq⟩ | ⟨-, hnot⟩
  · rw [hw] at hw'
    cases hw'
  · exact ⟨alarm, halarm, hdelay, hby, congrArg World.now heq⟩
  · rw [hnot] at h
    cases h

end ChatBot.Service.World
