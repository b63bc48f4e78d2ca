-- What surrounds the bot: the homeserver, the time, the request to stop, and
-- the record of all calls.
import ChatBot.Service.Homeserver
import ChatBot.State.Moment

namespace ChatBot.Service

open Chat (SyncToken)

/-- Whether a poll is under way. -/
inductive Phase
  | idle
  | polling
  deriving DecidableEq, Repr

/-- A call as it goes out: the time, and how the bot stands then. -/
structure Entry where
  call : Call
  time : Nat
  phase : Phase
  cursor : Option SyncToken
  deriving DecidableEq

/-- A request to stop: made already, or to be made at some time. -/
structure Stop where
  requested : Bool
  alarm : Option Nat
  deriving DecidableEq, Repr

/-- No request to stop, now or later. -/
def Stop.never : Stop := ⟨false, none⟩

/-- The time is in milliseconds. It passes only while the bot waits. -/
structure World (σ : Type) where
  server : σ
  now : Nat
  stop : Stop
  log : List Entry

namespace World

variable {σ α : Type}

/-- A world in which nothing has happened. -/
def start (server : σ) (stop : Stop) : World σ := ⟨server, 0, stop, []⟩

/-- Whether the alarm goes off by a given time. -/
def alarmBy (w : World σ) (time : Nat) : Bool :=
  match w.stop.alarm with
  | some alarm => alarm ≤ time
  | none => false

/-- Waits, whatever happens. -/
def sleep (w : World σ) (delay : Nat) : World σ :=
  if delay = 0 then w
  else
    let wake := w.now + delay
    { w with now := wake, stop := { w.stop with requested := w.stop.requested || w.alarmBy wake } }

/-- Waits, but no longer than until the request to stop. -/
def pause (w : World σ) (delay : Nat) : World σ :=
  if delay = 0 ∨ w.stop.requested then w
  else match w.stop.alarm with
    | some alarm =>
      if alarm ≤ w.now + delay then
        { w with now := max w.now alarm, stop := { w.stop with requested := true } }
      else { w with now := w.now + delay }
    | none => { w with now := w.now + delay }

/-- Makes a call: enters it in the record, and waits for its answer. -/
def perform (w : World σ) (call : Call) (phase : Phase) (cursor : Option SyncToken)
    (answered : Answer α × σ) : Except Fault α × World σ :=
  let (answer, server) := answered
  let began : World σ :=
    { w with
      server
      stop := { w.stop with requested := w.stop.requested || answer.stops }
      log := w.log ++ [⟨call, w.now, phase, cursor⟩] }
  (answer.result, began.sleep answer.delay)

/-! ## What waits and calls leave as it is -/

@[simp] theorem sleep_server (w : World σ) (delay : Nat) : (w.sleep delay).server = w.server := by
  unfold sleep
  split <;> rfl

@[simp] theorem sleep_log (w : World σ) (delay : Nat) : (w.sleep delay).log = w.log := by
  unfold sleep
  split <;> rfl

@[simp] theorem pause_server (w : World σ) (delay : Nat) : (w.pause delay).server = w.server := by
  unfold pause
  split
  · rfl
  · split
    · split <;> rfl
    · rfl

@[simp] theorem pause_log (w : World σ) (delay : Nat) : (w.pause delay).log = w.log := by
  unfold pause
  split
  · rfl
  · split
    · split <;> rfl
    · rfl

/-- A request to stop is never taken back. -/
theorem requested_sleep {w : World σ} (h : w.stop.requested = true) (delay : Nat) :
    (w.sleep delay).stop.requested = true := by
  unfold sleep
  split
  · exact h
  · simp [h]

theorem requested_pause {w : World σ} (h : w.stop.requested = true) (delay : Nat) :
    (w.pause delay).stop.requested = true := by
  unfold pause
  simp [h]

@[simp] theorem perform_server (w : World σ) (call : Call) (phase : Phase)
    (cursor : Option Chat.SyncToken) (answered : Answer α × σ) :
    (w.perform call phase cursor answered).2.server = answered.2 := by
  simp [perform]

@[simp] theorem perform_result (w : World σ) (call : Call) (phase : Phase)
    (cursor : Option Chat.SyncToken) (answered : Answer α × σ) :
    (w.perform call phase cursor answered).1 = answered.1.result := rfl

@[simp] theorem perform_log (w : World σ) (call : Call) (phase : Phase)
    (cursor : Option Chat.SyncToken) (answered : Answer α × σ) :
    (w.perform call phase cursor answered).2.log = w.log ++ [⟨call, w.now, phase, cursor⟩] := by
  simp [perform]

/-- A call that brings the request to stop, or one made after it. -/
theorem requested_perform {w : World σ} {answered : Answer α × σ}
    (h : w.stop.requested = true ∨ answered.1.stops = true) (call : Call) (phase : Phase)
    (cursor : Option Chat.SyncToken) :
    (w.perform call phase cursor answered).2.stop.requested = true := by
  apply requested_sleep
  simpa using h

end World

end ChatBot.Service
