-- What callers do with a bot that has started, in any order and for any length
-- of time, and how a law of one round becomes a law of all of it.
import ChatBot.Proofs.Loop.Round

namespace ChatBot.Loop

open Chat (RoomId Batch)
open Service (World Stop)

/-- What happens to a bot that has started. -/
inductive Step (σ : Type)
  /-- One round. -/
  | poll
  /-- A run with a request to stop of its own, seen at its end or after so many rounds, whichever
  comes first. -/
  | run (stop : Stop) (rounds : Nat)
  | noteRoom (room : RoomId) (name : Option String)
  | send (room : RoomId) (body : String)
  /-- Others use the homeserver. -/
  | others (change : σ → σ)

variable {σ : Type}

/-- Whether a step polls. -/
def Step.polls : Step σ → Bool
  | .poll => true
  | .run _ _ => true
  | .noteRoom _ _ => false
  | .send _ _ => false
  | .others _ => false

/-- What polls were answered, the oldest first. -/
abbrev Answers := List (Except Fault Batch)

/-- The batches among some answers, in order. -/
def batches (as : Answers) : List Batch := as.filterMap Except.toOption

theorem batches_ok (as : Answers) (b : Batch) : batches (as ++ [.ok b]) = batches as ++ [b] := by
  unfold batches
  rw [List.filterMap_append]
  rfl

theorem batches_error (as : Answers) (f : Fault) : batches (as ++ [.error f]) = batches as := by
  unfold batches
  rw [List.filterMap_append]
  exact List.append_nil _

namespace Scene

/-! ## Runs, seen at any time -/

/-- A run, seen at its end or after so many rounds. -/
def runFor (set : Setting σ) : (rounds : Nat) → Scene σ → Scene σ
  | 0, s => s
  | rounds + 1, s => if s.world.stop.requested then s else runFor set rounds (s.round set)

/-- What its polls were answered. -/
def runAnswers (set : Setting σ) : (rounds : Nat) → Scene σ → Answers
  | 0, _ => []
  | rounds + 1, s =>
    if s.world.stop.requested then [] else (s.sync set).1 :: runAnswers set rounds (s.round set)

/-- A run that comes to its end is seen there. -/
theorem runFor_of_runWithin {set : Setting σ} {rounds : Nat} {s t : Scene σ}
    (h : s.runWithin set rounds = some t) : s.runFor set rounds = t := by
  induction rounds generalizing s with
  | zero =>
    unfold runWithin at h
    split at h
    · exact Option.some.inj h
    · cases h
  | succ rounds ih =>
    unfold runWithin at h
    unfold runFor
    split at h
    · rename_i hstop
      rw [if_pos hstop]
      exact Option.some.inj h
    · rename_i hgo
      rw [if_neg hgo]
      exact ih h

/-! ## Steps -/

/-- The beginning of a run. -/
def begin (s : Scene σ) (stop : Stop) : Scene σ := { s with world := { s.world with stop } }

def step (set : Setting σ) (s : Scene σ) : Step σ → Scene σ
  | .poll => (s.poll set).2
  | .run stop rounds => (s.begin stop).runFor set rounds
  | .noteRoom room name => s.noteRoom set room name
  | .send room body => (s.send set room body).2
  | .others change => { s with world := { s.world with server := change s.world.server } }

def stepAnswers (set : Setting σ) (s : Scene σ) : Step σ → Answers
  | .poll => [(s.sync set).1]
  | .run stop rounds => (s.begin stop).runAnswers set rounds
  | .noteRoom _ _ => []
  | .send _ _ => []
  | .others _ => []

/-- The scene after some steps. -/
def after (set : Setting σ) : Scene σ → List (Step σ) → Scene σ
  | s, [] => s
  | s, x :: more => after set (s.step set x) more

/-- What the polls of some steps were answered. -/
def answers (set : Setting σ) : Scene σ → List (Step σ) → Answers
  | _, [] => []
  | s, x :: more => s.stepAnswers set x ++ answers set (s.step set x) more

end Scene

/-! ## From one round to all steps -/

/-- What holds of the answers so far and the scene goes on to hold after a round, and does not
depend on the time or on the request to stop. -/
structure Keeps (set : Setting σ) (P : Answers → Scene σ → Prop) : Prop where
  poll : ∀ {as s}, P as s → P (as ++ [(s.sync set).1]) (s.poll set).2
  meanwhile : ∀ {as s} (world : World σ), world.server = s.world.server →
    world.log = s.world.log → P as s → P as { s with world }

namespace Keeps

variable {set : Setting σ} {P : Answers → Scene σ → Prop} {as : Answers} {s : Scene σ}

theorem round (h : Keeps set P) (hs : P as s) : P (as ++ [(s.sync set).1]) (s.round set) :=
  h.meanwhile _ (World.pause_server _ _) (World.pause_log _ _) (h.poll hs)

theorem runFor (h : Keeps set P) (rounds : Nat) (hs : P as s) :
    P (as ++ s.runAnswers set rounds) (s.runFor set rounds) := by
  induction rounds generalizing as s with
  | zero => simpa [Scene.runFor, Scene.runAnswers] using hs
  | succ rounds ih =>
    unfold Scene.runFor Scene.runAnswers
    split
    · simpa using hs
    · have hmore := ih (h.round hs)
      rwa [List.append_assoc] at hmore

theorem step (h : Keeps set P) {x : Step σ}
    (hother : x.polls = false → ∀ {as s}, P as s → P as (s.step set x)) (hs : P as s) :
    P (as ++ s.stepAnswers set x) (s.step set x) := by
  cases x with
  | poll => exact h.poll hs
  | run stop rounds => exact h.runFor rounds (h.meanwhile _ rfl rfl hs)
  | noteRoom room name => simpa [Scene.stepAnswers] using hother rfl hs
  | send room body => simpa [Scene.stepAnswers] using hother rfl hs
  | others change => simpa [Scene.stepAnswers] using hother rfl hs

/-- Steps that poll keep what a round keeps; of the other steps it has to be shown. -/
theorem after (h : Keeps set P) {steps : List (Step σ)}
    (hother : ∀ x ∈ steps, x.polls = false → ∀ {as s}, P as s → P as (s.step set x))
    (hs : P as s) : P (as ++ s.answers set steps) (s.after set steps) := by
  induction steps generalizing as s with
  | nil => simpa [Scene.after, Scene.answers] using hs
  | cons x more ih =>
    have hx := h.step (hother x List.mem_cons_self) hs
    have hmore := ih (fun y hy => hother y (List.mem_cons_of_mem x hy)) hx
    rwa [List.append_assoc] at hmore

end Keeps

end ChatBot.Loop
