-- The loop: round after round, with a pause in between, until the bot is asked
-- to stop. It looks for the request between rounds, and never breaks off a
-- round.
import ChatBot.Loop.Round

namespace ChatBot.Loop

variable {σ : Type}

namespace Scene

/-- The pause after a round: shorter after an answer, longer after a fault, none after a poll
that brought nothing in time. -/
def restTime (s : Scene σ) : Outcome → Nat
  | .processed _ => s.bot.timings.idleDelay
  | .timedOut => 0
  | .failed _ => s.bot.timings.errorCooldown

/-- A round and the pause after it. -/
def round (set : Setting σ) (s : Scene σ) : Scene σ :=
  let (outcome, s) := s.poll set
  { s with world := s.world.pause (s.restTime outcome) }

/-- Goes on until the request to stop; none if that did not come within `rounds` rounds. -/
def runWithin (set : Setting σ) : (rounds : Nat) → Scene σ → Option (Scene σ)
  | rounds, s =>
    if s.world.stop.requested then some s
    else match rounds with
      | 0 => none
      | rounds + 1 => runWithin set rounds (s.round set)

end Scene

end ChatBot.Loop
