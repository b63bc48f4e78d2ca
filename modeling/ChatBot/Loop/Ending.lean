-- Runs over a script. Every round takes one of the prepared answers to polls, or
-- brings the request to stop, so a run always comes to its end: one round after
-- the last of these answers, if not before.
import ChatBot.Loop.Run
import ChatBot.Service.Script

namespace ChatBot.Loop

open Service (Script Stop World)

variable {σ : Type}

namespace Scene

/-! ## What a round leaves to be polled -/

/-- Nothing was polled on the way from one scene to the other, and no request to stop was
taken back. -/
structure Continues (s t : Scene Script) : Prop where
  sync : t.world.server.sync = s.world.server.sync
  requested : s.world.stop.requested = true → t.world.stop.requested = true

theorem Continues.refl (s : Scene Script) : Continues s s := ⟨rfl, id⟩

theorem Continues.trans {s t u : Scene Script} (h : Continues s t) (h' : Continues t u) :
    Continues s u :=
  ⟨h'.sync.trans h.sync, h'.requested ∘ h.requested⟩

theorem Continues.foldl {α : Type} {f : Scene Script → α → Scene Script}
    (h : ∀ s a, Continues s (f s a)) (as : List α) (s : Scene Script) :
    Continues s (as.foldl f s) := by
  induction as generalizing s with
  | nil => exact .refl s
  | cons a as ih => exact (h s a).trans (ih (f s a))

variable {set : Setting Script}

theorem continues_noteRoom (s : Scene Script) (room : Chat.RoomId) (name : Option String) :
    Continues s (s.noteRoom set room name) := ⟨rfl, id⟩

/-- What a call to send a text comes to. -/
abbrev sending (set : Setting σ) (s : Scene σ) (room : Chat.RoomId) (body : String) :
    Except Fault Unit × World σ :=
  s.world.perform (.sendText s.bot.session.accessToken room body) s.bot.phase s.bot.session.cursor
    (set.homeserver.sendText s.bot.session.accessToken room body s.world.server)

theorem send_world (set : Setting σ) (s : Scene σ) (room : Chat.RoomId) (body : String) :
    (s.send set room body).2.world = (s.sending set room body).2 := by
  unfold send
  dsimp only
  split <;> simp only [sending, *]

theorem continues_send (hset : set.homeserver = Script.homeserver) (s : Scene Script)
    (room : Chat.RoomId) (body : String) : Continues s (s.send set room body).2 := by
  constructor
  · rw [send_world, World.perform_server, hset]
    simp [Script.homeserver]
  · intro h
    rw [send_world]
    exact World.requested_perform (.inl h) _ _ _

theorem continues_compose (s : Scene Script) (m : Chat.Routed) :
    Continues s (s.compose set m).2 := by
  cases m with
  | command c => exact ⟨rfl, id⟩
  | freeText t =>
    exact ⟨congrArg Script.sync (World.sleep_server s.world s.bot.timings.replyDelay),
      fun h => World.requested_sleep h _⟩

theorem continues_handle (hset : set.homeserver = Script.homeserver) (s : Scene Script)
    (b : Chat.Batch) : Continues s (s.handle set b) :=
  (Continues.foldl (fun s room => continues_noteRoom s room none) _ s).trans
    (Continues.foldl (fun s m => (continues_compose s m).trans (continues_send hset _ _ _)) _ _)

/-- A poll takes one of the answers to come, or brings the request to stop. -/
theorem sync_stops_or_shortens (hset : set.homeserver = Script.homeserver) (s : Scene Script) :
    (s.sync set).2.world.stop.requested = true ∨
      (s.sync set).2.world.server.sync.length + 1 = s.world.server.sync.length := by
  cases h : s.world.server.sync with
  | nil =>
    left
    apply World.requested_perform
    right
    simp [hset, Script.homeserver, withPhase, h]
  | cons head more =>
    right
    simp [sync, withPhase, hset, Script.homeserver, h]

/-- What is left to poll after a round is what its poll left. -/
theorem continues_poll (hset : set.homeserver = Script.homeserver) (s : Scene Script) :
    Continues (s.sync set).2 (s.poll set).2 := by
  unfold poll
  split <;> rename_i h <;> rw [h]
  · rename_i b t
    have hhandle := continues_handle hset (t.moveTo b.next) b
    exact ⟨hhandle.sync, hhandle.requested⟩
  · exact .refl _
  · exact .refl _

theorem round_stops_or_shortens (hset : set.homeserver = Script.homeserver) (s : Scene Script) :
    (s.round set).world.stop.requested = true ∨
      (s.round set).world.server.sync.length + 1 = s.world.server.sync.length := by
  have hpoll := continues_poll hset s
  rcases sync_stops_or_shortens hset s with h | h
  · exact .inl (World.requested_pause (hpoll.requested h) _)
  · right
    rw [← h, ← hpoll.sync]
    exact congrArg (fun server : Script => server.sync.length + 1) (World.pause_server _ _)

/-! ## Runs -/

/-- With one round more than there are answers to polls, a run comes to its end. -/
theorem isSome_runWithin (hset : set.homeserver = Script.homeserver) (rounds : Nat)
    (s : Scene Script) (h : s.world.server.sync.length < rounds) :
    (s.runWithin set rounds).isSome = true := by
  induction rounds generalizing s with
  | zero => omega
  | succ rounds ih =>
    unfold runWithin
    split
    · rfl
    · rcases round_stops_or_shortens hset s with hstop | hshort
      · unfold runWithin
        simp [hstop]
      · exact ih _ (by omega)

/-- A run over a script, with a new request to stop. -/
def run (clock : Nat → State.Moment) (s : Scene Script) (stop : Stop)
    (stopAt : Option (Service.CallKind × Nat)) : Scene Script :=
  let server := { s.world.server with stopAt }
  let begun := { s with world := { s.world with stop, server } }
  (begun.runWithin ⟨Script.homeserver, clock⟩ (server.sync.length + 1)).get
    (isSome_runWithin rfl _ _ (Nat.lt_succ_self _))

end Scene

end ChatBot.Loop
