-- What each part of a round does to the bot, to the homeserver and to the
-- record of calls. Later laws build on these and open no part again.
import ChatBot.Loop.Ending

namespace ChatBot

/-- Only a text that was taken is counted. -/
def State.BotState.afterSend (s : State.BotState) (taken : Bool) : State.BotState :=
  if taken then s.countMessage else s

namespace Loop

open Chat (RoomId Batch Routed SyncToken)
open Service (Session World Phase Poll Call Entry)
open State (BotState Moment)

variable {σ : Type} {set : Setting σ}

namespace Scene

/-! ## Sends -/

/-- Whether the homeserver takes a text. -/
def takes (set : Setting σ) (s : Scene σ) (room : RoomId) (body : String) : Bool :=
  (set.homeserver.sendText s.bot.session.accessToken room body s.world.server).1.result.isOk

/-- A send that was taken is counted, and nothing else changes in the bot. -/
theorem send_eq (s : Scene σ) (room : RoomId) (body : String) :
    s.send set room body =
      (s.takes set room body,
        { bot := { s.bot with state := s.bot.state.afterSend (s.takes set room body) }
          world := (s.sending set room body).2 }) := by
  have hresult : (s.sending set room body).1 =
      (set.homeserver.sendText s.bot.session.accessToken room body s.world.server).1.result := rfl
  unfold takes send
  rw [← hresult]
  dsimp only
  split
  · rename_i h
    simp [sending, h, Except.isOk, Except.toBool, BotState.afterSend]
  · rename_i h
    simp [sending, h, Except.isOk, Except.toBool, BotState.afterSend]

@[simp] theorem send_bot (s : Scene σ) (room : RoomId) (body : String) :
    (s.send set room body).2.bot =
      { s.bot with state := s.bot.state.afterSend (s.takes set room body) } := by
  rw [send_eq]

@[simp] theorem send_server (s : Scene σ) (room : RoomId) (body : String) :
    (s.send set room body).2.world.server =
      (set.homeserver.sendText s.bot.session.accessToken room body s.world.server).2 := by
  rw [send_world, World.perform_server]

/-- A send makes one call, whatever comes of it. -/
@[simp] theorem send_log (s : Scene σ) (room : RoomId) (body : String) :
    (s.send set room body).2.world.log = s.world.log ++
      [⟨.sendText s.bot.session.accessToken room body, s.world.now, s.bot.phase,
        s.bot.session.cursor⟩] := by
  rw [send_world, World.perform_log]

/-! ## Polls -/

/-- Whatever is answered, a poll itself leaves the bot as it was, with no poll under way. -/
@[simp] theorem sync_bot (s : Scene σ) : (s.sync set).2.bot = { s.bot with phase := .idle } := rfl

@[simp] theorem sync_server (s : Scene σ) :
    (s.sync set).2.world.server =
      (set.homeserver.sync s.bot.session.accessToken s.nextPoll s.world.server).2 :=
  World.perform_server _ _ _ _ _

/-- The call of a poll, as it goes out. -/
def pollEntry (s : Scene σ) : Entry :=
  ⟨.sync s.bot.session.accessToken s.nextPoll, s.world.now, .polling, s.bot.session.cursor⟩

@[simp] theorem sync_log (s : Scene σ) :
    (s.sync set).2.world.log = s.world.log ++ [s.pollEntry] :=
  World.perform_log _ _ _ _ _

/-- After a batch, the cursor moves first, and then the batch is handled. -/
theorem poll_of_ok {s : Scene σ} {b : Batch} (h : (s.sync set).1 = .ok b) :
    s.poll set = (.processed (Chat.route b s.bot.session.userId).length,
      ((s.sync set).2.moveTo b.next).handle set b) := by
  have hsync : s.sync set = (.ok b, (s.sync set).2) := by rw [← h]
  unfold poll
  rw [hsync]
  rfl

/-- After a fault, the round is over. -/
theorem poll_of_error {s : Scene σ} {f : Fault} (h : (s.sync set).1 = .error f) :
    s.poll set = (if f = .timeout then .timedOut else .failed f, (s.sync set).2) := by
  have hsync : s.sync set = (.error f, (s.sync set).2) := by rw [← h]
  unfold poll
  rw [hsync]
  cases f with
  | timeout => rfl
  | config m => rfl
  | transport m => rfl
  | remote status errcode m => rfl
  | protocol m => rfl

/-- A round whose poll fails makes no other call and leaves the bot as it was. -/
theorem bot_and_log_of_error {s : Scene σ} {f : Fault} (hf : (s.sync set).1 = .error f)
    (hidle : s.bot.phase = .idle) :
    (s.poll set).2.bot = s.bot ∧ (s.poll set).2.world.log = s.world.log ++ [s.pollEntry] := by
  rw [poll_of_error hf, sync_log, sync_bot, ← hidle]
  exact ⟨rfl, rfl⟩

end Scene

end Loop

end ChatBot
