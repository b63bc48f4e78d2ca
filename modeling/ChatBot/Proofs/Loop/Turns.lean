-- What the bot says in a round. The messages of a batch get one turn each, in
-- order: a reply is made from what the turns before it left, and goes out in
-- one call, whether the homeserver takes it or not.
import ChatBot.Proofs.Loop.Round
import ChatBot.Proofs.State.Rooms

namespace ChatBot.Loop

open Chat (RoomId AccessToken Batch Routed SyncToken)
open Service (Session World Homeserver Phase Call Entry Script)
open State (BotState Moment)

/-! ## The reading of a round, turn by turn -/

/-- One message, and what came of it. -/
structure Turn where
  message : Routed
  /-- When the reply went out. -/
  time : Nat
  reply : String
  /-- Whether the homeserver took the reply. -/
  taken : Bool

/-- The call of a turn, as it goes out between two polls. -/
def Turn.entry (token : AccessToken) (cursor : Option SyncToken) (x : Turn) : Entry :=
  ⟨.sendText token x.message.room x.reply, x.time, .idle, cursor⟩

/-- The reply to a message, and what is kept in mind after it. Free text leaves the state as it
is, and does not look at the clocks. -/
def replyTo (m : Routed) (state : BotState) (now : Moment) (draws : Draws) :
    String × BotState × Draws :=
  match m with
  | .command c => Command.dispatch c state now draws
  | .freeText t =>
    let reply := Reply.toText t.text t.sender draws
    (reply.1, state, reply.2)

/-- The replies to a row of messages, when the clocks show what they show at the times of the
turns and the homeserver takes what it takes. -/
def replies (clock : Nat → Moment) : List Turn → BotState → Draws → List String × BotState × Draws
  | [], state, draws => ([], state, draws)
  | x :: more, state, draws =>
    let first := replyTo x.message state (clock x.time) draws
    let others := replies clock more (first.2.1.afterSend x.taken) first.2.2
    (first.1 :: others.1, others.2)

variable {σ : Type}

/-- What a homeserver makes of the replies, one after the other. -/
def takings (hs : Homeserver σ) (token : AccessToken) : List Turn → σ → List Bool × σ
  | [], server => ([], server)
  | x :: more, server =>
    let first := hs.sendText token x.message.room x.reply server
    let others := takings hs token more first.2
    (first.1.result.isOk :: others.1, others.2)

namespace Scene

variable {set : Setting σ}

/-! ## One turn -/

/-- Making up a reply changes the state and the draws, and lets time pass; no call is made. -/
theorem compose_eq (set : Setting σ) (s : Scene σ) (m : Routed) :
    let now := set.clock (s.compose set m).2.world.now
    let reply := replyTo m s.bot.state now s.bot.draws
    s.compose set m = (reply.1,
      { bot := { s.bot with state := reply.2.1, draws := reply.2.2 }
        world := (s.compose set m).2.world }) := by
  cases m with
  | command c => rfl
  | freeText t => rfl

@[simp] theorem compose_server (s : Scene σ) (m : Routed) :
    (s.compose set m).2.world.server = s.world.server := by
  cases m with
  | command c => rfl
  | freeText t => exact World.sleep_server _ _

@[simp] theorem compose_log (s : Scene σ) (m : Routed) :
    (s.compose set m).2.world.log = s.world.log := by
  cases m with
  | command c => rfl
  | freeText t => exact World.sleep_log _ _

/-- The turn of a message that is answered now. -/
def turn (set : Setting σ) (s : Scene σ) (m : Routed) : Turn where
  message := m
  time := (s.compose set m).2.world.now
  reply := (s.compose set m).1
  taken := (s.compose set m).2.takes set m.room (s.compose set m).1

/-- A reply is made up, and then sent. -/
theorem answer_eq (set : Setting σ) (s : Scene σ) (m : Routed) :
    s.answer set m = ((s.compose set m).2.send set m.room (s.compose set m).1).2 := rfl

/-- What making up and sending a reply leaves of the bot. -/
theorem answer_bot (set : Setting σ) (s : Scene σ) (m : Routed) :
    let reply := replyTo m s.bot.state (set.clock (s.turn set m).time) s.bot.draws
    (s.answer set m).bot =
      { s.bot with state := reply.2.1.afterSend (s.turn set m).taken, draws := reply.2.2 } := by
  have hcompose := compose_eq set s m
  dsimp only at hcompose ⊢
  rw [answer_eq, send_bot]
  unfold turn
  dsimp only
  rw [hcompose]

theorem compose_session (s : Scene σ) (m : Routed) :
    (s.compose set m).2.bot.session = s.bot.session := by
  cases m with
  | command c => rfl
  | freeText t => rfl

theorem compose_phase (s : Scene σ) (m : Routed) :
    (s.compose set m).2.bot.phase = s.bot.phase := by
  cases m with
  | command c => rfl
  | freeText t => rfl

/-- A turn makes one call. -/
theorem answer_log {s : Scene σ} (h : s.bot.phase = .idle) (m : Routed) :
    (s.answer set m).world.log = s.world.log ++
      [(s.turn set m).entry s.bot.session.accessToken s.bot.session.cursor] := by
  rw [answer_eq, send_log, compose_log, compose_session, compose_phase, h]
  rfl

theorem answer_server (s : Scene σ) (m : Routed) :
    (s.answer set m).world.server = (set.homeserver.sendText s.bot.session.accessToken m.room
      (s.turn set m).reply s.world.server).2 := by
  rw [answer_eq, send_server, compose_session, compose_server]
  rfl

theorem turn_taken (s : Scene σ) (m : Routed) :
    (s.turn set m).taken = (set.homeserver.sendText s.bot.session.accessToken m.room
      (s.turn set m).reply s.world.server).1.result.isOk := by
  unfold turn takes
  rw [compose_session, compose_server]

/-! ## All turns of a round -/

/-- The turns of a row of messages. -/
def turns (set : Setting σ) : Scene σ → List Routed → List Turn
  | _, [] => []
  | s, m :: more => s.turn set m :: turns set (s.answer set m) more

@[simp] theorem map_message_turns (s : Scene σ) (ms : List Routed) :
    (s.turns set ms).map Turn.message = ms := by
  induction ms generalizing s with
  | nil => rfl
  | cons m more ih =>
    unfold turns
    rw [List.map_cons, ih]
    rfl

/-- Answering changes nothing in the bot but its state and its draws. -/
theorem foldl_answer_bot (s : Scene σ) (ms : List Routed) :
    (ms.foldl (answer set) s).bot =
      { s.bot with
        state := (ms.foldl (answer set) s).bot.state
        draws := (ms.foldl (answer set) s).bot.draws } := by
  induction ms generalizing s with
  | nil => rfl
  | cons m more ih =>
    rw [List.foldl_cons, ih (s.answer set m), answer_bot]

/-- The record grows by one call for each message, in order. -/
theorem foldl_answer_log {s : Scene σ} (h : s.bot.phase = .idle) (ms : List Routed) :
    (ms.foldl (answer set) s).world.log = s.world.log ++
      (s.turns set ms).map (Turn.entry s.bot.session.accessToken s.bot.session.cursor) := by
  induction ms generalizing s with
  | nil => exact (List.append_nil _).symm
  | cons m more ih =>
    have hbot := answer_bot set s m
    have hidle : (s.answer set m).bot.phase = .idle := by rw [hbot]; exact h
    rw [List.foldl_cons, ih hidle, answer_log h, hbot, turns]
    simp

/-- Each reply is made from what the turns before it left. -/
theorem replies_turns (s : Scene σ) (ms : List Routed) :
    replies set.clock (s.turns set ms) s.bot.state s.bot.draws =
      ((s.turns set ms).map Turn.reply, (ms.foldl (answer set) s).bot.state,
        (ms.foldl (answer set) s).bot.draws) := by
  induction ms generalizing s with
  | nil => rfl
  | cons m more ih =>
    have hreply : (s.turn set m).reply =
        (replyTo m s.bot.state (set.clock (s.turn set m).time) s.bot.draws).1 :=
      congrArg Prod.fst (compose_eq set s m)
    have hbot := answer_bot set s m
    have hothers := ih (s.answer set m)
    rw [hbot] at hothers
    unfold turns replies
    dsimp only at hothers ⊢
    rw [show (s.turn set m).message = m from rfl, hothers, List.map_cons, hreply, List.foldl_cons]

/-- Each reply meets the homeserver as the replies before it left it. -/
theorem takings_turns (s : Scene σ) (ms : List Routed) :
    takings set.homeserver s.bot.session.accessToken (s.turns set ms) s.world.server =
      ((s.turns set ms).map Turn.taken, (ms.foldl (answer set) s).world.server) := by
  induction ms generalizing s with
  | nil => rfl
  | cons m more ih =>
    have hothers := ih (s.answer set m)
    rw [answer_server, answer_bot] at hothers
    unfold turns takings
    dsimp only at hothers ⊢
    rw [show (s.turn set m).message = m from rfl, hothers, List.map_cons, turn_taken,
      List.foldl_cons]

/-! ## Rooms first, then messages -/

theorem foldl_noteRoom (s : Scene σ) (rooms : List RoomId) :
    rooms.foldl (fun s room => s.noteRoom set room none) s =
      s.withState (s.bot.state.noteAll rooms (s.moment set)) := by
  induction rooms generalizing s with
  | nil => rfl
  | cons room more ih =>
    rw [List.foldl_cons, ih]
    rfl

theorem handle_eq (s : Scene σ) (b : Batch) :
    s.handle set b = (Chat.route b s.bot.session.userId).foldl (answer set)
      (s.withState (s.bot.state.noteAll b.joined.rooms (s.moment set))) := by
  unfold handle
  dsimp only
  rw [foldl_noteRoom]
  rfl

/-- The scene in which the first message of a batch is met: the cursor has moved, and all rooms
are noted. -/
def met (set : Setting σ) (s : Scene σ) (b : Batch) : Scene σ :=
  let asked := (s.sync set).2.moveTo b.next
  asked.withState (s.bot.state.noteAll b.joined.rooms (asked.moment set))

theorem poll_eq_foldl {s : Scene σ} {b : Batch} (h : (s.sync set).1 = .ok b) :
    s.poll set = (.processed (Chat.route b s.bot.session.userId).length,
      (Chat.route b s.bot.session.userId).foldl (answer set) (s.met set b)) := by
  rw [poll_of_ok h, handle_eq]
  rfl

/-- Of the bot, a round that gets a batch changes the cursor, the state and the draws. -/
theorem poll_bot_of_ok {s : Scene σ} {b : Batch} (h : (s.sync set).1 = .ok b) :
    (s.poll set).2.bot =
      { timings := s.bot.timings
        session := s.bot.session.advance b.next
        state := (s.poll set).2.bot.state
        draws := (s.poll set).2.bot.draws
        phase := .idle } := by
  rw [poll_eq_foldl h]
  exact foldl_answer_bot (s.met set b) _

end Scene

/-! ## The law of a round -/

/-- A round that gets a batch answers it turn by turn. -/
structure Answered (set : Setting σ) (s : Scene σ) (b : Batch) (turns : List Turn) : Prop where
  /-- Each message has one turn, in order. -/
  messages : turns.map Turn.message = Chat.route b s.bot.session.userId
  /-- After the poll, the round makes one call for each turn. -/
  calls : (s.poll set).2.world.log = s.world.log ++ [s.pollEntry] ++
    turns.map (Turn.entry s.bot.session.accessToken (some b.next))
  /-- All rooms of the batch are known before the first reply is made. -/
  rooms : ∀ room ∈ b.joined.rooms, ((s.bot.state.noteAll b.joined.rooms
    ((s.sync set).2.moment set)).rooms.find? room).isSome = true
  /-- Each reply is made from the state and the draws that the turns before it left. -/
  said : replies set.clock turns
      (s.bot.state.noteAll b.joined.rooms ((s.sync set).2.moment set)) s.bot.draws =
    (turns.map Turn.reply, (s.poll set).2.bot.state, (s.poll set).2.bot.draws)
  /-- The homeserver took what it says that it took. -/
  answers : takings set.homeserver s.bot.session.accessToken turns (s.sync set).2.world.server =
    (turns.map Turn.taken, (s.poll set).2.world.server)
  outcome : (s.poll set).1 = .processed (Chat.route b s.bot.session.userId).length

/-- The turns that are taken from the scene where the first message is met are those of the
round. -/
theorem Scene.answered {set : Setting σ} {s : Scene σ} {b : Batch} (h : (s.sync set).1 = .ok b) :
    Answered set s b ((s.met set b).turns set (Chat.route b s.bot.session.userId)) := by
  have hpoll := Scene.poll_eq_foldl h
  constructor
  · exact Scene.map_message_turns _ _
  · rw [hpoll]
    dsimp only
    rw [Scene.foldl_answer_log rfl]
    exact congrArg (· ++ _) (Scene.sync_log s)
  · intro room hroom
    rw [BotState.isSome_find?_noteAll]
    simp [hroom]
  · rw [hpoll]
    exact Scene.replies_turns (s.met set b) _
  · rw [hpoll]
    exact Scene.takings_turns (s.met set b) _
  · rw [hpoll]

/-- Every message of a batch gets one reply, in order and in its own room, whichever of the
replies the homeserver takes. -/
theorem every_message_gets_one_reply (set : Setting σ) (s : Scene σ) (b : Batch)
    (h : (s.sync set).1 = .ok b) : ∃ turns, Answered set s b turns := by
  refine ⟨(s.met set b).turns set (Chat.route b s.bot.session.userId), ?_⟩
  exact Scene.answered h

/-! ## A round over a script -/

/-- A command in one room, and free text in another one. -/
def mixedBatch : Batch where
  next := ⟨"s1"⟩
  joined := .ofList [
    (⟨"!a:hs"⟩, [⟨Chat.messageType, some ⟨"@alice:hs"⟩, none, .object [("body", .text "!stats")]⟩]),
    (⟨"!b:hs"⟩, [⟨Chat.messageType, some ⟨"@bob:hs"⟩, none, .object [("body", .text "hi")]⟩])]

/-- A new bot over a script that hands out the batch and refuses the first reply. -/
def mixedScene : Scene Script where
  bot :=
    { timings := .default
      session := ⟨⟨"@bot:hs"⟩, ⟨"token"⟩, none, none⟩
      state := .fresh 0
      draws := .ofList []
      phase := .idle }
  world := .start ⟨[], [], [], [], [(.error .timeout, 0)], [(.ok mixedBatch, 0)], none⟩ .never

/-- The script, and clocks that stand still. -/
def mixedSetting : Setting Script := ⟨Script.homeserver, fun _ => ⟨0, "", ""⟩⟩

theorem both_messages_get_one_reply :
    (mixedScene.sync mixedSetting).1 = .ok mixedBatch ∧
      ∃ turns, Answered mixedSetting mixedScene mixedBatch turns :=
  ⟨rfl, every_message_gets_one_reply mixedSetting mixedScene mixedBatch rfl⟩

end ChatBot.Loop
