-- One round of the bot: poll the homeserver, move on to where the stream stands
-- now, and answer what is new.
import ChatBot.Chat.Message
import ChatBot.Command.Dispatch
import ChatBot.Config.Settings
import ChatBot.Reply.Template
import ChatBot.Service.Session
import ChatBot.Service.World

namespace ChatBot.Loop

open Chat (RoomId Batch Routed)
open Config (Timings)
open Service (Session World Homeserver Phase Poll Call)
open State (BotState Moment)

/-- The bot at work. -/
structure Bot where
  timings : Timings
  session : Session
  state : BotState
  draws : Draws
  phase : Phase

/-- The bot, and what surrounds it. -/
structure Scene (σ : Type) where
  bot : Bot
  world : World σ

/-- What does not change while the bot is at work: how the homeserver answers, and what the
clocks show at each time. -/
structure Setting (σ : Type) where
  homeserver : Homeserver σ
  clock : Nat → Moment

/-- What came of a poll. -/
inductive Outcome
  | processed (routed : Nat)
  | timedOut
  | failed (f : Fault)
  deriving DecidableEq, Repr

variable {σ : Type}

namespace Scene

/-- What the clocks show now. -/
def moment (s : Scene σ) (set : Setting σ) : Moment := set.clock s.world.now

def withState (s : Scene σ) (state : BotState) : Scene σ := { s with bot := { s.bot with state } }

/-- Enters a room in the bot's table. -/
def noteRoom (set : Setting σ) (s : Scene σ) (room : RoomId) (name : Option String) : Scene σ :=
  s.withState (s.bot.state.noteRoom room name (s.moment set))

/-- Sends a text to a room, once, and says whether the homeserver took it. Only then it is
counted. -/
def send (set : Setting σ) (s : Scene σ) (room : RoomId) (body : String) : Bool × Scene σ :=
  let token := s.bot.session.accessToken
  let answered := set.homeserver.sendText token room body s.world.server
  match s.world.perform (.sendText token room body) s.bot.phase s.bot.session.cursor answered with
  | (.ok (), world) => (true, { bot := { s.bot with state := s.bot.state.countMessage }, world })
  | (.error _, world) => (false, { s with world })

/-- The reply to a message. Only free text takes its time. -/
def compose (set : Setting σ) (s : Scene σ) : Routed → String × Scene σ
  | .command c =>
    let (text, state, draws) := Command.dispatch c s.bot.state (s.moment set) s.bot.draws
    (text, { s with bot := { s.bot with state, draws } })
  | .freeText t =>
    let s := { s with world := s.world.sleep s.bot.timings.replyDelay }
    let (text, draws) := Reply.toText t.text t.sender s.bot.draws
    (text, { s with bot := { s.bot with draws } })

/-- Replies to a message, in its room. -/
def answer (set : Setting σ) (s : Scene σ) (m : Routed) : Scene σ :=
  let (text, s) := s.compose set m
  (s.send set m.room text).2

/-- Notes all rooms of a batch, and replies to its messages in order. -/
def handle (set : Setting σ) (s : Scene σ) (b : Batch) : Scene σ :=
  let s := b.joined.rooms.foldl (fun s room => s.noteRoom set room none) s
  (Chat.route b s.bot.session.userId).foldl (answer set) s

/-- What a poll asks for. -/
def nextPoll (s : Scene σ) : Poll :=
  ⟨s.bot.session.cursor, s.bot.timings.syncTimeout, s.bot.timings.requestTimeout⟩

def withPhase (s : Scene σ) (phase : Phase) : Scene σ := { s with bot := { s.bot with phase } }

/-- Makes a poll, which is under way until it is answered. -/
def sync (set : Setting σ) (s : Scene σ) : Except Fault Batch × Scene σ :=
  let s := s.withPhase .polling
  let token := s.bot.session.accessToken
  let answered := set.homeserver.sync token s.nextPoll s.world.server
  let (result, world) :=
    s.world.perform (.sync token s.nextPoll) s.bot.phase s.bot.session.cursor answered
  (result, { s with world }.withPhase .idle)

/-- Moves the cursor. -/
def moveTo (s : Scene σ) (next : Chat.SyncToken) : Scene σ :=
  { s with bot := { s.bot with session := s.bot.session.advance next } }

/-- One round. The cursor moves before anything is answered, so that nothing is answered
twice; after a fault it stays, and nothing else changes. -/
def poll (set : Setting σ) (s : Scene σ) : Outcome × Scene σ :=
  match s.sync set with
  | (.ok b, s) =>
    (.processed (Chat.route b s.bot.session.userId).length, (s.moveTo b.next).handle set b)
  | (.error .timeout, s) => (.timedOut, s)
  | (.error f, s) => (.failed f, s)

end Scene

end ChatBot.Loop
