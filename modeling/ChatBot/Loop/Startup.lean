-- The start of the bot: an account, a name to show, perhaps a room to meet in,
-- and then the loop.
import ChatBot.Loop.Ending

namespace ChatBot.Loop

open Chat (RoomId)
open Config (Settings)
open Service (Session World Credentials Call Stop Script)
open State (BotState)

variable {σ : Type}

/-- The code of a homeserver for a user name that is taken. -/
def userInUse : String := "M_USER_IN_USE"

/-- What the bot says in the room that it created. -/
def welcomeMessage : String :=
  "🤖 Hello! I'm your Demo AI Assistant Bot!\n\n" ++
    "Type !help to see available commands, or just chat with me naturally!"

def credentials (settings : Settings) : Credentials := ⟨settings.username, settings.password⟩

/-- Registers, or logs in if the user name is taken. Nothing is tried twice. -/
def establish (set : Setting σ) (c : Credentials) (w : World σ) :
    Except StartFault Session × World σ :=
  match w.perform (.register c) .idle none (set.homeserver.register c w.server) with
  | (.ok a, w) => (.ok (.ofAuth a), w)
  | (.error f, w) =>
    if f.errcode? = some userInUse then
      match w.perform (.login c) .idle none (set.homeserver.login c w.server) with
      | (.ok a, w) => (.ok (.ofAuth a), w)
      | (.error f, w) => (.error (.login f), w)
    else (.error (.registration f), w)

/-- Sets the name to show. It does not matter whether that succeeds. -/
def setupProfile (set : Setting σ) (session : Session) (name : String) (w : World σ) : World σ :=
  let answered :=
    set.homeserver.setDisplayName session.accessToken session.userId name w.server
  (w.perform (.setDisplayName session.accessToken session.userId name) .idle session.cursor
    answered).2

/-- Creates the demo room, if the homeserver lets it. -/
def createDemoRoom (set : Setting σ) (settings : Settings) (session : Session) (w : World σ) :
    Option RoomId × World σ :=
  let token := session.accessToken
  let (name, topic) := (settings.demoRoomName, settings.demoRoomTopic)
  let answered := set.homeserver.createRoom token name topic w.server
  match w.perform (.createRoom token name topic) .idle session.cursor answered with
  | (.ok room, w) => (some room, w)
  | (.error _, w) => (none, w)

/-- Opens the demo room with a word of welcome. -/
def openDemoRoom (set : Setting σ) (settings : Settings) (s : Scene σ) : Scene σ :=
  if settings.createDemoRoom then
    match createDemoRoom set settings s.bot.session s.world with
    | (some room, world) =>
      let s := Scene.noteRoom set { s with world } room (some settings.demoRoomName)
      (s.send set room welcomeMessage).2
    | (none, world) => { s with world }
  else s

/-- The bot with a new session, before its first call with it. -/
def newBot (set : Setting σ) (settings : Settings) (session : Session) (draws : Draws)
    (now : Nat) : Bot :=
  { timings := settings.timings
    session
    state := .fresh (set.clock now).instant
    draws
    phase := .idle }

/-- Starts the bot. Only its account can keep it from starting. -/
def start (set : Setting σ) (settings : Settings) (draws : Draws) (w : World σ) :
    Except StartFault (Scene σ) × World σ :=
  match establish set (credentials settings) w with
  | (.error f, w) => (.error f, w)
  | (.ok session, w) =>
    let w := setupProfile set session settings.displayName w
    let s := openDemoRoom set settings ⟨newBot set settings session draws w.now, w⟩
    (.ok s, s.world)

/-- Starts the bot over a script, and lets it run to its end. -/
def startAndRun (clock : Nat → State.Moment) (settings : Settings) (draws : Draws)
    (w : World Script) : Except StartFault Unit × World Script :=
  match start ⟨Script.homeserver, clock⟩ settings draws w with
  | (.error f, w) => (.error f, w)
  | (.ok s, w) => (.ok (), (s.run clock w.stop w.server.stopAt).world)

end ChatBot.Loop
