-- What the bot keeps count of.
import ChatBot.State.RoomTable

namespace ChatBot.State

open Chat (RoomId ByRoom)

/-- Counts of what the bot has done. They are 64 bits wide. -/
structure Counters where
  messagesSent : UInt64
  commandsProcessed : UInt64
  roomsJoined : UInt64
  deriving DecidableEq, Repr

/-- The counts at one moment, and the milliseconds since the start. -/
structure Snapshot where
  counters : Counters
  uptime : Nat
  deriving DecidableEq, Repr

structure BotState where
  startedAt : Int
  counters : Counters
  rooms : RoomTable
  deriving DecidableEq

namespace BotState

/-- Nothing done yet, and no room known. -/
def fresh (startedAt : Int) : BotState := ⟨startedAt, ⟨0, 0, 0⟩, .empty⟩

def countMessage (s : BotState) : BotState :=
  { s with counters := { s.counters with messagesSent := s.counters.messagesSent + 1 } }

def countCommand (s : BotState) : BotState :=
  { s with counters := { s.counters with commandsProcessed := s.counters.commandsProcessed + 1 } }

def countRoom (s : BotState) : BotState :=
  { s with counters := { s.counters with roomsJoined := s.counters.roomsJoined + 1 } }

/-- Enters a room, without counting it. -/
def insertRoom (s : BotState) (room : RoomId) (name : Option String) (now : Moment) :
    Bool × BotState :=
  let (new, rooms) := RoomTable.insert s.rooms room name now
  (new, { s with rooms })

/-- Enters a room, and counts it when it is new. -/
def noteRoom (s : BotState) (room : RoomId) (name : Option String) (now : Moment) : BotState :=
  match s.insertRoom room name now with
  | (true, s) => s.countRoom
  | (false, s) => s

/-- The counts at an instant. Before the start the uptime is zero. -/
def snapshotAt (s : BotState) (instant : Int) : Snapshot :=
  ⟨s.counters, (instant - s.startedAt).toNat⟩

end BotState

end ChatBot.State
