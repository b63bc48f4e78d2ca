-- The rooms that the bot has created, or has seen itself joined to.
import ChatBot.Chat.ByRoom
import ChatBot.State.Moment

namespace ChatBot.State

open Chat (RoomId ByRoom)

structure RoomInfo where
  name : Option String
  /-- The minute in which the room was first seen. -/
  firstSeen : String
  deriving DecidableEq, Repr

abbrev RoomTable := ByRoom RoomInfo

namespace RoomTable

/-- What is known of a room after it was named once more: the first name stays. -/
def renamed (name : Option String) (now : Moment) : Option RoomInfo → RoomInfo
  | none => ⟨name, now.minute⟩
  | some info => { info with name := info.name.or name }

/-- Enters a room, and says whether it was not known before. -/
def insert (t : RoomTable) (room : RoomId) (name : Option String) (now : Moment) :
    Bool × RoomTable :=
  ((t.find? room).isNone, t.alter room (renamed name now))

end RoomTable

end ChatBot.State
