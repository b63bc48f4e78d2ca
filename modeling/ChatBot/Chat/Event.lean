-- Events of rooms, the batches in which a homeserver hands them out, and the
-- messages among them.
import ChatBot.Chat.ByRoom
import ChatBot.Json.Value

namespace ChatBot.Chat

/-- The type of the events that are messages. -/
def messageType : String := "m.room.message"

/-- An event in the timeline of a room. -/
structure Event where
  /-- Empty if the homeserver gave none. -/
  type : String
  sender : Option UserId
  eventId : Option String
  content : Json.Value

/-- The text that an event carries, if it carries one. -/
def Event.body? (e : Event) : Option String := (e.content.member? "body").bind Json.Value.text?

/-- What one poll hands out: where the stream stands then, and the new events of each room
that the bot has joined. -/
structure Batch where
  next : SyncToken
  joined : ByRoom (List Event)

/-- What a registration or a login hands out. -/
structure Auth where
  userId : UserId
  accessToken : AccessToken
  deviceId : Option DeviceId

end ChatBot.Chat
