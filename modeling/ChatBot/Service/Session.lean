-- Who the bot is on its homeserver, and how far it has read.
import ChatBot.Chat.Event

namespace ChatBot.Service

open Chat (UserId AccessToken DeviceId SyncToken Auth)

structure Session where
  userId : UserId
  accessToken : AccessToken
  deviceId : Option DeviceId
  /-- How far the bot has read; none before the first batch. -/
  cursor : Option SyncToken
  deriving DecidableEq

namespace Session

/-- A new session, with nothing read. -/
def ofAuth (a : Auth) : Session := ⟨a.userId, a.accessToken, a.deviceId, none⟩

def advance (s : Session) (next : SyncToken) : Session := { s with cursor := some next }

/-- Forgets how far the bot has read. -/
def reset (s : Session) : Session := { s with cursor := none }

end Session

end ChatBot.Service
