-- The homeserver as the bot meets it: the calls, and how each is answered.
import ChatBot.Chat.Event
import ChatBot.Fault

namespace ChatBot.Service

open Chat (UserId RoomId AccessToken SyncToken Auth Batch)

structure Credentials where
  username : String
  password : String
  deriving DecidableEq, Repr

/-- A poll. Times are milliseconds. -/
structure Poll where
  since : Option SyncToken
  /-- How long the homeserver may hold back its answer. -/
  timeout : Nat
  /-- How long the bot waits for it. -/
  requestTimeout : Nat
  deriving DecidableEq, Repr

/-- A call to a homeserver. -/
inductive Call
  | register (c : Credentials)
  | login (c : Credentials)
  | setDisplayName (token : AccessToken) (user : UserId) (name : String)
  | createRoom (token : AccessToken) (name topic : String)
  | sendText (token : AccessToken) (room : RoomId) (body : String)
  | sync (token : AccessToken) (poll : Poll)
  deriving DecidableEq

/-- The six kinds of calls. -/
inductive CallKind
  | register
  | login
  | setDisplayName
  | createRoom
  | sendText
  | sync
  deriving DecidableEq, Repr

def Call.kind : Call → CallKind
  | .register _ => .register
  | .login _ => .login
  | .setDisplayName _ _ _ => .setDisplayName
  | .createRoom _ _ _ => .createRoom
  | .sendText _ _ _ => .sendText
  | .sync _ _ => .sync

/-- What a call comes to. -/
structure Answer (α : Type) where
  result : Except Fault α
  /-- The milliseconds that pass before the answer is there. -/
  delay : Nat
  /-- Whether the bot is told to stop when the call begins. -/
  stops : Bool

/-- An answer that is there at once. -/
def Answer.now {α : Type} (result : Except Fault α) : Answer α := ⟨result, 0, false⟩

/-- A homeserver with a state of its own, which every call may change. -/
structure Homeserver (σ : Type) where
  register : Credentials → σ → Answer Auth × σ
  login : Credentials → σ → Answer Auth × σ
  setDisplayName : AccessToken → UserId → String → σ → Answer Unit × σ
  createRoom : AccessToken → (name topic : String) → σ → Answer RoomId × σ
  sendText : AccessToken → RoomId → String → σ → Answer Unit × σ
  sync : AccessToken → Poll → σ → Answer Batch × σ

end ChatBot.Service
