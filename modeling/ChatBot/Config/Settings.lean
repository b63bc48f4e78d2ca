-- The settings of the bot, and how they are found among named values: those of
-- the environment, or any others.
import ChatBot.Decimal.Powers
import ChatBot.Fault
import ChatBot.Text.Blank
import ChatBot.Text.Lowercase
import ChatBot.Text.Quoted

namespace ChatBot.Config

/-- Times for the loop, in milliseconds. -/
structure Timings where
  /-- How long the homeserver may hold back the answer to a poll. -/
  syncTimeout : Nat
  /-- How long the bot waits for the answer to a poll. -/
  requestTimeout : Nat
  /-- The pause after a poll that failed. -/
  errorCooldown : Nat
  /-- The pause after a poll that was answered. -/
  idleDelay : Nat
  /-- The wait before a reply to free text, as if it had to be typed. -/
  replyDelay : Nat
  deriving DecidableEq, Repr

/-- The times that hold unless others are set. -/
def Timings.default : Timings := ⟨10000, 15000, 5000, 100, 1000⟩

structure Settings where
  homeserverUrl : String
  username : String
  password : String
  displayName : String
  timings : Timings
  createDemoRoom : Bool
  demoRoomName : String
  demoRoomTopic : String
  deriving DecidableEq, Repr

/-- Finds the value of a name. -/
abbrev Lookup := String → Option String

/-- The value of a name, unless it is blank. -/
def Lookup.get (lookup : Lookup) (key : String) : Option String :=
  match lookup key with
  | some v => if Text.isBlankText v then none else some v
  | none => none

/-- One more than the largest number of milliseconds that can be set. -/
def millisecondLimit : Nat := Decimal.twoTo 64

/-- The number that digits write, with a plus sign in front if there is one. -/
def naturalOf? (cs : List Char) : Option Nat :=
  let ds := match cs with
    | '+' :: ds => ds
    | ds => ds
  if ds ≠ [] ∧ ds.all Char.isDigit then
    let n := Decimal.valueOfDigits ds
    if n < millisecondLimit then some n else none
  else none

/-- The milliseconds set under a name. -/
def milliseconds (lookup : Lookup) (key : String) (missing : Nat) : Except Fault Nat :=
  match lookup.get key with
  | none => .ok missing
  | some v =>
    match naturalOf? (Text.trim v.toList) with
    | some n => .ok n
    | none => .error (.config (key ++ " must be an integer (ms), got " ++ Text.quoted v))

/-- Whether a value says yes. -/
def saysYes (v : String) : Bool :=
  ["1", "true", "yes", "on"].contains (Text.lowercase (Text.trimmed v))

/-- A text without the slashes at its end. -/
def withoutTrailingSlashes (s : String) : String :=
  String.ofList (s.toList.reverse.dropWhile (· == '/')).reverse

/-- The settings that the values make. The times are looked at first, in this order, then the
address, and last whether the two timeouts go together. -/
def Settings.ofLookup (lookup : Lookup) : Except Fault Settings := do
  let missing := Timings.default
  let syncTimeout ← milliseconds lookup "MXBOT_SYNC_TIMEOUT_MS" missing.syncTimeout
  let requestTimeout ← milliseconds lookup "MXBOT_REQUEST_TIMEOUT_MS" missing.requestTimeout
  let errorCooldown ← milliseconds lookup "MXBOT_ERROR_COOLDOWN_MS" missing.errorCooldown
  let idleDelay ← milliseconds lookup "MXBOT_IDLE_DELAY_MS" missing.idleDelay
  let replyDelay ← milliseconds lookup "MXBOT_REPLY_DELAY_MS" missing.replyDelay
  let homeserverUrl :=
    withoutTrailingSlashes ((lookup.get "MXBOT_HOMESERVER_URL").getD "http://localhost:6167")
  if homeserverUrl = "" then throw (.config "MXBOT_HOMESERVER_URL must not be empty")
  if requestTimeout ≤ syncTimeout then
    throw (.config ("MXBOT_REQUEST_TIMEOUT_MS (" ++ Decimal.text requestTimeout ++
      "ms) must exceed MXBOT_SYNC_TIMEOUT_MS (" ++ Decimal.text syncTimeout ++ "ms)"))
  return {
    homeserverUrl
    username := (lookup.get "MXBOT_USERNAME").getD "demo_ai_bot"
    password := (lookup.get "MXBOT_PASSWORD").getD "AIBotDemo123!"
    displayName := (lookup.get "MXBOT_DISPLAY_NAME").getD "Demo AI Assistant 🤖"
    timings := ⟨syncTimeout, requestTimeout, errorCooldown, idleDelay, replyDelay⟩
    createDemoRoom := ((lookup.get "MXBOT_CREATE_DEMO_ROOM").map saysYes).getD true
    demoRoomName := (lookup.get "MXBOT_DEMO_ROOM_NAME").getD "AI Bot Demo Room"
    demoRoomTopic := (lookup.get "MXBOT_DEMO_ROOM_TOPIC").getD
      "🤖 Chat with the Demo AI Assistant Bot" }

end ChatBot.Config
