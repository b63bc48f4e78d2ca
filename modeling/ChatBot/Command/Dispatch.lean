-- What the bot replies to commands.
import ChatBot.Calc.Answer
import ChatBot.Calc.Evaluation
import ChatBot.Chat.Message
import ChatBot.Command.Registry
import ChatBot.Command.Uptime
import ChatBot.Draws
import ChatBot.State.BotState

namespace ChatBot.Command

open State (BotState Snapshot Moment RoomInfo)

/-! ## Texts -/

def helpText : String :=
  "🤖 **AI Bot Commands**\n\n" ++
    "**Basic Commands:**\n" ++
    "• !help - Show this help message\n" ++
    "• !ping - Test bot responsiveness\n" ++
    "• !time - Show current server time\n" ++
    "• !status - Display bot status\n\n" ++
    "**Utility Commands:**\n" ++
    "• !calc <expression> - Simple calculator\n" ++
    "• !weather <city> - Weather information (demo)\n" ++
    "• !joke - Tell a random joke\n" ++
    "• !quote - Inspirational quote\n\n" ++
    "**Information Commands:**\n" ++
    "• !rooms - List bot's rooms\n" ++
    "• !stats - Show bot statistics\n\n" ++
    "**Chat naturally with me for AI responses!** 💬\n"

def jokes : List String := [
  "Why don't scientists trust atoms? Because they make up everything! 😄",
  "Why did the robot go to therapy? It had too many bits and bytes! 🤖",
  "What do you call a Matrix server that tells jokes? A stand-up homeserver! 😂",
  "Why don't databases ever get lonely? They're always in relationships! 💾",
  "What's a bot's favorite type of music? Algo-rhythms! 🎵"]

def quotes : List String := [
  "\"The future belongs to those who believe in the beauty of their dreams.\" - Eleanor Roosevelt",
  "\"Innovation distinguishes between a leader and a follower.\" - Steve Jobs",
  "\"The only way to do great work is to love what you do.\" - Steve Jobs",
  "\"Technology is best when it brings people together.\" - Matt Mullenweg",
  "\"The advance of technology is based on making it fit in so that you don't really even notice it.\" - Bill Gates"]

theorem jokes_ne_nil : jokes ≠ [] := by simp [jokes]

theorem quotes_ne_nil : quotes ≠ [] := by simp [quotes]

/-! ## Replies -/

def statusReply (s : Snapshot) : String :=
  "🤖 **AI Bot Status**\n\n" ++
    "**System Information:**\n" ++
    "• Status: Online and ready! ✅\n" ++
    "• Uptime: " ++ hoursText s.uptime ++ " hours\n\n" ++
    "**Statistics:**\n" ++
    "• Messages sent: " ++ Decimal.text s.counters.messagesSent.toNat ++ "\n" ++
    "• Commands processed: " ++ Decimal.text s.counters.commandsProcessed.toNat ++ "\n" ++
    "• Rooms joined: " ++ Decimal.text s.counters.roomsJoined.toNat ++ "\n"

def statsReply (s : Snapshot) : String :=
  "📊 **Detailed Bot Statistics**\n\n" ++
    "**Activity Metrics:**\n" ++
    "• Total messages sent: " ++ Decimal.text s.counters.messagesSent.toNat ++ "\n" ++
    "• Commands processed: " ++ Decimal.text s.counters.commandsProcessed.toNat ++ "\n" ++
    "• Rooms joined: " ++ Decimal.text s.counters.roomsJoined.toNat ++ "\n\n" ++
    "**System Metrics:**\n" ++
    "• Uptime: " ++ durationText (s.uptime / 1000) ++ "\n"

/-- Longer room ids are shown cut. -/
def roomIdLength : Nat := 20

/-- A room id as it is listed. -/
def shownRoomId (room : Chat.RoomId) : String :=
  let cs := room.text.toList
  String.ofList (cs.take roomIdLength) ++ if roomIdLength < cs.length then "..." else ""

/-- The lines for one room. -/
def roomLines (room : Chat.RoomId) (info : RoomInfo) : String :=
  "• " ++ info.name.getD "Unknown Room" ++ "\n  ID: " ++ shownRoomId room ++
    "\n  Since: " ++ info.firstSeen ++ "\n\n"

def roomsReply (rooms : State.RoomTable) : String :=
  if rooms.isEmpty then "📋 I'm not in any rooms yet (or haven't synced recently)."
  else rooms.rows.foldl (fun out row => out ++ roomLines row.1 row.2) "📋 **Rooms I'm in:**\n\n"

def weatherReply (args : String) : String :=
  let city := if Text.isBlankText args then "your city" else Text.trimmed args
  "🌤️ Weather in " ++ city ++ ": 22°C, Partly cloudy\n" ++
    "(This is a demo response - integrate with a real weather API for production!)"

def calcReply (args : String) : String :=
  let expression := Text.trimmed args
  if expression = "" then "🧮 Usage: !calc <expression>\nExample: !calc 2 + 2"
  else match Calc.evaluate .double expression with
    | .ok v => "🧮 " ++ expression ++ " = " ++ Calc.answer v
    | .error e => "❌ Invalid expression: " ++ expression ++ " (" ++ e.message ++
        ")\nTry something like: 2 + 2 or 10 * 5"

/-- The reply of a command. Only jokes and quotes take random numbers. -/
def reply (kind : Kind) (args : String) (sender : Chat.UserId) (state : BotState) (now : Moment)
    (draws : Draws) : String × Draws :=
  match kind with
  | .help => (helpText, draws)
  | .ping => ("🏓 Pong! Bot is responsive and ready, " ++ sender.text ++ "!", draws)
  | .time => ("🕐 Current server time: " ++ now.dateTime, draws)
  | .status => (statusReply (state.snapshotAt now.instant), draws)
  | .stats => (statsReply (state.snapshotAt now.instant), draws)
  | .rooms => (roomsReply state.rooms, draws)
  | .joke => draws.pick jokes jokes_ne_nil
  | .quote =>
    let (quote, draws) := draws.pick quotes quotes_ne_nil
    ("💭 " ++ quote, draws)
  | .weather => (weatherReply args, draws)
  | .calc => (calcReply args, draws)

/-- Answers a command. A known one is counted before it replies. -/
def dispatch (c : Chat.Command) (state : BotState) (now : Moment) (draws : Draws) :
    String × BotState × Draws :=
  match lookup c.token with
  | none => (unknownReply c.token, state, draws)
  | some spec =>
    let state := state.countCommand
    let (text, draws) := reply spec.kind c.args c.sender state now draws
    (text, state, draws)

end ChatBot.Command
