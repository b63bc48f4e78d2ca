-- The commands that the bot knows.
import ChatBot.Text.Lowercase

namespace ChatBot.Command

inductive Kind
  | help
  | ping
  | time
  | status
  | rooms
  | stats
  | joke
  | weather
  | calc
  | quote
  deriving DecidableEq, Repr

/-- A command: the token that calls it, and one line of help. -/
structure Spec where
  token : String
  kind : Kind
  help : String
  deriving DecidableEq, Repr

/-- All commands. -/
def registry : List Spec := [
  ⟨"!help", .help, "Show this help message"⟩,
  ⟨"!ping", .ping, "Test bot responsiveness"⟩,
  ⟨"!time", .time, "Show current server time"⟩,
  ⟨"!status", .status, "Display bot status"⟩,
  ⟨"!rooms", .rooms, "List bot's rooms"⟩,
  ⟨"!stats", .stats, "Show bot statistics"⟩,
  ⟨"!joke", .joke, "Tell a random joke"⟩,
  ⟨"!weather", .weather, "Weather information (demo)"⟩,
  ⟨"!calc", .calc, "Simple calculator"⟩,
  ⟨"!quote", .quote, "Inspirational quote"⟩]

/-- A text with its ASCII capitals made small. -/
def asciiLower (s : String) : List Char := s.toList.map Char.toLower

/-- Whether two texts differ in nothing but the case of ASCII letters. -/
def sameToken (a b : String) : Bool := asciiLower a == asciiLower b

/-- The command that a token calls. -/
def lookup (token : String) : Option Spec := registry.find? fun s => sameToken s.token token

/-- What the bot says to a token that calls nothing. -/
def unknownReply (token : String) : String :=
  "🤔 Unknown command: " ++ Text.lowercase token ++ "\nType !help for available commands."

end ChatBot.Command
