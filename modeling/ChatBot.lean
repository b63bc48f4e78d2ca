import ChatBot.Config.EnvFile
import ChatBot.Loop.Startup
import ChatBot.Proofs.Calc.Answers
import ChatBot.Proofs.Calc.Bounded
import ChatBot.Proofs.Calc.Layouts
import ChatBot.Proofs.Calc.Problems
import ChatBot.Proofs.Chat.Messages
import ChatBot.Proofs.Chat.Splitting
import ChatBot.Proofs.Chat.Variants
import ChatBot.Proofs.Command.Durations
import ChatBot.Proofs.Command.Tokens
import ChatBot.Proofs.Config.Accepted
import ChatBot.Proofs.Config.EnvFile
import ChatBot.Proofs.Config.Settings
import ChatBot.Proofs.Loop.Cursor
import ChatBot.Proofs.Loop.Delivery
import ChatBot.Proofs.Loop.Halves
import ChatBot.Proofs.Loop.Ignored
import ChatBot.Proofs.Loop.Opening
import ChatBot.Proofs.Loop.Restarts
import ChatBot.Proofs.Loop.Tallies
import ChatBot.Proofs.Loop.Timetable
import ChatBot.Proofs.Reply.Filling
import ChatBot.Proofs.Reply.Keywords
import ChatBot.Proofs.State.Changes
import ChatBot.Proofs.Web.Answers
import ChatBot.Proofs.Web.Identifiers
import ChatBot.Proofs.Web.Transactions
import ChatBot.Web.Client
