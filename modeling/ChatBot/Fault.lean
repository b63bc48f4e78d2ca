-- What goes wrong between the bot and its homeserver, or before that in its
-- configuration.
import ChatBot.Decimal.Digits

namespace ChatBot

/-- What went wrong. -/
inductive Fault
  | config (message : String)
  /-- The homeserver could not be reached. -/
  | transport (message : String)
  /-- The homeserver did not answer in time, as it does when there is nothing new. -/
  | timeout
  /-- The homeserver answered that it would not. -/
  | remote (status : Nat) (errcode : Option String) (message : String)
  /-- The homeserver answered something that makes no sense. -/
  | protocol (message : String)
  deriving DecidableEq, Repr

namespace Fault

/-- The wording of a fault. -/
def message : Fault → String
  | config m => "config error: " ++ m
  | transport m => "transport error: " ++ m
  | timeout => "request timed out"
  | remote status errcode m =>
    "remote error " ++ Decimal.text status ++ ": " ++ errcode.getD "UNKNOWN" ++ ": " ++ m
  | protocol m => "protocol error: " ++ m

/-- The code that the homeserver gave for its refusal. -/
def errcode? : Fault → Option String
  | remote _ errcode _ => errcode
  | _ => none

def isTimeout : Fault → Bool
  | timeout => true
  | _ => false

end Fault

/-- Why the bot could not start: nothing but its account can stop it. -/
inductive StartFault
  | registration (cause : Fault)
  | login (cause : Fault)
  deriving DecidableEq, Repr

namespace StartFault

def cause : StartFault → Fault
  | registration f => f
  | login f => f

/-- The wording of a fault at the start. -/
def message : StartFault → String
  | registration f => "registration failed: " ++ f.message
  | login f => "login failed: " ++ f.message

end StartFault

end ChatBot
