-- The messages of a batch that the bot answers, and what each of them is: a
-- command with its arguments, or free text.
import ChatBot.Chat.Event
import ChatBot.Text.Blank

namespace ChatBot.Chat

/-- A message taken out of a batch. -/
structure Inbound where
  room : RoomId
  sender : UserId
  body : String
  /-- The place of the event in its room's timeline, events of all types counted. -/
  position : Nat
  deriving DecidableEq, Repr

/-- A message that starts with the command mark. -/
structure Command where
  /-- The mark and the word behind it, as typed. -/
  token : String
  /-- All that follows, without white space at its ends. -/
  args : String
  sender : UserId
  room : RoomId
  deriving DecidableEq, Repr

structure FreeText where
  text : String
  sender : UserId
  room : RoomId
  deriving DecidableEq, Repr

/-- What a message is. -/
inductive Routed
  | command (c : Command)
  | freeText (t : FreeText)
  deriving DecidableEq, Repr

def Routed.room : Routed → RoomId
  | .command c => c.room
  | .freeText t => t.room

/-- A message of somebody else, if the event is one. -/
def inbound? (own : UserId) (room : RoomId) (position : Nat) (e : Event) : Option Inbound :=
  if e.type = messageType then
    match e.sender, e.body? with
    | some sender, some body => if sender = own then none else some ⟨room, sender, body, position⟩
    | _, _ => none
  else none

/-- The messages of one timeline, whose first event has the given place. -/
def roomMessages (own : UserId) (room : RoomId) (position : Nat) : List Event → List Inbound
  | [] => []
  | e :: more =>
    (inbound? own room position e).toList ++ roomMessages own room (position + 1) more

/-- The messages of a batch: rooms by id, and each timeline in its order. -/
def inboundMessages (b : Batch) (own : UserId) : List Inbound :=
  b.joined.rows.flatMap fun row => roomMessages own row.1 0 row.2

/-- The character that commands start with. -/
def commandMark : Char := '!'

/-- The word at the front of a text, and the text behind the white space after it. -/
def splitToken (cs : List Char) : List Char × List Char :=
  let isPart := fun c => !Text.isBlank c
  (cs.takeWhile isPart, Text.trim (cs.dropWhile isPart))

/-- A message that starts with the command mark is a command, whatever its word. -/
def classify (m : Inbound) : Routed :=
  if m.body.toList.head? = some commandMark then
    let (token, args) := splitToken m.body.toList
    .command ⟨String.ofList token, String.ofList args, m.sender, m.room⟩
  else .freeText ⟨m.body, m.sender, m.room⟩

/-- What the bot has to answer in a batch, in order. -/
def route (b : Batch) (own : UserId) : List Routed := (inboundMessages b own).map classify

end ChatBot.Chat
