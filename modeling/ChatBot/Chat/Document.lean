-- The documents of a homeserver, read as batches and as credentials.
import ChatBot.Chat.Event
import ChatBot.Json.Reader
import ChatBot.Json.Shape

namespace ChatBot.Chat

open Json (Tree)

/-- How many levels a document may have. -/
def documentLevels : Nat := 127

/-- How many levels are left for the content of an event: the batch, its rooms, the joined
ones, one of them, its timeline, the events and the event itself are seven. -/
def contentLevels : Nat := documentLevels - 7

def Event.ofTree? (t : Tree) : Option Event :=
  match t.fields? [⟨"type", .defaulted⟩, ⟨"sender", .defaulted⟩, ⟨"event_id", .defaulted⟩,
      ⟨"content", .defaulted⟩] with
  | some [type, sender, eventId, content] => do
    let type ← Tree.orElse "" Tree.text? type
    let sender ← Tree.textOrNull? sender
    let eventId ← Tree.textOrNull? eventId
    let content ← Tree.orElse .null (Tree.value? contentLevels) content
    return ⟨type, sender.map UserId.mk, eventId, content⟩
  | _ => none

def Event.listOfTree? : Tree → Option (List Event)
  | .array items => items.mapM Event.ofTree?
  | _ => none

/-- The one field of a structure that has only this field, and may do without it. -/
def onlyField? {α : Type} (name : String) (missing : α) (read : Tree → Option α) (t : Tree) :
    Option α :=
  match t.fields? [⟨name, .defaulted⟩] with
  | some [field] => Tree.orElse missing read field
  | _ => none

/-- The events of a room, found in its timeline. -/
def roomEvents? (t : Tree) : Option (List Event) :=
  onlyField? "timeline" [] (onlyField? "events" [] Event.listOfTree?) t

/-- Rooms by id. A room that is given again keeps what was given last. -/
def joinedRooms? : Tree → Option (ByRoom (List Event))
  | .object members => do
    let rows ← members.mapM fun m => do
      let id ← m.1
      let events ← roomEvents? m.2
      return (RoomId.mk id, events)
    return ByRoom.ofList rows
  | _ => none

def Batch.ofTree? (t : Tree) : Option Batch :=
  match t.fields? [⟨"next_batch", .required⟩, ⟨"rooms", .defaulted⟩] with
  | some [some next, rooms] => do
    let next ← next.text?
    let joined ← Tree.orElse .empty (onlyField? "join" .empty joinedRooms?) rooms
    return ⟨⟨next⟩, joined⟩
  | _ => none

def Auth.ofTree? (t : Tree) : Option Auth :=
  match t.fields? [⟨"user_id", .required⟩, ⟨"access_token", .required⟩,
      ⟨"device_id", .defaulted⟩] with
  | some [some userId, some accessToken, deviceId] => do
    let userId ← userId.text?
    let accessToken ← accessToken.text?
    let deviceId ← Tree.textOrNull? deviceId
    return ⟨⟨userId⟩, ⟨accessToken⟩, deviceId.map DeviceId.mk⟩
  | _ => none

def Batch.ofText? (s : String) : Option Batch := (Tree.ofText? s).bind Batch.ofTree?

def Auth.ofText? (s : String) : Option Auth := (Tree.ofText? s).bind Auth.ofTree?

end ChatBot.Chat
