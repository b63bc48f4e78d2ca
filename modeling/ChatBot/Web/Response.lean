-- Responses: what the answers of a homeserver mean.
import ChatBot.Chat.Document
import ChatBot.Fault
import ChatBot.Text.ByteOrderMark

namespace ChatBot.Web

open Json (Tree)
open Chat (RoomId Auth Batch)

/-- What comes back for a request. -/
inductive Delivery
  /-- No connection could be made. -/
  | unreachable
  /-- The connection ended before anything came back. -/
  | dropped
  /-- Nothing came back in time. -/
  | silent
  /-- An answer; `complete` tells whether the whole body came. -/
  | response (status : Nat) (body : String) (complete : Bool)
  deriving DecidableEq, Repr

/-- The document with which a homeserver refuses. -/
structure Refusal where
  errcode : Option String
  error : Option String
  deriving DecidableEq, Repr

def Refusal.ofTree? (t : Tree) : Option Refusal :=
  match t.fields? [⟨"errcode", .optional⟩, ⟨"error", .optional⟩] with
  | some [errcode, error] => do
    let errcode ← Tree.textOrNull? errcode
    let error ← Tree.textOrNull? error
    return ⟨errcode, error⟩
  | _ => none

/-- How much of a body that is no refusal is kept. -/
def excerptLength : Nat := 200

/-- A refusal, whatever its body holds. -/
def refusal (status : Nat) (body : String) : Fault :=
  let text := String.ofList (Text.withoutByteOrderMark body.toList)
  match (Tree.ofText? text).bind Refusal.ofTree? with
  | some r => .remote status r.errcode (r.error.getD "")
  | none => .remote status none (String.ofList (text.toList.take excerptLength))

def isSuccess (status : Nat) : Bool := 200 ≤ status && status ≤ 299

/-- The result of a call, given how its document is read. -/
def Delivery.result {α : Type} (read : Tree → Option α) : Delivery → Except Fault α
  | .unreachable => .error (.transport "the homeserver cannot be reached")
  | .dropped => .error (.transport "the connection was closed")
  | .silent => .error .timeout
  | .response status body complete =>
    if isSuccess status then
      match if complete then (Tree.ofText? body).bind read else none with
      | some a => .ok a
      | none => .error (.protocol "unexpected response body")
    else .error (refusal status (if complete then body else ""))

/-! ## Documents of the calls -/

/-- Any document at all. -/
def anything? (t : Tree) : Option Unit := (t.value? Chat.documentLevels).map fun _ => ()

def createdRoom? (t : Tree) : Option RoomId :=
  match t.fields? [⟨"room_id", .required⟩] with
  | some [some id] => id.text?.map RoomId.mk
  | _ => none

/-- A text was sent if the id of its event is a text, or missing. -/
def sent? (t : Tree) : Option Unit :=
  match t.fields? [⟨"event_id", .defaulted⟩] with
  | some [eventId] => (Tree.textOrNull? eventId).map fun _ => ()
  | _ => none

end ChatBot.Web
