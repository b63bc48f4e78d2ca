-- Requests: how the calls of the bot go over the wire.
import ChatBot.Json.Writer
import ChatBot.Service.Homeserver
import ChatBot.Web.Base64
import ChatBot.Web.Form
import ChatBot.Web.Url

namespace ChatBot.Web

open Service (Call)
open Chat (AccessToken messageType)

inductive Method
  | get
  | post
  | put
  deriving DecidableEq, Repr

def Method.text : Method → String
  | .get => "GET"
  | .post => "POST"
  | .put => "PUT"

structure Request where
  method : Method
  path : Path
  query : Option (List Char)
  /-- The lines of the header that tell who is calling. -/
  authorization : List String
  body : Option Json.Value
  /-- How long to wait for the answer, in milliseconds. -/
  patience : Nat

/-- How the bot names itself. -/
def userAgent : String := "mxbot/0.1.0"

namespace Request

/-- Path and query in one text. -/
def target (r : Request) : String :=
  String.ofList (r.path.chars ++ match r.query with
    | none => []
    | some q => '?' :: q)

/-- The text of the body. -/
def payload (r : Request) : Option String := r.body.map Json.Value.render

/-- The type of the body, if there is one. -/
def contentType (r : Request) : Option String := r.body.map fun _ => "application/json"

/-! ## Parts -/

/-- The segments that the addresses of all calls begin with, behind those of the base. -/
def apiRoot : List String := ["_matrix", "client", "r0"]

/-- The segments of a call. A text is sent under the id of its transaction. -/
def segmentsOf (transaction : String) : Call → List String
  | .register _ => ["register"]
  | .login _ => ["login"]
  | .setDisplayName _ user _ => ["profile", user.text, "displayname"]
  | .createRoom _ _ _ => ["createRoom"]
  | .sendText _ room _ => ["rooms", room.text, "send", messageType, transaction]
  | .sync _ _ => ["sync"]

def methodOf : Call → Method
  | .register _ => .post
  | .login _ => .post
  | .setDisplayName _ _ _ => .put
  | .createRoom _ _ _ => .post
  | .sendText _ _ _ => .put
  | .sync _ _ => .get

/-- An object whose members are texts. -/
def texts (members : List (String × String)) : Json.Value :=
  Json.Value.ofMembers (members.map fun m => (m.1, .text m.2))

/-- The document that a call hands over. -/
def bodyOf : Call → Option Json.Value
  | .register c => some <| Json.Value.ofMembers [
      ("username", .text c.username),
      ("password", .text c.password),
      ("auth", texts [("type", "m.login.dummy")])]
  | .login c => some <| Json.Value.ofMembers [
      ("type", .text "m.login.password"),
      ("identifier", texts [("type", "m.id.user"), ("user", c.username)]),
      ("user", .text c.username),
      ("password", .text c.password)]
  | .setDisplayName _ _ name => some (texts [("displayname", name)])
  | .createRoom _ name topic => some (texts [
      ("name", name), ("topic", topic), ("preset", "public_chat")])
  | .sendText _ _ body => some (texts [("msgtype", "m.text"), ("body", body)])
  | .sync _ _ => none

/-- The pairs that a call adds to the query of the base. -/
def pairsOf : Call → List (String × String)
  | .sync _ poll =>
    ("timeout", Decimal.text poll.timeout) ::
      (match poll.since with
        | none => []
        | some since => [("since", since.text)])
  | _ => []

/-- The query of a call; none if nothing stands in it after pairs were added. -/
def queryOf (base : Option (List Char)) (call : Call) : Option (List Char) :=
  match pairsOf call with
  | [] => base
  | pairs => some (Form.append (base.getD []) pairs)

/-- The token that a call carries. -/
def tokenOf? : Call → Option AccessToken
  | .register _ => none
  | .login _ => none
  | .setDisplayName token _ _ => some token
  | .createRoom token _ _ => some token
  | .sendText token _ _ => some token
  | .sync token _ => some token

/-- What may stand in a line of a header. -/
def isHeaderChar (c : Char) : Bool := (0x20 ≤ c.toNat && c.toNat != 0x7F) || c == '\t'

/-- The line for a user name in the base address. A password that is no text counts as none. -/
def userLine (user : List Char × Option (List Char)) : List String :=
  match Text.ofUtf8? (percentDecode user.1) with
  | none => []
  | some name =>
    let password := user.2.bind fun p => Text.ofUtf8? (percentDecode p)
    if name = "" ∧ password = none then []
    else ["Basic " ++
      String.ofList (Base64.encode (Text.utf8Bytes (name ++ ":" ++ password.getD "").toList))]

/-- How long to wait for calls that are no polls. -/
def usualPatience : Nat := 30000

def patienceOf : Call → Nat
  | .sync _ poll => poll.requestTimeout
  | _ => usualPatience

/-- The request of a call; none if the base can have no paths, or the token cannot stand in a
header. -/
def ofCall? (base : Url) (transaction : String) (call : Call) : Option Request :=
  match base.path? with
  | none => none
  | some path =>
    if (tokenOf? call).all fun t => t.text.toList.all isHeaderChar then
      some {
        method := methodOf call
        path := path.popIfEmpty.pushAll (apiRoot ++ segmentsOf transaction call)
        query := queryOf base.query call
        authorization := (base.user.map userLine).getD [] ++
          ((tokenOf? call).map fun t => "Bearer " ++ t.text).toList
        body := bodyOf call
        patience := patienceOf call }
    else none

end Request

end ChatBot.Web
