-- The bot's side of a connection: a base address, and a count of the texts
-- sent, which gives each of them an id of its own.
import ChatBot.Text.Quoted
import ChatBot.Web.Request
import ChatBot.Web.Response

namespace ChatBot.Web

open Chat (UserId RoomId AccessToken Auth Batch)
open Service (Answer Call Credentials Homeserver Poll)

structure Client where
  base : Url
  /-- The count of transactions so far. It is 64 bits wide. -/
  transactions : UInt64
  deriving DecidableEq

namespace Client

/-- A client for an address that can carry paths. -/
def new (address : String) : Except Fault Client :=
  match Url.parse address with
  | .error f =>
    .error (.config ("invalid homeserver url " ++ Text.quoted address ++ ": " ++ f.message))
  | .ok url =>
    match url.path? with
    | none => .error (.config ("homeserver url " ++ Text.quoted address ++ " cannot carry a path"))
    | some _ => .ok ⟨url, 0⟩

/-- The id of a transaction: the milliseconds on the wall clock, and the count. -/
def transactionId (milliseconds : Nat) (count : UInt64) : String :=
  "mxbot_" ++ Decimal.text milliseconds ++ "_" ++ Decimal.text count.toNat

/-- The next id, and the client that has used it up. -/
def nextTransaction (c : Client) (milliseconds : Nat) : String × Client :=
  (transactionId milliseconds c.transactions, { c with transactions := c.transactions + 1 })

/-- The request of a call. A text uses up an id even if its request cannot be made. -/
def request (c : Client) (milliseconds : Nat) (call : Call) : Option Request × Client :=
  match call with
  | .sendText _ _ _ =>
    let (transaction, next) := c.nextTransaction milliseconds
    (Request.ofCall? c.base transaction call, next)
  | _ => (Request.ofCall? c.base "" call, c)

end Client

/-- A network: what comes back for a request, and what the wall clock shows. -/
structure Network (ν : Type) where
  deliver : Request → ν → Delivery × ν
  milliseconds : ν → Nat

namespace Client

variable {ν α : Type}

/-- Makes a call over a network, and reads the document that comes back. -/
def call (network : Network ν) (read : Json.Tree → Option α) (call : Call) (s : Client × ν) :
    Except Fault α × (Client × ν) :=
  match s.1.request (network.milliseconds s.2) call with
  | (none, client) => (.error (.transport "the request cannot be made"), (client, s.2))
  | (some request, client) =>
    let (delivery, n) := network.deliver request s.2
    (delivery.result read, (client, n))

/-- A homeserver behind a network. -/
def homeserver (network : Network ν) : Homeserver (Client × ν) where
  register c s :=
    let (result, s) := call network Auth.ofTree? (.register c) s
    (.now result, s)
  login c s :=
    let (result, s) := call network Auth.ofTree? (.login c) s
    (.now result, s)
  setDisplayName token user name s :=
    let (result, s) := call network anything? (.setDisplayName token user name) s
    (.now result, s)
  createRoom token name topic s :=
    let (result, s) := call network createdRoom? (.createRoom token name topic) s
    (.now result, s)
  sendText token room body s :=
    let (result, s) := call network sent? (.sendText token room body) s
    (.now result, s)
  sync token poll s :=
    let (result, s) := call network Batch.ofTree? (.sync token poll) s
    (.now result, s)

end Client

end ChatBot.Web
