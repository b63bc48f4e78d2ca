-- Addresses, read by the rules that browsers follow.
import ChatBot.Web.Host
import ChatBot.Web.Path

namespace ChatBot.Web

/-- What stands behind the host of an address: segments, or a text that cannot carry any. -/
inductive Locator
  | path (segments : Path)
  | bare (text : List Char)
  deriving DecidableEq, Repr

/-- An address. Its fragment is of no use to a homeserver, and is not kept. -/
structure Url where
  scheme : List Char
  /-- A user name, and a password if there is one, as written. -/
  user : Option (List Char × Option (List Char))
  host : Option Host
  /-- The port, unless it is the usual one of the scheme. -/
  port : Option Nat
  locator : Locator
  query : Option (List Char)
  deriving DecidableEq, Repr

/-- Schemes are of three kinds, and are read differently. -/
inductive SchemeKind
  | web
  | file
  | other
  deriving DecidableEq, Repr

namespace Url

def kindOf (scheme : List Char) : SchemeKind :=
  let s := String.ofList scheme
  if s = "file" then .file
  else if ["http", "https", "ws", "wss", "ftp"].contains s then .web
  else .other

/-- The port that a scheme uses when none is given. -/
def usualPort? (scheme : List Char) : Option Nat :=
  match String.ofList scheme with
  | "http" => some 80
  | "ws" => some 80
  | "https" => some 443
  | "wss" => some 443
  | "ftp" => some 21
  | _ => none

/-- Whether a character ends the part of an address before the path. -/
def endsAuthority (kind : SchemeKind) (c : Char) : Bool :=
  c == '/' || c == '?' || c == '#' || (c == '\\' && kind != .other)

/-! ## Scheme -/

/-- The text without controls and spaces around it, and without tabs and line ends inside. -/
def clean (cs : List Char) : List Char :=
  let isEdge := fun (c : Char) => decide (c.toNat ≤ 0x20)
  ((cs.dropWhile isEdge).reverse.dropWhile isEdge).reverse.filter fun c => !Path.vanishes c

def isSchemeChar (c : Char) : Bool := c.isAlphanum || c == '+' || c == '-' || c == '.'

/-- The scheme in small letters, and what follows its colon. -/
def scheme? (cs : List Char) : Option (List Char × List Char) :=
  let scheme := cs.takeWhile isSchemeChar
  match scheme, cs.dropWhile isSchemeChar with
  | c :: _, ':' :: rest => if c.isAlpha then some (scheme.map Char.toLower, rest) else none
  | _, _ => none

/-! ## User, host and port -/

/-- A user name and a password, cut at the first colon. An empty password is none. -/
def userOf (cs : List Char) : Option (List Char × Option (List Char)) :=
  let name := cs.takeWhile (· != ':')
  let password := match (cs.dropWhile (· != ':')).drop 1 with
    | [] => none
    | p => some p
  if name = [] ∧ password = none then none else some (name, password)

/-- Cuts the part before the path at its last at sign. -/
def cutUser (authority : List Char) : Option (List Char) × List Char :=
  match authority.reverse.dropWhile (· != '@') with
  | [] => (none, authority)
  | _ :: user => (some user.reverse, authority.drop (user.length + 1))

/-- The length of the host in a text: up to a colon that is not in square brackets. -/
def hostLength (inBrackets : Bool) : List Char → Nat
  | [] => 0
  | c :: rest =>
    if c = ':' ∧ ¬ inBrackets then 0
    else 1 + hostLength (if c = '[' then true else if c = ']' then false else inBrackets) rest

/-- The port behind a colon; nothing if there are no digits. -/
def readPort (scheme : List Char) (cs : List Char) : Except UrlFault (Option Nat) :=
  if cs.all Char.isDigit then
    let n := Decimal.valueOfDigits cs
    if 65535 < n then .error .invalidPort
    else if cs = [] ∨ usualPort? scheme = some n then .ok none
    else .ok (some n)
  else .error .invalidPort

/-- Host and port. -/
def readHostAndPort (kind : SchemeKind) (scheme : List Char) (cs : List Char) :
    Except UrlFault (Host × Option Nat) := do
  let length := hostLength false cs
  let text := cs.take length
  if text = [] ∧ (kind = .web ∨ cs ≠ []) then throw .emptyHost
  let host ← if kind = .web then Host.ofChars text else Host.ofCharsElsewhere text
  let port ← match cs.drop length with
    | _ :: port => readPort scheme port
    | [] => pure none
  return (host, port)

/-! ## Path and query -/

/-- What stands before a fragment. -/
def dropFragment (cs : List Char) : List Char := cs.takeWhile (· != '#')

/-- The query behind a question mark. -/
def queryOf (kind : SchemeKind) (cs : List Char) : Option (List Char) :=
  match cs.dropWhile (· != '?') with
  | [] => none
  | _ :: query =>
    some (percentEncode (fun c => keptInQuery c || (c == '\'' && kind == .other)) query)

/-- What stands before a query. -/
def beforeQuery (cs : List Char) : List Char := cs.takeWhile (· != '?')

/-- In some schemes backslashes are slashes. -/
def withSlashes (kind : SchemeKind) (cs : List Char) : List Char :=
  if kind = .other then cs else cs.map fun c => if c = '\\' then '/' else c

/-- The path of an address with a host. Only where hosts are no domains it may be empty. -/
def readPath (kind : SchemeKind) (cs : List Char) : Path :=
  match withSlashes kind cs with
  | [] => if kind = .other then [] else [[]]
  | '/' :: rest => Path.ofChars rest
  | rest => Path.ofChars rest

/-! ## Addresses -/

/-- An address with a host, from behind its two slashes. -/
def readAuthority (kind : SchemeKind) (scheme : List Char) (cs : List Char) :
    Except UrlFault Url := do
  let ends := endsAuthority kind
  let authority := cs.takeWhile fun c => !ends c
  let rest := dropFragment (cs.dropWhile fun c => !ends c)
  let (user, hostAndPort) := cutUser authority
  let named := user.bind userOf
  if hostAndPort = [] ∧ (named.isSome ∨ (user.isSome ∧ cs.any ends)) then throw .emptyHost
  let (host, port) ← readHostAndPort kind scheme hostAndPort
  return {
    scheme
    user := named
    host := if host = .domain [] then none else some host
    port
    locator := .path (readPath kind (beforeQuery rest))
    query := queryOf kind rest }

/-- Two characters that name a drive. -/
def isDrive : List Char → Bool
  | [c, sign] => c.isAlpha && (sign == ':' || sign == '|')
  | _ => false

/-- The address of a file. The host may be left out, and so may the slashes before it. -/
def readFile (scheme : List Char) (cs : List Char) : Except UrlFault Url := do
  let rest := dropFragment cs
  let located := fun (host : Option Host) (path : List Char) =>
    ({ scheme, user := none, host, port := none
       locator := .path (readPath .file path)
       query := queryOf .file rest } : Url)
  match withSlashes .file (beforeQuery rest) with
  | '/' :: '/' :: more =>
    let text := more.takeWhile (· != '/')
    if text = [] ∨ isDrive text then return located none more
    let host ← Host.ofChars text
    let host := if host = .domain "localhost".toList then none else some host
    return located host (more.dropWhile (· != '/'))
  | path => return located none path

/-- An address of a scheme that knows no domains. -/
def readOther (scheme : List Char) (cs : List Char) : Except UrlFault Url :=
  let rest := dropFragment cs
  let without := fun (locator : Locator) =>
    ({ scheme, user := none, host := none, port := none, locator
       query := queryOf .other rest } : Url)
  match cs with
  | '/' :: '/' :: authority => readAuthority .other scheme authority
  | '/' :: _ => .ok (without (.path (Path.ofChars (beforeQuery (rest.drop 1)))))
  | _ => .ok (without (.bare (percentEncode isPlainAscii (beforeQuery rest))))

/-- The address that a text stands for. -/
def parse (text : String) : Except UrlFault Url :=
  match scheme? (clean text.toList) with
  | none => .error .relativeWithoutBase
  | some (scheme, rest) =>
    match kindOf scheme with
    | .web => readAuthority .web scheme (rest.dropWhile fun c => c == '/' || c == '\\')
    | .file => readFile scheme rest
    | .other => readOther scheme rest

/-- The path, where there can be one. -/
def path? (u : Url) : Option Path :=
  match u.locator with
  | .path segments => some segments
  | .bare _ => none

end Url

end ChatBot.Web
