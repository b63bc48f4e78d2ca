-- Hosts: domain names, and addresses of either version of the protocol.
import ChatBot.Decimal.Digits
import ChatBot.Decimal.Powers
import ChatBot.Text.Bytes
import ChatBot.Web.Domain

namespace ChatBot.Web

/-- Why a text is no address. -/
inductive UrlFault
  | emptyHost
  | invalidDomain
  | invalidDomainCharacter
  | invalidPort
  | invalidIpv4
  | invalidIpv6
  | relativeWithoutBase
  deriving DecidableEq, Repr

/-- The wording of a fault. -/
def UrlFault.message : UrlFault → String
  | .emptyHost => "empty host"
  | .invalidDomain => "invalid international domain name"
  | .invalidDomainCharacter => "invalid domain character"
  | .invalidPort => "invalid port number"
  | .invalidIpv4 => "invalid IPv4 address"
  | .invalidIpv6 => "invalid IPv6 address"
  | .relativeWithoutBase => "relative URL without a base"

inductive Host
  | domain (name : List Char)
  | ipv4 (address : Nat)
  | ipv6 (pieces : List Nat)
  deriving DecidableEq, Repr

namespace Host

/-- The number that hexadecimal digits write. -/
def hexNumber? (cs : List Char) : Option Nat :=
  cs.foldlM (fun n c => (Text.hexDigit? c).map (16 * n + ·)) 0

/-! ## Version four -/

/-- A part of an address: decimal, octal behind a zero, or hexadecimal behind `0x`. -/
def ipv4Number? (cs : List Char) : Option Nat :=
  match cs with
  | [] => none
  | '0' :: 'x' :: ds => hexNumber? ds
  | '0' :: 'X' :: ds => hexNumber? ds
  | '0' :: d :: ds =>
    if (d :: ds).all fun c => '0' ≤ c ∧ c ≤ '7' then
      some ((d :: ds).foldl (fun n c => 8 * n + (c.toNat - '0'.toNat)) 0)
    else none
  | ds => if ds.all Char.isDigit then some (Decimal.valueOfDigits ds) else none

/-- The labels of a name, the empty one behind a full stop at the end left out. -/
def labels (name : List Char) : List (List Char) :=
  let parts := name.splitOn '.'
  if 2 ≤ parts.length ∧ parts.getLast? = some [] then parts.dropLast else parts

/-- A name whose last label is a number has to be an address. -/
def endsInNumber (name : List Char) : Bool :=
  match (labels name).getLast? with
  | none => false
  | some last =>
    (last ≠ [] && last.all Char.isDigit) || (ipv4Number? last).isSome

/-- The address that a name with a number at its end stands for. The last number fills all
bytes that the others leave. -/
def ipv4? (name : List Char) : Option Nat :=
  let parts := labels name
  if 4 < parts.length then none
  else match parts.mapM ipv4Number? with
    | none => none
    | some numbers =>
      match numbers.reverse with
      | [] => none
      | last :: others =>
        if last < Decimal.twoTo (8 * (4 - others.length)) ∧ others.all (· < 256) then
          some (others.reverse.foldl (fun n b => 256 * n + b) 0 *
            Decimal.twoTo (8 * (4 - others.length)) + last)
        else none

/-! ## Version six -/

/-- A piece of an address: up to four hexadecimal digits. -/
def ipv6Piece? (cs : List Char) : Option Nat :=
  if cs ≠ [] ∧ cs.length ≤ 4 then hexNumber? cs else none

/-- One byte of an address in dotted form, without needless zeros in front. -/
def dottedByte? (cs : List Char) : Option Nat :=
  if cs ≠ [] ∧ cs.all Char.isDigit ∧ (cs.length = 1 ∨ cs.head? ≠ some '0') then
    let n := Decimal.valueOfDigits cs
    if n < 256 then some n else none
  else none

/-- Two pieces written as four bytes in dotted form. -/
def dottedPieces? (cs : List Char) : Option (List Nat) :=
  match (cs.splitOn '.').mapM dottedByte? with
  | some [a, b, c, d] => some [256 * a + b, 256 * c + d]
  | _ => none

/-- Pieces with colons between them; the last may be in dotted form if that is allowed. -/
def ipv6Pieces? (dotted : Bool) : List (List Char) → Option (List Nat)
  | [] => some []
  | [last] =>
    match ipv6Piece? last with
    | some n => some [n]
    | none => if dotted then dottedPieces? last else none
  | piece :: more =>
    match ipv6Piece? piece, ipv6Pieces? dotted more with
    | some n, some ns => some (n :: ns)
    | _, _ => none

/-- Cuts a text at its first double colon. -/
def cutAtGap : List Char → Option (List Char × List Char)
  | ':' :: ':' :: rest => some ([], rest)
  | c :: rest => (cutAtGap rest).map fun (before, after) => (c :: before, after)
  | [] => none

/-- One side of the gap. -/
def ipv6Side? (dotted : Bool) (cs : List Char) : Option (List Nat) :=
  if cs = [] then some [] else ipv6Pieces? dotted (cs.splitOn ':')

/-- Eight pieces, or fewer with a gap for at least one. -/
def ipv6? (cs : List Char) : Option (List Nat) :=
  match cutAtGap cs with
  | none =>
    match ipv6Side? true cs with
    | some pieces => if pieces.length = 8 then some pieces else none
    | none => none
  | some (before, after) =>
    match ipv6Side? false before, ipv6Side? true after with
    | some head, some tail =>
      if head.length + tail.length ≤ 7 then
        some (head ++ List.replicate (8 - head.length - tail.length) 0 ++ tail)
      else none
    | _, _ => none

/-- An address in square brackets. -/
def bracketed (rest : List Char) : Except UrlFault Host :=
  if rest.getLast? = some ']' then
    match ipv6? rest.dropLast with
    | some pieces => .ok (.ipv6 pieces)
    | none => .error .invalidIpv6
  else .error .invalidIpv6

/-! ## Hosts -/

/-- The host that a text stands for, where hosts are domains. -/
def ofChars : List Char → Except UrlFault Host
  | '[' :: rest => bracketed rest
  | cs =>
    match (Text.ofUtf8? (percentDecode cs)).bind fun s => Domain.ofChars? s.toList with
    | none => .error .invalidDomain
    | some [] => .error .emptyHost
    | some name =>
      if endsInNumber name then
        match ipv4? name with
        | some address => .ok (.ipv4 address)
        | none => .error .invalidIpv4
      else .ok (.domain name)

/-- What cannot stand in a host of a scheme that knows nothing of domains. -/
def isForbiddenElsewhere (c : Char) : Bool :=
  c.toNat == 0 || "\t\n\r #/:<>?@[\\]^|".toList.contains c

/-- The host that a text stands for, where hosts are any names. -/
def ofCharsElsewhere : List Char → Except UrlFault Host
  | '[' :: rest => bracketed rest
  | cs =>
    if cs.any isForbiddenElsewhere then .error .invalidDomainCharacter
    else .ok (.domain (percentEncode isPlainAscii cs))

end Host

end ChatBot.Web
