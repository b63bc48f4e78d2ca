-- Percent encoding: characters that must not stand in a place are written as
-- their UTF-8 bytes, each a percent sign and two hexadecimal digits.
import ChatBot.Text.Hexadecimal

namespace ChatBot.Web

/-- A byte as it is written. -/
def percentByte (b : UInt8) : List Char :=
  ['%', Text.upperHexDigit (b.toNat / 16), Text.upperHexDigit (b.toNat % 16)]

/-- Writes a text so that only the kept characters stand for themselves. -/
def percentEncode (keep : Char → Bool) (cs : List Char) : List Char :=
  cs.flatMap fun c => if keep c then [c] else (String.utf8EncodeChar c).flatMap percentByte

/-- The bytes that a text writes. A percent sign without two digits stands for itself. -/
def percentDecode : List Char → List UInt8
  | [] => []
  | '%' :: a :: b :: rest =>
    match Text.hexDigit? a, Text.hexDigit? b with
    | some x, some y => UInt8.ofNat (16 * x + y) :: percentDecode rest
    | _, _ => String.utf8EncodeChar '%' ++ percentDecode (a :: b :: rest)
  | c :: rest => String.utf8EncodeChar c ++ percentDecode rest

/-! ## Which characters stand for themselves -/

/-- Neither a control character nor beyond ASCII. -/
def isPlainAscii (c : Char) : Bool := 0x20 ≤ c.toNat && c.toNat ≤ 0x7E

/-- What may stand in a path. -/
def keptInPath (c : Char) : Bool :=
  isPlainAscii c && !" \"#<>?`\x7b\x7d".toList.contains c

/-- What may stand in one segment of a path, and means nothing there. -/
def keptInSegment (c : Char) : Bool := keptInPath c && c != '/' && c != '%' && c != '\\'

/-- What may stand in a query. -/
def keptInQuery (c : Char) : Bool := isPlainAscii c && !" \"#<>'".toList.contains c

end ChatBot.Web
