-- Forms in a query: names and values, with ampersands between the pairs.
import ChatBot.Web.Percent

namespace ChatBot.Web.Form

/-- What stands for itself in a form. -/
def kept (c : Char) : Bool := c.isAlphanum || c == '*' || c == '-' || c == '.' || c == '_'

/-- A name or a value: a space is written as a plus sign. -/
def encodeText (cs : List Char) : List Char :=
  cs.flatMap fun c => if c = ' ' then ['+'] else percentEncode kept [c]

def encodePair (pair : String × String) : List Char :=
  encodeText pair.1.toList ++ '=' :: encodeText pair.2.toList

/-- Adds pairs to a query. -/
def append (query : List Char) (pairs : List (String × String)) : List Char :=
  pairs.foldl (fun q pair => (if q = [] then [] else q ++ ['&']) ++ encodePair pair) query

/-- The bytes of a name or a value. -/
def decodeText (cs : List Char) : List UInt8 :=
  percentDecode (cs.map fun c => if c = '+' then ' ' else c)

/-- A pair, cut at its first equals sign. -/
def decodePair (cs : List Char) : List UInt8 × List UInt8 :=
  (decodeText (cs.takeWhile (· != '=')), decodeText ((cs.dropWhile (· != '=')).drop 1))

/-- The pairs of a query, as bytes. Empty pieces count for nothing. -/
def decode (query : List Char) : List (List UInt8 × List UInt8) :=
  ((query.splitOn '&').filter (· ≠ [])).map decodePair

end ChatBot.Web.Form
