-- Paths of addresses, as lists of segments. The path `/` is one empty segment.
import ChatBot.Web.Percent

namespace ChatBot.Web

/-- The segments of a path, written out: what stands between its slashes. -/
abbrev Path := List (List Char)

namespace Path

/-- The ways to write a segment that stays where it is. -/
def isSingleDot (s : List Char) : Bool := ["." , "%2e"].any fun w => w.toList == s.map Char.toLower

/-- The ways to write a segment that goes one level up. -/
def isDoubleDot (s : List Char) : Bool :=
  ["..", "%2e%2e", "%2e.", ".%2e"].any fun w => w.toList == s.map Char.toLower

/-- One more segment of a path that is read, given whether it is the last one. -/
def readSegment (path : Path) (s : List Char) (last : Bool) : Path :=
  if isDoubleDot s then path.dropLast ++ if last then [[]] else []
  else if isSingleDot s then path ++ if last then [[]] else []
  else path ++ [s]

/-- Reads the segments of a path in order. -/
def readSegments (path : Path) : List (List Char) → Path
  | [] => path
  | [s] => readSegment path s true
  | s :: more => readSegments (readSegment path s false) more

/-- The path that a text writes, the slash in front left out. -/
def ofChars (cs : List Char) : Path :=
  readSegments [] ((cs.splitOn '/').map (percentEncode keptInPath))

/-- A path without the empty segment at its end, unless that is all there is. -/
def popIfEmpty (path : Path) : Path :=
  if 2 ≤ path.length ∧ path.getLast? = some [] then path.dropLast else path

/-- What never gets into an address: tabs and line ends. -/
def vanishes (c : Char) : Bool := c == '\t' || c == '\n' || c == '\r'

/-- Adds a segment that stands for a text. A text of one or two dots is left out; one that is
so only after tabs and line ends have vanished acts as it would in a written path. -/
def push (path : Path) (text : String) : Path :=
  if text = "." ∨ text = ".." then path
  else
    let segment := percentEncode keptInSegment (text.toList.filter fun c => !vanishes c)
    readSegment (if path = [[]] then [] else path) segment true

/-- Adds segments in order. -/
def pushAll (path : Path) (texts : List String) : Path := texts.foldl push path

/-- The text of a path. -/
def chars (path : Path) : List Char := path.flatMap ('/' :: ·)

end Path

end ChatBot.Web
