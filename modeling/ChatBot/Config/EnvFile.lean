-- Files of settings: lines of the form KEY=value, read from the top. A value
-- may stand in quotes, which may go on over several lines; single quotes keep
-- everything as it is, otherwise backslashes escape and a dollar sign puts in
-- the value of another name.
import ChatBot.Config.Settings
import ChatBot.Text.ByteOrderMark
import ChatBot.Text.Bytes
import ChatBot.Text.Number

namespace ChatBot.Config.EnvFile

/-- A piece of the file that cannot be read, and how far into it the trouble is. -/
structure LineFault where
  text : List Char
  index : Nat
  deriving DecidableEq, Repr

/-- The wording of a fault. -/
def LineFault.message (f : LineFault) : String :=
  "Error parsing line: '" ++ String.ofList f.text ++ "', error at line index: " ++
    Decimal.text f.index

/-! ## Lines -/

/-- The lines of a text, each with its line end. -/
def physicalLines : List Char → List (List Char)
  | [] => []
  | '\n' :: rest => ['\n'] :: physicalLines rest
  | c :: rest =>
    match physicalLines rest with
    | [] => [[c]]
    | line :: more => (c :: line) :: more

/-- What was read last, as far as it decides where a line ends. -/
inductive Edge
  | plain
  | blank
  | escape
  | single
  | singleEscape
  | double
  | doubleEscape
  deriving DecidableEq, Repr

/-- What a character does outside of quotes. -/
def Edge.outside (c : Char) : Edge :=
  if c = '\\' then .escape
  else if c = '"' then .double
  else if c = '\'' then .single
  else .plain

def Edge.next (c : Char) : Edge → Edge
  | .plain => if Text.isBlank c ∧ c ≠ '\n' ∧ c ≠ '\r' then .blank else Edge.outside c
  | .blank => Edge.outside c
  | .escape => .plain
  | .single => if c = '\\' then .singleEscape else if c = '\'' then .plain else .single
  | .singleEscape => .single
  | .double => if c = '\\' then .doubleEscape else if c = '"' then .plain else .double
  | .doubleEscape => .double

/-- Reads to the end of a line, or to a comment, which starts with a number sign behind white
space. Gives what stands before the comment, and what was read last unless there is one. -/
def scanLine (edge : Edge) : List Char → List Char × Option Edge
  | [] => ([], some edge)
  | c :: rest =>
    if edge = .blank ∧ c = '#' then ([], none)
    else
      let (kept, last) := scanLine (edge.next c) rest
      (c :: kept, last)

/-- A line without its line end. -/
def dropLineEnd (cs : List Char) : List Char :=
  match cs.reverse with
  | '\n' :: '\r' :: rest => rest.reverse
  | '\n' :: rest => rest.reverse
  | _ => cs

/-- Joins lines as long as quotes, an escape or white space are open at their end. Those that
start with a number sign are empty. What is still open at the end of the file is a fault. -/
def logicalLines (pending : List Char) (edge : Edge) :
    List (List Char) → List (Except LineFault (List Char))
  | [] => if edge = .plain then [] else [.error ⟨pending, Text.byteLength pending⟩]
  | line :: more =>
    if (Text.trimStart (pending ++ line)).head? = some '#' then .ok [] :: logicalLines [] .plain more
    else match scanLine edge line with
      | (kept, none) => .ok (pending ++ kept) :: logicalLines [] .plain more
      | (_, some .plain) => .ok (dropLineEnd (pending ++ line)) :: logicalLines [] .plain more
      | (_, some edge) => logicalLines (pending ++ line) edge more

/-! ## Values -/

/-- How the next character of a value is meant. `quoted` tells whether double quotes are open. -/
inductive Mode
  | ordinary (quoted : Bool)
  | escaped (quoted : Bool)
  | literal
  /-- The name of a value to put in: letters and numbers. -/
  | name (quoted : Bool) (read : List Char)
  /-- The name of a value to put in, in braces. -/
  | braced (quoted : Bool) (read : List Char)
  /-- Behind the value, where only a comment may stand. -/
  | behind
  deriving DecidableEq, Repr

/-- What may be written with a backslash. -/
def unescape? (c : Char) : Option Char :=
  if c = 'n' then some '\n'
  else if c = '\\' ∨ c = '\'' ∨ c = '"' ∨ c = '$' ∨ c = ' ' then some c
  else none

/-- The value that a name stands for; nothing if it has none. -/
def substitute (lookup : Lookup) (name : List Char) : List Char :=
  ((lookup (String.ofList name)).getD "").toList

/-- What a character adds to the value, and how the one after it is meant; none if it cannot
stand there. -/
def Mode.step (lookup : Lookup) (c : Char) : Mode → Option (List Char × Mode)
  | .behind => if c = ' ' ∨ c = '\t' then some ([], .behind) else none
  | .escaped quoted => (unescape? c).map fun e => ([e], .ordinary quoted)
  | .literal => some (if c = '\'' then ([], .ordinary false) else ([c], .literal))
  | .name quoted read =>
    some <|
      if Text.isAlphanumeric c then ([], .name quoted (read ++ [c]))
      else if c = '\x7b' ∧ read = [] then ([], .braced quoted [])
      else if c = '$' then (substitute lookup read, .name quoted [])
      else (substitute lookup read ++ [c], .ordinary quoted)
  | .braced quoted read =>
    some <|
      if c = '\x7d' then (substitute lookup read, .ordinary quoted)
      else ([], .braced quoted (read ++ [c]))
  | .ordinary true =>
    some <|
      if c = '$' then ([], .name true [])
      else if c = '"' then ([], .ordinary false)
      else if c = '\\' then ([], .escaped true)
      else ([c], .ordinary true)
  | .ordinary false =>
    some <|
      if c = '$' then ([], .name false [])
      else if c = '\'' then ([], .literal)
      else if c = '"' then ([], .ordinary true)
      else if c = '\\' then ([], .escaped false)
      else if c = ' ' ∨ c = '\t' then ([], .behind)
      else ([c], .ordinary false)

/-- What the end of the value adds to it; none if quotes or braces are open. -/
def Mode.finish? (lookup : Lookup) : Mode → Option (List Char)
  | .literal => none
  | .braced _ _ => none
  | .ordinary quoted => if quoted then none else some []
  | .escaped quoted => if quoted then none else some []
  | .name quoted read => if quoted then none else some (substitute lookup read)
  | .behind => some []

/-- Reads a value from a place on, or gives the index of the character that cannot stand where
it does; none if the value does not end. -/
def valueFrom (lookup : Lookup) (index : Nat) (mode : Mode) :
    List Char → Except (Option Nat) (List Char)
  | [] =>
    match mode.finish? lookup with
    | some added => .ok added
    | none => .error none
  | c :: rest =>
    if mode = .behind ∧ c = '#' then .ok []
    else match mode.step lookup c with
      | none => .error (some index)
      | some (added, mode) =>
        match valueFrom lookup (index + 1) mode rest with
        | .ok more => .ok (added ++ more)
        | .error e => .error e

/-- The value that a text writes. -/
def value (lookup : Lookup) (cs : List Char) : Except LineFault (List Char) :=
  match valueFrom lookup 0 (.ordinary false) cs with
  | .ok v => .ok v
  | .error (some index) => .error ⟨cs, index⟩
  | .error none => .error ⟨cs, Text.byteLength cs - 1⟩

/-! ## Assignments -/

/-- The rest of a line, and the count of bytes before it. -/
structure Place where
  rest : List Char
  offset : Nat

namespace Place

/-- Goes on behind all characters of a class. -/
def skip (isSkipped : Char → Bool) (p : Place) : Place :=
  ⟨p.rest.dropWhile isSkipped, p.offset + Text.byteLength (p.rest.takeWhile isSkipped)⟩

/-- Whether the line holds nothing more than a comment. -/
def isOver (p : Place) : Bool :=
  match p.rest with
  | [] => true
  | c :: _ => c == '#'

def isKeyStart (c : Char) : Bool := c.isAlpha || c == '_'

def isKeyPart (c : Char) : Bool := c.isAlphanum || c == '_' || c == '.'

/-- A key, and white space behind it. -/
def key? (p : Place) : Option (List Char × Place) :=
  match p.rest with
  | c :: _ =>
    if isKeyStart c then
      some (p.rest.takeWhile isKeyPart, (p.skip isKeyPart).skip Text.isBlank)
    else none
  | [] => none

/-- An equals sign. -/
def equals? (p : Place) : Option Place :=
  match p.rest with
  | '=' :: rest => some ⟨rest, p.offset + 1⟩
  | _ => none

end Place

/-- The key of a line, and the place behind its equals sign; the place of the trouble if there
is none. The word `export` may stand in front of the key. -/
def keyAndPlace (p : Place) : Except Place (List Char × Place) :=
  match p.key? with
  | none => .error p
  | some (key, p) =>
    match p.equals? with
    | some p => .ok (key, p)
    | none =>
      if key = "export".toList then
        match p.key? with
        | none => .error p
        | some (key, p) =>
          match p.equals? with
          | some p => .ok (key, p)
          | none => .error p
      else .error p

/-- The assignment of a line, if it holds one. -/
def assignment (lookup : Lookup) (line : List Char) :
    Except LineFault (Option (String × String)) :=
  let start := Place.skip Text.isBlank ⟨Text.trimEnd line, 0⟩
  if start.isOver then .ok none
  else match keyAndPlace start with
    | .error p => .error ⟨line, p.offset⟩
    | .ok (key, p) =>
      let p := p.skip Text.isBlank
      if p.isOver then .ok (some (String.ofList key, ""))
      else match value lookup p.rest with
        | .error f => .error f
        | .ok v => .ok (some (String.ofList key, String.ofList v))

/-! ## Files -/

/-- Values with their names; the first value of a name counts. -/
abbrev Pairs := List (String × String)

def Pairs.find? (pairs : Pairs) (key : String) : Option String :=
  (List.find? (fun p => p.1 == key) pairs).map (·.2)

/-- What is set already counts before what the file says. -/
def withPairs (lookup : Lookup) (pairs : Pairs) : Lookup := fun key =>
  (lookup key).or (pairs.find? key)

/-- Reads line by line. A value may use the names that were set before it. -/
def readLines (lookup : Lookup) (pairs : Pairs) :
    List (Except LineFault (List Char)) → Except LineFault Pairs
  | [] => .ok pairs
  | .error f :: _ => .error f
  | .ok line :: more =>
    match assignment (withPairs lookup pairs) line with
    | .error f => .error f
    | .ok none => readLines lookup pairs more
    | .ok (some pair) => readLines lookup (pairs ++ [pair]) more

/-- The pairs of a file, in order. -/
def read (lookup : Lookup) (file : String) : Except LineFault Pairs :=
  readLines lookup []
    (logicalLines [] .plain (physicalLines (Text.withoutByteOrderMark file.toList)))

end ChatBot.Config.EnvFile

namespace ChatBot.Config

/-- The settings that the environment makes together with a file of settings, if there is one.
The file only says what the environment does not say. -/
def Settings.load (environment : Lookup) (file : Option String) : Except Fault Settings :=
  match file with
  | none => Settings.ofLookup environment
  | some text =>
    match EnvFile.read environment text with
    | .error f => .error (.config ("failed to load .env: " ++ f.message))
    | .ok pairs => Settings.ofLookup (EnvFile.withPairs environment pairs)

end ChatBot.Config
