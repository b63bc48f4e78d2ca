-- Reading JSON texts: strict grammar, white space only where it may stand, and
-- nothing after the document.
import ChatBot.Reading
import ChatBot.Json.Value
import ChatBot.Json.Text

namespace ChatBot.Json

variable {α : Type}

/-- Reads something off the front of a text, if it stands there. -/
abbrev Reader (α : Type) := (cs : List Char) → Option (Reading α cs)

/-- White space between the tokens of a document. -/
def isSpace (c : Char) : Bool := c == ' ' || c == '\t' || c == '\n' || c == '\r'

/-- Passes over white space first. -/
def afterSpace (read : Reader α) : Reader α := fun cs =>
  (read (cs.dropWhile isSpace)).map fun r =>
    ⟨r.value, r.rest, Nat.lt_of_lt_of_le r.shorter (length_dropWhile_le _ _)⟩

/-- One given character, white space before it passed over. -/
def mark (c : Char) : Reader Unit := afterSpace fun
  | d :: rest => if d = c then some ⟨(), rest, Nat.lt_succ_self _⟩ else none
  | [] => none

/-- One piece of the inside of a string. Control characters have to be escaped. -/
def readPiece : Reader Piece
  | '\\' :: 'u' :: a :: b :: c :: d :: rest =>
    match Text.hexDigit? a, Text.hexDigit? b, Text.hexDigit? c, Text.hexDigit? d with
    | some a, some b, some c, some d =>
      some ⟨.unit (((a * 16 + b) * 16 + c) * 16 + d), rest,
        show rest.length < rest.length + 6 by omega⟩
    | _, _, _, _ => none
  | '\\' :: c :: rest =>
    (escapedChar? c).map fun e => ⟨.char e, rest, show rest.length < rest.length + 2 by omega⟩
  | c :: rest =>
    if c = '\\' ∨ c.toNat < 0x20 then none else some ⟨.char c, rest, Nat.lt_succ_self _⟩
  | [] => none

/-- The pieces of a string up to its closing quote, which is taken, too. -/
def readPieces (cs : List Char) : Option (Reading (List Piece) cs) :=
  match cs with
  | '"' :: rest => some ⟨[], rest, Nat.lt_succ_self _⟩
  | cs =>
    match readPiece cs with
    | none => none
    | some p =>
      match readPieces p.rest with
      | none => none
      | some more => some ⟨p.value :: more.value, more.rest, Nat.lt_trans more.shorter p.shorter⟩
termination_by cs.length
decreasing_by exact p.shorter

/-- A string, if it stands for a text. -/
def readString : Reader (Option String)
  | '"' :: rest =>
    (readPieces rest).map fun r => (r.map fun ps => (joinPieces ps).map String.ofList).after
  | _ => none

/-- One or more digits. -/
def readDigits : Reader (List Char) := fun cs =>
  match cs with
  | [] => none
  | d :: rest =>
    if d.isDigit then
      some ⟨d :: rest.takeWhile Char.isDigit, rest.dropWhile Char.isDigit,
        Nat.lt_succ_of_le (length_dropWhile_le _ _)⟩
    else none

/-- A whole number without needless zeros in front. -/
def readWhole : Reader (List Char)
  | '0' :: rest => some ⟨['0'], rest, Nat.lt_succ_self _⟩
  | cs => readDigits cs

/-- A point and digits, if a point stands there. -/
def readFraction (cs : List Char) : Option (Passing (Option (List Char)) cs) :=
  match cs with
  | '.' :: rest =>
    (readDigits rest).map fun r => ⟨some r.value, r.rest, Nat.le_succ_of_le (Nat.le_of_lt r.shorter)⟩
  | cs => some ⟨none, cs, Nat.le_refl _⟩

/-- The sign of a power of ten, set if it is negative, and its digits. -/
def readPower : Reader (Bool × List Char)
  | '+' :: rest => (readDigits rest).map fun r => (r.map fun ds => (false, ds)).after
  | '-' :: rest => (readDigits rest).map fun r => (r.map fun ds => (true, ds)).after
  | cs => (readDigits cs).map fun r => r.map fun ds => (false, ds)

/-- A power of ten, if the letter for it stands there. -/
def readExponent (cs : List Char) : Option (Passing (Option (Bool × List Char)) cs) :=
  match cs with
  | e :: rest =>
    if e = 'e' ∨ e = 'E' then
      (readPower rest).map fun r => ⟨some r.value, r.rest, Nat.le_succ_of_le (Nat.le_of_lt r.shorter)⟩
    else some ⟨none, e :: rest, Nat.le_refl _⟩
  | [] => some ⟨none, [], Nat.le_refl _⟩

/-- A number, if it is one that a double holds. -/
def readNumber (negative : Bool) : Reader (Option Number) := fun cs =>
  match readWhole cs with
  | none => none
  | some whole =>
    match readFraction whole.rest with
    | none => none
    | some fraction =>
      match readExponent fraction.rest with
      | none => none
      | some exponent =>
        some ⟨Literal.value? ⟨negative, whole.value, fraction.value, exponent.value⟩, exponent.rest,
          Nat.lt_of_le_of_lt (Nat.le_trans exponent.within fraction.within) whole.shorter⟩

/-- Commas and items up to the closing character, which is taken, too. -/
def readMore (close : Char) (item : Reader α) (cs : List Char) : Option (Reading (List α) cs) :=
  match mark close cs with
  | some r => some (r.map fun _ => [])
  | none =>
    match mark ',' cs with
    | none => none
    | some comma =>
      match item comma.rest with
      | none => none
      | some first =>
        match readMore close item first.rest with
        | none => none
        | some more => some ⟨first.value :: more.value, more.rest,
            Nat.lt_trans more.shorter (Nat.lt_trans first.shorter comma.shorter)⟩
termination_by cs.length
decreasing_by exact Nat.lt_trans first.shorter comma.shorter

/-- Items with commas between them, up to the closing character. -/
def readList (close : Char) (item : Reader α) : Reader (List α) := fun cs =>
  match mark close cs with
  | some r => some (r.map fun _ => [])
  | none =>
    match item cs with
    | none => none
    | some first =>
      (readMore close item first.rest).map fun more =>
        ⟨first.value :: more.value, more.rest, Nat.lt_trans more.shorter first.shorter⟩

/-- A member of an object: its name, a colon, and its value. -/
def readMember (value : Reader Tree) : Reader (Option String × Tree) := fun cs =>
  match afterSpace readString cs with
  | none => none
  | some name =>
    match mark ':' name.rest with
    | none => none
    | some colon =>
      (value colon.rest).map fun v =>
        ⟨(name.value, v.value), v.rest,
          Nat.lt_trans v.shorter (Nat.lt_trans colon.shorter name.shorter)⟩

/-- One of the three words of the grammar, given without its first letter. -/
def readWord (letters : List Char) (t : Tree) (cs : List Char) : Option (Passing Tree cs) :=
  if letters.isPrefixOf cs then some ⟨t, cs.drop letters.length, (List.drop_sublist _ _).length_le⟩ else none

/-- A value; those inside it are read by `inner`. -/
def valueWith (inner : Reader Tree) : Reader Tree := afterSpace fun
  | 'n' :: rest =>
    (readWord "ull".toList .null rest).map fun p => ⟨p.value, p.rest, Nat.lt_succ_of_le p.within⟩
  | 't' :: rest =>
    (readWord "rue".toList (.bool true) rest).map fun p =>
      ⟨p.value, p.rest, Nat.lt_succ_of_le p.within⟩
  | 'f' :: rest =>
    (readWord "alse".toList (.bool false) rest).map fun p =>
      ⟨p.value, p.rest, Nat.lt_succ_of_le p.within⟩
  | '"' :: rest => (readString ('"' :: rest)).map (·.map .text)
  | '[' :: rest => (readList ']' inner rest).map fun r => (r.map .array).after
  | '\x7b' :: rest => (readList '\x7d' (readMember inner) rest).map fun r => (r.map .object).after
  | '-' :: rest => (readNumber true rest).map fun r => (r.map .number).after
  | cs => (readNumber false cs).map (·.map .number)

/-- A value with at most `room` levels of arrays and objects inside each other. -/
def readValue : (room : Nat) → Reader Tree
  | 0 => fun _ => none
  | room + 1 => valueWith (readValue room)

/-- The tree of a document. A text cannot hold more levels than characters. -/
def Tree.ofText? (s : String) : Option Tree :=
  let cs := s.toList
  match readValue (cs.length + 1) cs with
  | none => none
  | some r => if r.rest.all isSpace then some r.value else none

end ChatBot.Json
