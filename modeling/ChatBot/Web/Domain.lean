-- Domain names: which texts are names of hosts. Letters beyond ASCII are made
-- small and have to be printable; a label that starts with `xn--` has to be a
-- proper encoding of such letters. This is a part of the rules for such names
-- (UTS 46). Left out are its table of mappings, but for capitals, wide forms of
-- ASCII signs, full stops, spaces and the signs that leave no trace below; the
-- normal form NFC; the places where U+200C and U+200D may stand, which count as
-- unprintable here; and what goes for letters that are written from right to left.
import ChatBot.Text.Blank
import ChatBot.Text.Lowercase
import ChatBot.Text.Printable
import ChatBot.Text.Word
import ChatBot.Web.Percent

namespace ChatBot.Web.Domain

/-- What cannot stand in a domain name: controls, the space, and signs that mean something in
an address. -/
def isForbidden (c : Char) : Bool :=
  c.toNat ≤ 0x20 || c.toNat == 0x7F || "#%/:<>?@[\\]^|".toList.contains c

/-- Signs that leave no trace in a domain name. -/
def isIgnored (c : Char) : Bool :=
  c.toNat == 0xAD || c.toNat == 0x200B || c.toNat == 0x2060 || c.toNat == 0xFEFF ||
    (0xFE00 ≤ c.toNat && c.toNat ≤ 0xFE0F)

/-- The form of a character in a domain name: wide forms of ASCII signs count as those, and
so do other full stops and spaces. -/
def mapChar (c : Char) : List Char :=
  let n := c.toNat
  if isIgnored c then []
  else if 0xFF01 ≤ n && n ≤ 0xFF5E then [(Char.ofNat (n - 0xFEE0)).toLower]
  else if n == 0x3002 || n == 0xFF61 then ['.']
  else if Text.isBlank c then [' ']
  else if c == 'ẞ' then ['s', 's']
  else Text.lowerIn [] c []

/-- Whether a character may stand in a label. -/
def isLabelChar (c : Char) : Bool :=
  if c.toNat < 0x80 then !isForbidden c
  else !Text.unprintable.holds c.toNat && c != '\ufffd'

/-! ## Encoded labels -/

/-- The number of a digit in base 36. -/
def digit? (c : Char) : Option Nat :=
  if c.isDigit then some (c.toNat - '0'.toNat + 26)
  else if 'a' ≤ c ∧ c ≤ 'z' then some (c.toNat - 'a'.toNat)
  else none

/-- The threshold of the digit at a place. -/
def threshold (place bias : Nat) : Nat :=
  if place ≤ bias then 1 else if bias + 26 ≤ place then 26 else place - bias

/-- A number of variable length in base 36: `index` grows by the digits' worth. -/
def readDelta (bias place weight index : Nat) : List Char → Option (Nat × List Char)
  | [] => none
  | c :: rest =>
    match digit? c with
    | none => none
    | some d =>
      let index := index + d * weight
      let t := threshold place bias
      if d < t then some (index, rest) else readDelta bias (place + 36) (weight * (36 - t)) index rest

/-- Divides by 35 until the number is small. -/
def adaptLoop (delta place : Nat) : Nat :=
  if 455 < delta then adaptLoop (delta / 35) (place + 36) else place + 36 * delta / (delta + 38)
termination_by delta
decreasing_by exact Nat.div_lt_self (by omega) (by omega)

/-- The bias for the next number. -/
def adapt (delta count : Nat) (first : Bool) : Nat :=
  let halved := if first then delta / 700 else delta / 2
  adaptLoop (halved + halved / count) 0

/-- Puts in the encoded letters, one for each number. -/
def insertLetters : (fuel codePoint index bias : Nat) → List Char → List Char → Option (List Char)
  | _, _, _, _, letters, [] => some letters
  | 0, _, _, _, _, _ => none
  | fuel + 1, codePoint, index, bias, letters, encoded =>
    match readDelta bias 36 1 index encoded with
    | none => none
    | some (position, rest) =>
      let count := letters.length + 1
      let codePoint := codePoint + position / count
      let place := position % count
      if codePoint.isValidChar then
        insertLetters fuel codePoint (place + 1) (adapt (position - index) count (index == 0))
          (letters.take place ++ Char.ofNat codePoint :: letters.drop place) rest
      else none

/-- The letters that an encoded label stands for: those before its last hyphen as they are,
and the encoded ones put in among them. -/
def decodeLabel? (cs : List Char) : Option (List Char) :=
  match cs.reverse.dropWhile (· != '-') with
  | [] => insertLetters cs.length 0x80 0 72 [] cs
  | _ :: basic =>
    insertLetters cs.length 0x80 0 72 basic.reverse (cs.drop (basic.length + 1))

/-! ## Names -/

/-- Whether a label is proper: made of characters that may stand there, and not starting with
a mark. -/
def isLabel (label : List Char) : Bool :=
  label.all isLabelChar && !(label.head?.any fun c => Text.marks.holds c.toNat)

/-- Whether a label is proper once decoded. A decoded label has to be in its small form, and
to hold a letter beyond ASCII. -/
def isProper (label : List Char) : Bool :=
  if "xn--".toList.isPrefixOf label then
    match decodeLabel? (label.drop 4) with
    | some letters =>
      isLabel letters && letters.any (fun c => 0x80 ≤ c.toNat) && letters.flatMap mapChar == letters
    | none => false
  else isLabel label

/-- The domain name that a text stands for, in small letters. -/
def ofChars? (cs : List Char) : Option (List Char) :=
  let mapped := cs.flatMap mapChar
  if (mapped.splitOn '.').all isProper then some mapped else none

end ChatBot.Web.Domain
