-- What a free text is about, by keywords. Letters are compared without their
-- case, and a keyword starts where no word goes on before it.
import ChatBot.Text.Blank
import ChatBot.Text.Word

namespace ChatBot.Reply

inductive Category
  | greeting
  | wellBeing
  | gratitude
  | fallback
  deriving DecidableEq, Repr

/-- The simple case folding, as far as it leads to ASCII letters. Two characters beyond ASCII
fold to one: the sign for kelvin and the long s. -/
def foldChar (c : Char) : Char :=
  if c = '\u212a' then 'k' else if c = '\u017f' then 's' else c.toLower

/-- What follows a keyword, if the text starts with it. -/
def afterKeyword? : (keyword : List Char) → List Char → Option (List Char)
  | [], cs => some cs
  | _ :: _, [] => none
  | k :: ks, c :: cs => if foldChar c = k then afterKeyword? ks cs else none

/-- What follows keywords with white space between them, if the text starts with them. -/
def afterPhrase? : (keywords : List (List Char)) → List Char → Option (List Char)
  | [], cs => some cs
  | [k], cs => afterKeyword? k cs
  | k :: ks, cs =>
    match afterKeyword? k cs with
    | some (c :: rest) =>
      if Text.isBlank c then afterPhrase? ks (rest.dropWhile Text.isBlank) else none
    | _ => none

/-- A kind of text, known by any one of some phrases. -/
structure Rule where
  phrases : List (List String)
  /-- Whether the phrase has to end with its word. -/
  wholeWord : Bool
  category : Category

namespace Rule

/-- Whether no word goes on at the front of a text. -/
def wordEnds : List Char → Bool
  | [] => true
  | c :: _ => !Text.isWord c

/-- Whether one of the phrases stands at the front of a text. -/
def startsHere (r : Rule) (cs : List Char) : Bool :=
  r.phrases.any fun phrase =>
    match afterPhrase? (phrase.map String.toList) cs with
    | some rest => !r.wholeWord || wordEnds rest
    | none => false

/-- Whether one of the phrases occurs in a text, given whether a word character stands right
before the text. -/
def occursAfter (r : Rule) (inWord : Bool) : List Char → Bool
  | [] => false
  | c :: cs => (!inWord && r.startsHere (c :: cs)) || occursAfter r (Text.isWord c) cs

def occursIn (r : Rule) (text : String) : Bool := r.occursAfter false text.toList

end Rule

/-- The rules; the first one that applies decides. -/
def rules : List Rule :=
  [⟨[["hello"], ["hi"], ["hey"]], true, .greeting⟩,
   ⟨[["how", "are", "you"]], true, .wellBeing⟩,
   ⟨[["thank"]], false, .gratitude⟩]

/-- What a text is about. -/
def categorize (text : String) : Category :=
  match rules.find? (·.occursIn text) with
  | some r => r.category
  | none => .fallback

end ChatBot.Reply
