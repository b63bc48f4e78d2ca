-- Writing JSON texts, without any white space.
import ChatBot.Json.Value
import ChatBot.Json.Text

namespace ChatBot.Json

mutual

/-- The text of a value. -/
def Value.chars : Value → List Char
  | .null => "null".toList
  | .bool true => "true".toList
  | .bool false => "false".toList
  | .number n => n.chars
  | .text s => writeText s
  | .array items => '[' :: Value.itemChars items ++ [']']
  | .object members => '\x7b' :: Value.memberChars members ++ ['\x7d']

def Value.itemChars : List Value → List Char
  | [] => []
  | [v] => v.chars
  | v :: vs => v.chars ++ ',' :: Value.itemChars vs

def Value.memberChars : List (String × Value) → List Char
  | [] => []
  | [(name, v)] => writeText name ++ ':' :: v.chars
  | (name, v) :: more => writeText name ++ ':' :: v.chars ++ ',' :: Value.memberChars more

end

/-- The text of a value as a string. -/
def Value.render (v : Value) : String := String.ofList v.chars

end ChatBot.Json
