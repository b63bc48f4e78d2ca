-- JSON documents: the tree that a text has, and the value that a tree stands for.
import ChatBot.Json.Number

namespace ChatBot.Json

/-- A document as it is written. A number is missing if it is too large for a double, a text
if it holds half of a surrogate pair: such leaves are well written but stand for nothing.
Members of objects stay in their order, also those with the same name. -/
inductive Tree
  | null
  | bool (b : Bool)
  | number (n : Option Number)
  | text (s : Option String)
  | array (items : List Tree)
  | object (members : List (Option String × Tree))

/-- What a document means: every leaf stands for something. -/
inductive Value
  | null
  | bool (b : Bool)
  | number (n : Number)
  | text (s : String)
  | array (items : List Value)
  /-- Members by rising name, each name once. -/
  | object (members : List (String × Value))

namespace Value

/-- Puts a member in its place by name. One of the same name makes room for it. -/
def putMember (name : String) (v : Value) : List (String × Value) → List (String × Value)
  | [] => [(name, v)]
  | (other, w) :: more =>
    if name < other then (name, v) :: (other, w) :: more
    else if name = other then (name, v) :: more
    else (other, w) :: putMember name v more

/-- An object with the given members. -/
def ofMembers (members : List (String × Value)) : Value :=
  .object (members.foldl (fun all m => putMember m.1 m.2 all) [])

/-- The member of an object with a given name. -/
def member? (name : String) : Value → Option Value
  | .object members => (members.find? fun m => m.1 == name).map (·.2)
  | _ => none

def text? : Value → Option String
  | .text s => some s
  | _ => none

end Value

mutual

/-- The value of a tree, with at most `room` levels of arrays and objects inside each other.
Of members with the same name the last one counts. -/
def Tree.value? (room : Nat) : Tree → Option Value
  | .null => some .null
  | .bool b => some (.bool b)
  | .number n => n.map .number
  | .text s => s.map .text
  | .array items =>
    match room with
    | 0 => none
    | room + 1 => (Tree.values? room items).map .array
  | .object members =>
    match room with
    | 0 => none
    | room + 1 => (Tree.members? room members).map Value.ofMembers

def Tree.values? (room : Nat) : List Tree → Option (List Value)
  | [] => some []
  | t :: ts =>
    match Tree.value? room t, Tree.values? room ts with
    | some v, some vs => some (v :: vs)
    | _, _ => none

def Tree.members? (room : Nat) : List (Option String × Tree) → Option (List (String × Value))
  | [] => some []
  | (name, t) :: more =>
    match name, Tree.value? room t, Tree.members? room more with
    | some name, some v, some vs => some ((name, v) :: vs)
    | _, _, _ => none

end

mutual

/-- The tree of a value. -/
def Value.tree : Value → Tree
  | .null => .null
  | .bool b => .bool b
  | .number n => .number (some n)
  | .text s => .text (some s)
  | .array items => .array (Value.trees items)
  | .object members => .object (Value.memberTrees members)

def Value.trees : List Value → List Tree
  | [] => []
  | v :: vs => v.tree :: Value.trees vs

def Value.memberTrees : List (String × Value) → List (Option String × Tree)
  | [] => []
  | (name, v) :: more => (some name, v.tree) :: Value.memberTrees more

end

end ChatBot.Json
