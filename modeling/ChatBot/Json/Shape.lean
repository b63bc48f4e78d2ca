-- Shapes of documents: which tree stands for a text, and how the fields of a
-- structure are found in an object or in an array.
import ChatBot.Json.Value

namespace ChatBot.Json

/-- Whether a field of a structure may be left out. -/
inductive Presence
  | required
  /-- May be missing from an object, but an array has to reach it. -/
  | optional
  /-- May be missing from an object, and an array may end before it. -/
  | defaulted
  deriving DecidableEq, Repr

/-- A field of a structure. -/
structure Field where
  name : String
  presence : Presence
  deriving DecidableEq, Repr

namespace Tree

/-- The members of an object that have a given name. -/
def named (name : String) (members : List (Option String × Tree)) : List Tree :=
  (members.filter fun m => m.1 == some name).map (·.2)

/-- A field of an object: there once, or not at all if it may be missing. -/
def fieldOf? (members : List (Option String × Tree)) (f : Field) : Option (Option Tree) :=
  match named f.name members with
  | [] => if f.presence = .required then none else some none
  | [t] => some (some t)
  | _ => none

/-- Fields of an array, in order. -/
def fieldsInOrder? : List Field → List Tree → Option (List (Option Tree))
  | [], [] => some []
  | [], _ :: _ => none
  | f :: fs, [] =>
    if f.presence = .defaulted then (fieldsInOrder? fs []).map (none :: ·) else none
  | _ :: fs, t :: ts => (fieldsInOrder? fs ts).map (some t :: ·)

/-- The fields of a structure, each with what stands for it. Members of other names do not
matter, but every name has to be a text. -/
def fields? (fs : List Field) : Tree → Option (List (Option Tree))
  | .object members =>
    if members.all (·.1.isSome) then fs.mapM (fieldOf? members) else none
  | .array items => fieldsInOrder? fs items
  | _ => none

/-- The text that a string stands for. -/
def text? : Tree → Option String
  | .text s => s
  | _ => none

/-- A text, or nothing: a field that is missing or null. -/
def textOrNull? : Option Tree → Option (Option String)
  | none => some none
  | some .null => some none
  | some t => t.text?.map some

/-- A field that has a value of its own when it is missing. -/
def orElse {α : Type} (missing : α) (read : Tree → Option α) : Option Tree → Option α
  | none => some missing
  | some t => read t

end Tree

end ChatBot.Json
