-- The names that things have on a homeserver. All are opaque texts.

namespace ChatBot.Chat

/-- A full user id, such as `@name:server`. -/
structure UserId where
  text : String
  deriving DecidableEq, Repr, Inhabited

/-- A room id, such as `!opaque:server`. -/
structure RoomId where
  text : String
  deriving DecidableEq, Repr, Inhabited

structure DeviceId where
  text : String
  deriving DecidableEq, Repr, Inhabited

/-- The credential that every call after the login carries. -/
structure AccessToken where
  text : String
  deriving DecidableEq, Inhabited

/-- What is shown of an access token: never the token itself. -/
def AccessToken.shown (_ : AccessToken) : String := "AccessToken(***)"

/-- A position in the event stream of a homeserver. -/
structure SyncToken where
  text : String
  deriving DecidableEq, Repr, Inhabited

/-- Rooms are put in order by the UTF-8 bytes of their ids, which is the order of their code
points. -/
instance : LT RoomId := ⟨fun a b => a.text < b.text⟩

instance (a b : RoomId) : Decidable (a < b) := inferInstanceAs (Decidable (a.text < b.text))

namespace RoomId

theorem lt_trans {a b c : RoomId} (h : a < b) (h' : b < c) : a < c := String.lt_trans h h'

theorem lt_irrefl (a : RoomId) : ¬ a < a := String.lt_irrefl a.text

theorem lt_of_not_lt_of_ne {a b : RoomId} (h : ¬ a < b) (hne : a ≠ b) : b < a := by
  have hne' : a.text ≠ b.text := fun h => hne (by cases a; cases b; simp_all)
  exact show b.text < a.text from Std.lt_of_le_of_ne (String.not_lt.1 h) (Ne.symm hne')

end RoomId

end ChatBot.Chat
