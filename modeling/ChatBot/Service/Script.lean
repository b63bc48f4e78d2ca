-- A homeserver that answers from prepared lists, one item per call.
import ChatBot.Service.Homeserver

namespace ChatBot.Service

open Chat (UserId RoomId Auth Batch)

/-- The answers to come, and the call that brings the request to stop: the last of a number
of calls of one kind. -/
structure Script where
  register : List (Except Fault Auth)
  login : List (Except Fault Auth)
  setDisplayName : List (Except Fault Unit)
  createRoom : List (Except Fault RoomId)
  sendText : List (Except Fault Unit × Nat)
  sync : List (Except Fault Batch × Nat)
  stopAt : Option (CallKind × Nat)

namespace Script

variable {α : Type}

/-- Counts a call down to the one that brings the request to stop, and says whether this is
the one. -/
def countDown (kind : CallKind) (s : Script) : Bool × Script :=
  match s.stopAt with
  | some (k, n) =>
    if k = kind then (n == 1, { s with stopAt := some (k, n - 1) }) else (false, s)
  | none => (false, s)

/-- The first of the answers to come, or another one if there is none. -/
def first (missing : α) : List α → α × List α
  | [] => (missing, [])
  | a :: more => (a, more)

/-- The room that is created when the script does not say which. -/
def demoRoom : RoomId := ⟨"!demo:hs"⟩

/-- Without answers to come, polls bring the request to stop and nothing else, nobody can
register or log in, and all else succeeds. -/
def homeserver : Homeserver Script where
  register _ s :=
    let (stops, s) := s.countDown .register
    let (result, more) := first (.error (.transport "no scripted register")) s.register
    (⟨result, 0, stops⟩, { s with register := more })
  login _ s :=
    let (stops, s) := s.countDown .login
    let (result, more) := first (.error (.transport "no scripted login")) s.login
    (⟨result, 0, stops⟩, { s with login := more })
  setDisplayName _ _ _ s :=
    let (stops, s) := s.countDown .setDisplayName
    let (result, more) := first (.ok ()) s.setDisplayName
    (⟨result, 0, stops⟩, { s with setDisplayName := more })
  createRoom _ _ _ s :=
    let (stops, s) := s.countDown .createRoom
    let (result, more) := first (.ok demoRoom) s.createRoom
    (⟨result, 0, stops⟩, { s with createRoom := more })
  sendText _ _ _ s :=
    let (stops, s) := s.countDown .sendText
    let ((result, delay), more) := first (.ok (), 0) s.sendText
    (⟨result, delay, stops⟩, { s with sendText := more })
  sync _ _ s :=
    let (stops, s) := s.countDown .sync
    match s.sync with
    | [] => (⟨.error .timeout, 0, true⟩, s)
    | (result, delay) :: more => (⟨result, delay, stops⟩, { s with sync := more })

/-- Counting down leaves all answers to come. -/
@[simp] theorem countDown_sync (kind : CallKind) (s : Script) :
    (s.countDown kind).2.sync = s.sync := by
  unfold countDown
  split
  · split <;> rfl
  · rfl

end Script

end ChatBot.Service
