-- The shapes of the documents of a homeserver: which documents are batches and
-- credentials, and what each stands for. What is read is just what has the shape.
import ChatBot.Chat.Document
import ChatBot.Proofs.Chat.Rows
import ChatBot.Proofs.Json.Values

namespace ChatBot.Chat

open Json (Tree Field)
open Json.Tree (Lays Part IsText IsTextOrNull)

/-! ## Shapes -/

def eventFields : List Field :=
  [⟨"type", .defaulted⟩, ⟨"sender", .defaulted⟩, ⟨"event_id", .defaulted⟩, ⟨"content", .defaulted⟩]

def batchFields : List Field := [⟨"next_batch", .required⟩, ⟨"rooms", .defaulted⟩]

def authFields : List Field :=
  [⟨"user_id", .required⟩, ⟨"access_token", .required⟩, ⟨"device_id", .defaulted⟩]

/-- A structure of one field, which may be left out. -/
def IsOnly {α : Type} (name : String) (missing : α) (Is : Tree → α → Prop) (t : Tree) (a : α) :
    Prop :=
  ∃ part, Lays [⟨name, .defaulted⟩] t [part] ∧ Part missing Is part a

/-- Any document may be content, within the limits of numbers, texts and levels. It has 120 levels
of its own: 127 less the seven around it. -/
def IsContent (t : Tree) (v : Json.Value) : Prop := Tree.Means 120 t v

def IsEvent (t : Tree) (e : Event) : Prop :=
  ∃ type sender eventId content, Lays eventFields t [type, sender, eventId, content] ∧
    Part "" IsText type e.type ∧
    Part none IsTextOrNull sender (e.sender.map UserId.text) ∧
    Part none IsTextOrNull eventId e.eventId ∧
    Part .null IsContent content e.content

/-- Events in an array. -/
def IsEvents (t : Tree) (es : List Event) : Prop :=
  ∃ items, t = .array items ∧ List.Forall₂ IsEvent items es

def IsTimeline : Tree → List Event → Prop := IsOnly "events" [] IsEvents

def IsRoom : Tree → List Event → Prop := IsOnly "timeline" [] IsTimeline

/-- A member of the rooms: its name is the id of the room. -/
def IsRow (m : Option String × Tree) (row : RoomId × List Event) : Prop :=
  m.1 = some row.1.text ∧ IsRoom m.2 row.2

/-- Rooms in an object. Of a room that is given more than once the last member counts. -/
def IsJoined (t : Tree) (rooms : ByRoom (List Event)) : Prop :=
  ∃ members rows, t = .object members ∧ List.Forall₂ IsRow members rows ∧ rooms.Collects rows

def IsRooms : Tree → ByRoom (List Event) → Prop := IsOnly "join" .empty IsJoined

def IsBatch (t : Tree) (b : Batch) : Prop :=
  ∃ next rooms, Lays batchFields t [some next, rooms] ∧ IsText next b.next.text ∧
    Part .empty IsRooms rooms b.joined

def IsAuth (t : Tree) (a : Auth) : Prop :=
  ∃ userId accessToken deviceId, Lays authFields t [some userId, some accessToken, deviceId] ∧
    IsText userId a.userId.text ∧ IsText accessToken a.accessToken.text ∧
    Part none IsTextOrNull deviceId (a.deviceId.map DeviceId.text)

/-! ## What is read has the shape -/

theorem onlyField?_eq_some_iff {α : Type} {name : String} {missing : α} {read : Tree → Option α}
    {Is : Tree → α → Prop} (h : ∀ t a, read t = some a ↔ Is t a) (t : Tree) (a : α) :
    onlyField? name missing read t = some a ↔ IsOnly name missing Is t a := by
  unfold onlyField? IsOnly
  constructor
  · intro hread
    split at hread
    · rename_i part hpart
      exact ⟨part, Tree.fields?_eq_some_iff.1 hpart, (Tree.orElse_eq_some_iff h).1 hread⟩
    · cases hread
  · rintro ⟨part, hlays, hpart⟩
    rw [Tree.fields?_eq_some_iff.2 hlays]
    exact (Tree.orElse_eq_some_iff h).2 hpart

theorem content_eq_some_iff (t : Tree) (v : Json.Value) :
    t.value? contentLevels = some v ↔ IsContent t v := Tree.value?_eq_some_iff

theorem event_eq_some_iff (t : Tree) (e : Event) : Event.ofTree? t = some e ↔ IsEvent t e := by
  unfold Event.ofTree? IsEvent
  constructor
  · intro h
    split at h
    · rename_i type sender eventId content hfields
      obtain ⟨s, hs, h⟩ := Option.bind_eq_some_iff.1 h
      obtain ⟨from', hfrom, h⟩ := Option.bind_eq_some_iff.1 h
      obtain ⟨id, hid, h⟩ := Option.bind_eq_some_iff.1 h
      obtain ⟨v, hv, h⟩ := Option.bind_eq_some_iff.1 h
      cases h
      refine ⟨type, sender, eventId, content, Tree.fields?_eq_some_iff.1 hfields,
        (Tree.orElse_eq_some_iff fun _ _ => Tree.text?_eq_some_iff).1 hs, ?_,
        Tree.textOrNull?_eq_some_iff.1 hid, (Tree.orElse_eq_some_iff content_eq_some_iff).1 hv⟩
      have hsame : (from'.map UserId.mk).map UserId.text = from' := by cases from' <;> rfl
      rw [hsame]
      exact Tree.textOrNull?_eq_some_iff.1 hfrom
    · cases h
  · rintro ⟨type, sender, eventId, content, hlays, htype, hsender, hid, hcontent⟩
    have hfields := Tree.fields?_eq_some_iff.2 hlays
    unfold eventFields at hfields
    rw [hfields]
    dsimp only
    rw [(Tree.orElse_eq_some_iff fun _ _ => Tree.text?_eq_some_iff).2 htype,
      Tree.textOrNull?_eq_some_iff.2 hsender, Tree.textOrNull?_eq_some_iff.2 hid,
      (Tree.orElse_eq_some_iff content_eq_some_iff).2 hcontent]
    obtain ⟨_, from', _, _⟩ := e
    cases from' <;> rfl

theorem events_eq_some_iff (t : Tree) (es : List Event) :
    Event.listOfTree? t = some es ↔ IsEvents t es := by
  unfold Event.listOfTree? IsEvents
  constructor
  · intro h
    split at h
    · rename_i items
      exact ⟨items, rfl, (mapM_eq_some_iff.1 h).imp fun t e => (event_eq_some_iff t e).1⟩
    · cases h
  · rintro ⟨items, rfl, hitems⟩
    exact mapM_eq_some_iff.2 (hitems.imp fun t e => (event_eq_some_iff t e).2)

theorem roomEvents?_eq_some_iff (t : Tree) (es : List Event) :
    roomEvents? t = some es ↔ IsRoom t es :=
  onlyField?_eq_some_iff (onlyField?_eq_some_iff events_eq_some_iff) t es

/-- A member of the rooms, read as a row. -/
def rowOf? (m : Option String × Tree) : Option (RoomId × List Event) := do
  let id ← m.1
  let events ← roomEvents? m.2
  return (RoomId.mk id, events)

theorem rowOf?_eq_some_iff (m : Option String × Tree) (row : RoomId × List Event) :
    rowOf? m = some row ↔ IsRow m row := by
  obtain ⟨name, t⟩ := m
  obtain ⟨⟨id⟩, es⟩ := row
  unfold IsRow
  rw [← roomEvents?_eq_some_iff]
  unfold rowOf?
  cases name with
  | none => simp
  | some name => cases roomEvents? t <;> simp

theorem joinedRooms?_object (members : List (Option String × Tree)) :
    joinedRooms? (.object members) = (members.mapM rowOf?).map ByRoom.ofList := by
  change (members.mapM rowOf?).bind (fun rows => some (ByRoom.ofList rows)) = _
  cases members.mapM rowOf? <;> rfl

theorem joinedRooms?_eq_some_iff (t : Tree) (rooms : ByRoom (List Event)) :
    joinedRooms? t = some rooms ↔ IsJoined t rooms := by
  constructor
  · intro h
    match t with
    | .object members =>
      rw [joinedRooms?_object] at h
      obtain ⟨rows, hrows, hrooms⟩ := Option.map_eq_some_iff.1 h
      exact ⟨members, rows, rfl, (mapM_eq_some_iff.1 hrows).imp fun m row => (rowOf?_eq_some_iff m row).1,
        (ByRoom.collects_iff rows rooms).2 hrooms⟩
    | .null | .bool _ | .number _ | .text _ | .array _ => cases h
  · rintro ⟨members, rows, rfl, hrows, hrooms⟩
    have hread := mapM_eq_some_iff.2 (hrows.imp fun m row => (rowOf?_eq_some_iff m row).2)
    rw [joinedRooms?_object, hread, Option.map_some, (ByRoom.collects_iff rows rooms).1 hrooms]

theorem rooms_eq_some_iff (t : Tree) (rooms : ByRoom (List Event)) :
    onlyField? "join" .empty joinedRooms? t = some rooms ↔ IsRooms t rooms :=
  onlyField?_eq_some_iff joinedRooms?_eq_some_iff t rooms

theorem batch_eq_some_iff (t : Tree) (b : Batch) : Batch.ofTree? t = some b ↔ IsBatch t b := by
  unfold Batch.ofTree? IsBatch
  constructor
  · intro h
    split at h
    · rename_i next rooms hfields
      obtain ⟨s, hs, h⟩ := Option.bind_eq_some_iff.1 h
      obtain ⟨joined, hjoined, h⟩ := Option.bind_eq_some_iff.1 h
      cases h
      exact ⟨next, rooms, Tree.fields?_eq_some_iff.1 hfields, Tree.text?_eq_some_iff.1 hs,
        (Tree.orElse_eq_some_iff rooms_eq_some_iff).1 hjoined⟩
    · cases h
  · rintro ⟨next, rooms, hlays, hnext, hrooms⟩
    have hfields := Tree.fields?_eq_some_iff.2 hlays
    unfold batchFields at hfields
    rw [hfields]
    dsimp only
    rw [Tree.text?_eq_some_iff.2 hnext, (Tree.orElse_eq_some_iff rooms_eq_some_iff).2 hrooms]
    rfl

theorem auth_eq_some_iff (t : Tree) (a : Auth) : Auth.ofTree? t = some a ↔ IsAuth t a := by
  unfold Auth.ofTree? IsAuth
  constructor
  · intro h
    split at h
    · rename_i userId accessToken deviceId hfields
      obtain ⟨user, huser, h⟩ := Option.bind_eq_some_iff.1 h
      obtain ⟨token, htoken, h⟩ := Option.bind_eq_some_iff.1 h
      obtain ⟨device, hdevice, h⟩ := Option.bind_eq_some_iff.1 h
      cases h
      refine ⟨userId, accessToken, deviceId, Tree.fields?_eq_some_iff.1 hfields,
        Tree.text?_eq_some_iff.1 huser, Tree.text?_eq_some_iff.1 htoken, ?_⟩
      have hsame : (device.map DeviceId.mk).map DeviceId.text = device := by cases device <;> rfl
      rw [hsame]
      exact Tree.textOrNull?_eq_some_iff.1 hdevice
    · cases h
  · rintro ⟨userId, accessToken, deviceId, hlays, huser, htoken, hdevice⟩
    have hfields := Tree.fields?_eq_some_iff.2 hlays
    unfold authFields at hfields
    rw [hfields]
    dsimp only
    rw [Tree.text?_eq_some_iff.2 huser, Tree.text?_eq_some_iff.2 htoken,
      Tree.textOrNull?_eq_some_iff.2 hdevice]
    obtain ⟨_, _, device⟩ := a
    cases device <;> rfl

end ChatBot.Chat
