-- The messages of a batch: every event that is one, with its place in its timeline, and
-- nothing else. They come in the order of their rooms and of their places.
import Mathlib.Algebra.GroupWithZero.Nat
import ChatBot.Chat.Message
import ChatBot.Proofs.Chat.Rows

namespace ChatBot.Chat

variable {own : UserId} {room : RoomId} {position : Nat} {e : Event} {m : Inbound}

/-! ## One event -/

/-- With an event somebody else says something: its content is an object, and the body in it is
a text. -/
structure Says (own : UserId) (e : Event) (sender : UserId) (body : String) : Prop where
  type : e.type = "m.room.message"
  sentBy : e.sender = some sender
  notOwn : sender ≠ own
  content : e.content.member? "body" = some (.text body)

/-- An event that is a message of somebody else. -/
def IsMessage (own : UserId) (e : Event) : Prop := ∃ sender body, Says own e sender body

theorem body?_eq_some_iff {body : String} :
    e.body? = some body ↔ e.content.member? "body" = some (.text body) := by
  unfold Event.body?
  rw [Option.bind_eq_some_iff]
  constructor
  · rintro ⟨v, hv, htext⟩
    cases v with
    | text s =>
      cases htext
      exact hv
    | _ => cases htext
  · exact fun h => ⟨_, h, rfl⟩

theorem inbound?_eq_some_iff :
    inbound? own room position e = some m ↔
      Says own e m.sender m.body ∧ m.room = room ∧ m.position = position := by
  obtain ⟨mroom, msender, mbody, mposition⟩ := m
  unfold inbound?
  constructor
  · intro h
    split at h
    · rename_i htype
      split at h
      · rename_i sender body hsender hbody
        split at h
        · cases h
        · rename_i hother
          cases h
          exact ⟨⟨htype, hsender, hother, body?_eq_some_iff.1 hbody⟩, rfl, rfl⟩
      · cases h
    · cases h
  · rintro ⟨hspoken, rfl, rfl⟩
    have htype : e.type = messageType := hspoken.type
    rw [if_pos htype, hspoken.sentBy, body?_eq_some_iff.2 hspoken.content]
    exact if_neg hspoken.notOwn

theorem isSome_inbound?_iff (own : UserId) (room : RoomId) (position : Nat) (e : Event) :
    (inbound? own room position e).isSome ↔ IsMessage own e := by
  rw [Option.isSome_iff_exists]
  constructor
  · rintro ⟨m, hm⟩
    exact ⟨m.sender, m.body, (inbound?_eq_some_iff.1 hm).1⟩
  · rintro ⟨sender, body, hspoken⟩
    exact ⟨⟨room, sender, body, position⟩, inbound?_eq_some_iff.2 ⟨hspoken, rfl, rfl⟩⟩

instance (own : UserId) : DecidablePred (IsMessage own) := fun e =>
  decidable_of_iff _ (isSome_inbound?_iff own default 0 e)

/-! ## One timeline -/

theorem mem_roomMessages_iff {events : List Event} :
    m ∈ roomMessages own room position events ↔ m.room = room ∧ ∃ i e, events[i]? = some e ∧
      m.position = position + i ∧ Says own e m.sender m.body := by
  induction events generalizing position with
  | nil => simp [roomMessages]
  | cons e more ih =>
    unfold roomMessages
    rw [List.mem_append, Option.mem_toList, ih, inbound?_eq_some_iff]
    constructor
    · rintro (⟨hspoken, hroom, hposition⟩ | ⟨hroom, i, e', he', hposition, hspoken⟩)
      · exact ⟨hroom, 0, e, rfl, hposition, hspoken⟩
      · exact ⟨hroom, i + 1, e', he', by omega, hspoken⟩
    · rintro ⟨hroom, i, e', he', hposition, hspoken⟩
      cases i with
      | zero =>
        cases he'
        exact .inl ⟨hspoken, hroom, hposition⟩
      | succ i => exact .inr ⟨hroom, i, e', he', by omega, hspoken⟩

/-- The places of a timeline rise. -/
theorem pairwise_roomMessages (own : UserId) (room : RoomId) (position : Nat)
    (events : List Event) :
    (roomMessages own room position events).Pairwise fun m m' => m.position < m'.position := by
  induction events generalizing position with
  | nil => exact .nil
  | cons e more ih =>
    unfold roomMessages
    rw [List.pairwise_append]
    refine ⟨?_, ih (position + 1), ?_⟩
    · cases inbound? own room position e with
      | none => exact .nil
      | some m => exact List.pairwise_singleton _ m
    · intro m hm m' hm'
      obtain ⟨-, -, hposition⟩ := inbound?_eq_some_iff.1 (Option.mem_toList.1 hm)
      obtain ⟨-, i, e', -, hposition', -⟩ := mem_roomMessages_iff.1 hm'
      omega

theorem length_roomMessages (own : UserId) (room : RoomId) (position : Nat)
    (events : List Event) :
    (roomMessages own room position events).length =
      events.countP fun e => decide (IsMessage own e) := by
  induction events generalizing position with
  | nil => rfl
  | cons e more ih =>
    unfold roomMessages
    rw [List.length_append, ih, List.countP_cons, Nat.add_comm]
    congr 1
    have hsome := isSome_inbound?_iff own room position e
    cases hin : inbound? own room position e with
    | none =>
      rw [hin] at hsome
      simp [← hsome]
    | some m =>
      rw [hin] at hsome
      simp [← hsome]

/-! ## A batch -/

/-- One message comes before another: its room comes first by the bytes of the ids, or it stands
first in the timeline of the same room. -/
def Inbound.Before (m m' : Inbound) : Prop :=
  Text.utf8Bytes m.room.text.toList < Text.utf8Bytes m'.room.text.toList ∨
    m.room = m'.room ∧ m.position < m'.position

theorem mem_inboundMessages_iff {b : Batch} :
    m ∈ inboundMessages b own ↔ ∃ events e, (m.room, events) ∈ b.joined.rows ∧
      events[m.position]? = some e ∧ Says own e m.sender m.body := by
  unfold inboundMessages
  rw [List.mem_flatMap]
  constructor
  · rintro ⟨row, hrow, hm⟩
    obtain ⟨hroom, i, e, he, hposition, hspoken⟩ := mem_roomMessages_iff.1 hm
    rw [Nat.zero_add] at hposition
    exact ⟨row.2, e, hroom ▸ hrow, hposition ▸ he, hspoken⟩
  · rintro ⟨events, e, hrow, he, hspoken⟩
    exact ⟨_, hrow, mem_roomMessages_iff.2 ⟨rfl, m.position, e, he, (Nat.zero_add _).symm, hspoken⟩⟩

theorem pairwise_inboundMessages (b : Batch) (own : UserId) :
    (inboundMessages b own).Pairwise Inbound.Before := by
  unfold inboundMessages
  rw [List.pairwise_flatMap]
  constructor
  · intro row _
    refine (pairwise_roomMessages own row.1 0 row.2).imp_of_mem fun hm hm' hlt => .inr ⟨?_, hlt⟩
    rw [(mem_roomMessages_iff.1 hm).1, (mem_roomMessages_iff.1 hm').1]
  · refine b.joined.pairwise_utf8Bytes.imp fun hlt m hm m' hm' => .inl ?_
    rwa [(mem_roomMessages_iff.1 hm).1, (mem_roomMessages_iff.1 hm').1]

theorem length_inboundMessages (b : Batch) (own : UserId) :
    (inboundMessages b own).length =
      (b.joined.rows.map fun row => row.2.countP fun e => decide (IsMessage own e)).sum := by
  unfold inboundMessages
  rw [List.length_flatMap]
  simp only [length_roomMessages]

end ChatBot.Chat
