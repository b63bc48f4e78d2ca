-- Rooms in the state of the bot. Noting a room puts it into the table and
-- takes none out.
import ChatBot.State.BotState

namespace ChatBot

/-- A change that leaves the entry of a room as it is leaves all as it is. -/
theorem Chat.ByRoom.alter_eq_self {α : Type} {m : ByRoom α} {room : RoomId} {a : α}
    {change : Option α → α} (h : m.find? room = some a) (hchange : change (some a) = a) :
    m.alter room change = m := by
  obtain ⟨rows, hrising⟩ := m
  unfold find? at h
  unfold alter
  congr 1
  dsimp only at h ⊢
  induction rows with
  | nil => cases h
  | cons row more ih =>
    obtain ⟨other, b⟩ := row
    unfold alterRows
    split
    · -- all rooms from here on come later
      rename_i hlt
      have habsent : ((other, b) :: more).find? (fun row => row.1 == room) = none :=
        List.find?_eq_none.2 fun row hrow => by simpa using ne_of_mem_of_lt hrising hlt row hrow
      rw [habsent] at h
      cases h
    · split
      · rename_i heq
        subst heq
        simp only [List.find?_cons, beq_self_eq_true, Option.map_some, Option.some.injEq] at h
        rw [h, hchange]
      · rename_i hne
        have hne' : (other == room) = false := by simpa using fun heq => hne heq.symm
        rw [List.find?_cons, hne'] at h
        rw [ih (List.pairwise_cons.1 hrising).2 h]

namespace State.BotState

open Chat (RoomId ByRoom)

/-- Noting a room counts it only if it was not known. -/
theorem noteRoom_eq (s : BotState) (room : RoomId) (name : Option String) (now : Moment) :
    s.noteRoom room name now =
      let entered := { s with rooms := s.rooms.alter room (RoomTable.renamed name now) }
      if (s.rooms.find? room).isSome then entered else entered.countRoom := by
  unfold noteRoom insertRoom RoomTable.insert
  cases s.rooms.find? room with
  | none => rfl
  | some info => rfl

theorem rooms_noteRoom (s : BotState) (room : RoomId) (name : Option String) (now : Moment) :
    (s.noteRoom room name now).rooms = s.rooms.alter room (RoomTable.renamed name now) := by
  rw [noteRoom_eq]
  dsimp only
  split
  · rfl
  · rfl

/-- Once noted, a room is known, and so are all rooms that were known before. -/
theorem isSome_find?_noteRoom (s : BotState) (noted : RoomId) (name : Option String)
    (now : Moment) (room : RoomId) :
    ((s.noteRoom noted name now).rooms.find? room).isSome =
      (decide (room = noted) || (s.rooms.find? room).isSome) := by
  rw [rooms_noteRoom, ByRoom.find?_alter]
  by_cases h : room = noted
  · simp [h]
  · simp [h]

/-- The state after rooms were noted, one after the other, without names. -/
def noteAll (rooms : List RoomId) (now : Moment) (s : BotState) : BotState :=
  rooms.foldl (fun s room => s.noteRoom room none now) s

theorem isSome_find?_noteAll (rooms : List RoomId) (now : Moment) (s : BotState) (room : RoomId) :
    ((s.noteAll rooms now).rooms.find? room).isSome =
      (decide (room ∈ rooms) || (s.rooms.find? room).isSome) := by
  induction rooms generalizing s with
  | nil => simp [noteAll]
  | cons noted more ih =>
    have hmore := ih (s.noteRoom noted none now)
    unfold noteAll at hmore ⊢
    rw [List.foldl_cons, hmore, isSome_find?_noteRoom]
    by_cases h : room = noted
    · simp [h]
    · simp [h]

/-- A room that is known is not changed by noting it once more without a name. -/
theorem noteRoom_of_known {s : BotState} {room : RoomId} (h : (s.rooms.find? room).isSome = true)
    (now : Moment) : s.noteRoom room none now = s := by
  obtain ⟨info, hinfo⟩ := Option.isSome_iff_exists.1 h
  have hchange : RoomTable.renamed none now (some info) = info := by
    dsimp only [RoomTable.renamed]
    rw [Option.or_none]
  rw [noteRoom_eq, if_pos h, ByRoom.alter_eq_self hinfo hchange]

theorem noteAll_of_known {s : BotState} {rooms : List RoomId}
    (h : ∀ room ∈ rooms, (s.rooms.find? room).isSome = true) (now : Moment) :
    s.noteAll rooms now = s := by
  unfold noteAll
  induction rooms with
  | nil => rfl
  | cons room more ih =>
    rw [List.foldl_cons, noteRoom_of_known (h room List.mem_cons_self)]
    exact ih fun other hother => h other (List.mem_cons_of_mem room hother)

/-- A room that is known keeps its entry when rooms are noted without names. -/
theorem find?_noteAll_of_known {s : BotState} {room : RoomId} {info : RoomInfo}
    (h : s.rooms.find? room = some info) (rooms : List RoomId) (now : Moment) :
    (s.noteAll rooms now).rooms.find? room = some info := by
  unfold noteAll
  induction rooms generalizing s with
  | nil => exact h
  | cons noted more ih =>
    apply ih
    dsimp only
    by_cases hroom : room = noted
    · subst hroom
      rw [noteRoom_of_known (Option.isSome_of_eq_some h)]
      exact h
    · rw [rooms_noteRoom, ByRoom.find?_alter, if_neg hroom]
      exact h

end State.BotState

end ChatBot
