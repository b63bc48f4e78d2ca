-- The rooms of the bot, by all the times a room was named to it: there is one row for
-- each room, made at the first time, and the first name that was given stays.
import Mathlib.Data.List.Dedup
import ChatBot.Proofs.State.Rooms

namespace ChatBot

/-! ## Tables, by their rooms -/

namespace Chat.ByRoom

variable {α : Type}

theorem mem_rooms (m : ByRoom α) (room : RoomId) :
    room ∈ m.rooms ↔ (m.find? room).isSome = true := by
  unfold rooms find?
  rw [Option.isSome_map, List.find?_isSome, List.mem_map]
  constructor
  · rintro ⟨row, hrow, rfl⟩
    exact ⟨row, hrow, beq_self_eq_true row.1⟩
  · rintro ⟨row, hrow, hsame⟩
    exact ⟨row, hrow, eq_of_beq hsame⟩

theorem nodup_rooms (m : ByRoom α) : m.rooms.Nodup := by
  apply List.pairwise_map.2
  apply m.rising.imp
  intro row row' hlt heq
  rw [heq] at hlt
  exact RoomId.lt_irrefl _ hlt

theorem length_rooms (m : ByRoom α) : m.rooms.length = m.rows.length := List.length_map ..

/-- A change makes a row for a room that has none. -/
theorem length_alter (m : ByRoom α) (room : RoomId) (change : Option α → α) :
    (m.alter room change).rows.length =
      if (m.find? room).isSome then m.rows.length else m.rows.length + 1 := by
  have hmem : ∀ other, other ∈ (m.alter room change).rooms ↔ other = room ∨ other ∈ m.rooms := by
    intro other
    rw [mem_rooms, mem_rooms, find?_alter]
    by_cases h : other = room
    · simp [h]
    · simp [h]
  rw [← length_rooms, ← length_rooms]
  split
  · rename_i hknown
    apply List.Perm.length_eq
    rw [List.perm_ext_iff_of_nodup (nodup_rooms _) (nodup_rooms _)]
    intro other
    rw [hmem, or_iff_right_of_imp]
    rintro rfl
    exact (mem_rooms m other).2 hknown
  · rename_i hnew
    have hcons : (room :: m.rooms).Nodup :=
      List.nodup_cons.2 ⟨fun hroom => hnew ((mem_rooms m room).1 hroom), nodup_rooms m⟩
    have hperm : (m.alter room change).rooms.Perm (room :: m.rooms) := by
      rw [List.perm_ext_iff_of_nodup (nodup_rooms _) hcons]
      intro other
      rw [hmem, List.mem_cons]
    exact hperm.length_eq

end Chat.ByRoom

namespace State

open Chat (RoomId ByRoom)

/-! ## Counts -/

theorem countP_concat {α : Type} (p : α → Bool) (as : List α) (a : α) :
    (as ++ [a]).countP p = as.countP p + if p a then 1 else 0 := by
  rw [List.countP_append, List.countP_singleton]

/-- Counters go on from where they are. They are 64 bits wide, as the numbers are that they show. -/
theorem ofNat_add_one_if (count : Nat) (more : Bool) :
    UInt64.ofNat (count + if more then 1 else 0) =
      if more then UInt64.ofNat count + 1 else UInt64.ofNat count := by
  cases more with
  | true => exact UInt64.ofNat_add count 1
  | false => rfl

/-! ## Mentions -/

/-- A room is named to the bot, and perhaps also what it is called. -/
structure Mention where
  room : RoomId
  name : Option String
  time : Nat

/-- What a row says after a room was named so often: the first name that was given, and the minute
of the first time. -/
def row? (clock : Nat → Moment) (ms : List Mention) (room : RoomId) : Option RoomInfo :=
  match ms.filter (·.room = room) with
  | [] => none
  | first :: more => some ⟨(first :: more).findSome? Mention.name, (clock first.time).minute⟩

variable {clock : Nat → Moment}

theorem isSome_row? (ms : List Mention) (room : RoomId) :
    (row? clock ms room).isSome = true ↔ room ∈ ms.map Mention.room := by
  unfold row?
  rw [List.mem_map]
  split
  · rename_i hnone
    have habsent := List.filter_eq_nil_iff.1 hnone
    simp only [Option.isSome_none, Bool.false_eq_true, false_iff]
    rintro ⟨m, hm, hroom⟩
    exact habsent m hm (by simpa using hroom)
  · rename_i first more hsome
    have hfirst : first ∈ ms.filter (·.room = room) := by
      rw [hsome]
      exact List.mem_cons_self
    obtain ⟨hmem, hroom⟩ := List.mem_filter.1 hfirst
    simp only [Option.isSome_some, true_iff]
    exact ⟨first, hmem, of_decide_eq_true hroom⟩

/-- More mentions leave a row where it is, and name it if it has no name. -/
theorem row?_append {ms : List Mention} {room : RoomId} {info : RoomInfo}
    (h : row? clock ms room = some info) (more : List Mention) :
    ∃ name, row? clock (ms ++ more) room = some { info with name := info.name.or name } := by
  unfold row? at h ⊢
  rw [List.filter_append]
  split at h
  · cases h
  · rename_i first others hfilter
    rw [hfilter, List.cons_append]
    cases h
    refine ⟨(more.filter (·.room = room)).findSome? Mention.name, ?_⟩
    dsimp only
    rw [← List.findSome?_append, List.cons_append]

/-- The row after one more mention is what the table makes of it. -/
theorem row?_concat (ms : List Mention) (m : Mention) (room : RoomId) :
    row? clock (ms ++ [m]) room =
      if room = m.room then some (RoomTable.renamed m.name (clock m.time) (row? clock ms room))
      else row? clock ms room := by
  unfold row?
  rw [List.filter_append]
  by_cases h : room = m.room
  · have hm : [m].filter (·.room = room) = [m] := by simp [h]
    rw [hm, if_pos h]
    cases ms.filter (·.room = room) with
    | nil => cases hname : m.name <;> simp [RoomTable.renamed, hname]
    | cons first more =>
      dsimp only [List.cons_append, RoomTable.renamed]
      rw [← List.cons_append, List.findSome?_append]
      cases hname : m.name <;> simp [hname]
  · have hm : [m].filter (·.room = room) = [] := by simpa using fun heq => h heq.symm
    rw [hm, if_neg h, List.append_nil]

/-! ## States, by the mentions -/

/-- Two states that differ at most in their rooms and in the count of them. -/
structure SameButRooms (s t : BotState) : Prop where
  startedAt : t.startedAt = s.startedAt
  messagesSent : t.counters.messagesSent = s.counters.messagesSent
  commandsProcessed : t.counters.commandsProcessed = s.counters.commandsProcessed

theorem sameButRooms_noteRoom (s : BotState) (room : RoomId) (name : Option String)
    (now : Moment) : SameButRooms s (s.noteRoom room name now) := by
  rw [BotState.noteRoom_eq]
  dsimp only
  split
  · exact ⟨rfl, rfl, rfl⟩
  · exact ⟨rfl, rfl, rfl⟩

theorem sameButRooms_noteAll (s : BotState) (rooms : List RoomId) (now : Moment) :
    SameButRooms s (s.noteAll rooms now) := by
  unfold BotState.noteAll
  induction rooms generalizing s with
  | nil => exact ⟨rfl, rfl, rfl⟩
  | cons room more ih =>
    have hroom := sameButRooms_noteRoom s room none now
    have hmore := ih (s.noteRoom room none now)
    exact ⟨hmore.startedAt.trans hroom.startedAt, hmore.messagesSent.trans hroom.messagesSent,
      hmore.commandsProcessed.trans hroom.commandsProcessed⟩

/-- The table of a state holds what was mentioned, and its rows are counted. -/
structure Mentioned (clock : Nat → Moment) (ms : List Mention) (s : BotState) : Prop where
  row : ∀ room, s.rooms.find? room = row? clock ms room
  count : s.counters.roomsJoined = .ofNat s.rooms.rows.length

namespace Mentioned

variable {ms : List Mention} {s : BotState}

/-- There is one row for each room that was mentioned. -/
theorem rooms (h : Mentioned clock ms s) : s.rooms.rooms.Perm (ms.map Mention.room).dedup := by
  rw [List.perm_ext_iff_of_nodup s.rooms.nodup_rooms (List.nodup_dedup _)]
  intro room
  rw [ByRoom.mem_rooms, h.row, isSome_row?, List.mem_dedup]

theorem fresh (clock : Nat → Moment) (startedAt : Int) :
    Mentioned clock [] (.fresh startedAt) := ⟨fun _ => rfl, rfl⟩

theorem noteRoom (h : Mentioned clock ms s) (m : Mention) :
    Mentioned clock (ms ++ [m]) (s.noteRoom m.room m.name (clock m.time)) := by
  constructor
  · intro room
    rw [BotState.rooms_noteRoom, ByRoom.find?_alter, row?_concat, h.row, h.row]
    split
    · rename_i heq
      rw [heq]
    · rfl
  · have hlength := s.rooms.length_alter m.room (RoomTable.renamed m.name (clock m.time))
    rw [BotState.noteRoom_eq]
    dsimp only
    split
    · rename_i hknown
      rw [if_pos hknown] at hlength
      dsimp only
      rw [hlength, h.count]
    · rename_i hnew
      rw [if_neg hnew] at hlength
      dsimp only [BotState.countRoom]
      rw [hlength, h.count, UInt64.ofNat_add]
      rfl

theorem noteAll (h : Mentioned clock ms s) (rooms : List RoomId) (time : Nat) :
    Mentioned clock (ms ++ rooms.map (⟨·, none, time⟩)) (s.noteAll rooms (clock time)) := by
  unfold BotState.noteAll
  induction rooms generalizing ms s with
  | nil => simpa using h
  | cons room more ih =>
    have hmore := ih (h.noteRoom ⟨room, none, time⟩)
    rwa [List.append_assoc] at hmore

end Mentioned

end State

end ChatBot
