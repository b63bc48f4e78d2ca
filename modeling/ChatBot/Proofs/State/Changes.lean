-- The state of a bot by all that was done to it. Its counts are numbers of changes. Its table
-- has a row for each room that was named, and a note counts its room only if neither a note
-- nor an entry named the room before.
import ChatBot.Proofs.Chat.Rows
import ChatBot.Proofs.Command.Known

namespace ChatBot.State

open Chat (RoomId ByRoom)
open Command (dispatch isKnown sameToken)

/-! ## Changes -/

/-- What may be done to the state of a bot. -/
inductive Change
  | dispatched (c : Chat.Command) (time : Nat) (draws : Draws)
  | noted (m : Mention)
  /-- A room is entered into the table, and its count is left alone. -/
  | entered (m : Mention)
  | messageCounted
  | commandCounted
  | roomCounted

namespace Change

/-- The room that is named. -/
def mention? : Change → Option Mention
  | noted m => some m
  | entered m => some m
  | _ => none

def countsMessage : Change → Bool
  | messageCounted => true
  | _ => false

/-- Commands are counted when they are dispatched and known, and by themselves. -/
def countsCommand : Change → Bool
  | dispatched c _ _ => isKnown c.token
  | commandCounted => true
  | _ => false

end Change

namespace BotState

def change (clock : Nat → Moment) (s : BotState) : Change → BotState
  | .dispatched c time draws => (dispatch c s (clock time) draws).2.1
  | .noted m => s.noteRoom m.room m.name (clock m.time)
  | .entered m => (s.insertRoom m.room m.name (clock m.time)).2
  | .messageCounted => s.countMessage
  | .commandCounted => s.countCommand
  | .roomCounted => s.countRoom

def after (clock : Nat → Moment) (s : BotState) (changes : List Change) : BotState :=
  changes.foldl (·.change clock ·) s

end BotState

/-! ## What a state is told by -/

/-- The mentions of rooms, in their order. -/
def mentionsOf (changes : List Change) : List Mention := changes.filterMap Change.mention?

/-- The rooms that were named, as often as they were. -/
def roomsNamed (changes : List Change) : List RoomId := (mentionsOf changes).map Mention.room

/-- Rooms are counted when they are noted and were not named before, and by themselves. -/
def Change.countsRoom (before : List Change) : Change → Bool
  | noted m => decide (m.room ∉ roomsNamed before)
  | roomCounted => true
  | _ => false

/-- How many of the changes count a room. -/
def roomsCounted (changes : List Change) : Nat :=
  (List.range changes.length).countP fun place =>
    (changes[place]?).any (·.countsRoom (changes.take place))

/-- A state in closed form. The counters are 64 bits wide. -/
structure Told (clock : Nat → Moment) (startedAt : Int) (changes : List Change) (s : BotState) :
    Prop where
  startedAt : s.startedAt = startedAt
  messagesSent : s.counters.messagesSent = .ofNat (changes.countP Change.countsMessage)
  commandsProcessed : s.counters.commandsProcessed = .ofNat (changes.countP Change.countsCommand)
  roomsJoined : s.counters.roomsJoined = .ofNat (roomsCounted changes)
  /-- A row says the first name that was given, and when the room was first named. -/
  rows : ∀ room, s.rooms.find? room = row? clock (mentionsOf changes) room

/-! ## One change -/

variable {clock : Nat → Moment} {startedAt : Int} {changes : List Change} {s : BotState}

theorem mentionsOf_concat (changes : List Change) (d : Change) :
    mentionsOf (changes ++ [d]) = mentionsOf changes ++ d.mention?.toList := by
  unfold mentionsOf
  rw [List.filterMap_append]
  cases h : d.mention? <;> simp [h]

theorem roomsCounted_concat (changes : List Change) (d : Change) :
    roomsCounted (changes ++ [d]) = roomsCounted changes + if d.countsRoom changes then 1 else 0 := by
  unfold roomsCounted
  rw [List.length_append, List.length_singleton, List.range_succ, countP_concat]
  congr 1
  · -- the places before the last one are as they were
    apply List.countP_congr
    intro place hplace
    have hlt := List.mem_range.1 hplace
    rw [List.getElem?_append_left hlt, List.take_append_of_le_length (Nat.le_of_lt hlt)]
  · simp

/-- A note counts a room that is not in the table. -/
def Change.joins (s : BotState) : Change → Bool
  | noted m => (s.rooms.find? m.room).isNone
  | roomCounted => true
  | _ => false

/-- What a change does to the counts. -/
structure Counted (d : Change) (s t : BotState) : Prop where
  startedAt : t.startedAt = s.startedAt
  messagesSent : t.counters.messagesSent =
    if d.countsMessage then s.counters.messagesSent + 1 else s.counters.messagesSent
  commandsProcessed : t.counters.commandsProcessed =
    if d.countsCommand then s.counters.commandsProcessed + 1 else s.counters.commandsProcessed
  roomsJoined : t.counters.roomsJoined =
    if d.joins s then s.counters.roomsJoined + 1 else s.counters.roomsJoined

theorem counted_change (clock : Nat → Moment) (s : BotState) (d : Change) :
    Counted d s (s.change clock d) := by
  cases d with
  | dispatched c time draws =>
    simp only [BotState.change, Command.dispatch_state]
    by_cases hknown : isKnown c.token = true
    · constructor <;> simp [hknown, BotState.countCommand, Change.countsMessage,
        Change.countsCommand, Change.joins]
    · constructor <;> simp [hknown, Change.countsMessage, Change.countsCommand, Change.joins]
  | noted m =>
    have hsame := sameButRooms_noteRoom s m.room m.name (clock m.time)
    refine ⟨hsame.startedAt, hsame.messagesSent, hsame.commandsProcessed, ?_⟩
    simp only [BotState.change, BotState.noteRoom_eq]
    cases h : s.rooms.find? m.room <;> simp [h, BotState.countRoom, Change.joins]
  | entered m => exact ⟨rfl, rfl, rfl, rfl⟩
  | messageCounted => exact ⟨rfl, rfl, rfl, rfl⟩
  | commandCounted => exact ⟨rfl, rfl, rfl, rfl⟩
  | roomCounted => exact ⟨rfl, rfl, rfl, rfl⟩

/-- A change that names a room changes its row, and all others leave the table alone. -/
theorem find?_change (clock : Nat → Moment) (s : BotState) (d : Change) (room : RoomId) :
    (s.change clock d).rooms.find? room =
      match d.mention? with
      | some m =>
        if room = m.room then some (RoomTable.renamed m.name (clock m.time) (s.rooms.find? room))
        else s.rooms.find? room
      | none => s.rooms.find? room := by
  cases d with
  | dispatched c time draws =>
    simp only [BotState.change, Command.dispatch_state]
    split <;> rfl
  | noted m =>
    simp only [BotState.change, BotState.rooms_noteRoom, ByRoom.find?_alter]
    by_cases h : room = m.room <;> simp [h, Change.mention?]
  | entered m =>
    simp only [BotState.change, BotState.insertRoom, RoomTable.insert]
    rw [ByRoom.find?_alter]
    by_cases h : room = m.room <;> simp [h, Change.mention?]
  | messageCounted => rfl
  | commandCounted => rfl
  | roomCounted => rfl

theorem Told.isSome_find? (h : Told clock startedAt changes s) (room : RoomId) :
    (s.rooms.find? room).isSome = true ↔ room ∈ roomsNamed changes := by
  rw [h.rows]
  exact isSome_row? _ _

theorem Told.isNone_find? (h : Told clock startedAt changes s) (room : RoomId) :
    (s.rooms.find? room).isNone = true ↔ room ∉ roomsNamed changes := by
  rw [← h.isSome_find? room, Option.isNone_iff_eq_none, Option.not_isSome_iff_eq_none]

/-- A room is not in the table if it was not named. -/
theorem Told.joins (h : Told clock startedAt changes s) (d : Change) :
    d.joins s = d.countsRoom changes := by
  cases d with
  | noted m =>
    rw [Bool.eq_iff_iff]
    simpa [Change.joins, Change.countsRoom] using h.isNone_find? m.room
  | _ => rfl

theorem Told.step (h : Told clock startedAt changes s) (d : Change) :
    Told clock startedAt (changes ++ [d]) (s.change clock d) := by
  have hd := counted_change clock s d
  constructor
  · rw [hd.startedAt, h.startedAt]
  · rw [hd.messagesSent, h.messagesSent, countP_concat, ofNat_add_one_if]
  · rw [hd.commandsProcessed, h.commandsProcessed, countP_concat, ofNat_add_one_if]
  · rw [hd.roomsJoined, h.roomsJoined, h.joins, roomsCounted_concat, ofNat_add_one_if]
  · intro room
    rw [find?_change, h.rows, mentionsOf_concat]
    cases d.mention? with
    | none => simp
    | some m => simp [row?_concat]

/-! ## All changes -/

theorem told_after (clock : Nat → Moment) (startedAt : Int) (changes : List Change) :
    Told clock startedAt changes ((BotState.fresh startedAt).after clock changes) := by
  induction changes using List.reverseRecOn with
  | nil => exact ⟨rfl, rfl, rfl, rfl, fun _ => rfl⟩
  | append_singleton before d ih =>
    unfold BotState.after at ih ⊢
    rw [List.foldl_append]
    exact ih.step d

/-- Whatever is done to a fresh state, its counts are the numbers of the changes that count, and its
table has a row for each room that was named and no other, by the bytes of the ids and with the
first name that was given. A room is entered as a new one just if it was not named before. And a
dispatch counts a command if it is known, does nothing else to any state, and draws just for jokes
and quotes. -/
theorem a_state_is_told_by_its_changes (clock : Nat → Moment) (startedAt : Int)
    (changes : List Change) :
    let s := (BotState.fresh startedAt).after clock changes
    Told clock startedAt changes s ∧
      (∀ room, room ∈ s.rooms.rooms ↔ room ∈ roomsNamed changes) ∧
      s.rooms.rows.Pairwise (fun row row' =>
        Text.utf8Bytes row.1.text.toList < Text.utf8Bytes row'.1.text.toList) ∧
      (∀ room name now, (s.insertRoom room name now).1 = true ↔ room ∉ roomsNamed changes) ∧
      ∀ (state : BotState) c now draws,
        (dispatch c state now draws).2.1 = { state with
          counters := { state.counters with
            commandsProcessed := if isKnown c.token then state.counters.commandsProcessed + 1
              else state.counters.commandsProcessed } } ∧
        ((dispatch c state now draws).2.2 = draws ↔
          sameToken "!joke" c.token = false ∧ sameToken "!quote" c.token = false) := by
  intro s
  have htold : Told clock startedAt changes s := told_after clock startedAt changes
  refine ⟨htold, fun room => ?_, s.rooms.pairwise_utf8Bytes, fun room name now => ?_,
    fun state c now draws => ⟨?_, Command.dispatch_draws_eq_iff c state now draws⟩⟩
  · rw [ByRoom.mem_rooms]
    exact htold.isSome_find? room
  · exact htold.isNone_find? room
  · rw [Command.dispatch_state]
    split <;> rfl

-- A room that was entered is not counted by a note, and keeps the name that the note gives.
example :
    let s := (BotState.fresh 0).after (fun _ => default)
      [.entered ⟨⟨"!a:hs"⟩, none, 0⟩, .noted ⟨⟨"!a:hs"⟩, some "Lobby", 1⟩, .noted ⟨⟨"!b:hs"⟩, none, 2⟩]
    s.counters.roomsJoined = 1 ∧ s.rooms.rows.map (·.2.name) = [some "Lobby", none] := by
  decide

end ChatBot.State
