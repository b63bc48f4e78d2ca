-- What the clocks have to do with replies: the time, the uptime, and when a room
-- was first seen. All else that the bot says and keeps does not depend on when it
-- looks at them.
import ChatBot.Command.Dispatch
import ChatBot.Proofs.State.Rooms

namespace ChatBot

open Chat (RoomId ByRoom)

/-! ## States, but for the clocks -/

namespace State

/-- What is known of a room, without the time. -/
def named (row : RoomId × RoomInfo) : RoomId × Option String := (row.1, row.2.name)

/-- The rooms of a table and their names. -/
def RoomTable.names (t : RoomTable) : List (RoomId × Option String) := t.rows.map named

theorem RoomTable.isSome_find?_eq (t : RoomTable) (room : RoomId) :
    (t.find? room).isSome = (t.names.find? fun row => row.1 == room).isSome := by
  unfold ByRoom.find? names
  rw [List.find?_map, Option.isSome_map, Option.isSome_map]
  rfl

theorem map_named_alterRows {rows rows' : List (RoomId × RoomInfo)}
    (h : rows'.map named = rows.map named) (room : RoomId) (name : Option String)
    (now now' : Moment) :
    (ByRoom.alterRows room (RoomTable.renamed name now') rows').map named =
      (ByRoom.alterRows room (RoomTable.renamed name now) rows).map named := by
  induction rows generalizing rows' with
  | nil =>
    obtain rfl := List.map_eq_nil_iff.1 h
    rfl
  | cons row more ih =>
    obtain ⟨row', more', rfl, hrow, hmore⟩ := List.map_eq_cons_iff.1 h
    obtain ⟨other, info⟩ := row
    obtain ⟨other', info'⟩ := row'
    obtain ⟨rfl, hname⟩ := Prod.mk.inj hrow
    unfold ByRoom.alterRows
    split
    · rw [List.map_cons, List.map_cons, List.map_cons, List.map_cons, hrow, hmore]
      rfl
    · split
      · rw [List.map_cons, List.map_cons, hmore]
        unfold named RoomTable.renamed at *
        dsimp only at hname ⊢
        rw [hname]
      · rw [List.map_cons, List.map_cons, hrow, ih hmore]

namespace BotState

/-- Two states that differ at most in when rooms were first seen. -/
structure Alike (s t : BotState) : Prop where
  startedAt : t.startedAt = s.startedAt
  counters : t.counters = s.counters
  names : t.rooms.names = s.rooms.names

variable {s t : BotState}

theorem Alike.refl (s : BotState) : Alike s s := ⟨rfl, rfl, rfl⟩

theorem Alike.countCommand (h : Alike s t) : Alike s.countCommand t.countCommand := by
  refine ⟨h.startedAt, ?_, h.names⟩
  unfold BotState.countCommand
  rw [h.counters]

theorem Alike.countMessage (h : Alike s t) : Alike s.countMessage t.countMessage := by
  refine ⟨h.startedAt, ?_, h.names⟩
  unfold BotState.countMessage
  rw [h.counters]

theorem Alike.noteRoom (h : Alike s t) (room : RoomId) (name : Option String)
    (now now' : Moment) : Alike (s.noteRoom room name now) (t.noteRoom room name now') := by
  have hknown : (t.rooms.find? room).isSome = (s.rooms.find? room).isSome := by
    rw [RoomTable.isSome_find?_eq, RoomTable.isSome_find?_eq, h.names]
  have hrooms := map_named_alterRows h.names room name now now'
  rw [noteRoom_eq, noteRoom_eq, hknown]
  dsimp only
  split
  · exact ⟨h.startedAt, h.counters, hrooms⟩
  · refine ⟨h.startedAt, ?_, hrooms⟩
    dsimp only [countRoom]
    rw [h.counters]

theorem Alike.noteAll (h : Alike s t) (rooms : List RoomId) (now now' : Moment) :
    Alike (s.noteAll rooms now) (t.noteAll rooms now') := by
  unfold BotState.noteAll
  induction rooms generalizing s t with
  | nil => exact h
  | cons room more ih => exact ih (h.noteRoom room none now now')

end BotState

end State

/-! ## Replies, but for the clocks -/

namespace Command

open State (BotState Counters Moment RoomTable)

/-- Two texts that differ at most in what the clocks show: the time, the uptime, or when rooms
were first seen. -/
inductive SameButClock : String → String → Prop
  | same (text : String) : SameButClock text text
  | time (dateTime dateTime' : String) :
      SameButClock ("🕐 Current server time: " ++ dateTime) ("🕐 Current server time: " ++ dateTime')
  | status (counters : Counters) (uptime uptime' : Nat) :
      SameButClock (statusReply ⟨counters, uptime⟩) (statusReply ⟨counters, uptime'⟩)
  | stats (counters : Counters) (uptime uptime' : Nat) :
      SameButClock (statsReply ⟨counters, uptime⟩) (statsReply ⟨counters, uptime'⟩)
  | rooms {table table' : RoomTable} (h : table'.names = table.names) :
      SameButClock (roomsReply table) (roomsReply table')

variable {s t : BotState}

/-- The same command, at another time. -/
theorem reply_alike (h : s.Alike t) (kind : Kind) (args : String) (sender : Chat.UserId)
    (now now' : Moment) (draws : Draws) :
    SameButClock (reply kind args sender s now draws).1 (reply kind args sender t now' draws).1 ∧
      (reply kind args sender t now' draws).2 = (reply kind args sender s now draws).2 := by
  cases kind with
  | time => exact ⟨.time _ _, rfl⟩
  | status =>
    refine ⟨?_, rfl⟩
    dsimp only [reply, BotState.snapshotAt]
    rw [h.counters]
    exact .status _ _ _
  | stats =>
    refine ⟨?_, rfl⟩
    dsimp only [reply, BotState.snapshotAt]
    rw [h.counters]
    exact .stats _ _ _
  | rooms => exact ⟨.rooms h.names, rfl⟩
  | _ => exact ⟨.same _, rfl⟩

theorem dispatch_alike (h : s.Alike t) (c : Chat.Command) (now now' : Moment) (draws : Draws) :
    let first := dispatch c s now draws
    let second := dispatch c t now' draws
    SameButClock first.1 second.1 ∧ first.2.1.Alike second.2.1 ∧ second.2.2 = first.2.2 := by
  unfold dispatch
  dsimp only
  split
  · exact ⟨.same _, h, rfl⟩
  · rename_i spec _
    obtain ⟨htext, hdraws⟩ :=
      reply_alike h.countCommand spec.kind c.args c.sender now now' draws
    exact ⟨htext, h.countCommand, hdraws⟩

end Command

end ChatBot
