-- What a batch gives the bot to answer, room by room: the messages of each
-- timeline in their order, and nothing else.
import ChatBot.Chat.Message

namespace ChatBot.Chat

/-- What there is to answer in an event of a room. Its place in the timeline does not matter. -/
def routed? (own : UserId) (room : RoomId) (e : Event) : Option Routed :=
  (inbound? own room 0 e).map classify

theorem map_classify_inbound? (own : UserId) (room : RoomId) (position : Nat) (e : Event) :
    (inbound? own room position e).map classify = routed? own room e := by
  unfold routed? inbound?
  split
  · split
    · split
      · rfl
      · rfl
    · rfl
  · rfl

theorem room_of_routed? {own : UserId} {room : RoomId} {e : Event} {m : Routed}
    (h : routed? own room e = some m) : m.room = room := by
  obtain ⟨inbound, hin, rfl⟩ := Option.map_eq_some_iff.1 h
  have hroom : inbound.room = room := by
    unfold inbound? at hin
    split at hin
    · split at hin
      · split at hin
        · cases hin
        · cases hin
          rfl
      · cases hin
    · cases hin
  unfold classify
  split
  · exact hroom
  · exact hroom

/-- A timeline is answered event by event. -/
theorem map_classify_roomMessages (own : UserId) (room : RoomId) (position : Nat)
    (events : List Event) :
    (roomMessages own room position events).map classify = events.filterMap (routed? own room) := by
  induction events generalizing position with
  | nil => rfl
  | cons e more ih =>
    unfold roomMessages
    rw [List.map_append, ih, List.filterMap_cons, ← map_classify_inbound? own room position e]
    cases inbound? own room position e with
    | none => rfl
    | some m => rfl

theorem route_eq (b : Batch) (own : UserId) :
    route b own = b.joined.rows.flatMap fun row => row.2.filterMap (routed? own row.1) := by
  unfold route inboundMessages
  rw [List.map_flatMap]
  exact congrArg (b.joined.rows.flatMap ·)
    (funext fun row => map_classify_roomMessages own row.1 0 row.2)

/-- What there is to answer comes from a room of the batch. -/
theorem room_mem_of_mem_route {b : Batch} {own : UserId} {m : Routed} (h : m ∈ route b own) :
    m.room ∈ b.joined.rooms := by
  rw [route_eq] at h
  obtain ⟨row, hrow, hm⟩ := List.mem_flatMap.1 h
  obtain ⟨e, -, he⟩ := List.mem_filterMap.1 hm
  rw [room_of_routed? he]
  exact List.mem_map_of_mem hrow

/-! ## One room of a batch -/

theorem filter_filterMap_routed? (own : UserId) (room other : RoomId) (events : List Event) :
    (events.filterMap (routed? own other)).filter (fun m => m.room = room) =
      if other = room then events.filterMap (routed? own room) else [] := by
  have hroom : ∀ m ∈ events.filterMap (routed? own other), m.room = other := by
    intro m hm
    obtain ⟨e, _, he⟩ := List.mem_filterMap.1 hm
    exact room_of_routed? he
  split
  · rename_i h
    subst h
    exact List.filter_eq_self.2 fun m hm => by simpa using hroom m hm
  · rename_i h
    exact List.filter_eq_nil_iff.2 fun m hm => by simpa [hroom m hm] using h

/-- Rows by rising room id hold the timeline of a room in one place. -/
theorem filter_flatMap_rows {rows : List (RoomId × List Event)} (own : UserId) (room : RoomId)
    (h : rows.Pairwise (fun a b => a.1 < b.1)) :
    (rows.flatMap fun row => row.2.filterMap (routed? own row.1)).filter (fun m => m.room = room) =
      (((rows.find? fun row => row.1 == room).map (·.2)).getD []).filterMap (routed? own room) := by
  induction rows with
  | nil => rfl
  | cons row more ih =>
    obtain ⟨other, events⟩ := row
    obtain ⟨hhead, hmore⟩ := List.pairwise_cons.1 h
    rw [List.flatMap_cons, List.filter_append, filter_filterMap_routed?, ih hmore]
    by_cases heq : other = room
    · subst heq
      have habsent : more.find? (fun row => row.1 == other) = none :=
        List.find?_eq_none.2 fun row hrow hsame => by
          have hlt : other < row.1 := hhead row hrow
          rw [eq_of_beq hsame] at hlt
          exact RoomId.lt_irrefl other hlt
      simp [habsent]
    · simp [heq]

/-- Of one room, a batch gives to answer what its timeline holds, in order. -/
theorem filter_route (b : Batch) (own : UserId) (room : RoomId) :
    (route b own).filter (fun m => m.room = room) =
      ((b.joined.find? room).getD []).filterMap (routed? own room) := by
  rw [route_eq]
  exact filter_flatMap_rows own room b.joined.rising

end ChatBot.Chat
