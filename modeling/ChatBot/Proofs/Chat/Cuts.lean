-- Batches in two parts. Both parts name the rooms of the batch, and its events are
-- divided at any place of their row, be it in the middle of a timeline.
import ChatBot.Proofs.Chat.Routing

namespace ChatBot.Chat

/-- The events of timelines, each with its room: rooms by id, and each timeline in its order. -/
def rowEvents (rows : List (RoomId × List Event)) : List (RoomId × Event) :=
  rows.flatMap fun row => row.2.map (row.1, ·)

/-- The events of a batch in the order in which they are answered. -/
def Batch.events (b : Batch) : List (RoomId × Event) := rowEvents b.joined.rows

/-- A batch, and the part of it before a cut and the part behind it. -/
structure Cut (b first second : Batch) : Prop where
  rooms_first : first.joined.rooms = b.joined.rooms
  rooms_second : second.joined.rooms = b.joined.rooms
  events : b.events = first.events ++ second.events

theorem route_eq_events (b : Batch) (own : UserId) :
    route b own = b.events.filterMap fun p => routed? own p.1 p.2 := by
  rw [route_eq]
  unfold Batch.events rowEvents
  rw [List.filterMap_flatMap]
  refine congrArg (b.joined.rows.flatMap ·) (funext fun row => ?_)
  rw [List.filterMap_map]
  rfl

/-- Nothing to answer is lost at a cut, and nothing comes twice. -/
theorem route_of_cut {b first second : Batch} (h : Cut b first second) (own : UserId) :
    route b own = route first own ++ route second own := by
  rw [route_eq_events, route_eq_events, route_eq_events, h.events, List.filterMap_append]

/-! ## A batch can be cut anywhere -/

/-- The timelines up to a place in the row of all events. -/
def rowsUpTo : Nat → List (RoomId × List Event) → List (RoomId × List Event)
  | _, [] => []
  | count, (room, events) :: more =>
    (room, events.take count) :: rowsUpTo (count - events.length) more

/-- The timelines from a place in the row of all events on. -/
def rowsFrom : Nat → List (RoomId × List Event) → List (RoomId × List Event)
  | _, [] => []
  | count, (room, events) :: more =>
    (room, events.drop count) :: rowsFrom (count - events.length) more

theorem rooms_rowsUpTo (count : Nat) (rows : List (RoomId × List Event)) :
    (rowsUpTo count rows).map (·.1) = rows.map (·.1) := by
  induction rows generalizing count with
  | nil => rfl
  | cons row more ih => exact congrArg (row.1 :: ·) (ih _)

theorem rooms_rowsFrom (count : Nat) (rows : List (RoomId × List Event)) :
    (rowsFrom count rows).map (·.1) = rows.map (·.1) := by
  induction rows generalizing count with
  | nil => rfl
  | cons row more ih => exact congrArg (row.1 :: ·) (ih _)

theorem rowEvents_cons (room : RoomId) (events : List Event) (more : List (RoomId × List Event)) :
    rowEvents ((room, events) :: more) = events.map (room, ·) ++ rowEvents more :=
  List.flatMap_cons

theorem rowEvents_rowsUpTo (count : Nat) (rows : List (RoomId × List Event)) :
    rowEvents (rowsUpTo count rows) = (rowEvents rows).take count := by
  induction rows generalizing count with
  | nil => exact List.take_nil.symm
  | cons row more ih =>
    obtain ⟨room, events⟩ := row
    unfold rowsUpTo
    rw [rowEvents_cons, rowEvents_cons, ih, List.take_append, List.map_take, List.length_map]

theorem rowEvents_rowsFrom (count : Nat) (rows : List (RoomId × List Event)) :
    rowEvents (rowsFrom count rows) = (rowEvents rows).drop count := by
  induction rows generalizing count with
  | nil => exact List.drop_nil.symm
  | cons row more ih =>
    obtain ⟨room, events⟩ := row
    unfold rowsFrom
    rw [rowEvents_cons, rowEvents_cons, ih, List.drop_append, List.map_drop, List.length_map]

/-- Timelines for the same rooms stand in the same order. -/
theorem rising_of_rooms {rows rows' : List (RoomId × List Event)}
    (hrooms : rows'.map (·.1) = rows.map (·.1))
    (h : rows.Pairwise fun a b => a.1 < b.1) : rows'.Pairwise fun a b => a.1 < b.1 := by
  have hmap := List.pairwise_map.2 h
  rw [← hrooms] at hmap
  exact List.pairwise_map.1 hmap

namespace Batch

/-- The part of a batch with so many of its events. -/
def upTo (b : Batch) (count : Nat) : Batch where
  next := b.next
  joined := ⟨rowsUpTo count b.joined.rows, rising_of_rooms (rooms_rowsUpTo _ _) b.joined.rising⟩

/-- The part of a batch with all other events. -/
def beyond (b : Batch) (count : Nat) : Batch where
  next := b.next
  joined := ⟨rowsFrom count b.joined.rows, rising_of_rooms (rooms_rowsFrom _ _) b.joined.rising⟩

theorem events_upTo (b : Batch) (count : Nat) : (b.upTo count).events = b.events.take count :=
  rowEvents_rowsUpTo count b.joined.rows

theorem events_beyond (b : Batch) (count : Nat) : (b.beyond count).events = b.events.drop count :=
  rowEvents_rowsFrom count b.joined.rows

/-- Behind any number of its events a batch can be cut. -/
theorem cut_upTo (b : Batch) (count : Nat) : Cut b (b.upTo count) (b.beyond count) := by
  refine ⟨rooms_rowsUpTo _ _, rooms_rowsFrom _ _, ?_⟩
  rw [events_upTo, events_beyond, List.take_append_drop]

end Batch

end ChatBot.Chat
