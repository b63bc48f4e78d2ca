-- Entries by room, as they are collected from rows: of a room that is given more
-- than once the last row counts, and the order of the rows does not matter otherwise.
import Mathlib.Data.List.Induction
import ChatBot.Proofs.State.Mentions
import ChatBot.Proofs.Text.Order

namespace ChatBot.Chat.ByRoom

variable {α : Type}

/-- What is found for a room is what its row holds. -/
theorem mem_rows_iff (m : ByRoom α) (room : RoomId) (a : α) :
    (room, a) ∈ m.rows ↔ m.find? room = some a := by
  unfold find?
  rw [Option.map_eq_some_iff]
  constructor
  · intro hmem
    have hsome : (m.rows.find? fun row => row.1 == room).isSome = true := by
      rw [List.find?_isSome]
      exact ⟨(room, a), hmem, beq_self_eq_true room⟩
    obtain ⟨row, hrow⟩ := Option.isSome_iff_exists.1 hsome
    have hroom : row.1 = room := by simpa using List.find?_some hrow
    have hsame : row = (room, a) :=
      List.inj_on_of_nodup_map (nodup_rooms m) (List.mem_of_find?_eq_some hrow) hmem hroom
    exact ⟨row, hrow, by rw [hsame]⟩
  · rintro ⟨row, hrow, rfl⟩
    have hroom : row.1 = room := by simpa using List.find?_some hrow
    rw [← hroom]
    exact List.mem_of_find?_eq_some hrow

/-- Entries are known by what is found. -/
theorem ext_find? {m n : ByRoom α} (h : ∀ room, m.find? room = n.find? room) : m = n := by
  have hnodup : ∀ m : ByRoom α, m.rows.Nodup := fun m => List.Nodup.of_map _ (nodup_rooms m)
  have hperm : m.rows.Perm n.rows := by
    rw [List.perm_ext_iff_of_nodup (hnodup m) (hnodup n)]
    rintro ⟨room, a⟩
    rw [mem_rows_iff, mem_rows_iff, h]
  have hrows : m.rows = n.rows := by
    apply hperm.eq_of_pairwise _ m.rising n.rising
    intro row row' _ _ hlt hgt
    exact absurd (RoomId.lt_trans hlt hgt) (RoomId.lt_irrefl _)
  cases m
  cases n
  cases hrows
  rfl

/-- Entries collected from rows: a room has the entry that was given for it last. -/
def Collects (rows : List (RoomId × α)) (m : ByRoom α) : Prop :=
  ∀ room a, m.find? room = some a ↔
    ∃ before after, rows = before ++ (room, a) :: after ∧ ∀ row ∈ after, row.1 ≠ room

/-- The last row of a room is the first one from the end. -/
theorem find?_ofList (rows : List (RoomId × α)) (room : RoomId) :
    (ofList rows).find? room = (rows.reverse.find? fun row => row.1 == room).map (·.2) := by
  induction rows using List.reverseRecOn with
  | nil => rfl
  | append_singleton rows row ih =>
    have hput : ofList (rows ++ [row]) = (ofList rows).put row.1 row.2 := by
      unfold ofList
      rw [List.foldl_append]
      rfl
    rw [hput, find?_put, ih, List.reverse_append, List.reverse_singleton, List.singleton_append]
    by_cases h : room = row.1
    · simp [h]
    · have hne : (row.1 == room) = false := by simpa using Ne.symm h
      rw [if_neg h, List.find?_cons, hne]

theorem collects_ofList (rows : List (RoomId × α)) : Collects rows (ofList rows) := by
  intro room a
  rw [find?_ofList, Option.map_eq_some_iff]
  constructor
  · rintro ⟨row, hrow, rfl⟩
    obtain ⟨hroom, after, before, hrows, hafter⟩ := List.find?_eq_some_iff_append.1 hrow
    rw [beq_iff_eq] at hroom
    subst hroom
    refine ⟨before.reverse, after.reverse, ?_, fun other hother => ?_⟩
    · simpa using congrArg List.reverse hrows
    · simpa using hafter other (List.mem_reverse.1 hother)
  · rintro ⟨before, after, rfl, hafter⟩
    refine ⟨(room, a), List.find?_eq_some_iff_append.2 ⟨beq_self_eq_true room, after.reverse,
      before.reverse, by simp, fun other hother => ?_⟩, rfl⟩
    simpa using hafter other (List.mem_reverse.1 hother)

/-- Nothing else is collected. -/
theorem collects_iff (rows : List (RoomId × α)) (m : ByRoom α) :
    Collects rows m ↔ ofList rows = m := by
  constructor
  · intro h
    apply ext_find?
    intro room
    apply Option.ext
    intro a
    rw [collects_ofList rows room a, h room a]
  · rintro rfl
    exact collects_ofList rows

/-- If every room is given once, all rows are entries. -/
theorem find?_ofList_iff {rows : List (RoomId × α)} (h : (rows.map (·.1)).Nodup) (room : RoomId)
    (a : α) : (ofList rows).find? room = some a ↔ (room, a) ∈ rows := by
  rw [collects_ofList rows room a]
  constructor
  · rintro ⟨before, after, rfl, -⟩
    simp
  · intro hmem
    obtain ⟨before, after, rfl⟩ := List.append_of_mem hmem
    refine ⟨before, after, rfl, fun row hrow heq => ?_⟩
    rw [List.map_append, List.map_cons] at h
    have hnot := (List.nodup_cons.1 (List.nodup_append.1 h).2.1).1
    exact hnot (List.mem_map.2 ⟨row, hrow, heq⟩)

/-- Then their order does not matter. -/
theorem ofList_perm {rows other : List (RoomId × α)} (h : rows.Perm other)
    (hrooms : (rows.map (·.1)).Nodup) : ofList rows = ofList other := by
  have hother : (other.map (·.1)).Nodup := (h.map _).nodup_iff.1 hrooms
  apply ext_find?
  intro room
  apply Option.ext
  intro a
  rw [find?_ofList_iff hrooms, find?_ofList_iff hother, h.mem_iff]

/-- The rooms stand in the order of the bytes of their ids. -/
theorem pairwise_utf8Bytes (m : ByRoom α) :
    m.rows.Pairwise fun row row' =>
      Text.utf8Bytes row.1.text.toList < Text.utf8Bytes row'.1.text.toList :=
  m.rising.imp fun hlt => (Text.lt_iff_utf8Bytes_lt _ _).1 hlt

end ChatBot.Chat.ByRoom
