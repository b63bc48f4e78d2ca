-- One entry per room, in the order of the room ids. Changing the entry of one
-- room leaves all others as they are, and the order.
import ChatBot.Chat.Identity

namespace ChatBot.Chat

/-- Entries by rising room id, at most one for each room. -/
structure ByRoom (α : Type) where
  rows : List (RoomId × α)
  rising : rows.Pairwise (fun a b => a.1 < b.1) := by exact List.Pairwise.nil
  deriving DecidableEq

namespace ByRoom

variable {α : Type}

def empty : ByRoom α := { rows := [] }

instance : Inhabited (ByRoom α) := ⟨empty⟩

def isEmpty (m : ByRoom α) : Bool := m.rows.isEmpty

/-- The rooms that have an entry. -/
def rooms (m : ByRoom α) : List RoomId := m.rows.map (·.1)

def find? (m : ByRoom α) (room : RoomId) : Option α :=
  (m.rows.find? fun row => row.1 == room).map (·.2)

/-- Changes the entry of a room in its place; `change` is given what is there. -/
def alterRows (room : RoomId) (change : Option α → α) : List (RoomId × α) → List (RoomId × α)
  | [] => [(room, change none)]
  | (other, a) :: more =>
    if room < other then (room, change none) :: (other, a) :: more
    else if room = other then (room, change (some a)) :: more
    else (other, a) :: alterRows room change more

theorem mem_rooms_alterRows {room : RoomId} {change : Option α → α} {rows : List (RoomId × α)}
    {row : RoomId × α} (h : row ∈ alterRows room change rows) :
    row.1 = room ∨ row.1 ∈ rows.map (·.1) := by
  induction rows with
  | nil => simp_all [alterRows]
  | cons head more ih =>
    obtain ⟨other, a⟩ := head
    unfold alterRows at h
    split at h
    · rcases List.mem_cons.1 h with rfl | h
      · simp
      · exact Or.inr (List.mem_map_of_mem h)
    · split at h
      · rcases List.mem_cons.1 h with rfl | h
        · simp
        · exact Or.inr (List.mem_cons_of_mem _ (List.mem_map_of_mem h))
      · rcases List.mem_cons.1 h with rfl | h
        · simp
        · rcases ih h with h | h
          · exact Or.inl h
          · exact Or.inr (List.mem_cons_of_mem _ h)

theorem rising_alterRows {room : RoomId} {change : Option α → α} {rows : List (RoomId × α)}
    (h : rows.Pairwise (fun a b => a.1 < b.1)) :
    (alterRows room change rows).Pairwise (fun a b => a.1 < b.1) := by
  induction rows with
  | nil => simp [alterRows]
  | cons head more ih =>
    obtain ⟨other, a⟩ := head
    obtain ⟨hhead, hmore⟩ := List.pairwise_cons.1 h
    unfold alterRows
    split
    · rename_i hlt
      refine List.pairwise_cons.2 ⟨fun row hrow => ?_, h⟩
      rcases List.mem_cons.1 hrow with rfl | hrow
      · exact hlt
      · exact RoomId.lt_trans hlt (hhead row hrow)
    · split
      · rename_i heq
        subst heq
        exact List.pairwise_cons.2 ⟨hhead, hmore⟩
      · rename_i hlt hne
        refine List.pairwise_cons.2 ⟨fun row hrow => ?_, ih hmore⟩
        rcases mem_rooms_alterRows hrow with heq | hmem
        · exact heq ▸ RoomId.lt_of_not_lt_of_ne hlt hne
        · obtain ⟨row', hrow', heq⟩ := List.mem_map.1 hmem
          exact heq ▸ hhead row' hrow'

/-- Changes the entry of one room. -/
def alter (m : ByRoom α) (room : RoomId) (change : Option α → α) : ByRoom α :=
  { rows := alterRows room change m.rows, rising := rising_alterRows m.rising }

/-- Puts an entry, in place of the one that the room has. -/
def put (m : ByRoom α) (room : RoomId) (a : α) : ByRoom α := m.alter room fun _ => a

/-- Puts entries one after the other. -/
def ofList (rows : List (RoomId × α)) : ByRoom α :=
  rows.foldl (fun m row => m.put row.1 row.2) empty

/-! ## What is found afterwards -/

theorem find?_empty (room : RoomId) : (empty : ByRoom α).find? room = none := rfl

/-- No row of a room stands behind a room that comes later. -/
theorem ne_of_mem_of_lt {room other : RoomId} {a : α} {more : List (RoomId × α)}
    (h : ((other, a) :: more).Pairwise (fun a b => a.1 < b.1)) (hlt : room < other) :
    ∀ row ∈ (other, a) :: more, row.1 ≠ room := by
  intro row hrow heq
  rcases List.mem_cons.1 hrow with rfl | hrow
  · exact RoomId.lt_irrefl room (heq ▸ hlt)
  · have hrel : other < row.1 := List.rel_of_pairwise_cons h hrow
    rw [heq] at hrel
    exact RoomId.lt_irrefl room (RoomId.lt_trans hlt hrel)

/-- Only the entry of the room changes, and it changes to what is said. -/
theorem find?_alterRows {room : RoomId} {change : Option α → α} {rows : List (RoomId × α)}
    (h : rows.Pairwise (fun a b => a.1 < b.1)) (other : RoomId) :
    ((alterRows room change rows).find? fun row => row.1 == other).map (·.2) =
      if other = room then some (change ((rows.find? fun row => row.1 == room).map (·.2)))
      else (rows.find? fun row => row.1 == other).map (·.2) := by
  induction rows with
  | nil =>
    by_cases ho : other = room
    · simp [alterRows, ho]
    · have ho' : room ≠ other := fun h => ho h.symm
      simp [alterRows, ho, ho']
  | cons head more ih =>
    obtain ⟨first, a⟩ := head
    have ih := ih (List.pairwise_cons.1 h).2
    unfold alterRows
    split
    · rename_i hlt
      have habsent : ((first, a) :: more).find? (fun row => row.1 == room) = none :=
        List.find?_eq_none.2 fun row hrow => by simpa using ne_of_mem_of_lt h hlt row hrow
      by_cases ho : other = room
      · simp [ho, habsent]
      · have ho' : room ≠ other := fun h => ho h.symm
        simp [ho, ho', List.find?_cons]
    · split
      · rename_i heq
        subst heq
        by_cases ho : other = room
        · simp [ho]
        · have ho' : room ≠ other := fun h => ho h.symm
          simp [ho, ho']
      · rename_i hne
        by_cases hf : first = other
        · subst hf
          have hne' : first ≠ room := fun h => hne h.symm
          simp [hne']
        · by_cases ho : other = room
          · subst ho
            simp [hf, ih]
          · simp [hf, ih, ho]

theorem find?_alter (m : ByRoom α) (room : RoomId) (change : Option α → α) (other : RoomId) :
    (m.alter room change).find? other =
      if other = room then some (change (m.find? room)) else m.find? other :=
  find?_alterRows m.rising other

theorem find?_put (m : ByRoom α) (room : RoomId) (a : α) (other : RoomId) :
    (m.put room a).find? other = if other = room then some a else m.find? other :=
  find?_alter m room _ other

end ByRoom

end ChatBot.Chat
