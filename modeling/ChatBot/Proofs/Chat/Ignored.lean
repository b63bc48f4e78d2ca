-- Events that the bot does not answer. Batches that differ in nothing but such
-- events give the bot the same to answer, and name the same rooms.
import Mathlib.Data.List.Forall2
import ChatBot.Proofs.Chat.Cuts

namespace ChatBot.Chat

/-! ## What is ignored -/

/-- There is nothing to answer in an event: it is no message, or nobody sent it, or the bot itself
did, or its content is no object with a text as its body. -/
inductive Ignored (own : UserId) (e : Event) : Prop
  | noMessage (h : e.type ≠ messageType)
  | fromNobody (h : e.sender = none)
  | fromBot (h : e.sender = some own)
  | noBody (h : ∀ body, e.content.member? "body" ≠ some (.text body))

theorem body?_eq_none_iff (e : Event) :
    e.body? = none ↔ ∀ body, e.content.member? "body" ≠ some (.text body) := by
  unfold Event.body?
  rw [Option.bind_eq_none_iff]
  constructor
  · intro h body hbody
    cases h _ hbody
  · intro h v hv
    cases v with
    | text body => exact (h body hv).elim
    | _ => rfl

/-- What is ignored is not answered, and all else is. -/
theorem routed?_eq_none_iff (own : UserId) (room : RoomId) (e : Event) :
    routed? own room e = none ↔ Ignored own e := by
  unfold routed?
  rw [Option.map_eq_none_iff]
  unfold inbound?
  constructor
  · intro h
    split at h
    · split at h
      · rename_i sender body hsender hbody
        split at h
        · rename_i hown
          exact .fromBot (hown ▸ hsender)
        · cases h
      · rename_i hnone
        cases hsender : e.sender with
        | none => exact .fromNobody hsender
        | some sender =>
          cases hbody : e.body? with
          | none => exact .noBody ((body?_eq_none_iff e).1 hbody)
          | some body => exact (hnone sender body hsender hbody).elim
    · rename_i htype
      exact .noMessage htype
  · intro h
    cases h with
    | noMessage htype => rw [if_neg htype]
    | fromNobody hsender => simp [hsender]
    | fromBot hsender => cases hbody : e.body? <;> simp [hsender]
    | noBody hbody => simp [(body?_eq_none_iff e).2 hbody]

/-! ## Timelines and batches but for what is ignored -/

/-- The second timeline comes from the first one by leaving out some ignored events and putting in
others, at any places. -/
inductive Edited (own : UserId) : List Event → List Event → Prop
  | done : Edited own [] []
  | keep (e : Event) {es es' : List Event} (h : Edited own es es') :
      Edited own (e :: es) (e :: es')
  | leaveOut {e : Event} (he : Ignored own e) {es es' : List Event} (h : Edited own es es') :
      Edited own (e :: es) es'
  | putIn {e : Event} (he : Ignored own e) {es es' : List Event} (h : Edited own es es') :
      Edited own es (e :: es')

theorem Edited.refl (own : UserId) (es : List Event) : Edited own es es := by
  induction es with
  | nil => exact .done
  | cons e more ih => exact .keep e ih

/-- Ignored events may be put behind a timeline. -/
theorem Edited.append {own : UserId} (es : List Event) {more : List Event}
    (h : ∀ e ∈ more, Ignored own e) : Edited own es (es ++ more) := by
  induction es with
  | nil =>
    induction more with
    | nil => exact .done
    | cons e more ih =>
      have hmore := ih fun e' he' => h e' (List.mem_cons_of_mem e he')
      exact .putIn (h e List.mem_cons_self) hmore
  | cons e es ih => exact .keep e ih

theorem Edited.filterMap_routed? {own : UserId} {es es' : List Event} (h : Edited own es es')
    (room : RoomId) : es'.filterMap (routed? own room) = es.filterMap (routed? own room) := by
  induction h with
  | done => rfl
  | keep e _ ih => rw [List.filterMap_cons, List.filterMap_cons, ih]
  | leaveOut he _ ih => rw [ih, List.filterMap_cons_none ((routed?_eq_none_iff own room _).2 he)]
  | putIn he _ ih => rw [ih.symm, List.filterMap_cons_none ((routed?_eq_none_iff own room _).2 he)]

/-- The same room, with its timeline the same but for ignored events. -/
structure RowEdited (own : UserId) (row row' : RoomId × List Event) : Prop where
  room : row'.1 = row.1
  events : Edited own row.2 row'.2

/-- Two batches with the same rooms and the same end, whose timelines differ in nothing but ignored
events. -/
structure Batch.Edited (own : UserId) (b b' : Batch) : Prop where
  next : b'.next = b.next
  rows : List.Forall₂ (RowEdited own) b.joined.rows b'.joined.rows

theorem rooms_of_rowEdited {own : UserId} {rows rows' : List (RoomId × List Event)}
    (h : List.Forall₂ (RowEdited own) rows rows') : rows'.map (·.1) = rows.map (·.1) := by
  induction h with
  | nil => rfl
  | cons hrow _ ih => rw [List.map_cons, List.map_cons, hrow.room, ih]

theorem routed_of_rowEdited {own : UserId} {rows rows' : List (RoomId × List Event)}
    (h : List.Forall₂ (RowEdited own) rows rows') :
    (rows'.flatMap fun row => row.2.filterMap (routed? own row.1)) =
      rows.flatMap fun row => row.2.filterMap (routed? own row.1) := by
  induction h with
  | nil => rfl
  | cons hrow _ ih =>
    rw [List.flatMap_cons, List.flatMap_cons, ih, hrow.room, hrow.events.filterMap_routed?]

namespace Batch

theorem Edited.refl (own : UserId) (b : Batch) : b.Edited own b :=
  ⟨rfl, List.forall₂_same.2 fun row _ => ⟨rfl, .refl own row.2⟩⟩

variable {own : UserId} {b b' : Batch}

theorem Edited.rooms (h : b.Edited own b') : b'.joined.rooms = b.joined.rooms :=
  rooms_of_rowEdited h.rows

/-- Both give the bot the same to answer. -/
theorem Edited.route (h : b.Edited own b') : Chat.route b' own = Chat.route b own := by
  rw [route_eq, route_eq, routed_of_rowEdited h.rows]

/-- The batch with more events behind the timeline of each of its rooms. -/
def withMore (b : Batch) (more : RoomId → List Event) : Batch where
  next := b.next
  joined :=
    { rows := b.joined.rows.map fun row => (row.1, row.2 ++ more row.1)
      rising := rising_of_rooms (by rw [List.map_map]; rfl) b.joined.rising }

theorem edited_withMore (b : Batch) {more : RoomId → List Event}
    (h : ∀ room, ∀ e ∈ more room, Ignored own e) : b.Edited own (b.withMore more) := by
  refine ⟨rfl, ?_⟩
  apply List.forall₂_map_right_iff.2
  exact List.forall₂_same.2 fun row _ => ⟨rfl, .append row.2 (h row.1)⟩

end Batch

end ChatBot.Chat
