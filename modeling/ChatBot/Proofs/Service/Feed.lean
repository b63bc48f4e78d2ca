-- A homeserver that keeps the posts of all rooms in one row. A cursor names a
-- place in the row, and a poll hands out what stands behind that place. A journal
-- of posts is such a homeserver, whatever it loses on the way.
import ChatBot.Service.Homeserver

namespace ChatBot.Service

open Chat (UserId RoomId SyncToken Batch ByRoom Event)

/-! ## Posts in a row -/

/-- An event that somebody put into a room. -/
structure Post where
  room : RoomId
  event : Event

/-- The events of one room among posts, in order. -/
def timeline (room : RoomId) (posts : List Post) : List Event :=
  (posts.filter fun p => p.room = room).map Post.event

/-- A cursor names a count of posts: that many have been read. Without a cursor, none have. -/
def Names (name : Nat → SyncToken) (cursor : Option SyncToken) (read : Nat) : Prop :=
  (cursor = none ∧ read = 0) ∨ cursor = some (name read)

/-- A homeserver that keeps posts in a row, to which posts are only added, at any time. When a
poll is answered, the answer holds all posts after those that the cursor says were read, each in
the timeline of its room, and a new cursor for the end of the row. Nothing is said of polls that
fail: whether they were worked out and lost on the way does not show. -/
structure Feed {σ : Type} (hs : Homeserver σ) where
  posts : σ → List Post
  name : Nat → SyncToken
  name_injective : Function.Injective name
  grows_sendText : ∀ token room body server,
    posts server <+: posts (hs.sendText token room body server).2
  grows_sync : ∀ token poll server, posts server <+: posts (hs.sync token poll server).2
  /-- `upTo` is the row at the instant of the answer. -/
  sync_ok : ∀ token poll server read b, Names name poll.since read →
    read ≤ (posts server).length → (hs.sync token poll server).1.result = .ok b →
    ∃ upTo, posts server <+: upTo ∧ upTo <+: posts (hs.sync token poll server).2 ∧
      b.next = name upTo.length ∧
      ∀ room, (b.joined.find? room).getD [] = timeline room (upTo.drop read)

/-- A cursor names one count. -/
theorem names_unique {name : Nat → SyncToken} (hname : Function.Injective name)
    {cursor : Option SyncToken} {read other : Nat} (h : Names name cursor read)
    (h' : Names name cursor other) : other = read := by
  rcases h with ⟨rfl, rfl⟩ | rfl
  · rcases h' with ⟨-, rfl⟩ | h'
    · rfl
    · cases h'
  · rcases h' with ⟨h', -⟩ | h'
    · cases h'
    · exact hname (Option.some.inj h').symm

/-! ## A journal -/

/-- A journal of posts. Texts are posted as they come. For each poll to come it is laid down what
others post while it waits, and the fault to which its answer is lost, if it is lost. -/
structure Journal where
  /-- Who the texts are from. -/
  sender : UserId
  posts : List Post
  polls : List (List Post × Option Fault)

namespace Journal

/-- The cursor for a place in the row: one stroke for each post before it. -/
def place (read : Nat) : SyncToken := ⟨String.ofList (List.replicate read '|')⟩

/-- The count of posts before a cursor. -/
def strokes (cursor : Option SyncToken) : Nat := (cursor.map fun c => c.text.toList.length).getD 0

def addPost (m : ByRoom (List Event)) (p : Post) : ByRoom (List Event) :=
  m.alter p.room fun events => events.getD [] ++ [p.event]

/-- What is handed out of a row to somebody who has read some of it. -/
def batch (posts : List Post) (read : Nat) : Batch where
  next := place posts.length
  joined := (posts.drop read).foldl addPost .empty

/-- A text as it comes back to everybody in the room, its sender included. -/
def echo (j : Journal) (room : RoomId) (body : String) : Post where
  room := room
  event := ⟨Chat.messageType, some j.sender, none, .object [("body", .text body)]⟩

def homeserver : Homeserver Journal where
  register _ j := (.now (.ok ⟨j.sender, ⟨"token"⟩, none⟩), j)
  login _ j := (.now (.ok ⟨j.sender, ⟨"token"⟩, none⟩), j)
  setDisplayName _ _ _ j := (.now (.ok ()), j)
  createRoom _ _ _ j := (.now (.ok ⟨"!demo:hs"⟩), j)
  sendText _ room body j := (.now (.ok ()), { j with posts := j.posts ++ [j.echo room body] })
  sync _ poll j :=
    let (posted, loss) := j.polls.headD ([], none)
    let posts := j.posts ++ posted
    let result := match loss with
      | some fault => .error fault
      | none => .ok (batch posts (strokes poll.since))
    (.now result, { j with posts, polls := j.polls.tail })

theorem place_injective : Function.Injective place := by
  intro read other h
  have htext : List.replicate read '|' = List.replicate other '|' :=
    String.ofList_injective (congrArg SyncToken.text h)
  simpa using congrArg List.length htext

theorem strokes_of_names {cursor : Option SyncToken} {read : Nat} (h : Names place cursor read) :
    strokes cursor = read := by
  rcases h with ⟨rfl, rfl⟩ | rfl
  · rfl
  · simp [strokes, place]

/-- Posts that are added stand in the timelines of their rooms, in order. -/
theorem find?_foldl_addPost (m : ByRoom (List Event)) (posts : List Post) (room : RoomId) :
    ((posts.foldl addPost m).find? room).getD [] =
      (m.find? room).getD [] ++ timeline room posts := by
  induction posts generalizing m with
  | nil => exact (List.append_nil _).symm
  | cons p more ih =>
    rw [List.foldl_cons, ih]
    unfold addPost timeline
    rw [ByRoom.find?_alter]
    by_cases h : room = p.room
    · subst h
      simp
    · have h' : p.room ≠ room := fun heq => h heq.symm
      simp [h, h']

/-- A journal keeps its posts in a row. -/
def feed : Feed homeserver where
  posts := posts
  name := place
  name_injective := place_injective
  grows_sendText _ _ _ _ := List.prefix_append _ _
  grows_sync _ _ _ := List.prefix_append _ _
  sync_ok := by
    intro token poll j read b hnames hle hb
    refine ⟨(homeserver.sync token poll j).2.posts, List.prefix_append _ _, List.prefix_rfl, ?_⟩
    have hbatch : b = batch (homeserver.sync token poll j).2.posts read := by
      rw [← strokes_of_names hnames]
      unfold homeserver Answer.now at hb ⊢
      dsimp only at hb ⊢
      split at hb
      · cases hb
      · cases hb
        rfl
    rw [hbatch]
    refine ⟨rfl, ?_⟩
    intro room
    exact find?_foldl_addPost .empty _ room

end Journal

end ChatBot.Service
