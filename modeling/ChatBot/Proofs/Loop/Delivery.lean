-- What comes of a homeserver that keeps all posts in one row. However posts, polls,
-- faults and lost answers follow each other, the bot has answered each post before
-- its cursor once, and none behind it.
import ChatBot.Proofs.Chat.Routing
import ChatBot.Proofs.Loop.Schedule
import ChatBot.Proofs.Loop.Turns
import ChatBot.Proofs.Service.Feed

namespace ChatBot.Loop

open Chat (RoomId AccessToken Batch SyncToken UserId Routed routed?)
open Service (World Homeserver Entry Post Names Feed Journal timeline)

/-- What there is to answer among posts, in order. -/
def routable (own : UserId) (posts : List Post) : List Routed :=
  posts.filterMap fun p => routed? own p.room p.event

/-- What may happen between and around the rounds: others post, and rooms are noted. Texts are
only sent to answer. -/
def Allows {σ : Type} {hs : Homeserver σ} (feed : Feed hs) : Step σ → Prop
  | .others change => ∀ server, feed.posts server <+: feed.posts (change server)
  | .send _ _ => False
  | _ => True

/-! ## What the bot has answered -/

/-- The messages of the batches among some answers, in the order in which they were handled. -/
def handled (own : UserId) (as : Answers) : List Routed :=
  (batches as).flatMap fun b => Chat.route b own

/-- The room that a call sends a text to, if it sends one. -/
def recipient? (e : Entry) : Option RoomId :=
  match e.call with
  | .sendText _ room _ => some room
  | _ => none

/-- The rooms that texts were sent to, in order, whether they were taken or not. -/
def recipients (log : List Entry) : List RoomId := log.filterMap recipient?

theorem handled_ok (own : UserId) (as : Answers) (b : Batch) :
    handled own (as ++ [.ok b]) = handled own as ++ Chat.route b own := by
  unfold handled
  rw [batches_ok, List.flatMap_append, List.flatMap_singleton]

theorem handled_error (own : UserId) (as : Answers) (f : Fault) :
    handled own (as ++ [.error f]) = handled own as := by
  unfold handled
  rw [batches_error]

theorem routable_append (own : UserId) (posts more : List Post) :
    routable own (posts ++ more) = routable own posts ++ routable own more :=
  List.filterMap_append

/-- Of one room, there is to answer what its timeline holds. -/
theorem filter_routable (own : UserId) (room : RoomId) (posts : List Post) :
    (routable own posts).filter (fun m => m.room = room) =
      (timeline room posts).filterMap (routed? own room) := by
  induction posts with
  | nil => rfl
  | cons p more ih =>
    have hcons : routable own (p :: more) =
        (routed? own p.room p.event).toList ++ routable own more := by
      unfold routable
      rw [List.filterMap_cons]
      cases routed? own p.room p.event with
      | none => rfl
      | some m => rfl
    rw [hcons, List.filter_append, ih]
    unfold timeline
    by_cases h : p.room = room
    · subst h
      cases hm : routed? own p.room p.event with
      | none => simp [hm]
      | some m => simp [hm, Chat.room_of_routed? hm]
    · cases hm : routed? own p.room p.event with
      | none => simp [h]
      | some m => simp [h, Chat.room_of_routed? hm]

/-! ## The invariant of the reading -/

variable {σ : Type} {set : Setting σ}

/-- The posts before the cursor are answered, each once and in the order of its room, and no
text was sent but for that. -/
structure UpToCursor (feed : Feed set.homeserver) (own : UserId) (log : List Entry) (as : Answers)
    (s : Scene σ) : Prop where
  user : s.bot.session.userId = own
  read : ∃ read ≤ (feed.posts s.world.server).length,
    Names feed.name s.bot.session.cursor read ∧
    ∀ room, (handled own as).filter (fun m => m.room = room) =
      (routable own ((feed.posts s.world.server).take read)).filter fun m => m.room = room
  sent : recipients s.world.log = recipients log ++ (handled own as).map Routed.room

/-- Nothing that is added to a row changes what stands before a place in it. -/
theorem take_of_grown {α : Type} {posts more : List α} (h : posts <+: more) {n : Nat}
    (hn : n ≤ posts.length) : more.take n = posts.take n := by
  obtain ⟨added, rfl⟩ := h
  exact List.take_append_of_le_length hn

/-- Answering lets the row only grow. -/
theorem grows_foldl_answer (feed : Feed set.homeserver) (s : Scene σ) (ms : List Routed) :
    feed.posts s.world.server <+: feed.posts (ms.foldl (Scene.answer set) s).world.server := by
  induction ms generalizing s with
  | nil => exact List.prefix_rfl
  | cons m more ih =>
    have hfirst := feed.grows_sendText s.bot.session.accessToken m.room (s.turn set m).reply
      s.world.server
    rw [← Scene.answer_server] at hfirst
    exact hfirst.trans (ih (s.answer set m))

/-- The texts of a round go to the rooms of its messages. -/
theorem recipients_turns (token : AccessToken) (cursor : Option SyncToken) (turns : List Turn) :
    recipients (turns.map (Turn.entry token cursor)) =
      (turns.map Turn.message).map Routed.room := by
  induction turns with
  | nil => rfl
  | cons x more ih =>
    rw [List.map_cons, List.map_cons, List.map_cons, ← ih]
    rfl

/-- A poll sends no text. -/
theorem recipients_poll (log : List Entry) (s : Scene σ) :
    recipients (log ++ [s.pollEntry]) = recipients log := by
  unfold recipients
  rw [List.filterMap_append]
  exact List.append_nil _

variable {feed : Feed set.homeserver} {own : UserId} {log : List Entry} {as : Answers}
  {s : Scene σ}

/-- What a change of the homeserver keeps, if it adds posts only. -/
theorem UpToCursor.grow (h : UpToCursor feed own log as s) {world : World σ}
    (hlog : world.log = s.world.log)
    (hgrows : feed.posts s.world.server <+: feed.posts world.server) :
    UpToCursor feed own log as { s with world } := by
  obtain ⟨huser, ⟨read, hle, hnames, hroom⟩, hsent⟩ := h
  refine ⟨huser, ⟨read, Nat.le_trans hle hgrows.length_le, hnames, ?_⟩, ?_⟩
  · intro room
    dsimp only
    rw [take_of_grown hgrows hle]
    exact hroom room
  · dsimp only
    rw [hlog]
    exact hsent

theorem UpToCursor.poll_error (h : UpToCursor feed own log as s) {f : Fault}
    (hf : (s.sync set).1 = .error f) :
    UpToCursor feed own log (as ++ [.error f]) (s.poll set).2 := by
  have hgrows : feed.posts s.world.server <+: feed.posts (s.sync set).2.world.server := by
    rw [Scene.sync_server]
    exact feed.grows_sync _ _ _
  rw [Scene.poll_of_error hf]
  obtain ⟨huser, ⟨read, hle, hnames, hroom⟩, hsent⟩ := h
  refine ⟨huser, ⟨read, Nat.le_trans hle hgrows.length_le, hnames, ?_⟩, ?_⟩
  · intro room
    rw [handled_error, take_of_grown hgrows hle]
    exact hroom room
  · rw [Scene.sync_log, recipients_poll, hsent, handled_error]

theorem UpToCursor.poll_ok (h : UpToCursor feed own log as s) {b : Batch}
    (hb : (s.sync set).1 = .ok b) :
    UpToCursor feed own log (as ++ [.ok b]) (s.poll set).2 := by
  obtain ⟨huser, ⟨read, hle, hnames, hroom⟩, hsent⟩ := h
  obtain ⟨upTo, hbefore, hafter, hnext, htimeline⟩ :=
    feed.sync_ok s.bot.session.accessToken s.nextPoll s.world.server read b hnames hle hb
  have hbot := Scene.poll_bot_of_ok hb
  have hgrows : upTo <+: feed.posts (s.poll set).2.world.server := by
    rw [Scene.poll_eq_foldl hb]
    have hmet : (s.met set b).world.server = (set.homeserver.sync s.bot.session.accessToken
      s.nextPoll s.world.server).2 := Scene.sync_server s
    rw [← hmet] at hafter
    exact hafter.trans (grows_foldl_answer feed (s.met set b) _)
  have hadvance : (s.poll set).2.bot.session = s.bot.session.advance b.next := by rw [hbot]
  refine ⟨?_, ⟨upTo.length, hgrows.length_le, ?_, ?_⟩, ?_⟩
  · rw [hadvance]
    exact huser
  · right
    rw [hadvance, ← hnext]
    rfl
  · -- what was read before, and what the batch brings
    intro room
    have hsplit : upTo = (feed.posts s.world.server).take read ++ upTo.drop read := by
      rw [← take_of_grown hbefore hle, List.take_append_drop]
    rw [handled_ok, List.filter_append, hroom, Chat.filter_route, htimeline, ← filter_routable,
      ← List.filter_append, ← routable_append, ← hsplit, take_of_grown hgrows (Nat.le_refl _),
      List.take_length]
  · have hturns := Scene.answered hb
    have hround : recipients (s.poll set).2.world.log =
        recipients (s.world.log ++ [s.pollEntry]) ++ (Chat.route b own).map Routed.room := by
      rw [← huser, ← hturns.messages,
        ← recipients_turns s.bot.session.accessToken (some b.next), hturns.calls]
      exact List.filterMap_append
    rw [hround, recipients_poll, hsent, handled_ok, List.map_append, List.append_assoc]

theorem keeps_upToCursor (feed : Feed set.homeserver) (own : UserId) (log : List Entry) :
    Keeps set (UpToCursor feed own log) where
  poll := by
    intro as s h
    cases ha : (s.sync set).1 with
    | ok b => exact h.poll_ok ha
    | error f => exact h.poll_error ha
  meanwhile := by
    intro as s world hserver hlog h
    apply h.grow hlog
    simp only [hserver, List.prefix_rfl]

theorem UpToCursor.other (h : UpToCursor feed own log as s) (x : Step σ) (hx : Allows feed x)
    (hpolls : x.polls = false) : UpToCursor feed own log as (s.step set x) := by
  cases x with
  | poll => cases hpolls
  | run stop rounds => cases hpolls
  | noteRoom room name => exact ⟨h.user, h.read, h.sent⟩
  | send room body => exact hx.elim
  | others change => exact h.grow rfl (hx s.world.server)

/-! ## The law of the reading -/

/-- Everything up to the cursor is answered, nothing twice, and nothing behind it. -/
structure AnsweredOnce (set : Setting σ) (feed : Feed set.homeserver) (s : Scene σ)
    (as : Answers) (t : Scene σ) (read : Nat) : Prop where
  cursor : ∀ n, Names feed.name t.bot.session.cursor n ↔ n = read
  within : read ≤ (feed.posts t.world.server).length
  /-- What was handled is what there is to answer before the cursor, each as often as it was
  posted. -/
  once : (handled s.bot.session.userId as).Perm
    (routable s.bot.session.userId ((feed.posts t.world.server).take read))
  /-- In each room, it was handled in the order in which it was posted. -/
  in_order : ∀ room, (handled s.bot.session.userId as).filter (fun m => m.room = room) =
    (routable s.bot.session.userId ((feed.posts t.world.server).take read)).filter
      fun m => m.room = room
  /-- Whatever was handled had one text sent to its room, in the same order, and nothing else
  was sent. -/
  sent : recipients t.world.log =
    recipients s.world.log ++ (handled s.bot.session.userId as).map Routed.room

/-- Rows that agree in each room are the same but for the order. -/
theorem perm_of_rooms {ms ms' : List Routed}
    (h : ∀ room, ms.filter (fun m => m.room = room) = ms'.filter fun m => m.room = room) :
    ms.Perm ms' := by
  rw [List.perm_iff_count]
  intro m
  have hroom := congrArg (List.count m) (h m.room)
  rwa [List.count_filter (by simp), List.count_filter (by simp)] at hroom

/-- Whatever is posted, lost or refused in the meantime, a bot that began with nothing read has
answered each post before its cursor once, in the order of its room, and none behind it. -/
theorem every_post_is_answered_once (set : Setting σ) (feed : Feed set.homeserver) (s : Scene σ)
    (steps : List (Step σ)) (hnew : s.bot.session.cursor = none)
    (hsteps : ∀ x ∈ steps, Allows feed x) :
    ∃ read, AnsweredOnce set feed s (s.answers set steps) (s.after set steps) read := by
  have hstart : UpToCursor feed s.bot.session.userId s.world.log [] s := by
    refine ⟨rfl, ⟨0, Nat.zero_le _, Or.inl ⟨hnew, rfl⟩, ?_⟩, ?_⟩
    · intro room
      rfl
    · exact (List.append_nil _).symm
  have hkeeps := keeps_upToCursor feed s.bot.session.userId s.world.log
  have hend := hkeeps.after (fun x hx hpolls _ _ h => h.other x (hsteps x hx) hpolls) hstart
  obtain ⟨-, ⟨read, hle, hnames, hrooms⟩, hsent⟩ := hend
  refine ⟨read, ?_, hle, perm_of_rooms hrooms, hrooms, hsent⟩
  intro n
  constructor
  · exact Service.names_unique feed.name_injective hnames
  · rintro rfl
    exact hnames

/-! ## A life over a journal -/

/-- What Alice says in a room. -/
def aliceSays (room : RoomId) (body : String) : Post :=
  ⟨room, ⟨Chat.messageType, some ⟨"@alice:hs"⟩, none, .object [("body", .text body)]⟩⟩

/-- A new bot over a journal with one post in it. Another one comes while the second poll waits,
whose answer is lost. -/
def journalScene : Scene Journal where
  bot := mixedScene.bot
  world := .start
    { sender := ⟨"@bot:hs"⟩
      posts := [aliceSays ⟨"!b:hs"⟩ "!ping"]
      polls := [([], none), ([aliceSays ⟨"!a:hs"⟩ "hi"], some .timeout)] } .never

def journalSetting : Setting Journal := ⟨Journal.homeserver, fun _ => ⟨0, "", ""⟩⟩

/-- Two rounds, a post between rounds, and a run. -/
def journalSteps : List (Step Journal) :=
  [.poll, .poll, .others fun j => { j with posts := j.posts ++ [aliceSays ⟨"!b:hs"⟩ "!help"] },
    .run .never 2]

theorem three_posts_are_answered_once :
    journalScene.bot.session.cursor = none ∧
      (∀ x ∈ journalSteps, Allows Journal.feed x) ∧
      ∃ read, AnsweredOnce journalSetting Journal.feed journalScene
        (journalScene.answers journalSetting journalSteps)
        (journalScene.after journalSetting journalSteps) read := by
  have hsteps : ∀ x ∈ journalSteps, Allows Journal.feed x := by
    intro x hx
    rcases List.mem_cons.1 hx with rfl | hx
    · trivial
    rcases List.mem_cons.1 hx with rfl | hx
    · trivial
    rcases List.mem_cons.1 hx with rfl | hx
    · intro j
      exact List.prefix_append _ _
    rcases List.mem_singleton.1 hx with rfl
    trivial
  exact ⟨rfl, hsteps, every_post_is_answered_once journalSetting Journal.feed journalScene
    journalSteps rfl hsteps⟩

end ChatBot.Loop
