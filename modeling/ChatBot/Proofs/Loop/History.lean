-- What has happened to a bot since its start, one thing after the other: the batches
-- that came, the replies, the rooms that were noted and the texts that were sent. The
-- state of the bot is told by it, and so is what each reply was made from.
import ChatBot.Proofs.Loop.Cursor
import ChatBot.Proofs.Loop.Halves
import ChatBot.Proofs.Loop.Restarts
import ChatBot.Proofs.State.Mentions

namespace ChatBot.Loop

open Chat (UserId RoomId Batch Routed)
open Config (Settings)
open Service (World)
open State (BotState Moment Mention)

/-! ## Deeds -/

/-- Something that happens to the bot. -/
inductive Deed
  /-- A poll brought a batch. -/
  | got (b : Batch) (time : Nat)
  /-- A message of a batch had its turn. -/
  | replied (x : Turn)
  /-- A room was noted, of which no batch told. -/
  | noted (m : Mention)
  /-- A text was sent, which is no reply. -/
  | sent (room : RoomId) (body : String) (taken : Bool)

/-- All that has happened, the oldest first. -/
abbrev History := List Deed

namespace Deed

def batch? : Deed → Option Batch
  | .got b _ => some b
  | _ => none

def message? : Deed → Option Routed
  | .replied x => some x.message
  | _ => none

/-- The text that went out, and its room. -/
def text? : Deed → Option (RoomId × String)
  | .replied x => some x.text
  | .sent room body _ => some (room, body)
  | _ => none

/-- Whether the homeserver took a text. -/
def taken : Deed → Bool
  | .replied x => x.taken
  | .sent _ _ taken => taken
  | _ => false

/-- The rooms that were named. -/
def mentions : Deed → List Mention
  | .got b time => b.joined.rooms.map (⟨·, none, time⟩)
  | .noted m => [m]
  | _ => []

end Deed

def History.mentions (h : History) : List Mention := h.flatMap Deed.mentions

theorem History.mentions_append (h more : History) :
    mentions (h ++ more) = h.mentions ++ mentions more := List.flatMap_append

/-! ## What happens in steps -/

variable {σ : Type}

namespace Scene

/-- A batch, and a turn for each of its messages. -/
def pollDeeds (set : Setting σ) (s : Scene σ) : History :=
  match (s.sync set).1 with
  | .ok b =>
    .got b (s.sync set).2.world.now ::
      ((s.met set b).turns set (Chat.route b s.bot.session.userId)).map .replied
  | .error _ => []

def runDeeds (set : Setting σ) : (rounds : Nat) → Scene σ → History
  | 0, _ => []
  | rounds + 1, s =>
    if s.world.stop.requested then [] else s.pollDeeds set ++ runDeeds set rounds (s.round set)

def stepDeeds (set : Setting σ) (s : Scene σ) : Step σ → History
  | .poll => s.pollDeeds set
  | .run stop rounds => (s.begin stop).runDeeds set rounds
  | .noteRoom room name => [.noted ⟨room, name, s.world.now⟩]
  | .send room body => [.sent room body (s.takes set room body)]
  | .others _ => []

/-- What happens in some steps. -/
def deeds (set : Setting σ) : Scene σ → List (Step σ) → History
  | _, [] => []
  | s, x :: more => s.stepDeeds set x ++ deeds set (s.step set x) more

end Scene

/-- The room that the bot created is noted, and gets a word of welcome. -/
def openingDeeds (set : Setting σ) (settings : Settings) (s : Scene σ) : History :=
  if settings.createDemoRoom then
    match createDemoRoom set settings s.bot.session s.world with
    | (some room, world) =>
      let s : Scene σ := { s with world }
      let noted := s.noteRoom set room (some settings.demoRoomName)
      [.noted ⟨room, some settings.demoRoomName, world.now⟩,
        .sent room welcomeMessage (noted.takes set room welcomeMessage)]
    | (none, _) => []
  else []

/-- What happens at the start. -/
def startDeeds (set : Setting σ) (settings : Settings) (draws : Draws) (w : World σ) : History :=
  match establish set (credentials settings) w with
  | (.error _, _) => []
  | (.ok session, w) =>
    let w := setupProfile set session settings.displayName w
    openingDeeds set settings ⟨newBot set settings session draws w.now, w⟩

/-! ## What a history tells -/

/-- The states that a history may leave behind. A reply is made from the state that the history
before it has left, to a message of a batch in that history. -/
inductive Tells (clock : Nat → Moment) (own : UserId) (startedAt : Int) : History → BotState → Prop
  | start : Tells clock own startedAt [] (.fresh startedAt)
  | got {h : History} {state : BotState} (before : Tells clock own startedAt h state) (b : Batch)
      (time : Nat) :
      Tells clock own startedAt (h ++ [.got b time]) (state.noteAll b.joined.rooms (clock time))
  | replied {h : History} {state : BotState} (before : Tells clock own startedAt h state) {x : Turn}
      {draws : Draws} {b : Batch} {time : Nat} (hgot : .got b time ∈ h)
      (hmessage : x.message ∈ Chat.route b own)
      (hreply : x.reply = (replyTo x.message state (clock x.time) draws).1) :
      Tells clock own startedAt (h ++ [.replied x])
        ((replyTo x.message state (clock x.time) draws).2.1.afterSend x.taken)
  | noted {h : History} {state : BotState} (before : Tells clock own startedAt h state)
      (m : Mention) :
      Tells clock own startedAt (h ++ [.noted m]) (state.noteRoom m.room m.name (clock m.time))
  | sent {h : History} {state : BotState} (before : Tells clock own startedAt h state)
      (room : RoomId) (body : String) (taken : Bool) :
      Tells clock own startedAt (h ++ [.sent room body taken]) (state.afterSend taken)

theorem startedAt_afterSend (state : BotState) (taken : Bool) :
    (state.afterSend taken).startedAt = state.startedAt := by
  cases taken with
  | true => rfl
  | false => rfl

theorem startedAt_replyTo (m : Routed) (state : BotState) (now : Moment) (draws : Draws) :
    (replyTo m state now draws).2.1.startedAt = state.startedAt := by
  cases m with
  | command c =>
    dsimp only [replyTo, Command.dispatch]
    split
    · rfl
    · rfl
  | freeText f => rfl

/-- Nothing that happens changes when the bot was started. -/
theorem Tells.startedAt_eq {clock : Nat → Moment} {own : UserId} {startedAt : Int} {h : History}
    {state : BotState} (htells : Tells clock own startedAt h state) :
    state.startedAt = startedAt := by
  induction htells with
  | start => rfl
  | got _ b time ih => rw [(State.sameButRooms_noteAll _ _ _).startedAt, ih]
  | replied _ _ _ _ ih => rw [startedAt_afterSend, startedAt_replyTo, ih]
  | noted _ m ih => rw [(State.sameButRooms_noteRoom _ _ _ _).startedAt, ih]
  | sent _ room body taken ih => rw [startedAt_afterSend, ih]

theorem split_concat {α : Type} {before after h : List α} {x last : α}
    (heq : h ++ [last] = before ++ x :: after) :
    (before = h ∧ x = last) ∨ ∃ between, h = before ++ x :: between := by
  rcases List.eq_nil_or_concat after with rfl | ⟨between, y, rfl⟩
  · obtain ⟨hbefore, hlast⟩ := List.append_inj' heq rfl
    exact .inl ⟨hbefore.symm, (List.singleton_inj.1 hlast).symm⟩
  · rw [List.concat_eq_append, ← List.cons_append, ← List.append_assoc] at heq
    exact .inr ⟨between, (List.append_inj' heq rfl).1⟩

/-- What a reply was made from: a state that the history before it tells. -/
structure MadeFrom (clock : Nat → Moment) (own : UserId) (startedAt : Int) (before : History)
    (x : Turn) (state : BotState) (draws : Draws) : Prop where
  tells : Tells clock own startedAt before state
  message : ∃ b time, .got b time ∈ before ∧ x.message ∈ Chat.route b own
  reply : x.reply = (replyTo x.message state (clock x.time) draws).1

/-- Where the last deed is no reply, every reply stands before it. -/
theorem replied_before {before after h : History} {x : Turn} {last : Deed}
    (heq : h ++ [last] = before ++ .replied x :: after) (hlast : ∀ y, last ≠ .replied y) :
    ∃ between, h = before ++ .replied x :: between := by
  rcases split_concat heq with ⟨-, hx⟩ | hbetween
  · exact (hlast x hx.symm).elim
  · exact hbetween

theorem Tells.madeFrom {clock : Nat → Moment} {own : UserId} {startedAt : Int} {h : History}
    {state : BotState} (htells : Tells clock own startedAt h state) {before after : History}
    {x : Turn} (heq : h = before ++ .replied x :: after) :
    ∃ state draws, MadeFrom clock own startedAt before x state draws := by
  induction htells generalizing after with
  | start => simp at heq
  | got _ b time ih =>
    obtain ⟨between, hbetween⟩ := replied_before heq nofun
    exact ih hbetween
  | @replied h state htells y draws b time hgot hmessage hreply ih =>
    rcases split_concat heq with ⟨rfl, hlast⟩ | ⟨between, hbetween⟩
    · cases hlast
      exact ⟨state, draws, htells, ⟨b, time, hgot, hmessage⟩, hreply⟩
    · exact ih hbetween
  | noted _ m ih =>
    obtain ⟨between, hbetween⟩ := replied_before heq nofun
    exact ih hbetween
  | sent _ room body taken ih =>
    obtain ⟨between, hbetween⟩ := replied_before heq nofun
    exact ih hbetween

/-! ## The history of a scene -/

/-- A scene with all that has happened in it, against what its polls were answered. -/
structure Chronicle (set : Setting σ) (own : UserId) (startedAt : Int) (as : Answers) (h : History)
    (s : Scene σ) : Prop where
  tells : Tells set.clock own startedAt h s.bot.state
  /-- All texts that were sent are told. -/
  texts : texts s.world.log = h.filterMap Deed.text?
  /-- All batches are told. -/
  batches : h.filterMap Deed.batch? = batches as
  /-- All messages have had their turns. -/
  messages : h.filterMap Deed.message? = (Loop.batches as).flatMap (Chat.route · own)
  userId : s.bot.session.userId = own
  phase : s.bot.phase = .idle

variable {set : Setting σ} {own : UserId} {startedAt : Int} {as : Answers} {h : History}
  {s : Scene σ}

/-- The turns of a batch go on with its history. -/
theorem tells_turns (htells : Tells set.clock own startedAt h s.bot.state) {b : Batch} {time : Nat}
    (hgot : .got b time ∈ h) {ms : List Routed} (hms : ∀ m ∈ ms, m ∈ Chat.route b own) :
    Tells set.clock own startedAt (h ++ (s.turns set ms).map .replied)
      (ms.foldl (Scene.answer set) s).bot.state := by
  induction ms generalizing h s with
  | nil => simpa [Scene.turns] using htells
  | cons m more ih =>
    have hreply : (s.turn set m).reply =
        (replyTo m s.bot.state (set.clock (s.turn set m).time) s.bot.draws).1 :=
      congrArg Prod.fst (Scene.compose_eq set s m)
    have hfirst := htells.replied hgot (hms m List.mem_cons_self) hreply
    have hstate := congrArg Bot.state (Scene.answer_bot set s m)
    dsimp only at hstate
    rw [show (s.turn set m).message = m from rfl, ← hstate] at hfirst
    have hmore := ih hfirst (List.mem_append_left _ hgot)
      fun other hother => hms other (List.mem_cons_of_mem m hother)
    rwa [List.append_assoc] at hmore

theorem filterMap_batch?_replied (xs : List Turn) :
    (xs.map Deed.replied).filterMap Deed.batch? = [] := by
  rw [List.filterMap_map]
  exact List.filterMap_eq_nil_iff.2 fun _ _ => rfl

theorem filterMap_message?_replied (xs : List Turn) :
    (xs.map Deed.replied).filterMap Deed.message? = xs.map Turn.message := by
  rw [List.filterMap_map]
  exact congrFun List.filterMap_eq_map xs

theorem filterMap_text?_replied (xs : List Turn) :
    (xs.map Deed.replied).filterMap Deed.text? = xs.map Turn.text := by
  rw [List.filterMap_map]
  exact congrFun List.filterMap_eq_map xs

namespace Chronicle

theorem poll_ok (hs : Chronicle set own startedAt as h s) {b : Batch}
    (hb : (s.sync set).1 = .ok b) :
    Chronicle set own startedAt (as ++ [.ok b]) (h ++ s.pollDeeds set) (s.poll set).2 := by
  have hanswered := Scene.answered hb
  have hbot := Scene.poll_bot_of_ok hb
  have hown : Chat.route b s.bot.session.userId = Chat.route b own := by rw [hs.userId]
  unfold Scene.pollDeeds
  rw [hb]
  dsimp only
  constructor
  · have hgot := hs.tells.got b (s.sync set).2.world.now
    have hturns := tells_turns (s := s.met set b) hgot (List.mem_append_right _ List.mem_cons_self)
      (fun m hm => hown ▸ hm : ∀ m ∈ Chat.route b s.bot.session.userId, m ∈ Chat.route b own)
    rw [Scene.poll_eq_foldl hb]
    rwa [List.append_assoc] at hturns
  · rw [hanswered.calls, texts_append, texts_poll, texts_turns, hs.texts, List.filterMap_append,
      List.filterMap_cons, filterMap_text?_replied]
    rfl
  · rw [List.filterMap_append, List.filterMap_cons, filterMap_batch?_replied, hs.batches,
      batches_ok]
    rfl
  · rw [List.filterMap_append, List.filterMap_cons, filterMap_message?_replied, hs.messages,
      batches_ok, List.flatMap_append, hanswered.messages, hown]
    exact congrArg (_ ++ ·) (List.flatMap_singleton _ _).symm
  · rw [hbot]
    exact hs.userId
  · rw [hbot]

theorem poll_error (hs : Chronicle set own startedAt as h s) {f : Fault}
    (hf : (s.sync set).1 = .error f) :
    Chronicle set own startedAt (as ++ [.error f]) (h ++ s.pollDeeds set) (s.poll set).2 := by
  obtain ⟨hbot, hlog⟩ := Scene.bot_and_log_of_error hf hs.phase
  unfold Scene.pollDeeds
  rw [hf]
  dsimp only
  rw [List.append_nil]
  constructor
  · rw [hbot]
    exact hs.tells
  · rw [hlog, texts_poll, hs.texts]
  · rw [hs.batches, batches_error]
  · rw [hs.messages, batches_error]
  · rw [hbot]
    exact hs.userId
  · rw [hbot]
    exact hs.phase

theorem poll (hs : Chronicle set own startedAt as h s) :
    Chronicle set own startedAt (as ++ [(s.sync set).1]) (h ++ s.pollDeeds set) (s.poll set).2 := by
  cases ha : (s.sync set).1 with
  | ok b => exact hs.poll_ok ha
  | error f => exact hs.poll_error ha

/-- The time, the request to stop, the homeserver and calls that send no text do not matter. -/
theorem meanwhile (hs : Chronicle set own startedAt as h s) (world : World σ)
    (htexts : Loop.texts world.log = Loop.texts s.world.log) :
    Chronicle set own startedAt as h { s with world } :=
  ⟨hs.tells, htexts.trans hs.texts, hs.batches, hs.messages, hs.userId, hs.phase⟩

theorem runFor (hs : Chronicle set own startedAt as h s) (rounds : Nat) :
    Chronicle set own startedAt (as ++ s.runAnswers set rounds) (h ++ s.runDeeds set rounds)
      (s.runFor set rounds) := by
  induction rounds generalizing as h s with
  | zero => simpa [Scene.runFor, Scene.runAnswers, Scene.runDeeds] using hs
  | succ rounds ih =>
    unfold Scene.runFor Scene.runAnswers Scene.runDeeds
    split
    · simpa using hs
    · have hround : Chronicle set own startedAt (as ++ [(s.sync set).1]) (h ++ s.pollDeeds set)
          (s.round set) := hs.poll.meanwhile _ (congrArg Loop.texts (World.pause_log _ _))
      have hmore := ih hround
      rwa [List.append_assoc, List.append_assoc] at hmore

theorem noteRoom (hs : Chronicle set own startedAt as h s) (room : RoomId) (name : Option String) :
    Chronicle set own startedAt as (h ++ [.noted ⟨room, name, s.world.now⟩])
      (s.noteRoom set room name) := by
  refine ⟨hs.tells.noted _, ?_, ?_, ?_, hs.userId, hs.phase⟩
  · rw [List.filterMap_append]
    exact hs.texts.trans (List.append_nil _).symm
  · rw [List.filterMap_append]
    exact (List.append_nil _).trans hs.batches
  · rw [List.filterMap_append]
    exact (List.append_nil _).trans hs.messages

theorem send (hs : Chronicle set own startedAt as h s) (room : RoomId) (body : String) :
    Chronicle set own startedAt as (h ++ [.sent room body (s.takes set room body)])
      (s.send set room body).2 := by
  constructor
  · rw [Scene.send_bot]
    exact hs.tells.sent room body _
  · rw [Scene.send_log, texts_append, hs.texts, List.filterMap_append]
    rfl
  · rw [List.filterMap_append]
    exact (List.append_nil _).trans hs.batches
  · rw [List.filterMap_append]
    exact (List.append_nil _).trans hs.messages
  · rw [Scene.send_bot]
    exact hs.userId
  · rw [Scene.send_bot]
    exact hs.phase

theorem step (hs : Chronicle set own startedAt as h s) (x : Step σ) :
    Chronicle set own startedAt (as ++ s.stepAnswers set x) (h ++ s.stepDeeds set x)
      (s.step set x) := by
  cases x with
  | poll => exact hs.poll
  | run stop rounds =>
    have hbegin : Chronicle set own startedAt as h (s.begin stop) := hs.meanwhile _ rfl
    exact hbegin.runFor rounds
  | noteRoom room name =>
    rw [show s.stepAnswers set (.noteRoom room name) = [] from rfl, List.append_nil]
    exact hs.noteRoom room name
  | send room body =>
    rw [show s.stepAnswers set (.send room body) = [] from rfl, List.append_nil]
    exact hs.send room body
  | others change =>
    rw [show s.stepAnswers set (.others change) = [] from rfl, List.append_nil,
      show s.stepDeeds set (.others change) = [] from rfl, List.append_nil]
    exact hs.meanwhile _ rfl

theorem after (hs : Chronicle set own startedAt as h s) (steps : List (Step σ)) :
    Chronicle set own startedAt (as ++ s.answers set steps) (h ++ s.deeds set steps)
      (s.after set steps) := by
  induction steps generalizing as h s with
  | nil => simpa [Scene.after, Scene.answers, Scene.deeds] using hs
  | cons x more ih =>
    have hmore := ih (hs.step x)
    rwa [List.append_assoc, List.append_assoc] at hmore

/-- The user and the time of the start are those that the bot says. -/
theorem ofOwn (hs : Chronicle set own startedAt as h s) :
    Chronicle set s.bot.session.userId s.bot.state.startedAt as h s := by
  rw [hs.userId, hs.tells.startedAt_eq]
  exact hs

/-! ## The start -/

theorem opening (hs : Chronicle set own startedAt as h s) (settings : Settings) :
    Chronicle set own startedAt as (h ++ openingDeeds set settings s)
      (openDemoRoom set settings s) := by
  have htexts : Loop.texts (createDemoRoom set settings s.bot.session s.world).2.log =
      Loop.texts s.world.log := by
    rw [createDemoRoom_world, World.perform_log, texts_append]
    exact List.append_nil _
  unfold openDemoRoom openingDeeds
  split
  · rcases hcreate : createDemoRoom set settings s.bot.session s.world with ⟨room, world⟩
    rw [hcreate] at htexts
    have hcreated := hs.meanwhile world htexts
    cases room with
    | none =>
      dsimp only
      rw [List.append_nil]
      exact hcreated
    | some room =>
      have hopened := (hcreated.noteRoom room (some settings.demoRoomName)).send room welcomeMessage
      rwa [List.append_assoc] at hopened
  · rw [List.append_nil]
    exact hs

end Chronicle

/-- Whoever the bot turns out to be, it sends no text to get its account. -/
theorem texts_establish (set : Setting σ) (c : Service.Credentials) (w : World σ) :
    texts (establish set c w).2.log = texts w.log := by
  refine establish_keeps set c (P := fun v => texts v.log = texts w.log) rfl ?_
  rintro v call answered (rfl | rfl) hv
  · rw [World.perform_log, texts_append, hv]
    exact List.append_nil _
  · rw [World.perform_log, texts_append, hv]
    exact List.append_nil _

/-- A bot that has started has the history of its start. -/
theorem chronicle_start {settings : Settings} {draws : Draws} {w : World σ} (hw : texts w.log = [])
    (hstart : (start set settings draws w).1 = .ok s) :
    Chronicle set s.bot.session.userId s.bot.state.startedAt [] (startDeeds set settings draws w)
      s := by
  have htexts := texts_establish set (credentials settings) w
  unfold start at hstart
  unfold startDeeds
  rcases hestablish : establish set (credentials settings) w with ⟨signed, v⟩
  rw [hestablish] at hstart htexts
  cases signed with
  | error f => cases hstart
  | ok session =>
    cases hstart
    let named := setupProfile set session settings.displayName v
    have hnamed : texts named.log = [] := by
      dsimp only [named, setupProfile] at htexts ⊢
      rw [World.perform_log, texts_append, htexts, hw]
      rfl
    have hnew : Chronicle set session.userId (set.clock named.now).instant [] []
        ⟨newBot set settings session draws named.now, named⟩ :=
      ⟨.start, hnamed, rfl, rfl, rfl, rfl⟩
    exact (hnew.opening settings).ofOwn

end ChatBot.Loop
