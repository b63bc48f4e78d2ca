-- A batch that comes in two parts, by two polls in a row. The second part finds the
-- rooms noted, and the state and the draws as the first part left them, so it does
-- not matter where one batch ends and the next one begins.
import ChatBot.Proofs.Chat.Cuts
import ChatBot.Proofs.Loop.Times

namespace ChatBot.Loop

open Chat (RoomId AccessToken Batch Routed SyncToken Cut)
open Command (SameButClock)
open Service (World Script Entry)
open State (BotState Moment)

/-! ## Replies in two parts -/

theorem replies_append (clock : Nat → Moment) (xs ys : List Turn) (state : BotState)
    (draws : Draws) :
    let first := replies clock xs state draws
    let second := replies clock ys first.2.1 first.2.2
    replies clock (xs ++ ys) state draws = (first.1 ++ second.1, second.2) := by
  induction xs generalizing state draws with
  | nil => rfl
  | cons x xs ih =>
    have hmore := ih ((replyTo x.message state (clock x.time) draws).2.1.afterSend x.taken)
      (replyTo x.message state (clock x.time) draws).2.2
    dsimp only [List.cons_append, replies] at hmore ⊢
    rw [hmore]

theorem accepted_add (few more : Nat) (answers : List (Except Fault Unit × Nat)) :
    accepted (few + more) answers = accepted few answers ++ accepted more (answers.drop few) := by
  induction few generalizing answers with
  | zero => simp [accepted]
  | succ few ih =>
    rw [Nat.succ_add, accepted, accepted, ih, List.drop_tail, List.cons_append]

/-! ## Polls over a script -/

namespace Scene

variable (clock : Nat → Moment) {s : Scene Script}

/-- The scene with other answers to the polls to come. -/
def offering (s : Scene Script) (answers : List (Except Fault Batch × Nat)) : Scene Script :=
  { s with world := { s.world with server := { s.world.server with sync := answers } } }

/-- A poll gets the first of the answers to come, and leaves the answers to texts. -/
theorem sync_script {answer : Except Fault Batch} {delay : Nat}
    {more : List (Except Fault Batch × Nat)} (h : s.world.server.sync = (answer, delay) :: more) :
    (s.sync (scripted clock)).1 = answer ∧
      (s.sync (scripted clock)).2.world.server.sync = more ∧
      (s.sync (scripted clock)).2.world.server.sendText = s.world.server.sendText := by
  rw [sync_server]
  dsimp only [Scene.sync, withPhase, World.perform_result, Script.homeserver]
  rw [Script.countDown_eq .sync s.world.server]
  dsimp only
  rw [h]
  exact ⟨rfl, rfl, rfl⟩

end Scene

/-! ## One batch of a script -/

/-- The text of a call and the room it goes to, if the call sends one. -/
def text? (e : Entry) : Option (RoomId × String) :=
  match e.call with
  | .sendText _ room body => some (room, body)
  | _ => none

/-- The texts that were sent, in order, whether they were taken or not. -/
def texts (log : List Entry) : List (RoomId × String) := log.filterMap text?

theorem texts_append (log more : List Entry) : texts (log ++ more) = texts log ++ texts more :=
  List.filterMap_append

/-- A poll sends no text. -/
theorem texts_poll {σ : Type} (log : List Entry) (s : Scene σ) :
    texts (log ++ [s.pollEntry]) = texts log := by
  rw [texts_append]
  exact List.append_nil _

/-- The text of a turn and its room. -/
def Turn.text (x : Turn) : RoomId × String := (x.message.room, x.reply)

theorem texts_turns (token : AccessToken) (cursor : Option SyncToken) (turns : List Turn) :
    texts (turns.map (Turn.entry token cursor)) = turns.map Turn.text := by
  unfold texts
  rw [List.filterMap_map]
  exact congrFun List.filterMap_eq_map turns

/-- A poll that gets a batch from a script, and what it takes from the script. -/
structure Served (clock : Nat → Moment) (s : Scene Script) (b : Batch)
    (more : List (Except Fault Batch × Nat)) (turns : List Turn) : Prop where
  got : (s.sync (scripted clock)).1 = .ok b
  answered : Answered (scripted clock) s b turns
  texts : texts (s.poll (scripted clock)).2.world.log =
    texts s.world.log ++ turns.map Turn.text
  taken : turns.map Turn.taken = accepted turns.length s.world.server.sendText
  sync : (s.poll (scripted clock)).2.world.server.sync = more
  sendText : (s.poll (scripted clock)).2.world.server.sendText =
    s.world.server.sendText.drop turns.length

theorem exists_served (clock : Nat → Moment) {s : Scene Script} {b : Batch} {delay : Nat}
    {more : List (Except Fault Batch × Nat)}
    (h : s.world.server.sync = (.ok b, delay) :: more) :
    ∃ turns, Served clock s b more turns := by
  obtain ⟨hgot, hsync, hsendText⟩ := Scene.sync_script clock h
  obtain ⟨turns, hturns⟩ : ∃ turns, Answered (scripted clock) s b turns :=
    ⟨_, Scene.answered hgot⟩
  obtain ⟨htaken, hleft⟩ := takings_script s.bot.session.accessToken turns
    (s.sync (scripted clock)).2.world.server
  rw [hturns.answers, hsendText] at htaken hleft
  refine ⟨turns, hgot, hturns, ?_, htaken, ?_, ?_⟩
  · rw [hturns.calls, texts_append, texts_poll, texts_turns]
  · exact (congrArg Script.sync hleft).trans hsync
  · exact congrArg Script.sendText hleft

namespace Served

variable {clock : Nat → Moment} {s : Scene Script} {b : Batch}
  {more : List (Except Fault Batch × Nat)} {turns : List Turn}

theorem outcome (h : Served clock s b more turns) :
    (s.poll (scripted clock)).1 = .processed turns.length := by
  rw [h.answered.outcome, ← h.answered.messages, List.length_map]

theorem userId (h : Served clock s b more turns) :
    (s.poll (scripted clock)).2.bot.session.userId = s.bot.session.userId := by
  rw [Scene.poll_bot_of_ok h.got]
  rfl

/-- All rooms of the batch are known afterwards. -/
theorem rooms (h : Served clock s b more turns) : ∀ room ∈ b.joined.rooms,
    ((s.poll (scripted clock)).2.bot.state.rooms.find? room).isSome = true := by
  rw [h.answered.rooms_after]
  exact h.answered.rooms

/-- Where the next batch names the same rooms, noting them changes nothing, and the replies of both
rounds are made in one row. -/
theorem said_in_a_row (h : Served clock s b more turns) {next : Batch}
    {rest : List (Except Fault Batch × Nat)} {others : List Turn}
    (hnext : Served clock (s.poll (scripted clock)).2 next rest others)
    (hrooms : next.joined.rooms = b.joined.rooms) :
    let last := ((s.poll (scripted clock)).2.poll (scripted clock)).2
    replies clock (turns ++ others) (s.bot.state.noteAll b.joined.rooms
        ((s.sync (scripted clock)).2.moment (scripted clock))) s.bot.draws =
      ((turns ++ others).map Turn.reply, last.bot.state, last.bot.draws) := by
  have hknown := h.rooms
  rw [← hrooms] at hknown
  have hsaid := hnext.answered.said
  rw [BotState.noteAll_of_known hknown] at hsaid
  have hrow := replies_append clock turns others (s.bot.state.noteAll b.joined.rooms
    ((s.sync (scripted clock)).2.moment (scripted clock))) s.bot.draws
  dsimp only at hrow hsaid ⊢
  rw [hrow, h.answered.said, hsaid, List.map_append]

end Served

/-! ## The law of cuts -/

/-- The same text in the same room, but for what the clocks show in it. -/
structure SameText (x y : RoomId × String) : Prop where
  room : y.1 = x.1
  body : SameButClock x.2 y.2

/-- A batch that comes as a whole, and one that comes in two parts: the same texts are sent to
the same rooms, and the same counts, rooms and draws are left. -/
structure Halved (whole first second : Outcome × Scene Script) : Prop where
  outcome : ∃ before behind, whole.1 = .processed (before + behind) ∧
    first.1 = .processed before ∧ second.1 = .processed behind
  texts : List.Forall₂ SameText (texts whole.2.world.log) (texts second.2.world.log)
  state : whole.2.bot.state.Alike second.2.bot.state
  draws : second.2.bot.draws = whole.2.bot.draws

theorem sameText_turns {xs ys : List Turn} (h : List.Forall₂ Turn.Again xs ys) :
    List.Forall₂ SameText (xs.map Turn.text) (ys.map Turn.text) := by
  apply List.forall₂_map_left_iff.2
  apply List.forall₂_map_right_iff.2
  apply h.imp
  intro x y hxy
  exact ⟨congrArg Routed.room hxy.message, hxy.reply⟩

theorem Served.halved {clock : Nat → Moment} {s t : Scene Script} {b before behind : Batch}
    {more more₁ more₂ : List (Except Fault Batch × Nat)} {xs ys zs : List Turn}
    (hwhole : Served clock s b more xs) (hfirst : Served clock t before more₁ ys)
    (hsecond : Served clock (t.poll (scripted clock)).2 behind more₂ zs)
    (h : Cut b before behind) (hbot : t.bot = s.bot) (hlog : t.world.log = s.world.log)
    (hsendText : t.world.server.sendText = s.world.server.sendText) :
    Halved (s.poll (scripted clock)) (t.poll (scripted clock))
      ((t.poll (scripted clock)).2.poll (scripted clock)) := by
  have hmessage : (ys ++ zs).map Turn.message = xs.map Turn.message := by
    rw [List.map_append, hwhole.answered.messages, hfirst.answered.messages,
      hsecond.answered.messages, hfirst.userId, hbot]
    exact (Chat.route_of_cut h _).symm
  have hlength : xs.length = ys.length + zs.length := by
    simpa using (congrArg List.length hmessage).symm
  have htaken : (ys ++ zs).map Turn.taken = xs.map Turn.taken := by
    rw [List.map_append, hwhole.taken, hfirst.taken, hsecond.taken, hfirst.sendText, hsendText,
      hlength, accepted_add]
  -- either way, the rooms are noted before the first reply
  have hnoted := (BotState.Alike.refl s.bot.state).noteAll b.joined.rooms
    ((s.sync (scripted clock)).2.moment (scripted clock))
    ((t.sync (scripted clock)).2.moment (scripted clock))
  have hsaid := replies_alike clock clock hmessage htaken hnoted s.bot.draws
  have hrow := hfirst.said_in_a_row hsecond (h.rooms_second.trans h.rooms_first.symm)
  rw [h.rooms_first, hbot] at hrow
  rw [hwhole.answered.said, hrow] at hsaid
  obtain ⟨htexts, hstate, hdraws⟩ := hsaid
  refine ⟨⟨ys.length, zs.length, ?_, hfirst.outcome, hsecond.outcome⟩, ?_, hstate, hdraws⟩
  · rw [hwhole.outcome, hlength]
  · rw [hwhole.texts, hsecond.texts, hfirst.texts, hlog, List.append_assoc, ← List.map_append]
    apply List.rel_append
    · exact List.forall₂_same.2 fun x _ => ⟨rfl, .same x.2⟩
    · exact sameText_turns (forall₂_again hmessage htexts)

/-- It does not matter where a batch is cut: its two parts, got by two polls in a row, come to the
same as the batch does when it is got by one. -/
theorem a_batch_may_come_in_two_parts (clock : Nat → Moment) (s : Scene Script)
    {b before behind : Batch} (h : Cut b before behind) (delay delay₁ delay₂ : Nat)
    (more : List (Except Fault Batch × Nat)) :
    let whole := (s.offering ((.ok b, delay) :: more)).poll (scripted clock)
    let first := (s.offering ((.ok before, delay₁) :: (.ok behind, delay₂) :: more)).poll
      (scripted clock)
    Halved whole first (first.2.poll (scripted clock)) := by
  intro whole first
  obtain ⟨xs, hwhole⟩ : ∃ turns,
      Served clock (s.offering ((.ok b, delay) :: more)) b more turns := exists_served clock rfl
  obtain ⟨ys, hfirst⟩ : ∃ turns, Served clock
      (s.offering ((.ok before, delay₁) :: (.ok behind, delay₂) :: more)) before
      ((.ok behind, delay₂) :: more) turns := exists_served clock rfl
  obtain ⟨zs, hsecond⟩ := exists_served clock hfirst.sync
  exact hwhole.halved hfirst hsecond h rfl rfl rfl

/-! ## A cut in the middle of a timeline -/

/-- Two commands in one room, and one in another room. -/
def busyBatch : Batch where
  next := ⟨"s1"⟩
  joined := .ofList [
    (⟨"!a:hs"⟩, [
      ⟨Chat.messageType, some ⟨"@alice:hs"⟩, none, .object [("body", .text "!joke")]⟩,
      ⟨Chat.messageType, some ⟨"@alice:hs"⟩, none, .object [("body", .text "!stats")]⟩]),
    (⟨"!b:hs"⟩, [⟨Chat.messageType, some ⟨"@bob:hs"⟩, none, .object [("body", .text "!rooms")]⟩])]

theorem a_joke_may_come_before_the_cut :
    Cut busyBatch (busyBatch.upTo 1) (busyBatch.beyond 1) ∧
      let whole := (mixedScene.offering [(.ok busyBatch, 0)]).poll mixedSetting
      let first := (mixedScene.offering
        [(.ok (busyBatch.upTo 1), 5), (.ok (busyBatch.beyond 1), 7)]).poll mixedSetting
      Halved whole first (first.2.poll mixedSetting) :=
  ⟨busyBatch.cut_upTo 1, a_batch_may_come_in_two_parts (fun _ => ⟨0, "", ""⟩) mixedScene
    (busyBatch.cut_upTo 1) 0 5 7 []⟩

end ChatBot.Loop
