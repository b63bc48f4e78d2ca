-- When the calls of a run go out. Time passes only while answers are waited for,
-- before replies to free text and between rounds, so all of these times can be told
-- from the answers and their delays.
import Mathlib.Algebra.GroupWithZero.Nat
import Mathlib.Data.List.Chain
import ChatBot.Proofs.Loop.Delivery
import ChatBot.Proofs.Loop.Halves
import ChatBot.Proofs.Loop.Quiet
import ChatBot.Proofs.Loop.Restarts

namespace ChatBot

namespace Chat

def Routed.isFreeText : Routed → Bool
  | .command _ => false
  | .freeText _ => true

/-- How many of some messages are free text, and so take their time to reply to. -/
def freeTexts (ms : List Routed) : Nat := ms.countP Routed.isFreeText

@[simp] theorem freeTexts_nil : freeTexts [] = 0 := rfl

theorem freeTexts_cons (m : Routed) (ms : List Routed) :
    freeTexts (m :: ms) = freeTexts [m] + freeTexts ms := by
  unfold freeTexts
  rw [← List.singleton_append, List.countP_append]

end Chat

namespace Service.World

open Chat (SyncToken)

variable {σ α : Type}

@[simp] theorem sleep_now (w : World σ) (delay : Nat) : (w.sleep delay).now = w.now + delay := by
  unfold sleep
  by_cases h : delay = 0
  · simp [h]
  · simp [h]

@[simp] theorem perform_now (w : World σ) (call : Call) (phase : Phase)
    (cursor : Option SyncToken) (answered : Answer α × σ) :
    (w.perform call phase cursor answered).2.now = w.now + answered.1.delay := by
  rw [perform_eq, sleep_now]
  rfl

end Service.World

/-! ## What a script has ready -/

namespace Service.Script

variable {α : Type}

/-- So many answers from a list, made up with another one where the list has come to its end. -/
def firsts (missing : α) (answers : List α) (count : Nat) : List α :=
  (List.range count).map fun i => answers.getD i missing

@[simp] theorem firsts_zero (missing : α) (answers : List α) :
    firsts missing answers 0 = [] := rfl

theorem firsts_succ (missing : α) (answers : List α) (count : Nat) :
    firsts missing answers (count + 1) =
      (first missing answers).1 :: firsts missing answers.tail count := by
  unfold firsts
  rw [List.range_succ_eq_map, List.map_cons, List.map_map]
  cases answers with
  | nil => simp [first, Function.comp_def]
  | cons a more => simp [first, Function.comp_def]

theorem firsts_add (missing : α) (answers : List α) (few more : Nat) :
    firsts missing answers (few + more) =
      firsts missing answers few ++ firsts missing (answers.drop few) more := by
  induction few generalizing answers with
  | zero => simp
  | succ few ih =>
    rw [Nat.succ_add, firsts_succ, firsts_succ, ih, List.drop_tail, List.cons_append]

end Service.Script

namespace Loop

open Chat (UserId RoomId Batch Routed)
open Config (Timings)
open Service (World Script Entry CallKind Stop)
open State (Moment)

/-! ## Laps -/

/-- A round by the clock. -/
structure Lap where
  /-- When the poll goes out. -/
  began : Nat
  answer : Except Fault Batch
  /-- How long the answer to the poll takes. -/
  wait : Nat
  /-- What there is to reply to. -/
  messages : List Routed
  /-- How long the answer to each reply takes. -/
  delays : List Nat

/-- What a timetable says of a call: the room is there only if a text is sent. -/
structure Stamp where
  kind : CallKind
  room : Option RoomId
  time : Nat
  deriving DecidableEq

def Stamp.of (e : Entry) : Stamp := ⟨e.call.kind, recipient? e, e.time⟩

namespace Lap

/-- When the answer to the poll is there. -/
def returned (x : Lap) : Nat := x.began + x.wait

/-- When the reply to a message goes out: the replies before it are answered, and every free text
up to it has had its wait. -/
def sendTime (x : Lap) (replyDelay i : Nat) : Nat :=
  x.returned + (x.delays.take i).sum +
    replyDelay * Chat.freeTexts (x.messages.take (i + 1))

/-- When the last reply is answered. -/
def ended (x : Lap) (replyDelay : Nat) : Nat :=
  x.returned + x.delays.sum + replyDelay * Chat.freeTexts x.messages

/-- The pause before the next round. -/
def rest (x : Lap) (timings : Timings) : Nat :=
  match x.answer with
  | .ok _ => timings.idleDelay
  | .error f => if f = .timeout then 0 else timings.errorCooldown

/-- The calls of a round: the poll, and one text for each message. -/
def calls (x : Lap) (replyDelay : Nat) : List Stamp :=
  ⟨.sync, none, x.began⟩ ::
    x.messages.mapIdx fun i m => ⟨.sendText, some m.room, x.sendTime replyDelay i⟩

/-- What there is to reply to is told by the answer to the poll. -/
structure Sound (own : UserId) (x : Lap) : Prop where
  messages : x.messages = match x.answer with
    | .ok b => Chat.route b own
    | .error _ => []
  delays : x.delays.length = x.messages.length

end Lap

namespace Scene

variable {σ : Type} {set : Setting σ}

/-! ## The time that replies take -/

/-- How long the answer to the next poll takes. -/
def pollDelay (set : Setting σ) (s : Scene σ) : Nat :=
  (set.homeserver.sync s.bot.session.accessToken s.nextPoll s.world.server).1.delay

/-- How long the answer to the reply to a message takes. -/
def sendDelay (set : Setting σ) (s : Scene σ) (m : Routed) : Nat :=
  (set.homeserver.sendText s.bot.session.accessToken m.room (s.turn set m).reply
    s.world.server).1.delay

/-- How long the answers to the replies to a row of messages take. -/
def sendDelays (set : Setting σ) : Scene σ → List Routed → List Nat
  | _, [] => []
  | s, m :: more => s.sendDelay set m :: sendDelays set (s.answer set m) more

@[simp] theorem length_sendDelays (s : Scene σ) (ms : List Routed) :
    (s.sendDelays set ms).length = ms.length := by
  induction ms generalizing s with
  | nil => rfl
  | cons m more ih => simp [sendDelays, ih]

/-- Only free text is waited for before it is replied to. -/
theorem turn_time (s : Scene σ) (m : Routed) :
    (s.turn set m).time =
      s.world.now + s.bot.timings.replyDelay * Chat.freeTexts [m] := by
  cases m with
  | command c => rfl
  | freeText t =>
    have hwait : (s.turn set (.freeText t)).time = (s.world.sleep s.bot.timings.replyDelay).now := rfl
    simp [hwait, Chat.freeTexts, Routed.isFreeText]

theorem answer_now (s : Scene σ) (m : Routed) :
    (s.answer set m).world.now = (s.turn set m).time + s.sendDelay set m := by
  rw [answer_eq, send_world, World.perform_now, compose_session, compose_server]
  rfl

theorem answer_timings (s : Scene σ) (m : Routed) :
    (s.answer set m).bot.timings = s.bot.timings := by
  rw [answer_bot]

/-- When the replies to a row of messages go out. -/
theorem stamps_turns (token : Chat.AccessToken) (cursor : Option Chat.SyncToken) (s : Scene σ)
    (ms : List Routed) : (s.turns set ms).map (fun x => Stamp.of (x.entry token cursor)) =
      ms.mapIdx fun i m => ⟨.sendText, some m.room,
        s.world.now + ((s.sendDelays set ms).take i).sum +
          s.bot.timings.replyDelay * Chat.freeTexts (ms.take (i + 1))⟩ := by
  induction ms generalizing s with
  | nil => rfl
  | cons m more ih =>
    have hfirst : Stamp.of ((s.turn set m).entry token cursor) = ⟨.sendText, some m.room,
      s.world.now + s.bot.timings.replyDelay * Chat.freeTexts [m]⟩ :=
      congrArg (Stamp.mk .sendText (some m.room)) (turn_time s m)
    have hmore := ih (s.answer set m)
    rw [answer_now, answer_timings, turn_time] at hmore
    unfold turns sendDelays
    rw [List.map_cons, hmore, List.mapIdx_cons, hfirst]
    congr 1
    congr 1
    funext i x
    rw [List.take_succ_cons, List.take_succ_cons, List.sum_cons,
      Chat.freeTexts_cons m (more.take (i + 1)), Nat.mul_add]
    congr 1
    omega

/-- The time after a row of messages. -/
theorem foldl_answer_now (s : Scene σ) (ms : List Routed) :
    (ms.foldl (answer set) s).world.now = s.world.now + (s.sendDelays set ms).sum +
      s.bot.timings.replyDelay * Chat.freeTexts ms := by
  induction ms generalizing s with
  | nil => simp [sendDelays]
  | cons m more ih =>
    rw [List.foldl_cons, ih, answer_now, answer_timings, turn_time, sendDelays, List.sum_cons,
      Chat.freeTexts_cons m more, Nat.mul_add]
    omega

/-! ## The lap of a round -/

/-- The lap of the next round. -/
def lap (set : Setting σ) (s : Scene σ) : Lap where
  began := s.world.now
  answer := (s.sync set).1
  wait := s.pollDelay set
  messages := match (s.sync set).1 with
    | .ok b => Chat.route b s.bot.session.userId
    | .error _ => []
  delays := match (s.sync set).1 with
    | .ok b => (s.met set b).sendDelays set (Chat.route b s.bot.session.userId)
    | .error _ => []

theorem lap_sound (set : Setting σ) (s : Scene σ) :
    (s.lap set).Sound s.bot.session.userId := by
  refine ⟨rfl, ?_⟩
  unfold lap
  cases (s.sync set).1 with
  | ok b => simp
  | error f => rfl

theorem sync_now (s : Scene σ) : (s.sync set).2.world.now = (s.lap set).returned :=
  World.perform_now _ _ _ _ _

theorem stamp_pollEntry (s : Scene σ) : Stamp.of s.pollEntry = ⟨.sync, none, s.world.now⟩ := rfl

/-- The calls of a round are those of its lap. -/
theorem poll_calls (s : Scene σ) :
    (s.poll set).2.world.log.map Stamp.of =
      s.world.log.map Stamp.of ++ (s.lap set).calls s.bot.timings.replyDelay := by
  cases h : (s.sync set).1 with
  | ok b =>
    have hnow : (s.met set b).world.now = (s.lap set).returned := sync_now s
    rw [(answered h).calls, List.map_append, List.map_append, List.map_map, List.append_assoc]
    unfold Function.comp
    rw [stamps_turns, hnow]
    simp only [Lap.calls, Lap.sendTime, lap, h]
    rfl
  | error f =>
    rw [poll_of_error h, sync_log, List.map_append]
    simp [lap, h, Lap.calls, stamp_pollEntry]

/-- A round ends when its lap does. -/
theorem poll_now (s : Scene σ) :
    (s.poll set).2.world.now = (s.lap set).ended s.bot.timings.replyDelay := by
  cases h : (s.sync set).1 with
  | ok b =>
    have hnow : (s.met set b).world.now = (s.lap set).returned := sync_now s
    rw [poll_eq_foldl h, foldl_answer_now, hnow]
    simp only [Lap.ended, lap, h]
    rfl
  | error f =>
    rw [poll_of_error h, sync_now]
    simp [lap, h, Lap.ended]

theorem poll_timings (s : Scene σ) : (s.poll set).2.bot.timings = s.bot.timings := by
  cases h : (s.sync set).1 with
  | ok b => rw [poll_bot_of_ok h]
  | error f => rw [poll_of_error h]; rfl

/-- The pause after a round is that of its lap. -/
theorem poll_rest (s : Scene σ) :
    (s.poll set).2.restTime (s.poll set).1 = (s.lap set).rest s.bot.timings := by
  unfold restTime
  rw [poll_timings]
  cases h : (s.sync set).1 with
  | ok b =>
    rw [poll_eq_foldl h]
    simp [lap, h, Lap.rest]
  | error f =>
    rw [poll_of_error h]
    by_cases hf : f = .timeout
    · simp [lap, h, Lap.rest, hf]
    · simp [lap, h, Lap.rest, hf]

/-! ## The laps of a run -/

/-- The laps of so many rounds. -/
def laps (set : Setting σ) : (rounds : Nat) → Scene σ → List Lap
  | 0, _ => []
  | rounds + 1, s => s.lap set :: laps set rounds (s.fullRound set)

@[simp] theorem length_laps (rounds : Nat) (s : Scene σ) :
    (s.laps set rounds).length = rounds := by
  induction rounds generalizing s with
  | zero => rfl
  | succ rounds ih => simp [laps, ih]

theorem fullRound_timings (s : Scene σ) : (s.fullRound set).bot.timings = s.bot.timings :=
  poll_timings s

theorem fullRound_userId (set : Setting σ) (s : Scene σ) :
    (s.fullRound set).bot.session.userId = s.bot.session.userId :=
  poll_userId s

/-- The next round begins after the pause. -/
theorem fullRound_now (s : Scene σ) : (s.fullRound set).world.now =
    (s.lap set).ended s.bot.timings.replyDelay + (s.lap set).rest s.bot.timings := by
  unfold fullRound
  dsimp only
  rw [World.sleep_now, poll_now, poll_rest]

/-- The calls of so many rounds are those of their laps. -/
theorem undisturbed_calls (rounds : Nat) (s : Scene σ) :
    (s.undisturbed set rounds).world.log.map Stamp.of = s.world.log.map Stamp.of ++
      (s.laps set rounds).flatMap fun x => x.calls s.bot.timings.replyDelay := by
  induction rounds generalizing s with
  | zero => simp [undisturbed, laps]
  | succ rounds ih =>
    unfold undisturbed laps
    rw [ih, fullRound_log, poll_calls, fullRound_timings, List.flatMap_cons, List.append_assoc]

theorem laps_sound (rounds : Nat) (s : Scene σ) :
    ∀ x ∈ s.laps set rounds, x.Sound s.bot.session.userId := by
  induction rounds generalizing s with
  | zero => simp [laps]
  | succ rounds ih =>
    intro x hx
    rcases List.mem_cons.1 hx with rfl | hx
    · exact lap_sound set s
    · rw [← fullRound_userId set s]
      exact ih (s.fullRound set) x hx

theorem laps_first (rounds : Nat) (s : Scene σ) :
    ∀ x ∈ (s.laps set rounds).head?, x.began = s.world.now := by
  cases rounds with
  | zero => simp [laps]
  | succ rounds => simp [laps, lap]

/-- When the next lap begins. -/
theorem laps_chain (rounds : Nat) (s : Scene σ) :
    (s.laps set rounds).IsChain fun x y =>
      y.began = x.ended s.bot.timings.replyDelay + x.rest s.bot.timings := by
  induction rounds generalizing s with
  | zero => simp [laps]
  | succ rounds ih =>
    have hmore := ih (s.fullRound set)
    rw [fullRound_timings] at hmore
    unfold laps
    rw [List.isChain_cons]
    refine ⟨?_, hmore⟩
    intro y hy
    rw [laps_first rounds (s.fullRound set) y hy, fullRound_now]

/-! ## Laps over a script -/

variable (clock : Nat → Moment)

/-- A poll takes the next of the answers to polls, and none of those to texts. -/
theorem sync_firsts (s : Scene Script) :
    ((s.sync (scripted clock)).1, s.pollDelay (scripted clock)) =
        (Script.first (.error .timeout, 0) s.world.server.sync).1 ∧
      (s.sync (scripted clock)).2.world.server.sync = s.world.server.sync.tail ∧
      (s.sync (scripted clock)).2.world.server.sendText = s.world.server.sendText := by
  rw [sync_server]
  dsimp only [Scene.sync, withPhase, World.perform_result, pollDelay, Script.homeserver]
  rw [Script.countDown_eq .sync s.world.server]
  cases h : s.world.server.sync with
  | nil => simp [Script.first]
  | cons first more => simp [Script.first]

theorem sendDelay_script (s : Scene Script) (m : Routed) :
    s.sendDelay (scripted clock) m = (Script.first (.ok (), 0) s.world.server.sendText).1.2 := by
  dsimp only [sendDelay, Script.homeserver]
  rw [Script.countDown_eq .sendText s.world.server]

/-- Each reply takes the next of the answers to texts. -/
theorem sendDelays_script (s : Scene Script) (ms : List Routed) :
    s.sendDelays (scripted clock) ms =
      (Script.firsts (.ok (), 0) s.world.server.sendText ms.length).map Prod.snd := by
  induction ms generalizing s with
  | nil => rfl
  | cons m more ih =>
    obtain ⟨-, hleft, -⟩ := sendText_script s.bot.session.accessToken m.room
      (s.turn (scripted clock) m).reply s.world.server
    have hserver : (s.answer (scripted clock) m).world.server.sendText =
        s.world.server.sendText.tail := by
      rw [answer_server]
      exact hleft
    unfold sendDelays
    rw [ih, hserver, sendDelay_script, List.length_cons, Script.firsts_succ, List.map_cons]

/-- What a round takes from a script is what its lap says. -/
theorem poll_script (s : Scene Script) :
    let x := s.lap (scripted clock)
    let server := (s.poll (scripted clock)).2.world.server
    (x.answer, x.wait) = (Script.first (.error .timeout, 0) s.world.server.sync).1 ∧
      server.sync = s.world.server.sync.tail ∧
      x.delays = (Script.firsts (.ok (), 0) s.world.server.sendText x.messages.length).map Prod.snd ∧
      server.sendText = s.world.server.sendText.drop x.messages.length := by
  obtain ⟨hanswer, hsync, hsendText⟩ := sync_firsts clock s
  intro x server
  refine ⟨hanswer, ?_⟩
  cases h : (s.sync (scripted clock)).1 with
  | ok b =>
    have hmessages : x.messages = Chat.route b s.bot.session.userId := by
      simp only [x, lap, h]
    have hdelays : x.delays = (s.met (scripted clock) b).sendDelays (scripted clock) x.messages := by
      simp only [x, lap, h]
    obtain ⟨-, hleft⟩ := takings_script s.bot.session.accessToken
      ((s.met (scripted clock) b).turns (scripted clock) (Chat.route b s.bot.session.userId))
      (s.sync (scripted clock)).2.world.server
    have hanswered := answered h
    rw [hanswered.answers, ← List.length_map Turn.message, hanswered.messages, ← hmessages] at hleft
    refine ⟨?_, ?_, ?_⟩
    · exact (congrArg Script.sync hleft).trans hsync
    · rw [hdelays, sendDelays_script, ← hsendText]
      rfl
    · rw [← hsendText]
      exact congrArg Script.sendText hleft
  | error f =>
    have hmessages : x.messages = [] := by simp only [x, lap, h]
    have hdelays : x.delays = [] := by simp only [x, lap, h]
    simp only [server, poll_of_error h, hmessages, hdelays]
    exact ⟨hsync, rfl, hsendText⟩

/-- The laps of so many rounds over a script take its answers in order. -/
theorem laps_script (rounds : Nat) (s : Scene Script) :
    let laps := s.laps (scripted clock) rounds
    laps.map (fun x => (x.answer, x.wait)) =
        Script.firsts (.error .timeout, 0) s.world.server.sync laps.length ∧
      laps.flatMap Lap.delays = (Script.firsts (.ok (), 0) s.world.server.sendText
        (laps.flatMap Lap.messages).length).map Prod.snd := by
  induction rounds generalizing s with
  | zero => exact ⟨rfl, rfl⟩
  | succ rounds ih =>
    obtain ⟨hanswer, hsync, hdelays, hsendText⟩ := poll_script clock s
    obtain ⟨hanswers, hmore⟩ := ih (s.fullRound (scripted clock))
    rw [fullRound_server, hsync] at hanswers
    rw [fullRound_server, hsendText] at hmore
    intro laps
    simp only [laps, Scene.laps, List.map_cons, List.flatMap_cons, List.length_cons,
      List.length_append, Script.firsts_succ, Script.firsts_add, List.map_append]
    exact ⟨congrArg₂ List.cons hanswer hanswers, congrArg₂ List.append hdelays hmore⟩

end Scene

/-! ## The law of the timetable -/

/-- The calls of a run over a script, by the clock. -/
structure OnTime (s t : Scene Script) (laps : List Lap) : Prop where
  /-- Every call goes out in its lap, and at its time there. -/
  calls : t.world.log.map Stamp.of = s.world.log.map Stamp.of ++
    laps.flatMap fun x => x.calls s.bot.timings.replyDelay
  sound : ∀ x ∈ laps, x.Sound s.bot.session.userId
  /-- Polls are answered as prepared, and in the time that is prepared. -/
  answers : laps.map (fun x => (x.answer, x.wait)) =
    Script.firsts (.error .timeout, 0) s.world.server.sync laps.length
  /-- So are replies, whichever lap they belong to. -/
  delays : laps.flatMap Lap.delays = (Script.firsts (.ok (), 0) s.world.server.sendText
    (laps.flatMap Lap.messages).length).map Prod.snd
  first : ∀ x ∈ laps.head?, x.began = s.world.now
  /-- Every other lap begins when the one before it has ended and had its rest. -/
  next : laps.IsChain fun x y =>
    y.began = x.ended s.bot.timings.replyDelay + x.rest s.bot.timings

namespace Scene

variable (clock : Nat → Moment)

theorem MadeRounds.onTime {s t : Scene Script} {stop : Stop} {stopAt : Option (CallKind × Nat)}
    {rounds : Nat} (h : MadeRounds (scripted clock) (s.told stop stopAt) t rounds) :
    OnTime s t ((s.told stop stopAt).laps (scripted clock) rounds) := by
  obtain ⟨-, -, hlog⟩ := h.same
  obtain ⟨hanswers, hdelays⟩ := laps_script clock rounds (s.told stop stopAt)
  refine ⟨?_, ?_, hanswers, hdelays, ?_, ?_⟩
  · rw [hlog, undisturbed_calls]
    rfl
  · exact laps_sound rounds (s.told stop stopAt)
  · exact laps_first rounds (s.told stop stopAt)
  · exact laps_chain rounds (s.told stop stopAt)

/-- Every call of a run goes out at the time that the answers and their delays tell: the first
poll at the start, each other one when the round before it is over and its pause is, and each reply
when all replies before it are answered and all free text up to it has had its wait. That does not
depend on whether the run is asked to stop; if nobody asks, it takes all answers. -/
theorem every_call_goes_out_on_time (s : Scene Script) :
    (∃ laps, OnTime s (s.run clock .never none) laps ∧
      laps.length = s.world.server.sync.length + 1) ∧
    ∀ stop stopAt, ∃ laps, OnTime s (s.run clock stop stopAt) laps := by
  constructor
  · refine ⟨_, (madeRounds_never clock s).onTime, ?_⟩
    rw [length_laps]
  · intro stop stopAt
    obtain ⟨rounds, -, hmade, -⟩ := exists_madeRounds_run clock s stop stopAt
    exact ⟨_, hmade.onTime⟩

end Scene

end Loop

end ChatBot
