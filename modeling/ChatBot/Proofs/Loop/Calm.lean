-- The same run with a request to stop and without one. Until the request is seen,
-- both make the same rounds at the same times, so a run that is asked to stop is
-- the beginning of the run that nobody asks.
import ChatBot.Proofs.Loop.Stopping

namespace ChatBot

open Service (World Script Answer Phase Call CallKind Entry Stop)

/-! ## Calm scripts and calm worlds -/

namespace Service

/-- The same answers, but no call brings the request to stop before the polls run out. -/
def Script.calm (server : Script) : Script := { server with stopAt := none }

theorem Script.countDown_eq (kind : CallKind) (server : Script) :
    (server.countDown kind).2 =
      { server with stopAt := (server.countDown kind).2.stopAt } := by
  unfold countDown
  split
  · split
    · rfl
    · rfl
  · rfl

variable {α : Type}

/-- The same answer, which brings the request to stop only if the other one does. -/
structure CalmAnswer (x y : Answer α × Script) : Prop where
  result : y.1.result = x.1.result
  delay : y.1.delay = x.1.delay
  stops : y.1.stops = true → x.1.stops = true
  server : y.2 = x.2.calm

theorem calmAnswer_sendText (token : Chat.AccessToken) (room : Chat.RoomId) (body : String)
    (server : Script) :
    CalmAnswer (Script.homeserver.sendText token room body server)
      (Script.homeserver.sendText token room body server.calm) := by
  have hcount := Script.countDown_eq .sendText server
  constructor
  · dsimp only [Script.homeserver]
    rw [hcount]
    rfl
  · dsimp only [Script.homeserver]
    rw [hcount]
    rfl
  · intro hstops
    cases hstops
  · dsimp only [Script.homeserver]
    rw [hcount]
    rfl

theorem calmAnswer_sync (token : Chat.AccessToken) (poll : Service.Poll) (server : Script) :
    CalmAnswer (Script.homeserver.sync token poll server)
      (Script.homeserver.sync token poll server.calm) := by
  have hcount := Script.countDown_eq .sync server
  obtain ⟨register, login, setDisplayName, createRoom, sendText, sync, stopAt⟩ := server
  dsimp only [Script.homeserver]
  rw [hcount]
  cases sync with
  | nil => exact ⟨rfl, rfl, id, rfl⟩
  | cons first more =>
    refine ⟨rfl, rfl, ?_, rfl⟩
    intro hstops
    cases hstops

/-- The same world, where nobody asks the bot to stop before the polls run out. -/
structure World.Calm (w v : World Script) : Prop where
  server : v.server = w.server.calm
  now : v.now = w.now
  log : v.log = w.log
  alarm : v.stop.alarm = none
  requested : v.stop.requested = true → w.stop.requested = true

namespace World.Calm

variable {w v : World Script}

theorem sleep (h : Calm w v) (delay : Nat) : Calm (w.sleep delay) (v.sleep delay) := by
  unfold World.sleep
  split
  · exact h
  · refine ⟨h.server, congrArg (· + delay) h.now, h.log, h.alarm, ?_⟩
    intro hrequested
    have hby : v.alarmBy (v.now + delay) = false := by
      unfold alarmBy
      rw [h.alarm]
    dsimp only at hrequested ⊢
    rw [hby, Bool.or_false] at hrequested
    rw [h.requested hrequested, Bool.true_or]

theorem perform (h : Calm w v) {x y : Answer α × Script} (hxy : CalmAnswer x y) (call : Call)
    (phase : Phase) (cursor : Option Chat.SyncToken) :
    Calm (w.perform call phase cursor x).2 (v.perform call phase cursor y).2 := by
  have hbegan : Calm (w.began call phase cursor x) (v.began call phase cursor y) := by
    refine ⟨hxy.server, h.now, ?_, h.alarm, ?_⟩
    · unfold began
      rw [h.log, h.now]
    · intro hrequested
      rcases (Bool.or_eq_true _ _).mp hrequested with hv | hy
      · exact (Bool.or_eq_true _ _).mpr (.inl (h.requested hv))
      · exact (Bool.or_eq_true _ _).mpr (.inr (hxy.stops hy))
  rw [perform_eq, perform_eq, hxy.delay]
  exact hbegan.sleep _

end World.Calm

end Service

namespace Loop

open Chat (Batch Routed RoomId)
open State (Moment)

/-- A scripted homeserver, and clocks. -/
abbrev scripted (clock : Nat → Moment) : Setting Script := ⟨Script.homeserver, clock⟩

namespace Scene

/-! ## Rounds in calm scenes -/

/-- The same scene, where nobody asks the bot to stop before the polls run out. -/
structure Calm (s t : Scene Script) : Prop where
  bot : t.bot = s.bot
  world : World.Calm s.world t.world

namespace Calm

variable (clock : Nat → Moment) {s t : Scene Script}

theorem send (h : Calm s t) (room : RoomId) (body : String) :
    Calm (s.send (scripted clock) room body).2 (t.send (scripted clock) room body).2 := by
  have hanswer := Service.calmAnswer_sendText s.bot.session.accessToken room body s.world.server
  have htakes : t.takes (scripted clock) room body = s.takes (scripted clock) room body := by
    unfold takes
    rw [h.bot, h.world.server, hanswer.result]
  rw [send_eq, send_eq]
  constructor
  · dsimp only
    rw [htakes, h.bot]
  · dsimp only [sending]
    rw [h.bot, h.world.server]
    exact h.world.perform hanswer _ _ _

theorem compose (h : Calm s t) (m : Routed) :
    (t.compose (scripted clock) m).1 = (s.compose (scripted clock) m).1 ∧
      Calm (s.compose (scripted clock) m).2 (t.compose (scripted clock) m).2 := by
  cases m with
  | command c =>
    dsimp only [Scene.compose, moment]
    rw [h.bot, h.world.now]
    exact ⟨rfl, rfl, h.world⟩
  | freeText f =>
    dsimp only [Scene.compose]
    rw [h.bot]
    exact ⟨rfl, rfl, h.world.sleep _⟩

theorem answer (h : Calm s t) (m : Routed) :
    Calm (s.answer (scripted clock) m) (t.answer (scripted clock) m) := by
  obtain ⟨htext, hscene⟩ := h.compose clock m
  unfold Scene.answer
  dsimp only
  rw [htext]
  exact hscene.send clock m.room _

theorem foldl_answer (h : Calm s t) (ms : List Routed) :
    Calm (ms.foldl (Scene.answer (scripted clock)) s)
      (ms.foldl (Scene.answer (scripted clock)) t) := by
  induction ms generalizing s t with
  | nil => exact h
  | cons m more ih => exact ih (h.answer clock m)

theorem sync (h : Calm s t) :
    (t.sync (scripted clock)).1 = (s.sync (scripted clock)).1 ∧
      Calm (s.sync (scripted clock)).2 (t.sync (scripted clock)).2 := by
  have hanswer := Service.calmAnswer_sync s.bot.session.accessToken s.nextPoll s.world.server
  unfold Scene.sync withPhase nextPoll
  dsimp only
  rw [h.bot, h.world.server]
  exact ⟨hanswer.result, rfl, h.world.perform hanswer _ _ _⟩

theorem met (h : Calm s t) (b : Batch) :
    Calm (s.met (scripted clock) b) (t.met (scripted clock) b) := by
  obtain ⟨-, hsync⟩ := h.sync clock
  unfold Scene.met withState moveTo moment
  dsimp only
  rw [hsync.bot, hsync.world.now, h.bot]
  exact ⟨rfl, hsync.world⟩

theorem poll (h : Calm s t) :
    (t.poll (scripted clock)).1 = (s.poll (scripted clock)).1 ∧
      Calm (s.poll (scripted clock)).2 (t.poll (scripted clock)).2 := by
  obtain ⟨hresult, hsync⟩ := h.sync clock
  cases hs : (s.sync (scripted clock)).1 with
  | ok b =>
    rw [poll_eq_foldl hs, poll_eq_foldl (hresult.trans hs), h.bot]
    exact ⟨rfl, (h.met clock b).foldl_answer clock _⟩
  | error f =>
    rw [poll_of_error hs, poll_of_error (hresult.trans hs)]
    exact ⟨rfl, hsync⟩

theorem fullRound (h : Calm s t) :
    Calm (s.fullRound (scripted clock)) (t.fullRound (scripted clock)) := by
  obtain ⟨houtcome, hpoll⟩ := h.poll clock
  unfold Scene.fullRound
  dsimp only
  refine ⟨hpoll.bot, ?_⟩
  dsimp only [restTime]
  rw [houtcome, hpoll.bot]
  exact hpoll.world.sleep _

theorem undisturbed (h : Calm s t) (rounds : Nat) :
    Calm (s.undisturbed (scripted clock) rounds) (t.undisturbed (scripted clock) rounds) := by
  induction rounds generalizing s t with
  | zero => exact h
  | succ rounds ih => exact ih (h.fullRound clock)

theorem unasked (h : Calm s t) (hs : s.world.stop.requested = false) :
    t.world.stop.requested = false := by
  cases ht : t.world.stop.requested with
  | false => rfl
  | true =>
    rw [h.world.requested ht] at hs
    cases hs

end Calm

/-! ## Runs against calm runs -/

/-- How many polls a record of calls holds. -/
def polls (log : List Entry) : Nat := log.countP fun e => e.call.kind = .sync

theorem polls_turns (token : Chat.AccessToken) (cursor : Option Chat.SyncToken)
    (turns : List Turn) : polls (turns.map (Turn.entry token cursor)) = 0 := by
  apply List.countP_eq_zero.2
  intro e he hkind
  obtain ⟨x, _, rfl⟩ := List.mem_map.1 he
  cases of_decide_eq_true hkind

variable {σ : Type} {set : Setting σ}

/-- Every round polls once. -/
theorem polls_poll (s : Scene σ) : polls (s.poll set).2.world.log = polls s.world.log + 1 := by
  have hentry : polls (s.world.log ++ [s.pollEntry]) = polls s.world.log + 1 :=
    List.countP_append
  cases h : (s.sync set).1 with
  | ok b =>
    rw [(answered h).calls, ← hentry]
    unfold polls
    rw [List.countP_append]
    exact congrArg (_ + ·) (polls_turns _ _ _)
  | error f =>
    rw [poll_of_error h, sync_log, hentry]

theorem polls_undisturbed (s : Scene σ) (rounds : Nat) :
    polls (s.undisturbed set rounds).world.log = polls s.world.log + rounds := by
  induction rounds with
  | zero => rfl
  | succ rounds ih =>
    rw [undisturbed_succ]
    unfold fullRound
    dsimp only
    rw [World.sleep_log, polls_poll, ih, Nat.add_assoc]

/-- A scene at the beginning of a run over a script, with a new request to stop. -/
def told (s : Scene Script) (stop : Stop) (stopAt : Option (CallKind × Nat)) : Scene Script :=
  { s with world := { s.world with stop, server := { s.world.server with stopAt } } }

theorem calm_told (s : Scene Script) (stop : Stop) (stopAt : Option (CallKind × Nat)) :
    Calm (s.told stop stopAt) (s.told .never none) := by
  refine ⟨rfl, rfl, rfl, rfl, rfl, ?_⟩
  intro hrequested
  cases hrequested

theorem runWithin_told (clock : Nat → Moment) (s : Scene Script) (stop : Stop)
    (stopAt : Option (CallKind × Nat)) :
    (s.told stop stopAt).runWithin (scripted clock) (s.world.server.sync.length + 1) =
      some (s.run clock stop stopAt) :=
  (Option.some_get _).symm

/-- A run over a script comes to its end, after so many rounds. -/
theorem exists_madeRounds_run (clock : Nat → Moment) (s : Scene Script) (stop : Stop)
    (stopAt : Option (CallKind × Nat)) :
    ∃ rounds ≤ s.world.server.sync.length + 1,
      MadeRounds (scripted clock) (s.told stop stopAt) (s.run clock stop stopAt) rounds ∧
        (s.run clock stop stopAt).world.stop.requested = true := by
  have hrun := runWithin_told clock s stop stopAt
  obtain ⟨rounds, hle, hmade, -⟩ := exists_madeRounds (scripted clock)
    (s.world.server.sync.length + 1) (s.told stop stopAt)
  rw [runFor_of_runWithin hrun] at hmade
  exact ⟨rounds, hle, hmade, requested_of_runWithin hrun⟩

/-- Whenever and however a run over a script is asked to stop, it comes to its end with whole
rounds, at most one more than there are answers to polls. Up to there it is the run that nobody
asks. -/
theorem a_run_stops_between_rounds (clock : Nat → Moment) (s : Scene Script) (stop : Stop)
    (stopAt : Option (CallKind × Nat)) :
    let t := s.run clock stop stopAt
    let calm := s.told .never none
    ∃ rounds ≤ s.world.server.sync.length + 1,
      Stopped (scripted clock) (s.told stop stopAt) t rounds ∧
      polls t.world.log = polls s.world.log + rounds ∧
      t.bot = (calm.runFor (scripted clock) rounds).bot ∧
      t.world.log = (calm.runFor (scripted clock) rounds).world.log ∧
      t.world.log <+: (s.run clock .never none).world.log := by
  obtain ⟨rounds, hle, hmade, hasked⟩ := exists_madeRounds_run clock s stop stopAt
  obtain ⟨most, -, hmost, hover⟩ := exists_madeRounds_run clock s .never none
  have hcalm := (calm_told s stop stopAt).undisturbed clock
  have hunasked : ∀ k < rounds,
      ((s.told .never none).undisturbed (scripted clock) k).world.stop.requested = false :=
    fun k hk => (hcalm k).unasked (hmade.unasked k hk)
  obtain ⟨hbot, -, hlog⟩ := hmade.same
  obtain ⟨hcalmbot, -, hcalmlog⟩ := (madeRounds_of_unasked hunasked).same
  refine ⟨rounds, hle, hmade.stopped hasked, ?_, ?_, ?_, ?_⟩
  · rw [hlog, polls_undisturbed]
    rfl
  · rw [hbot, hcalmbot, (hcalm rounds).bot]
  · rw [hlog, hcalmlog, (hcalm rounds).world.log]
  · -- the run that nobody asks goes on at least as long
    have hmore : rounds ≤ most := by
      apply Nat.le_of_not_lt
      intro hlt
      rw [hmost.asked, hunasked most hlt] at hover
      cases hover
    obtain ⟨-, -, hmostlog⟩ := hmost.same
    rw [hlog, ← (hcalm rounds).world.log, hmostlog]
    exact (later_of_more_rounds _ _ hmore).log

end Scene

end Loop

end ChatBot
