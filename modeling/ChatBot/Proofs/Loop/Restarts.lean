-- The loop, however it is stopped and started again. Polls made one by one, and runs
-- that end after any number of rounds, come to the same as long as there are as many
-- rounds.
import ChatBot.Proofs.Loop.Times

namespace ChatBot.Loop

open Chat (UserId RoomId Batch)
open Service (World Script Stop CallKind)
open State (BotState RoomInfo Moment)

/-! ## What came of the polls -/

/-- What a poll comes to, by its answer. -/
def Outcome.of (own : UserId) : Except Fault Batch → Outcome
  | .ok b => .processed (Chat.route b own).length
  | .error f => if f = .timeout then .timedOut else .failed f

variable {σ : Type} {set : Setting σ}

namespace Scene

/-- What came of the polls of a run, seen at its end or after so many rounds. -/
def runOutcomes (set : Setting σ) : (rounds : Nat) → Scene σ → List Outcome
  | 0, _ => []
  | rounds + 1, s =>
    if s.world.stop.requested then []
    else (s.poll set).1 :: runOutcomes set rounds (s.round set)

def stepOutcomes (set : Setting σ) (s : Scene σ) : Step σ → List Outcome
  | .poll => [(s.poll set).1]
  | .run stop rounds => (s.begin stop).runOutcomes set rounds
  | .noteRoom _ _ => []
  | .send _ _ => []
  | .others _ => []

/-- What came of the polls of some steps. -/
def outcomes (set : Setting σ) : Scene σ → List (Step σ) → List Outcome
  | _, [] => []
  | s, x :: more => s.stepOutcomes set x ++ outcomes set (s.step set x) more

theorem poll_outcome (s : Scene σ) :
    (s.poll set).1 = .of s.bot.session.userId (s.sync set).1 := by
  cases h : (s.sync set).1 with
  | ok b => rw [poll_of_ok h]; rfl
  | error f => rw [poll_of_error h]; rfl

theorem poll_userId (s : Scene σ) :
    (s.poll set).2.bot.session.userId = s.bot.session.userId := by
  cases h : (s.sync set).1 with
  | ok b => rw [poll_bot_of_ok h]; rfl
  | error f => rw [poll_of_error h]; rfl

theorem runFor_userId (rounds : Nat) (s : Scene σ) :
    (s.runFor set rounds).bot.session.userId = s.bot.session.userId := by
  induction rounds generalizing s with
  | zero => rfl
  | succ rounds ih =>
    unfold runFor
    split
    · rfl
    · exact (ih (s.round set)).trans (poll_userId s)

theorem step_userId (s : Scene σ) (x : Step σ) :
    (s.step set x).bot.session.userId = s.bot.session.userId := by
  cases x with
  | poll => exact poll_userId s
  | run stop rounds => exact runFor_userId rounds (s.begin stop)
  | noteRoom room name => rfl
  | send room body => exact congrArg (·.session.userId) (send_bot s room body)
  | others change => rfl

theorem runOutcomes_eq (rounds : Nat) (s : Scene σ) :
    s.runOutcomes set rounds =
      (s.runAnswers set rounds).map (Outcome.of s.bot.session.userId) := by
  induction rounds generalizing s with
  | zero => rfl
  | succ rounds ih =>
    unfold runOutcomes runAnswers
    split
    · rfl
    · have hround : (s.round set).bot.session.userId = s.bot.session.userId := poll_userId s
      rw [ih, hround, poll_outcome, List.map_cons]

/-- What came of the polls is told by their answers. -/
theorem outcomes_eq (s : Scene σ) (steps : List (Step σ)) :
    s.outcomes set steps = (s.answers set steps).map (Outcome.of s.bot.session.userId) := by
  induction steps generalizing s with
  | nil => rfl
  | cons x more ih =>
    have hx : s.stepOutcomes set x =
        (s.stepAnswers set x).map (Outcome.of s.bot.session.userId) := by
      cases x with
      | poll => exact congrArg (fun o => [o]) (poll_outcome s)
      | run stop rounds => exact runOutcomes_eq rounds (s.begin stop)
      | noteRoom room name => rfl
      | send room body => rfl
      | others change => rfl
    unfold outcomes answers
    rw [hx, ih, step_userId, List.map_append]

end Scene

/-! ## Rounds in any guise -/

/-- Steps that make rounds, one by one or in runs, and say when a run has to stop. -/
def Rounds : Step Script → Prop
  | .poll => True
  | .run _ _ => True
  | .others change => ∀ server, (change server).calm = server.calm
  | .noteRoom _ _ => False
  | .send _ _ => False

/-- What a scene may be after rounds that were answered so, whatever time passes and whatever is
requested before, between and after them. -/
inductive Reached (clock : Nat → Moment) (s : Scene Script) : Answers → Scene Script → Prop
  | start : Reached clock s [] s
  | poll {as : Answers} {t : Scene Script} (h : Reached clock s as t) :
      Reached clock s (as ++ [(t.sync (scripted clock)).1]) (t.poll (scripted clock)).2
  | meanwhile {as : Answers} {t : Scene Script} (h : Reached clock s as t) (world : World Script)
      (hserver : world.server.calm = t.world.server.calm) (hlog : world.log = t.world.log) :
      Reached clock s as { t with world }

theorem keeps_reached (clock : Nat → Moment) (s : Scene Script) :
    Keeps (scripted clock) (Reached clock s) where
  poll h := h.poll
  meanwhile world hserver hlog h := h.meanwhile world (congrArg Script.calm hserver) hlog

theorem Reached.other {clock : Nat → Moment} {s t : Scene Script} {as : Answers}
    (h : Reached clock s as t) (x : Step Script) (hx : Rounds x) (hpolls : x.polls = false) :
    Reached clock s as (t.step (scripted clock) x) := by
  cases x with
  | poll => cases hpolls
  | run stop rounds => cases hpolls
  | noteRoom room name => exact hx.elim
  | send room body => exact hx.elim
  | others change => exact h.meanwhile _ (hx t.world.server) rfl

theorem reached_after (clock : Nat → Moment) (s : Scene Script) (steps : List (Step Script))
    (h : ∀ x ∈ steps, Rounds x) :
    Reached clock s (s.answers (scripted clock) steps) (s.after (scripted clock) steps) := by
  have hkeeps := keeps_reached clock s
  exact hkeeps.after (fun x hx hpolls _ _ hreached => hreached.other x (h x hx) hpolls) .start

namespace Scene.Again

variable {s t : Scene Script}

theorem meanwhile_right (h : Again s t) (world : World Script)
    (hserver : world.server.calm = t.world.server.calm) (hlog : world.log = t.world.log) :
    Again s { t with world } :=
  ⟨h.timings, h.session, h.phase, h.draws, h.state, hserver.trans h.server, hlog ▸ h.log⟩

theorem meanwhile_left (h : Again s t) (world : World Script)
    (hserver : world.server.calm = s.world.server.calm) (hlog : world.log = s.world.log) :
    Again { s with world } t :=
  ⟨h.timings, h.session, h.phase, h.draws, h.state, h.server.trans hserver.symm, hlog ▸ h.log⟩

end Scene.Again

/-- As many rounds from the same scene are answered with the same, and come to the same. -/
theorem Reached.again {clock : Nat → Moment} {s t t' : Scene Script} {as as' : Answers}
    (h : Reached clock s as t) (h' : Reached clock s as' t') (hcount : as'.length = as.length) :
    as' = as ∧ Scene.Again t t' := by
  induction h generalizing as' t' with
  | start =>
    induction h' with
    | start => exact ⟨rfl, .refl s⟩
    | poll h' _ => simp at hcount
    | meanwhile _ world hserver hlog ih =>
      obtain ⟨has, hagain⟩ := ih hcount
      exact ⟨has, hagain.meanwhile_right world hserver hlog⟩
  | @poll as t h ih =>
    induction h' with
    | start => simp at hcount
    | poll h' _ =>
      obtain ⟨rfl, hagain⟩ := ih h' (by simpa using hcount)
      obtain ⟨hanswer, -, hpoll⟩ := hagain.poll clock clock
      rw [hanswer]
      exact ⟨rfl, hpoll⟩
    | meanwhile _ world hserver hlog ih' =>
      obtain ⟨has, hagain⟩ := ih' hcount
      exact ⟨has, hagain.meanwhile_right world hserver hlog⟩
  | meanwhile h world hserver hlog ih =>
    obtain ⟨has, hagain⟩ := ih h' hcount
    exact ⟨has, hagain.meanwhile_left world hserver hlog⟩

/-- In any number of rounds, a room that is known keeps its entry. -/
theorem Reached.known {clock : Nat → Moment} {s t : Scene Script} {as : Answers}
    (h : Reached clock s as t) {room : RoomId} {info : RoomInfo}
    (hknown : s.bot.state.rooms.find? room = some info) :
    t.bot.state.rooms.find? room = some info := by
  induction h with
  | start => exact hknown
  | @poll as t _ ih =>
    cases ha : (t.sync (scripted clock)).1 with
    | ok b =>
      rw [(Scene.answered ha).rooms_after]
      exact BotState.find?_noteAll_of_known ih _ _
    | error f =>
      rw [Scene.poll_of_error ha]
      exact ih
  | meanwhile _ world _ _ ih => exact ih

/-! ## Runs are polls -/

/-- The steps of a run over a script to its end. -/
def runSteps (s : Scene Script) (stop : Stop) (stopAt : Option (CallKind × Nat)) :
    List (Step Script) :=
  [.others fun server => { server with stopAt }, .run stop (s.world.server.sync.length + 1)]

theorem rounds_runSteps (s : Scene Script) (stop : Stop) (stopAt : Option (CallKind × Nat)) :
    ∀ x ∈ runSteps s stop stopAt, Rounds x := by
  intro x hx
  rcases List.mem_cons.1 hx with rfl | hx
  · exact fun _ => rfl
  · obtain rfl := List.mem_singleton.1 hx
    trivial

theorem run_eq_after (clock : Nat → Moment) (s : Scene Script) (stop : Stop)
    (stopAt : Option (CallKind × Nat)) :
    s.run clock stop stopAt = s.after (scripted clock) (runSteps s stop stopAt) :=
  (Scene.runFor_of_runWithin (Scene.runWithin_told clock s stop stopAt)).symm

theorem rounds_polls (count : Nat) :
    ∀ x ∈ (List.replicate count .poll : List (Step Script)), Rounds x := by
  intro x hx
  obtain rfl := List.eq_of_mem_replicate hx
  trivial

theorem length_answers_polls (s : Scene σ) (count : Nat) :
    (s.answers set (List.replicate count .poll)).length = count := by
  induction count generalizing s with
  | zero => rfl
  | succ count ih =>
    rw [List.replicate_succ]
    unfold Scene.answers
    rw [List.length_append, ih, Nat.add_comm]
    rfl

/-- A run over a script, however it is stopped, comes to some polls made one by one. -/
theorem exists_polls_again (clock : Nat → Moment) (s : Scene Script) (stop : Stop)
    (stopAt : Option (CallKind × Nat)) :
    ∃ count, Scene.Again (s.after (scripted clock) (List.replicate count .poll))
      (s.run clock stop stopAt) := by
  rw [run_eq_after]
  have hrun := reached_after clock s _ (rounds_runSteps s stop stopAt)
  refine ⟨(s.answers (scripted clock) (runSteps s stop stopAt)).length, ?_⟩
  have hpolls := reached_after clock s _ (rounds_polls
    (s.answers (scripted clock) (runSteps s stop stopAt)).length)
  exact (hpolls.again hrun (length_answers_polls s _).symm).2

/-! ## The law of restarts -/

/-- Two ways to make the same number of rounds, in runs that may be stopped at any time or one by
one, make the same calls and leave the same behind: nothing is lost when a run is stopped, and
nothing comes twice when one is begun again. Of the rooms, only the minute may differ in which a
new one was first seen. -/
theorem as_many_rounds_come_to_the_same (clock : Nat → Moment) (s : Scene Script)
    (xs ys : List (Step Script)) (hxs : ∀ x ∈ xs, Rounds x) (hys : ∀ y ∈ ys, Rounds y)
    (hcount : (s.answers (scripted clock) ys).length = (s.answers (scripted clock) xs).length) :
    s.answers (scripted clock) ys = s.answers (scripted clock) xs ∧
      s.outcomes (scripted clock) ys = s.outcomes (scripted clock) xs ∧
      Scene.Again (s.after (scripted clock) xs) (s.after (scripted clock) ys) ∧
      ∀ room info, s.bot.state.rooms.find? room = some info →
        (s.after (scripted clock) xs).bot.state.rooms.find? room = some info ∧
          (s.after (scripted clock) ys).bot.state.rooms.find? room = some info := by
  have hxs := reached_after clock s xs hxs
  have hys := reached_after clock s ys hys
  obtain ⟨hanswers, hagain⟩ := hxs.again hys hcount
  refine ⟨hanswers, ?_, hagain, ?_⟩
  · rw [Scene.outcomes_eq, Scene.outcomes_eq, hanswers]
  · intro room info hknown
    exact ⟨hxs.known hknown, hys.known hknown⟩

/-! ## Three rounds -/

/-- A run that is stopped in the middle of its first batch, a run that finds no answers to polls
any more, and a poll. -/
def stoppedTwice : List (Step Script) :=
  [.others fun server => { server with stopAt := some (.sendText, 1) }, .run .never 5,
    .others fun server => { server with stopAt := none }, .run .never 5, .poll]

theorem rounds_of_stoppedTwice : ∀ x ∈ stoppedTwice, Rounds x := by
  intro x hx
  simp only [stoppedTwice, List.mem_cons, List.not_mem_nil, or_false] at hx
  rcases hx with rfl | rfl | rfl | rfl | rfl
  · exact fun _ => rfl
  · trivial
  · exact fun _ => rfl
  · trivial
  · trivial

theorem three_polls_come_to_two_runs_and_a_poll :
    (∀ x ∈ [Step.poll, .poll, .poll], Rounds x) ∧ (∀ x ∈ stoppedTwice, Rounds x) ∧
      (mixedScene.answers mixedSetting stoppedTwice).length =
        (mixedScene.answers mixedSetting [.poll, .poll, .poll]).length ∧
      mixedScene.answers mixedSetting stoppedTwice =
        mixedScene.answers mixedSetting [.poll, .poll, .poll] ∧
      mixedScene.outcomes mixedSetting stoppedTwice =
        mixedScene.outcomes mixedSetting [.poll, .poll, .poll] ∧
      Scene.Again (mixedScene.after mixedSetting [.poll, .poll, .poll])
        (mixedScene.after mixedSetting stoppedTwice) ∧
      ∀ room info, mixedScene.bot.state.rooms.find? room = some info →
        (mixedScene.after mixedSetting [.poll, .poll, .poll]).bot.state.rooms.find? room =
            some info ∧
          (mixedScene.after mixedSetting stoppedTwice).bot.state.rooms.find? room = some info :=
  ⟨rounds_polls 3, rounds_of_stoppedTwice, rfl,
    as_many_rounds_come_to_the_same (fun _ => ⟨0, "", ""⟩) mixedScene [.poll, .poll, .poll]
      stoppedTwice (rounds_polls 3) rounds_of_stoppedTwice rfl⟩

end ChatBot.Loop
