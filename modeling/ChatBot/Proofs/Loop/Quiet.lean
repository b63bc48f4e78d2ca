-- Runs that nobody asks to stop. The only request comes with the poll that finds no
-- answer any more, so such a run takes all answers to polls.
import ChatBot.Proofs.Loop.Calm

namespace ChatBot

/-! ## Quiet worlds -/

namespace Service

theorem Script.countDown_of_none {server : Script} (h : server.stopAt = none) (kind : CallKind) :
    server.countDown kind = (false, server) := by
  unfold countDown
  rw [h]

theorem Script.quiet_sendText {server : Script} (h : server.stopAt = none)
    (token : Chat.AccessToken) (room : Chat.RoomId) (body : String) :
    let answered := Script.homeserver.sendText token room body server
    answered.1.stops = false ∧ answered.2.stopAt = none := by
  dsimp only [Script.homeserver]
  rw [countDown_of_none h]
  exact ⟨rfl, h⟩

theorem Script.quiet_sync {server : Script} (h : server.stopAt = none) (hmore : server.sync ≠ [])
    (token : Chat.AccessToken) (poll : Poll) :
    let answered := Script.homeserver.sync token poll server
    answered.1.stops = false ∧ answered.2.stopAt = none := by
  dsimp only [Script.homeserver]
  rw [countDown_of_none h]
  cases hsync : server.sync with
  | nil => contradiction
  | cons first more => exact ⟨rfl, h⟩

/-- Nothing is requested, and nothing will be while there are answers to polls. -/
structure World.Quiet (w : World Script) : Prop where
  requested : w.stop.requested = false
  alarm : w.stop.alarm = none
  stopAt : w.server.stopAt = none

namespace World.Quiet

variable {α : Type} {w : World Script}

theorem sleep (h : w.Quiet) (delay : Nat) : (w.sleep delay).Quiet := by
  unfold World.sleep
  split
  · exact h
  · refine ⟨?_, h.alarm, h.stopAt⟩
    simp [alarmBy, h.requested, h.alarm]

theorem perform (h : w.Quiet) (call : Call) (phase : Phase) (cursor : Option Chat.SyncToken)
    {answered : Answer α × Script}
    (hanswered : answered.1.stops = false ∧ answered.2.stopAt = none) :
    (w.perform call phase cursor answered).2.Quiet := by
  have hbegan : (w.began call phase cursor answered).Quiet := by
    refine ⟨?_, h.alarm, hanswered.2⟩
    simp [began, h.requested, hanswered.1]
  exact hbegan.sleep _

end World.Quiet

end Service

namespace Loop

open Chat (Routed)
open Service (World Script Stop)
open State (Moment)

namespace Scene

/-! ## Rounds in quiet worlds -/

variable (clock : Nat → Moment) {s : Scene Script}

theorem quiet_answer (h : s.world.Quiet) (m : Routed) :
    (s.answer (scripted clock) m).world.Quiet := by
  have hcompose : (s.compose (scripted clock) m).2.world.Quiet := by
    cases m with
    | command c => exact h
    | freeText t => exact h.sleep _
  rw [answer_eq, send_world]
  exact hcompose.perform _ _ _ (Script.quiet_sendText hcompose.stopAt _ _ _)

theorem quiet_foldl_answer (h : s.world.Quiet) (ms : List Routed) :
    (ms.foldl (answer (scripted clock)) s).world.Quiet := by
  induction ms generalizing s with
  | nil => exact h
  | cons m more ih => exact ih (quiet_answer clock h m)

theorem quiet_sync (h : s.world.Quiet) (hmore : s.world.server.sync ≠ []) :
    (s.sync (scripted clock)).2.world.Quiet :=
  h.perform _ _ _ (Script.quiet_sync h.stopAt hmore s.bot.session.accessToken s.nextPoll)

/-- As long as there are answers to polls, nobody asks, and each round takes one. -/
theorem quiet_fullRound (h : s.world.Quiet) (hmore : s.world.server.sync ≠ []) :
    (s.fullRound (scripted clock)).world.Quiet ∧
      (s.fullRound (scripted clock)).world.server.sync.length + 1 =
        s.world.server.sync.length := by
  have hsync := quiet_sync clock h hmore
  have hpoll : (s.poll (scripted clock)).2.world.Quiet := by
    cases ha : (s.sync (scripted clock)).1 with
    | ok b =>
      have hmet : (s.met (scripted clock) b).world.Quiet := hsync
      rw [poll_eq_foldl ha]
      exact quiet_foldl_answer clock hmet _
    | error f =>
      rw [poll_of_error ha]
      exact hsync
  refine ⟨hpoll.sleep _, ?_⟩
  have hleft : Continues (s.sync (scripted clock)).2 (s.poll (scripted clock)).2 :=
    continues_poll rfl s
  rw [fullRound_server, hleft.sync]
  rcases @sync_stops_or_shortens (scripted clock) rfl s with hstop | hshort
  · rw [hsync.requested] at hstop
    cases hstop
  · exact hshort

theorem quiet_undisturbed (h : s.world.Quiet) {rounds : Nat}
    (hrounds : rounds ≤ s.world.server.sync.length) :
    (s.undisturbed (scripted clock) rounds).world.Quiet := by
  induction rounds generalizing s with
  | zero => exact h
  | succ rounds ih =>
    have hmore : s.world.server.sync ≠ [] := by
      apply List.ne_nil_of_length_pos
      omega
    obtain ⟨hround, hleft⟩ := quiet_fullRound clock h hmore
    apply ih hround
    omega

/-- A run that nobody asks to stop takes all answers to polls, and makes one more poll. -/
theorem madeRounds_never (s : Scene Script) :
    MadeRounds (scripted clock) (s.told .never none) (s.run clock .never none)
      (s.world.server.sync.length + 1) := by
  obtain ⟨rounds, hle, hmade, hasked⟩ := exists_madeRounds_run clock s .never none
  rcases Nat.lt_or_eq_of_le hle with hlt | rfl
  · have htold : (s.told .never none).world.Quiet := ⟨rfl, rfl, rfl⟩
    have hquiet := quiet_undisturbed clock htold (Nat.le_of_lt_succ hlt)
    rw [hmade.asked, hquiet.requested] at hasked
    cases hasked
  · exact hmade

end Scene

end Loop

end ChatBot
