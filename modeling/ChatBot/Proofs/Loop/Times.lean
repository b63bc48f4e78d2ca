-- The same round at two times. The clocks show something else then, and nothing but
-- what they show is different: the same calls are made, in the same order, and the
-- bot ends with the same counts, rooms and draws.
import Mathlib.Data.List.Forall2
import ChatBot.Proofs.Command.Clock
import ChatBot.Proofs.Loop.Calm

namespace ChatBot.Loop

open Chat (RoomId AccessToken Batch Routed SyncToken)
open Command (SameButClock)
open Service (World Script Entry Call CallKind)
open State (BotState Moment)

/-! ## Turns at two times -/

theorem replyTo_alike {s t : BotState} (h : s.Alike t) (m : Routed) (now now' : Moment)
    (draws : Draws) :
    let first := replyTo m s now draws
    let second := replyTo m t now' draws
    SameButClock first.1 second.1 ∧ first.2.1.Alike second.2.1 ∧ second.2.2 = first.2.2 := by
  cases m with
  | command c => exact Command.dispatch_alike h c now now' draws
  | freeText f => exact ⟨.same _, h, rfl⟩

theorem alike_afterSend {s t : BotState} (h : s.Alike t) (taken : Bool) :
    (s.afterSend taken).Alike (t.afterSend taken) := by
  cases taken with
  | true => exact h.countMessage
  | false => exact h

/-- Turns for the same messages, of which the same are taken, bring the same replies. -/
theorem replies_alike (clock clock' : Nat → Moment) {xs ys : List Turn}
    (hmessage : ys.map Turn.message = xs.map Turn.message)
    (htaken : ys.map Turn.taken = xs.map Turn.taken) {s t : BotState} (h : s.Alike t)
    (draws : Draws) :
    let first := replies clock xs s draws
    let second := replies clock' ys t draws
    List.Forall₂ SameButClock first.1 second.1 ∧ first.2.1.Alike second.2.1 ∧
      second.2.2 = first.2.2 := by
  induction xs generalizing ys s t draws with
  | nil =>
    obtain rfl := List.map_eq_nil_iff.1 hmessage
    exact ⟨.nil, h, rfl⟩
  | cons x xs ih =>
    obtain ⟨y, ys, rfl, hy, hys⟩ := List.map_eq_cons_iff.1 hmessage
    obtain ⟨hyt, htaken⟩ := List.cons.inj htaken
    obtain ⟨htext, hstate, hdraws⟩ := replyTo_alike h x.message (clock x.time) (clock' y.time) draws
    obtain ⟨htexts, hlast⟩ := ih hys htaken (alike_afterSend hstate x.taken)
      (replyTo x.message s (clock x.time) draws).2.2
    unfold replies
    dsimp only
    rw [hy, hyt, hdraws]
    exact ⟨.cons htext htexts, hlast⟩

/-! ## Rooms -/

/-- Replies are made without a change to the rooms. -/
theorem rooms_replyTo (m : Routed) (state : BotState) (now : Moment) (draws : Draws) :
    (replyTo m state now draws).2.1.rooms = state.rooms := by
  cases m with
  | command c =>
    dsimp only [replyTo, Command.dispatch]
    split
    · rfl
    · rfl
  | freeText f => rfl

theorem rooms_replies (clock : Nat → Moment) (xs : List Turn) (state : BotState)
    (draws : Draws) : (replies clock xs state draws).2.1.rooms = state.rooms := by
  induction xs generalizing state draws with
  | nil => rfl
  | cons x xs ih =>
    unfold replies
    dsimp only
    rw [ih, ← rooms_replyTo x.message state (clock x.time) draws]
    cases x.taken with
    | true => rfl
    | false => rfl

/-- A round notes the rooms of its batch and changes no other entry. -/
theorem Answered.rooms_after {σ : Type} {set : Setting σ} {s : Scene σ} {b : Batch}
    {turns : List Turn} (h : Answered set s b turns) :
    (s.poll set).2.bot.state.rooms =
      (s.bot.state.noteAll b.joined.rooms ((s.sync set).2.moment set)).rooms := by
  have hsaid := congrArg (fun said => said.2.1.rooms) h.said
  exact hsaid.symm.trans (rooms_replies _ _ _ _)

/-! ## What a script takes -/

/-- Whether each of a number of texts is taken. -/
def accepted : Nat → List (Except Fault Unit × Nat) → List Bool
  | 0, _ => []
  | count + 1, answers =>
    (Script.first (.ok (), 0) answers).1.1.isOk :: accepted count answers.tail

theorem first_snd {α : Type} (missing : α) (answers : List α) :
    (Script.first missing answers).2 = answers.tail := by
  cases answers with
  | nil => rfl
  | cons first more => rfl

/-- A text takes the next of the answers to texts, and leaves all other answers. -/
theorem sendText_script (token : AccessToken) (room : RoomId) (body : String) (server : Script) :
    let answered := Script.homeserver.sendText token room body server
    answered.1.result = (Script.first (.ok (), 0) server.sendText).1.1 ∧
      answered.2.sendText = server.sendText.tail ∧
      answered.2.calm = { server.calm with sendText := server.sendText.tail } := by
  dsimp only [Script.homeserver]
  rw [Script.countDown_eq .sendText server, first_snd]
  exact ⟨rfl, rfl, rfl⟩

theorem takings_script (token : AccessToken) (xs : List Turn) (server : Script) :
    (takings Script.homeserver token xs server).1 = accepted xs.length server.sendText ∧
      (takings Script.homeserver token xs server).2.calm =
        { server.calm with sendText := server.sendText.drop xs.length } := by
  induction xs generalizing server with
  | nil => exact ⟨rfl, rfl⟩
  | cons x xs ih =>
    obtain ⟨hresult, hnext, hcalm⟩ := sendText_script token x.message.room x.reply server
    obtain ⟨htaken, hleft⟩ := ih (Script.homeserver.sendText token x.message.room x.reply server).2
    unfold takings
    dsimp only
    rw [hresult, htaken, hleft, hcalm, hnext, List.drop_tail]
    exact ⟨rfl, rfl⟩

/-- Scripts that agree in all but the request to stop take the same. -/
theorem takings_alike (token : AccessToken) {xs ys : List Turn}
    (hmessage : ys.map Turn.message = xs.map Turn.message) {server server' : Script}
    (h : server'.calm = server.calm) :
    (takings Script.homeserver token ys server').1 = (takings Script.homeserver token xs server).1 ∧
      (takings Script.homeserver token ys server').2.calm =
        (takings Script.homeserver token xs server).2.calm := by
  obtain ⟨htaken, hleft⟩ := takings_script token xs server
  obtain ⟨htaken', hleft'⟩ := takings_script token ys server'
  have hlength : ys.length = xs.length := by simpa using congrArg List.length hmessage
  have hsendText : server'.sendText = server.sendText :=
    show server'.calm.sendText = server.calm.sendText by rw [h]
  rw [htaken, hleft, htaken', hleft', hlength, hsendText, h]
  exact ⟨rfl, rfl⟩

/-! ## Scenes at two times -/

/-- The same turn at another time. -/
structure Turn.Again (x y : Turn) : Prop where
  message : y.message = x.message
  reply : SameButClock x.reply y.reply

theorem forall₂_again {xs ys : List Turn} (hmessage : ys.map Turn.message = xs.map Turn.message)
    (hreply : List.Forall₂ SameButClock (xs.map Turn.reply) (ys.map Turn.reply)) :
    List.Forall₂ Turn.Again xs ys := by
  induction xs generalizing ys with
  | nil =>
    obtain rfl := List.map_eq_nil_iff.1 hmessage
    exact .nil
  | cons x xs ih =>
    obtain ⟨y, ys, rfl, hy, hys⟩ := List.map_eq_cons_iff.1 hmessage
    obtain ⟨hfirst, hmore⟩ := List.forall₂_cons.1 hreply
    exact .cons ⟨hy, hfirst⟩ (ih hys hmore)

/-- The same call, but for what the clocks show in its text. -/
inductive SameCall : Call → Call → Prop
  | same (call : Call) : SameCall call call
  | text (token : AccessToken) (room : RoomId) {body body' : String} (h : SameButClock body body') :
      SameCall (.sendText token room body) (.sendText token room body')

/-- The same call as it goes out at another time. -/
structure SameEntry (e e' : Entry) : Prop where
  call : SameCall e.call e'.call
  phase : e'.phase = e.phase
  cursor : e'.cursor = e.cursor

theorem sameEntry_turns {xs ys : List Turn} (h : List.Forall₂ Turn.Again xs ys)
    (token : AccessToken) (cursor : Option SyncToken) :
    List.Forall₂ SameEntry (xs.map (Turn.entry token cursor))
      (ys.map (Turn.entry token cursor)) := by
  apply List.forall₂_map_left_iff.2
  apply List.forall₂_map_right_iff.2
  apply h.imp
  intro x y hxy
  refine ⟨?_, rfl, rfl⟩
  unfold Turn.entry
  rw [hxy.message]
  exact .text token x.message.room hxy.reply

namespace Scene

/-- The same scene at another time, but for the requests to stop. -/
structure Again (s t : Scene Script) : Prop where
  timings : t.bot.timings = s.bot.timings
  session : t.bot.session = s.bot.session
  phase : t.bot.phase = s.bot.phase
  draws : t.bot.draws = s.bot.draws
  state : s.bot.state.Alike t.bot.state
  server : t.world.server.calm = s.world.server.calm
  log : List.Forall₂ SameEntry s.world.log t.world.log

namespace Again

variable (clock clock' : Nat → Moment) {s t : Scene Script}

theorem refl (s : Scene Script) : Again s s :=
  ⟨rfl, rfl, rfl, rfl, .refl _, rfl, List.forall₂_same.2 fun e _ => ⟨.same e.call, rfl, rfl⟩⟩

theorem pollEntry (h : Again s t) : SameEntry s.pollEntry t.pollEntry := by
  refine ⟨?_, rfl, ?_⟩
  · unfold Scene.pollEntry nextPoll
    rw [h.session, h.timings]
    exact .same _
  · unfold Scene.pollEntry
    rw [h.session]

/-- A poll is answered with the same at any time. -/
theorem sync (h : Again s t) :
    (t.sync (scripted clock')).1 = (s.sync (scripted clock)).1 ∧
      (t.sync (scripted clock')).2.world.server.calm =
        (s.sync (scripted clock)).2.world.server.calm := by
  have hs := Service.calmAnswer_sync s.bot.session.accessToken s.nextPoll s.world.server
  have ht := Service.calmAnswer_sync s.bot.session.accessToken s.nextPoll t.world.server
  have hpoll : t.nextPoll = s.nextPoll := by
    unfold nextPoll
    rw [h.session, h.timings]
  rw [h.server] at ht
  constructor
  · unfold Scene.sync withPhase
    dsimp only
    rw [World.perform_result, World.perform_result, h.session]
    exact hpoll ▸ ht.result.symm.trans hs.result
  · rw [sync_server, sync_server, h.session, hpoll, ← hs.server, ← ht.server]

/-- What a batch brings does not depend on when it comes. -/
theorem poll_ok (h : Again s t) {b : Batch} (hs : (s.sync (scripted clock)).1 = .ok b)
    (ht : (t.sync (scripted clock')).1 = .ok b)
    (hserver : (t.sync (scripted clock')).2.world.server.calm =
      (s.sync (scripted clock)).2.world.server.calm) :
    Again (s.poll (scripted clock)).2 (t.poll (scripted clock')).2 := by
  obtain ⟨xs, hfirst⟩ : ∃ xs, Answered (scripted clock) s b xs := ⟨_, answered hs⟩
  obtain ⟨ys, hsecond⟩ : ∃ ys, Answered (scripted clock') t b ys := ⟨_, answered ht⟩
  have hmessage := hsecond.messages.trans (h.session ▸ hfirst.messages.symm)
  -- the same texts are taken, so the same replies are made
  obtain ⟨htaken, hleft⟩ := takings_alike s.bot.session.accessToken hmessage hserver
  have hanswers := hsecond.answers
  rw [h.session] at hanswers
  rw [hfirst.answers, hanswers] at htaken hleft
  have hnoted := h.state.noteAll b.joined.rooms
    ((s.sync (scripted clock)).2.moment (scripted clock))
    ((t.sync (scripted clock')).2.moment (scripted clock'))
  have hsaid := replies_alike clock clock' hmessage htaken hnoted s.bot.draws
  have hsaid' := hsecond.said
  rw [h.draws] at hsaid'
  rw [hfirst.said, hsaid'] at hsaid
  obtain ⟨htexts, hstate, hdraws⟩ := hsaid
  have hbot := poll_bot_of_ok hs
  have hbot' := poll_bot_of_ok ht
  refine ⟨?_, ?_, ?_, hdraws, hstate, hleft, ?_⟩
  · rw [hbot, hbot']
    exact h.timings
  · rw [hbot, hbot']
    exact congrArg (·.advance b.next) h.session
  · rw [hbot, hbot']
  · rw [hfirst.calls, hsecond.calls, h.session]
    exact List.rel_append (List.rel_append h.log (.cons h.pollEntry .nil))
      (sameEntry_turns (forall₂_again hmessage htexts) _ _)

theorem poll (h : Again s t) :
    (t.sync (scripted clock')).1 = (s.sync (scripted clock)).1 ∧
      (t.poll (scripted clock')).1 = (s.poll (scripted clock)).1 ∧
      Again (s.poll (scripted clock)).2 (t.poll (scripted clock')).2 := by
  obtain ⟨hresult, hserver⟩ := h.sync clock clock'
  refine ⟨hresult, ?_⟩
  cases hs : (s.sync (scripted clock)).1 with
  | ok b =>
    have ht := hresult.trans hs
    refine ⟨?_, h.poll_ok clock clock' hs ht hserver⟩
    rw [poll_eq_foldl hs, poll_eq_foldl ht, h.session]
  | error f =>
    have ht := hresult.trans hs
    rw [poll_of_error hs, poll_of_error ht]
    refine ⟨rfl, h.timings, h.session, rfl, h.draws, h.state, hserver, ?_⟩
    rw [sync_log, sync_log]
    exact List.rel_append h.log (.cons h.pollEntry .nil)

end Again

end Scene

end ChatBot.Loop
