-- Ignored events in the life of the bot. Over homeservers that differ in nothing else,
-- the bot makes the same calls at the same times, from its start on, and is left as it
-- would be otherwise. So it does not matter either that its own texts come back to it.
import ChatBot.Proofs.Loop.Cursor
import ChatBot.Proofs.Loop.Restarts
import ChatBot.Proofs.Service.Mirrors

namespace ChatBot.Loop

open Chat (UserId RoomId Batch Routed Event Ignored)
open Config (Settings)
open Service (Session World Homeserver Credentials Stop Entry Answer Script Mirrors SameAnswer
  SameNews)
open State (Moment)

variable {σ τ : Type}

/-! ## A life -/

/-- All that is seen of a bot from its start to the end of some steps. -/
structure Life where
  /-- What the bot is in the end and what came of its polls, or why it could not start. -/
  result : Except StartFault (Bot × List Outcome)
  now : Nat
  stop : Stop
  log : List Entry

/-- Starts the bot, and takes it through some steps. -/
def live (set : Setting σ) (settings : Settings) (draws : Draws) (w : World σ)
    (steps : List (Step σ)) : Life :=
  match start set settings draws w with
  | (.error f, w) => ⟨.error f, w.now, w.stop, w.log⟩
  | (.ok s, _) =>
    let t := s.after set steps
    ⟨.ok (t.bot, s.outcomes set steps), t.world.now, t.world.stop, t.world.log⟩

/-- The same step, where what others do keeps a pair of homeservers a pair. -/
inductive SameStep (pair : σ → τ → Prop) : Step σ → Step τ → Prop
  | poll : SameStep pair .poll .poll
  | run (stop : Stop) (rounds : Nat) : SameStep pair (.run stop rounds) (.run stop rounds)
  | noteRoom (room : RoomId) (name : Option String) :
      SameStep pair (.noteRoom room name) (.noteRoom room name)
  | send (room : RoomId) (body : String) : SameStep pair (.send room body) (.send room body)
  | others {change : σ → σ} {change' : τ → τ}
      (h : ∀ {s t}, pair s t → pair (change s) (change' t)) :
      SameStep pair (.others change) (.others change')

/-! ## Rounds -/

section Beside

variable {own : UserId} {pair : σ → τ → Prop} {hs : Homeserver σ} {hs' : Homeserver τ}
  (hm : Mirrors own pair hs hs') (clock : Nat → Moment)

/-- The same bot in two worlds at the same time and with the same record of calls. -/
structure Scene.Beside (pair : σ → τ → Prop) (s : Scene σ) (t : Scene τ) : Prop where
  bot : t.bot = s.bot
  world : s.world.Beside pair t.world

namespace Scene.Beside

variable {s : Scene σ} {t : Scene τ}

theorem noteRoom (h : s.Beside pair t) (room : RoomId) (name : Option String) :
    (s.noteRoom ⟨hs, clock⟩ room name).Beside pair (t.noteRoom ⟨hs', clock⟩ room name) := by
  unfold Scene.noteRoom withState moment
  rw [h.bot, h.world.now]
  exact ⟨rfl, h.world⟩

include hm in
theorem send (h : s.Beside pair t) (room : RoomId) (body : String) :
    (s.send ⟨hs, clock⟩ room body).2.Beside pair (t.send ⟨hs', clock⟩ room body).2 := by
  have hanswer := hm.sendText s.bot.session.accessToken room body h.world.server
  have htakes : t.takes ⟨hs', clock⟩ room body = s.takes ⟨hs, clock⟩ room body := by
    unfold takes
    rw [h.bot, ← hanswer.result]
  rw [send_eq, send_eq]
  constructor
  · dsimp only
    rw [htakes, h.bot]
  · dsimp only [sending]
    rw [h.bot]
    exact (h.world.perform hanswer _ _ _).2

theorem compose (h : s.Beside pair t) (m : Routed) :
    (t.compose ⟨hs', clock⟩ m).1 = (s.compose ⟨hs, clock⟩ m).1 ∧
      (s.compose ⟨hs, clock⟩ m).2.Beside pair (t.compose ⟨hs', clock⟩ m).2 := by
  cases m with
  | command c =>
    dsimp only [Scene.compose, moment]
    rw [h.bot, h.world.now]
    exact ⟨rfl, rfl, h.world⟩
  | freeText f =>
    dsimp only [Scene.compose]
    rw [h.bot]
    exact ⟨rfl, rfl, h.world.sleep _⟩

include hm

theorem answer (h : s.Beside pair t) (m : Routed) :
    (s.answer ⟨hs, clock⟩ m).Beside pair (t.answer ⟨hs', clock⟩ m) := by
  have hcompose : (t.compose ⟨hs', clock⟩ m).1 = (s.compose ⟨hs, clock⟩ m).1 ∧
      (s.compose ⟨hs, clock⟩ m).2.Beside pair (t.compose ⟨hs', clock⟩ m).2 := h.compose clock m
  obtain ⟨htext, hscene⟩ := hcompose
  unfold Scene.answer
  dsimp only
  rw [htext]
  exact hscene.send hm clock m.room _

theorem foldl_answer (h : s.Beside pair t) (ms : List Routed) :
    (ms.foldl (Scene.answer ⟨hs, clock⟩) s).Beside pair
      (ms.foldl (Scene.answer ⟨hs', clock⟩) t) := by
  induction ms generalizing s t with
  | nil => exact h
  | cons m more ih => exact ih (h.answer hm clock m)

theorem sync (h : s.Beside pair t) :
    SameNews own (s.sync ⟨hs, clock⟩).1 (t.sync ⟨hs', clock⟩).1 ∧
      (s.sync ⟨hs, clock⟩).2.Beside pair (t.sync ⟨hs', clock⟩).2 := by
  have hanswer := hm.sync s.bot.session.accessToken s.nextPoll h.world.server
  unfold Scene.sync withPhase nextPoll
  dsimp only
  rw [h.bot]
  obtain ⟨hresult, hworld⟩ := h.world.perform hanswer
    (.sync s.bot.session.accessToken s.nextPoll) .polling s.bot.session.cursor
  exact ⟨hresult, rfl, hworld⟩

theorem met (h : s.Beside pair t) {b b' : Batch} (hb : b.Edited own b') :
    (s.met ⟨hs, clock⟩ b).Beside pair (t.met ⟨hs', clock⟩ b') := by
  obtain ⟨-, hsync⟩ := h.sync hm clock
  unfold Scene.met withState moveTo moment
  dsimp only
  rw [hsync.bot, hsync.world.now, h.bot, hb.next, hb.rooms]
  exact ⟨rfl, hsync.world⟩

/-- What is ignored changes neither what a round does nor what comes of it. -/
theorem poll (h : s.Beside pair t) (hown : s.bot.session.userId = own) :
    (t.poll ⟨hs', clock⟩).1 = (s.poll ⟨hs, clock⟩).1 ∧
      (s.poll ⟨hs, clock⟩).2.Beside pair (t.poll ⟨hs', clock⟩).2 := by
  obtain ⟨hnews, hsync⟩ := h.sync hm clock
  generalize hx : (s.sync ⟨hs, clock⟩).1 = x at hnews
  generalize hy : (t.sync ⟨hs', clock⟩).1 = y at hnews
  cases hnews with
  | fault f =>
    rw [poll_of_error hx, poll_of_error hy]
    exact ⟨rfl, hsync⟩
  | batch hb =>
    rw [poll_eq_foldl hx, poll_eq_foldl hy, h.bot, hown, hb.route]
    exact ⟨rfl, (h.met hm clock hb).foldl_answer hm clock _⟩

theorem round (h : s.Beside pair t) (hown : s.bot.session.userId = own) :
    (s.round ⟨hs, clock⟩).Beside pair (t.round ⟨hs', clock⟩) := by
  obtain ⟨houtcome, hpoll⟩ := h.poll hm clock hown
  unfold Scene.round
  dsimp only
  refine ⟨hpoll.bot, ?_⟩
  dsimp only [restTime]
  rw [houtcome, hpoll.bot]
  exact hpoll.world.pause _

theorem runFor (h : s.Beside pair t) (hown : s.bot.session.userId = own) (rounds : Nat) :
    t.runOutcomes ⟨hs', clock⟩ rounds = s.runOutcomes ⟨hs, clock⟩ rounds ∧
      (s.runFor ⟨hs, clock⟩ rounds).Beside pair (t.runFor ⟨hs', clock⟩ rounds) := by
  induction rounds generalizing s t with
  | zero => exact ⟨rfl, h⟩
  | succ rounds ih =>
    unfold Scene.runFor Scene.runOutcomes
    rw [h.world.stop]
    split
    · exact ⟨rfl, h⟩
    · obtain ⟨houtcomes, hrun⟩ := ih (h.round hm clock hown) ((poll_userId s).trans hown)
      rw [houtcomes, (h.poll hm clock hown).1]
      exact ⟨rfl, hrun⟩

/-! ## Steps -/

theorem step (h : s.Beside pair t) (hown : s.bot.session.userId = own) {x : Step σ} {y : Step τ}
    (hxy : SameStep pair x y) :
    t.stepOutcomes ⟨hs', clock⟩ y = s.stepOutcomes ⟨hs, clock⟩ x ∧
      (s.step ⟨hs, clock⟩ x).Beside pair (t.step ⟨hs', clock⟩ y) := by
  cases hxy with
  | poll =>
    obtain ⟨houtcome, hpoll⟩ := h.poll hm clock hown
    exact ⟨congrArg (fun o => [o]) houtcome, hpoll⟩
  | run stop rounds =>
    have hbegin : (s.begin stop).Beside pair (t.begin stop) :=
      ⟨h.bot, h.world.server, h.world.now, rfl, h.world.log⟩
    exact hbegin.runFor hm clock hown rounds
  | noteRoom room name => exact ⟨rfl, h.noteRoom clock room name⟩
  | send room body => exact ⟨rfl, h.send hm clock room body⟩
  | others hpair => exact ⟨rfl, h.bot, hpair h.world.server, h.world.now, h.world.stop, h.world.log⟩

theorem after (h : s.Beside pair t) (hown : s.bot.session.userId = own) {xs : List (Step σ)}
    {ys : List (Step τ)} (hsteps : List.Forall₂ (SameStep pair) xs ys) :
    t.outcomes ⟨hs', clock⟩ ys = s.outcomes ⟨hs, clock⟩ xs ∧
      (s.after ⟨hs, clock⟩ xs).Beside pair (t.after ⟨hs', clock⟩ ys) := by
  induction hsteps generalizing s t with
  | nil => exact ⟨rfl, h⟩
  | cons hxy _ ih =>
    obtain ⟨hfirst, hstep⟩ := h.step hm clock hown hxy
    obtain ⟨hmore, hafter⟩ := ih hstep ((step_userId s _).trans hown)
    unfold Scene.outcomes
    rw [hfirst, hmore]
    exact ⟨rfl, hafter⟩

end Scene.Beside

/-! ## The start -/

variable {w : World σ} {v : World τ}

include hm

theorem establish_beside (h : w.Beside pair v) (c : Credentials) :
    (establish ⟨hs', clock⟩ c v).1 = (establish ⟨hs, clock⟩ c w).1 ∧
      (establish ⟨hs, clock⟩ c w).2.Beside pair (establish ⟨hs', clock⟩ c v).2 := by
  obtain ⟨hregister, hworld⟩ := h.perform (hm.register c h.server) (.register c) .idle none
  unfold establish
  dsimp only
  rcases hp : w.perform (.register c) .idle none (hs.register c w.server) with ⟨result, w₁⟩
  rcases hq : v.perform (.register c) .idle none (hs'.register c v.server) with ⟨result', v₁⟩
  rw [hp, hq] at hregister hworld
  obtain rfl : result = result' := hregister
  cases result with
  | ok a => exact ⟨rfl, hworld⟩
  | error f =>
    dsimp only at hworld ⊢
    split
    · obtain ⟨hlogin, hworld⟩ := hworld.perform (hm.login c hworld.server) (.login c) .idle none
      rcases hp : w₁.perform (.login c) .idle none (hs.login c w₁.server) with ⟨result, w₂⟩
      rcases hq : v₁.perform (.login c) .idle none (hs'.login c v₁.server) with ⟨result', v₂⟩
      rw [hp, hq] at hlogin hworld
      obtain rfl : result = result' := hlogin
      cases result with
      | ok a => exact ⟨rfl, hworld⟩
      | error f => exact ⟨rfl, hworld⟩
    · exact ⟨rfl, hworld⟩

theorem createDemoRoom_beside (h : w.Beside pair v) (settings : Settings) (session : Session) :
    (createDemoRoom ⟨hs', clock⟩ settings session v).1 =
        (createDemoRoom ⟨hs, clock⟩ settings session w).1 ∧
      (createDemoRoom ⟨hs, clock⟩ settings session w).2.Beside pair
        (createDemoRoom ⟨hs', clock⟩ settings session v).2 := by
  obtain ⟨hresult, hworld⟩ := h.perform (hm.createRoom session.accessToken settings.demoRoomName
    settings.demoRoomTopic h.server) (.createRoom session.accessToken settings.demoRoomName
      settings.demoRoomTopic) .idle session.cursor
  unfold createDemoRoom
  dsimp only
  generalize w.perform _ _ _ _ = x at hresult hworld ⊢
  generalize v.perform _ _ _ _ = y at hresult hworld ⊢
  obtain ⟨result, w₁⟩ := x
  obtain ⟨result', v₁⟩ := y
  obtain rfl : result = result' := hresult
  cases result with
  | ok room => exact ⟨rfl, hworld⟩
  | error f => exact ⟨rfl, hworld⟩

theorem openDemoRoom_beside {s : Scene σ} {t : Scene τ} (h : s.Beside pair t)
    (settings : Settings) :
    (openDemoRoom ⟨hs, clock⟩ settings s).Beside pair
      (openDemoRoom ⟨hs', clock⟩ settings t) := by
  obtain ⟨hroom, hworld⟩ := createDemoRoom_beside hm clock h.world settings s.bot.session
  unfold openDemoRoom
  rw [h.bot]
  split
  · generalize createDemoRoom ⟨hs, clock⟩ _ _ _ = x at hroom hworld ⊢
    generalize createDemoRoom ⟨hs', clock⟩ _ _ _ = y at hroom hworld ⊢
    obtain ⟨room, w₁⟩ := x
    obtain ⟨room', v₁⟩ := y
    obtain rfl : room' = room := hroom
    have hscene : (⟨s.bot, w₁⟩ : Scene σ).Beside pair ⟨s.bot, v₁⟩ := ⟨rfl, hworld⟩
    cases room' with
    | some room => exact (hscene.noteRoom clock room _).send hm clock room welcomeMessage
    | none => exact hscene
  · exact ⟨h.bot, h.world⟩

/-- Either both bots start, or both fail in the same way. -/
theorem start_beside (h : w.Beside pair v) (settings : Settings) (draws : Draws) :
    (∃ f w₁ v₁, start ⟨hs, clock⟩ settings draws w = (.error f, w₁) ∧
        start ⟨hs', clock⟩ settings draws v = (.error f, v₁) ∧ w₁.Beside pair v₁) ∨
      ∃ s t, start ⟨hs, clock⟩ settings draws w = (.ok s, s.world) ∧
        start ⟨hs', clock⟩ settings draws v = (.ok t, t.world) ∧ s.Beside pair t := by
  obtain ⟨hresult, hworld⟩ := establish_beside hm clock h (credentials settings)
  unfold start
  generalize establish ⟨hs, clock⟩ _ _ = x at hresult hworld ⊢
  generalize establish ⟨hs', clock⟩ _ _ = y at hresult hworld ⊢
  obtain ⟨result, w₁⟩ := x
  obtain ⟨result', v₁⟩ := y
  obtain rfl : result' = result := hresult
  cases result' with
  | error f => exact .inl ⟨f, w₁, v₁, rfl, rfl, hworld⟩
  | ok session =>
    right
    have hprofile := (hworld.perform (hm.setDisplayName session.accessToken session.userId
      settings.displayName hworld.server) (.setDisplayName session.accessToken session.userId
        settings.displayName) .idle session.cursor).2
    refine ⟨_, _, rfl, rfl, openDemoRoom_beside hm clock ⟨?_, hprofile⟩ settings⟩
    unfold newBot
    exact congrArg (fun now => (⟨settings.timings, session, .fresh (clock now).instant, draws,
      .idle⟩ : Bot)) hprofile.now

/-- Over homeservers that differ in nothing but ignored events, the bot has the same life. -/
theorem live_eq_of_mirrors (h : w.Beside pair v) (settings : Settings) (draws : Draws)
    (hown : ∀ s, (start ⟨hs, clock⟩ settings draws w).1 = .ok s → s.bot.session.userId = own)
    {xs : List (Step σ)} {ys : List (Step τ)} (hsteps : List.Forall₂ (SameStep pair) xs ys) :
    live ⟨hs', clock⟩ settings draws v ys = live ⟨hs, clock⟩ settings draws w xs := by
  unfold live
  rcases start_beside hm clock h settings draws with
    ⟨f, w₁, v₁, hx, hy, hworld⟩ | ⟨s, t, hx, hy, hscene⟩
  · rw [hx, hy]
    dsimp only
    rw [hworld.now, hworld.stop, hworld.log]
  · rw [hx] at hown
    obtain ⟨houtcomes, hafter⟩ := hscene.after hm clock (hown s rfl) hsteps
    rw [hx, hy]
    dsimp only
    rw [houtcomes, hafter.bot, hafter.world.now, hafter.world.stop, hafter.world.log]

end Beside

/-! ## The law of ignored events -/

/-- The same step over a homeserver that sends echoes. What others do leaves the echoes alone. -/
def Step.echoed : Step σ → Step (σ × List (RoomId × String))
  | .poll => .poll
  | .run stop rounds => .run stop rounds
  | .noteRoom room name => .noteRoom room name
  | .send room body => .send room body
  | .others change => .others (Prod.map change id)

theorem sameStep_echoed (x : Step σ) : SameStep (fun s t => t.1 = s) x x.echoed := by
  cases x with
  | poll => exact .poll
  | run stop rounds => exact .run stop rounds
  | noteRoom room name => exact .noteRoom room name
  | send room body => exact .send room body
  | others change => exact .others fun h => congrArg change h

/-- Whatever ignored events are put into the timelines of a script or left out of them, the bot has
the same life: it makes the same calls at the same times, its polls come to the same, and its
cursor, counts, rooms and draws are the same in the end. Over any homeserver, it has the same life
when all its texts come back to it. -/
theorem ignored_events_change_nothing (clock : Nat → Moment) (settings : Settings) (draws : Draws)
    (stop : Stop) (own : UserId) :
    (∀ {server server' : Script} {xs ys : List (Step Script)},
      (∀ s, (start (scripted clock) settings draws (.start server stop)).1 = .ok s →
        s.bot.session.userId = own) →
      server.Edited own server' → List.Forall₂ (SameStep (Script.Edited own)) xs ys →
      live (scripted clock) settings draws (.start server' stop) ys =
        live (scripted clock) settings draws (.start server stop) xs) ∧
    ∀ {σ : Type} (hs : Homeserver σ) (server : σ) (xs : List (Step σ)),
      (∀ s, (start ⟨hs, clock⟩ settings draws (.start server stop)).1 = .ok s →
        s.bot.session.userId = own) →
      live ⟨Service.echoing own hs, clock⟩ settings draws (.start (server, []) stop)
          (xs.map Step.echoed) =
        live ⟨hs, clock⟩ settings draws (.start server stop) xs := by
  constructor
  · intro server server' xs ys hown hserver hsteps
    have hm := Script.mirrors_edited own
    have hworld : (World.start server stop).Beside (Script.Edited own) (.start server' stop) :=
      ⟨hserver, rfl, rfl, rfl⟩
    exact live_eq_of_mirrors hm clock hworld settings draws hown hsteps
  · intro σ hs server xs hown
    have hm := Service.mirrors_echoing own hs
    have hsteps : List.Forall₂ (SameStep fun s t => t.1 = s) xs (xs.map Step.echoed) :=
      List.forall₂_map_right_iff.2 (List.forall₂_same.2 fun x _ => sameStep_echoed x)
    exact live_eq_of_mirrors hm clock ⟨rfl, rfl, rfl, rfl⟩ settings draws hown hsteps

/-! ## A life with noise -/

/-- The mixed batch with other events in between: somebody joins, a message has no text, one has no
sender, and the bot's own text comes back. -/
def noisyBatch : Batch where
  next := ⟨"s1"⟩
  joined := .ofList [
    (⟨"!a:hs"⟩, [
      ⟨"m.room.member", some ⟨"@alice:hs"⟩, none, .object [("body", .text "!help")]⟩,
      ⟨Chat.messageType, some ⟨"@alice:hs"⟩, none, .object [("body", .text "!stats")]⟩,
      ⟨Chat.messageType, some ⟨"@alice:hs"⟩, none, .null⟩]),
    (⟨"!b:hs"⟩, [
      ⟨Chat.messageType, none, none, .object [("body", .text "!help")]⟩,
      ⟨Chat.messageType, some ⟨"@bob:hs"⟩, none, .object [("body", .text "hi")]⟩,
      ⟨Chat.messageType, some ⟨"@bot:hs"⟩, none, .object [("body", .text "hi")]⟩])]

theorem edited_noisyBatch : mixedBatch.Edited ⟨"@bot:hs"⟩ noisyBatch := by
  refine ⟨rfl, .cons ⟨rfl, ?_⟩ (.cons ⟨rfl, ?_⟩ .nil)⟩
  · refine .putIn (.noMessage (by decide)) (.keep _ (.putIn (.noBody ?_) .done))
    intro body hbody
    cases hbody
  · exact .putIn (.fromNobody rfl) (.keep _ (.putIn (.fromBot rfl) .done))

theorem noise_and_echoes_change_nothing :
    let own : UserId := ⟨"@bot:hs"⟩
    let noisy : Script := { batchFaultBatch with
      sync := [(.ok noisyBatch, 0), (.error (.transport "lost"), 0), (.ok ⟨⟨"s2"⟩, .empty⟩, 0)] }
    let steps : List (Step Script) := [.poll, .send ⟨"!a:hs"⟩ "Hello", .run .never 2]
    (∀ s, (start mixedSetting demoSettings (.ofList []) (.start batchFaultBatch .never)).1 = .ok s →
        s.bot.session.userId = own) ∧
      batchFaultBatch.Edited own noisy ∧
      List.Forall₂ (SameStep (Script.Edited own)) steps steps ∧
      live mixedSetting demoSettings (.ofList []) (.start noisy .never) steps =
        live mixedSetting demoSettings (.ofList []) (.start batchFaultBatch .never) steps ∧
      live ⟨Service.echoing own Script.homeserver, mixedSetting.clock⟩ demoSettings (.ofList [])
          (.start (batchFaultBatch, []) .never) (steps.map Step.echoed) =
        live mixedSetting demoSettings (.ofList []) (.start batchFaultBatch .never) steps := by
  intro own noisy steps
  have hown : ∀ s, (start mixedSetting demoSettings (.ofList [])
      (.start batchFaultBatch .never)).1 = .ok s → s.bot.session.userId = own := by
    rintro s ⟨⟩
    rfl
  have hscript : batchFaultBatch.Edited own noisy := by
    refine .polls (.cons ⟨.batch edited_noisyBatch, rfl⟩ ?_)
    exact List.forall₂_same.2 fun x _ => ⟨.refl own x.1, rfl⟩
  have hsteps : List.Forall₂ (SameStep (Script.Edited own)) steps steps :=
    .cons .poll (.cons (.send _ _) (.cons (.run _ _) .nil))
  have hlaw := ignored_events_change_nothing mixedSetting.clock demoSettings (.ofList []) .never own
  exact ⟨hown, hscript, hsteps, hlaw.1 hown hscript hsteps,
    hlaw.2 Script.homeserver batchFaultBatch steps hown⟩

end ChatBot.Loop
