-- How far the bot has read, over its whole life: every poll asks for what comes
-- after the last batch that was answered, and a poll that fails changes nothing.
import ChatBot.Loop.Startup
import ChatBot.Proofs.Loop.Schedule
import ChatBot.Proofs.Loop.Turns

namespace ChatBot.Loop

open Chat (RoomId AccessToken Batch SyncToken UserId)
open Config (Settings Timings)
open Service (Session World Stop Phase Poll Call CallKind Entry Credentials Answer Script)

/-! ## What the record of calls has to look like -/

/-- Where the stream stood after the last batch among some answers; none if there is no batch. -/
def lastNext (as : Answers) : Option SyncToken := (batches as).getLast?.map Batch.next

/-- A record of calls, against what its polls were answered. A poll asks for what comes after
the last batch before it, with the set times; it is under way when it goes out. All other calls
go out when no poll is under way, with the cursor at the last batch before them. -/
inductive Record (timings : Timings) (token : AccessToken) : List Entry → Answers → Prop
  | nil : Record timings token [] []
  | poll {log : List Entry} {as : Answers} (h : Record timings token log as) (time : Nat)
      (answer : Except Fault Batch) :
      Record timings token
        (log ++ [⟨.sync token ⟨lastNext as, timings.syncTimeout, timings.requestTimeout⟩, time,
          .polling, lastNext as⟩])
        (as ++ [answer])
  | call {log : List Entry} {as : Answers} (h : Record timings token log as) (e : Entry)
      (hkind : e.call.kind ≠ .sync) (hphase : e.phase = .idle) (hcursor : e.cursor = lastNext as) :
      Record timings token (log ++ [e]) as

/-- A bot that has read as far as some answers go. -/
structure Follows {σ : Type} (timings : Timings) (session : Session) (as : Answers)
    (s : Scene σ) : Prop where
  record : Record timings session.accessToken s.world.log as
  /-- Of the session, nothing changes but the cursor. -/
  session : s.bot.session = { session with cursor := lastNext as }
  timings : s.bot.timings = timings
  phase : s.bot.phase = .idle

theorem lastNext_ok (as : Answers) (b : Batch) : lastNext (as ++ [.ok b]) = some b.next := by
  unfold lastNext
  rw [batches_ok, List.getLast?_concat]
  rfl

theorem lastNext_error (as : Answers) (f : Fault) : lastNext (as ++ [.error f]) = lastNext as := by
  unfold lastNext
  rw [batches_error]

theorem Record.calls {timings : Timings} {token : AccessToken} {log : List Entry} {as : Answers}
    (h : Record timings token log as) (es : List Entry)
    (hes : ∀ e ∈ es, e.call.kind ≠ .sync ∧ e.phase = .idle ∧ e.cursor = lastNext as) :
    Record timings token (log ++ es) as := by
  induction es generalizing log with
  | nil => simpa using h
  | cons e more ih =>
    obtain ⟨hkind, hphase, hcursor⟩ := hes e List.mem_cons_self
    have hmore := ih (h.call e hkind hphase hcursor) fun e he => hes e (List.mem_cons_of_mem _ he)
    rwa [List.append_assoc] at hmore

variable {σ : Type} {set : Setting σ} {timings : Timings} {session : Session} {as : Answers}
  {s : Scene σ}

/-- The cursor of the session it is compared with does not matter. -/
theorem Follows.ofOwn (h : Follows timings session as s) : Follows timings s.bot.session as s := by
  refine ⟨?_, ?_, h.timings, h.phase⟩
  · rw [h.session]
    exact h.record
  · rw [h.session]

/-! ## One round -/

theorem Follows.pollEntry (h : Follows timings session as s) :
    s.pollEntry = ⟨.sync session.accessToken
      ⟨lastNext as, timings.syncTimeout, timings.requestTimeout⟩, s.world.now, .polling,
      lastNext as⟩ := by
  unfold Scene.pollEntry Scene.nextPoll
  rw [h.session, h.timings]

/-- After a round that gets a batch, the bot has read as far as that batch goes. -/
theorem Follows.poll_ok (h : Follows timings session as s) {b : Batch}
    (hb : (s.sync set).1 = .ok b) : Follows timings session (as ++ [.ok b]) (s.poll set).2 := by
  have hbot := Scene.poll_bot_of_ok hb
  have hturns := Scene.answered hb
  constructor
  · rw [hturns.calls, h.pollEntry]
    apply (h.record.poll s.world.now (.ok b)).calls
    intro e he
    obtain ⟨x, _, rfl⟩ := List.mem_map.1 he
    refine ⟨?_, rfl, (lastNext_ok as b).symm⟩
    intro hkind
    cases hkind
  · rw [hbot, lastNext_ok]
    dsimp only
    rw [h.session]
    rfl
  · rw [hbot]
    exact h.timings
  · rw [hbot]

theorem Follows.poll_error (h : Follows timings session as s) {f : Fault}
    (hf : (s.sync set).1 = .error f) :
    Follows timings session (as ++ [.error f]) (s.poll set).2 := by
  obtain ⟨hbot, hlog⟩ := Scene.bot_and_log_of_error hf h.phase
  constructor
  · rw [hlog, h.pollEntry]
    exact h.record.poll s.world.now (.error f)
  · rw [hbot, lastNext_error]
    exact h.session
  · rw [hbot]
    exact h.timings
  · rw [hbot]
    exact h.phase

theorem keeps_follows (set : Setting σ) (timings : Timings) (session : Session) :
    Keeps set (Follows timings session) where
  poll := by
    intro as s h
    cases ha : (s.sync set).1 with
    | ok b => exact h.poll_ok ha
    | error f => exact h.poll_error ha
  meanwhile := by
    intro as s world _ hlog h
    exact ⟨hlog ▸ h.record, h.session, h.timings, h.phase⟩

/-! ## Notes, sends, and what others do -/

theorem Follows.noteRoom (h : Follows timings session as s) (room : RoomId)
    (name : Option String) : Follows timings session as (s.noteRoom set room name) :=
  ⟨h.record, h.session, h.timings, h.phase⟩

theorem Follows.send (h : Follows timings session as s) (room : RoomId) (body : String) :
    Follows timings session as (s.send set room body).2 := by
  constructor
  · rw [Scene.send_log]
    apply h.record.call
    · intro hkind
      cases hkind
    · exact h.phase
    · exact congrArg Session.cursor h.session
  · rw [Scene.send_bot]
    exact h.session
  · rw [Scene.send_bot]
    exact h.timings
  · rw [Scene.send_bot]
    exact h.phase

theorem Follows.other (h : Follows timings session as s) (x : Step σ) (hx : x.polls = false) :
    Follows timings session as (s.step set x) := by
  cases x with
  | poll => cases hx
  | run stop rounds => cases hx
  | noteRoom room name => exact h.noteRoom room name
  | send room body => exact h.send room body
  | others change => exact ⟨h.record, h.session, h.timings, h.phase⟩

/-! ## The start -/

theorem Record.perform {α : Type} {token : AccessToken} {w : World σ}
    (h : Record timings token w.log []) (call : Call) (hkind : call.kind ≠ .sync)
    (answered : Answer α × σ) :
    Record timings token (w.perform call .idle none answered).2.log [] := by
  rw [World.perform_log]
  exact h.call _ hkind rfl rfl

/-- To get its account the bot registers, and perhaps logs in after that. What either call keeps is
kept. -/
theorem establish_keeps (set : Setting σ) (c : Credentials) {w : World σ} {P : World σ → Prop}
    (hw : P w) (hcall : ∀ (v : World σ) (call : Call) (answered : Answer Chat.Auth × σ),
      call = .register c ∨ call = .login c → P v → P (v.perform call .idle none answered).2) :
    P (establish set c w).2 := by
  have hregister := hcall w _ (set.homeserver.register c w.server) (.inl rfl) hw
  unfold establish
  split
  · rename_i heq
    rwa [heq] at hregister
  · rename_i v heq
    rw [heq] at hregister
    split
    · have hlogin := hcall v _ (set.homeserver.login c v.server) (.inr rfl) hregister
      split
      · rename_i heq'
        rwa [heq'] at hlogin
      · rename_i heq'
        rwa [heq'] at hlogin
    · exact hregister

/-- Whoever the bot turns out to be, it has polled nothing yet. -/
theorem record_establish (set : Setting σ) (c : Credentials) {w : World σ}
    (h : ∀ token, Record timings token w.log []) (token : AccessToken) :
    Record timings token (establish set c w).2.log [] := by
  refine establish_keeps set c (P := fun v => Record timings token v.log []) (h token) ?_
  rintro v call answered (rfl | rfl) hv
  · exact hv.perform _ (by intro hkind; cases hkind) answered
  · exact hv.perform _ (by intro hkind; cases hkind) answered

theorem cursor_of_establish {set : Setting σ} {c : Credentials} {w w' : World σ}
    {session : Session} (h : establish set c w = (.ok session, w')) : session.cursor = none := by
  unfold establish at h
  split at h
  · cases h
    rfl
  · split at h
    · split at h
      · cases h
        rfl
      · cases h
    · cases h

theorem createDemoRoom_world (set : Setting σ) (settings : Settings) (session : Session)
    (w : World σ) :
    (createDemoRoom set settings session w).2 =
      (w.perform (.createRoom session.accessToken settings.demoRoomName settings.demoRoomTopic)
        .idle session.cursor (set.homeserver.createRoom session.accessToken settings.demoRoomName
          settings.demoRoomTopic w.server)).2 := by
  unfold createDemoRoom
  dsimp only
  split <;> simp only [*]

theorem Follows.openDemoRoom {settings : Settings} (h : Follows timings session [] s) :
    Follows timings session [] (openDemoRoom set settings s) := by
  have hcursor : s.bot.session.cursor = none := congrArg Session.cursor h.session
  have hworld := createDemoRoom_world set settings s.bot.session s.world
  rw [hcursor] at hworld
  have hcreate : Follows timings session []
      { s with world := (createDemoRoom set settings s.bot.session s.world).2 } := by
    refine ⟨?_, h.session, h.timings, h.phase⟩
    dsimp only
    rw [hworld]
    exact h.record.perform _ (by intro hkind; cases hkind) _
  unfold Loop.openDemoRoom
  split
  · split
    · rename_i room world heq
      rw [heq] at hcreate
      exact (hcreate.noteRoom room (some settings.demoRoomName)).send room welcomeMessage
    · rename_i world heq
      rw [heq] at hcreate
      exact hcreate
  · exact h

/-- A bot that has started has polled nothing, and waits for no poll. -/
theorem follows_start {settings : Settings} {draws : Draws} {w : World σ}
    (hw : ∀ token, Record settings.timings token w.log [])
    (h : (start set settings draws w).1 = .ok s) :
    Follows settings.timings s.bot.session [] s := by
  unfold start at h
  split at h
  · cases h
  · rename_i session w' heq
    have hcursor := cursor_of_establish heq
    have hrecord := record_establish set (credentials settings) hw session.accessToken
    rw [heq] at hrecord
    have hprofile : Record settings.timings session.accessToken
        (setupProfile set session settings.displayName w').log [] := by
      unfold setupProfile
      rw [hcursor]
      exact hrecord.perform _ (by intro hkind; cases hkind) _
    have hnew : Follows settings.timings session []
        ⟨newBot set settings session draws (setupProfile set session settings.displayName w').now,
          setupProfile set session settings.displayName w'⟩ := by
      refine ⟨hprofile, ?_, rfl, rfl⟩
      unfold newBot
      dsimp only
      rw [show lastNext [] = session.cursor from hcursor.symm]
    cases h
    exact hnew.openDemoRoom.ofOwn

/-! ## The law of the cursor -/

/-- From its start on, and whatever is done with it, the bot polls from where the last batch
ended, under one session. A poll that fails is reported as what it is, and changes nothing. -/
theorem the_cursor_follows_the_answers (set : Setting σ) (settings : Settings) (draws : Draws)
    (server : σ) (stop : Stop) (s : Scene σ) (steps : List (Step σ))
    (hstart : (start set settings draws (.start server stop)).1 = .ok s) :
    let t := s.after set steps
    Follows settings.timings s.bot.session (s.answers set steps) t ∧
      ∀ f, (t.sync set).1 = .error f →
        (t.poll set).1 = (if f = .timeout then .timedOut else .failed f) ∧
        (t.poll set).2.bot = t.bot ∧
        (t.poll set).2.world.log = t.world.log ++ [t.pollEntry] := by
  have hfollows : Follows settings.timings s.bot.session (s.answers set steps)
      (s.after set steps) := by
    have hkeeps := keeps_follows set settings.timings s.bot.session
    exact hkeeps.after (fun x _ hx _ _ h => h.other x hx)
      (follows_start (fun _ => .nil) hstart)
  refine ⟨hfollows, ?_⟩
  intro f hf
  refine ⟨?_, Scene.bot_and_log_of_error hf hfollows.phase⟩
  rw [Scene.poll_of_error hf]

/-! ## A life over a script -/

/-- Default times, and a demo room. -/
def demoSettings : Settings where
  homeserverUrl := "http://localhost:6167"
  username := "bot"
  password := "secret"
  displayName := "Bot"
  timings := .default
  createDemoRoom := true
  demoRoomName := "Demo"
  demoRoomTopic := "Talk"

/-- A registration, and then a batch, a poll that fails, and another batch. -/
def batchFaultBatch : Script where
  register := [.ok ⟨⟨"@bot:hs"⟩, ⟨"token"⟩, none⟩]
  login := []
  setDisplayName := []
  createRoom := []
  sendText := []
  sync := [(.ok mixedBatch, 0), (.error (.transport "lost"), 0), (.ok ⟨⟨"s2"⟩, .empty⟩, 0)]
  stopAt := none

theorem the_cursor_follows_a_batch_a_fault_and_a_batch :
    ∃ s, (start mixedSetting demoSettings (.ofList []) (.start batchFaultBatch .never)).1 = .ok s ∧
      let steps := [.poll, .send ⟨"!a:hs"⟩ "Hello", .run .never 2]
      let t := s.after mixedSetting steps
      Follows Timings.default s.bot.session (s.answers mixedSetting steps) t ∧
        ∀ f, (t.sync mixedSetting).1 = .error f →
          (t.poll mixedSetting).1 = (if f = .timeout then .timedOut else .failed f) ∧
          (t.poll mixedSetting).2.bot = t.bot ∧
          (t.poll mixedSetting).2.world.log = t.world.log ++ [t.pollEntry] :=
  ⟨_, rfl, the_cursor_follows_the_answers mixedSetting demoSettings (.ofList []) batchFaultBatch
    .never _ _ rfl⟩

end ChatBot.Loop
