-- The start of the bot, call by call: which calls it makes, with what, and what it is
-- left with, however each of them is answered. Only its account can stop it.
import ChatBot.Proofs.Loop.Cursor

namespace ChatBot.Loop

open Chat (RoomId AccessToken UserId Auth)
open Config (Settings)
open Service (Session World Homeserver Credentials Call Entry Answer Phase)
open State (BotState Counters)

variable {σ : Type}

/-! ## The account -/

/-- The homeserver refused because the user name is taken. -/
def NameTaken (f : Fault) : Prop :=
  ∃ status message, f = .remote status (some "M_USER_IN_USE") message

/-- The calls that get the bot its account, what they come to, and the homeserver after them. The
bot registers once; only when the name is taken it logs in, once and with the same credentials. -/
inductive SignsIn (hs : Homeserver σ) (c : Credentials) (server : σ) :
    List Call → Except StartFault Auth → σ → Prop
  | registered {a : Auth} (h : (hs.register c server).1.result = .ok a) :
      SignsIn hs c server [.register c] (.ok a) (hs.register c server).2
  | refused {f : Fault} (h : (hs.register c server).1.result = .error f) (hf : ¬ NameTaken f) :
      SignsIn hs c server [.register c] (.error (.registration f)) (hs.register c server).2
  | loggedIn {f : Fault} {a : Auth} (h : (hs.register c server).1.result = .error f)
      (hf : NameTaken f) (hlogin : (hs.login c (hs.register c server).2).1.result = .ok a) :
      SignsIn hs c server [.register c, .login c] (.ok a) (hs.login c (hs.register c server).2).2
  | lockedOut {f f' : Fault} (h : (hs.register c server).1.result = .error f) (hf : NameTaken f)
      (hlogin : (hs.login c (hs.register c server).2).1.result = .error f') :
      SignsIn hs c server [.register c, .login c] (.error (.login f'))
        (hs.login c (hs.register c server).2).2

/-- The calls of a record. -/
def calls (log : List Entry) : List Call := log.map Entry.call

theorem calls_append (log more : List Entry) : calls (log ++ more) = calls log ++ calls more :=
  List.map_append

theorem errcode?_eq_userInUse (f : Fault) : f.errcode? = some userInUse ↔ NameTaken f := by
  constructor
  · intro h
    cases f with
    | remote status errcode message =>
      obtain rfl : errcode = some userInUse := h
      exact ⟨status, message, rfl⟩
    | _ => cases h
  · rintro ⟨status, message, rfl⟩
    rfl

/-- What a call leaves, by what was answered. -/
theorem of_perform {α : Type} {w v : World σ} {call : Call} {phase : Phase}
    {cursor : Option Chat.SyncToken} {answered : Answer α × σ} {result : Except Fault α}
    (h : w.perform call phase cursor answered = (result, v)) :
    answered.1.result = result ∧ v.server = answered.2 ∧ calls v.log = calls w.log ++ [call] := by
  have hresult := World.perform_result w call phase cursor answered
  have hserver := World.perform_server w call phase cursor answered
  have hlog := World.perform_log w call phase cursor answered
  rw [h] at hresult hserver hlog
  refine ⟨hresult.symm, hserver, ?_⟩
  rw [show v.log = _ from hlog, calls_append]
  rfl

theorem signsIn_establish (set : Setting σ) (c : Credentials) (w : World σ) :
    ∃ made result,
      SignsIn set.homeserver c w.server made result (establish set c w).2.server ∧
        (establish set c w).1 = result.map Session.ofAuth ∧
        calls (establish set c w).2.log = calls w.log ++ made := by
  unfold establish
  rcases hregister : w.perform (.register c) .idle none (set.homeserver.register c w.server) with
    ⟨result, v⟩
  obtain ⟨hresult, hserver, hcalls⟩ := of_perform hregister
  cases result with
  | ok a =>
    refine ⟨[.register c], .ok a, ?_, rfl, hcalls⟩
    dsimp only
    rw [hserver]
    exact .registered hresult
  | error f =>
    dsimp only
    split
    · rename_i hcode
      have hf := (errcode?_eq_userInUse f).1 hcode
      rcases hlogin : v.perform (.login c) .idle none (set.homeserver.login c v.server) with
        ⟨result, u⟩
      obtain ⟨hresult', hserver', hcalls'⟩ := of_perform hlogin
      rw [hserver] at hresult' hserver'
      rw [hcalls, List.append_assoc] at hcalls'
      cases result with
      | ok a =>
        refine ⟨[.register c, .login c], .ok a, ?_, rfl, hcalls'⟩
        dsimp only
        rw [hserver']
        exact .loggedIn hresult hf hresult'
      | error f' =>
        refine ⟨[.register c, .login c], .error (.login f'), ?_, rfl, hcalls'⟩
        dsimp only
        rw [hserver']
        exact .lockedOut hresult hf hresult'
    · rename_i hcode
      have hf : ¬ NameTaken f := fun hf => hcode ((errcode?_eq_userInUse f).2 hf)
      refine ⟨[.register c], .error (.registration f), ?_, rfl, hcalls⟩
      dsimp only
      rw [hserver]
      exact .refused hresult hf

/-! ## The demo room -/

/-- The word of welcome. -/
def welcome : String :=
  "🤖 Hello! I'm your Demo AI Assistant Bot!\n\nType !help to see available commands, " ++
    "or just chat with me naturally!"

theorem welcomeMessage_eq : welcomeMessage = welcome := by decide

/-- The calls that open the demo room, the room that was created, if any, and whether the word of
welcome was taken. -/
inductive Opens (hs : Homeserver σ) (settings : Settings) (token : AccessToken) (server : σ) :
    List Call → Option RoomId → Bool → Prop
  | unwanted (h : settings.createDemoRoom = false) : Opens hs settings token server [] none false
  | refused {f : Fault} (h : settings.createDemoRoom = true)
      (hcreate :
        (hs.createRoom token settings.demoRoomName settings.demoRoomTopic server).1.result =
          .error f) :
      Opens hs settings token server
        [.createRoom token settings.demoRoomName settings.demoRoomTopic] none false
  | opened {room : RoomId} (h : settings.createDemoRoom = true)
      (hcreate :
        (hs.createRoom token settings.demoRoomName settings.demoRoomTopic server).1.result =
          .ok room) :
      Opens hs settings token server
        [.createRoom token settings.demoRoomName settings.demoRoomTopic,
          .sendText token room welcome]
        (some room)
        (hs.sendText token room welcome
          (hs.createRoom token settings.demoRoomName settings.demoRoomTopic server).2).1.result.isOk

/-- The state of a bot that has created the room, if any, and has done nothing else. -/
structure JustOpened (settings : Settings) (room : Option RoomId) (welcomed : Bool)
    (state : BotState) : Prop where
  /-- The table holds the room under its configured name, and no other one. -/
  rooms : state.rooms.rows.map (fun row => (row.1, row.2.name)) =
    room.toList.map (·, some settings.demoRoomName)
  counters : state.counters = ⟨if welcomed then 1 else 0, 0, if room.isSome then 1 else 0⟩

theorem justOpened_fresh (settings : Settings) (startedAt : Int) :
    JustOpened settings none false (.fresh startedAt) := ⟨rfl, rfl⟩

theorem justOpened_room (settings : Settings) (startedAt : Int) (room : RoomId)
    (now : State.Moment) (welcomed : Bool) :
    JustOpened settings (some room) welcomed
      (((BotState.fresh startedAt).noteRoom room (some settings.demoRoomName) now).afterSend
        welcomed) := by
  cases welcomed with
  | true => exact ⟨rfl, rfl⟩
  | false => exact ⟨rfl, rfl⟩

theorem opens_openDemoRoom (set : Setting σ) (settings : Settings) (s : Scene σ) {startedAt : Int}
    (hfresh : s.bot.state = .fresh startedAt) :
    ∃ made room welcomed,
      Opens set.homeserver settings s.bot.session.accessToken s.world.server made room welcomed ∧
        calls (openDemoRoom set settings s).world.log = calls s.world.log ++ made ∧
        (openDemoRoom set settings s).bot =
          { s.bot with state := (openDemoRoom set settings s).bot.state } ∧
        JustOpened settings room welcomed (openDemoRoom set settings s).bot.state := by
  have hopened := justOpened_fresh settings startedAt
  rw [← hfresh] at hopened
  unfold openDemoRoom
  by_cases hwanted : settings.createDemoRoom = true
  · rw [if_pos hwanted, welcomeMessage_eq]
    unfold createDemoRoom
    dsimp only
    rcases hcreate : s.world.perform _ _ _ _ with ⟨result, w⟩
    obtain ⟨hresult, hserver, hcalls⟩ := of_perform hcreate
    cases result with
    | error f => exact ⟨_, _, _, .refused hwanted hresult, hcalls, rfl, hopened⟩
    | ok room =>
      refine ⟨_, _, _, .opened hwanted hresult, ?_, ?_, ?_⟩
      · dsimp only
        rw [Scene.send_log, calls_append]
        dsimp only [Scene.noteRoom, Scene.withState]
        rw [hcalls, List.append_assoc]
        rfl
      · dsimp only
        rw [Scene.send_bot]
        rfl
      · dsimp only
        rw [Scene.send_bot]
        dsimp only [Scene.takes, Scene.noteRoom, Scene.withState]
        rw [hserver, hfresh]
        exact justOpened_room settings startedAt room _ _
  · rw [if_neg hwanted]
    have hunwanted : settings.createDemoRoom = false := by simpa using hwanted
    exact ⟨_, _, _, .unwanted hunwanted, (List.append_nil _).symm, rfl, hopened⟩

/-! ## The law of the start -/

/-- The same homeserver, but for what it says to a name that is to be set. -/
def withNameResults (hs : Homeserver σ)
    (results : AccessToken → UserId → String → σ → Except Fault Unit) : Homeserver σ :=
  { hs with
    setDisplayName := fun token user name server =>
      let (answer, after) := hs.setDisplayName token user name server
      ({ answer with result := results token user name server }, after) }

/-- A bot that can get no account: it ends with the fault that it met, and makes no call after
it. -/
structure Barred (set : Setting σ) (settings : Settings) (draws : Draws) (w : World σ)
    (account : List Call) (f : StartFault) (server : σ) : Prop where
  signsIn : SignsIn set.homeserver ⟨settings.username, settings.password⟩ w.server account
    (.error f) server
  result : (start set settings draws w).1 = .error f
  made : calls (start set settings draws w).2.log = calls w.log ++ account

/-- A bot that gets its account: it sets its name once and opens the demo room, with the token of
the account, and has started. -/
structure Started (set : Setting σ) (settings : Settings) (draws : Draws) (w : World σ)
    (account opening : List Call) (a : Auth) (server : σ) (room : Option RoomId) (welcomed : Bool)
    (s : Scene σ) : Prop where
  signsIn : SignsIn set.homeserver ⟨settings.username, settings.password⟩ w.server account
    (.ok a) server
  opens : Opens set.homeserver settings a.accessToken
    (set.homeserver.setDisplayName a.accessToken a.userId settings.displayName server).2
    opening room welcomed
  result : start set settings draws w = (.ok s, s.world)
  made : calls s.world.log = calls w.log ++ account ++
    .setDisplayName a.accessToken a.userId settings.displayName :: opening
  bot : s.bot =
    { timings := settings.timings
      session := ⟨a.userId, a.accessToken, a.deviceId, none⟩
      state := s.bot.state
      draws
      phase := .idle }
  state : JustOpened settings room welcomed s.bot.state

/-- However its calls are answered, the bot makes these calls at its start and no others, and is
kept from starting only when it can get no account. What the homeserver says to its name does not
matter. -/
theorem only_its_account_can_stop_a_start (set : Setting σ) (settings : Settings) (draws : Draws)
    (w : World σ) :
    ((∃ account f server, Barred set settings draws w account f server) ∨
        ∃ account opening a server room welcomed s,
          Started set settings draws w account opening a server room welcomed s) ∧
      ∀ results,
        start { set with homeserver := withNameResults set.homeserver results } settings draws w =
          start set settings draws w := by
  refine ⟨?_, fun results => rfl⟩
  obtain ⟨account, result, haccount, hresult, hcalls⟩ :=
    signsIn_establish set (credentials settings) w
  rcases hestablish : establish set (credentials settings) w with ⟨signed, v⟩
  rw [hestablish] at haccount hresult hcalls
  obtain rfl : signed = result.map Session.ofAuth := hresult
  cases result with
  | error f =>
    have hstart : start set settings draws w = (.error f, v) := by
      unfold start
      rw [hestablish]
      rfl
    exact .inl ⟨account, f, v.server, haccount, hstart ▸ rfl, hstart ▸ hcalls⟩
  | ok a =>
    right
    -- the name is set, and whatever comes of that the bot goes on
    let named := setupProfile set (.ofAuth a) settings.displayName v
    let s : Scene σ := ⟨newBot set settings (.ofAuth a) draws named.now, named⟩
    obtain ⟨-, hserver, hnamed⟩ : _ ∧ named.server = _ ∧ calls named.log = _ := of_perform rfl
    obtain ⟨opening, room, welcomed, hopens, hopened, hbot, hstate⟩ :=
      opens_openDemoRoom set settings s rfl
    refine ⟨account, opening, a, v.server, room, welcomed, openDemoRoom set settings s, haccount,
      hserver ▸ hopens, ?_, ?_, hbot, hstate⟩
    · unfold start
      rw [hestablish]
      rfl
    · rw [hopened, hnamed, hcalls, List.append_assoc]
      rfl

end ChatBot.Loop
