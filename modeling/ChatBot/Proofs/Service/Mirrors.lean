-- Homeservers that the bot cannot tell apart: to the same calls they give the same
-- answers in the same time, but for events that the bot ignores.
import ChatBot.Proofs.Chat.Ignored
import ChatBot.Proofs.Service.Waiting
import ChatBot.Service.Script

namespace ChatBot.Service

open Chat (UserId RoomId AccessToken SyncToken Event Batch)

variable {σ τ α : Type}

/-! ## Answers -/

/-- What two polls are answered: the same fault, or batches that are the same but for ignored
events. -/
inductive SameNews (own : UserId) : Except Fault Batch → Except Fault Batch → Prop
  | fault (f : Fault) : SameNews own (.error f) (.error f)
  | batch {b b' : Batch} (h : b.Edited own b') : SameNews own (.ok b) (.ok b')

theorem SameNews.refl (own : UserId) (result : Except Fault Batch) :
    SameNews own result result := by
  cases result with
  | error f => exact .fault f
  | ok b => exact .batch (.refl own b)

/-- Two answers that take the same time and bring the request to stop both or neither, and the
homeservers that they leave. -/
structure SameAnswer (same : Except Fault α → Except Fault α → Prop) (pair : σ → τ → Prop)
    (x : Answer α × σ) (y : Answer α × τ) : Prop where
  result : same x.1.result y.1.result
  delay : y.1.delay = x.1.delay
  stops : y.1.stops = x.1.stops
  server : pair x.2 y.2

/-- Two homeservers whose states stay a pair, whatever is called. -/
structure Mirrors (own : UserId) (pair : σ → τ → Prop) (hs : Homeserver σ) (hs' : Homeserver τ) :
    Prop where
  register : ∀ c {s t}, pair s t → SameAnswer Eq pair (hs.register c s) (hs'.register c t)
  login : ∀ c {s t}, pair s t → SameAnswer Eq pair (hs.login c s) (hs'.login c t)
  setDisplayName : ∀ token user name {s t}, pair s t →
    SameAnswer Eq pair (hs.setDisplayName token user name s) (hs'.setDisplayName token user name t)
  createRoom : ∀ token name topic {s t}, pair s t →
    SameAnswer Eq pair (hs.createRoom token name topic s) (hs'.createRoom token name topic t)
  sendText : ∀ token room body {s t}, pair s t →
    SameAnswer Eq pair (hs.sendText token room body s) (hs'.sendText token room body t)
  sync : ∀ token poll {s t}, pair s t →
    SameAnswer (SameNews own) pair (hs.sync token poll s) (hs'.sync token poll t)

/-! ## Worlds -/

/-- Two worlds at the same time and with the same record of calls. -/
structure World.Beside (pair : σ → τ → Prop) (w : World σ) (v : World τ) : Prop where
  server : pair w.server v.server
  now : v.now = w.now
  stop : v.stop = w.stop
  log : v.log = w.log

namespace World.Beside

variable {pair : σ → τ → Prop} {w : World σ} {v : World τ}

theorem sleep (h : w.Beside pair v) (delay : Nat) :
    (w.sleep delay).Beside pair (v.sleep delay) := by
  unfold World.sleep alarmBy
  rw [h.stop, h.now]
  split
  · exact h
  · exact ⟨h.server, rfl, rfl, h.log⟩

theorem pause (h : w.Beside pair v) (delay : Nat) :
    (w.pause delay).Beside pair (v.pause delay) := by
  unfold World.pause
  rw [h.stop, h.now]
  split
  · exact h
  · split
    · split
      · exact ⟨h.server, rfl, rfl, h.log⟩
      · exact ⟨h.server, rfl, rfl, h.log⟩
    · exact ⟨h.server, rfl, rfl, h.log⟩

theorem perform (h : w.Beside pair v) {same : Except Fault α → Except Fault α → Prop}
    {x : Answer α × σ} {y : Answer α × τ} (hxy : SameAnswer same pair x y) (call : Call)
    (phase : Phase) (cursor : Option SyncToken) :
    same (w.perform call phase cursor x).1 (v.perform call phase cursor y).1 ∧
      (w.perform call phase cursor x).2.Beside pair (v.perform call phase cursor y).2 := by
  have hbegan : (w.began call phase cursor x).Beside pair (v.began call phase cursor y) := by
    constructor
    · exact hxy.server
    · exact h.now
    · dsimp only [began]
      rw [h.stop, hxy.stops]
    · dsimp only [began]
      rw [h.log, h.now]
  refine ⟨hxy.result, ?_⟩
  rw [perform_eq, perform_eq, hxy.delay]
  exact hbegan.sleep _

end World.Beside

/-! ## Scripts -/

/-- The same script but for the batches that it hands out, which are the same but for ignored
events. -/
inductive Script.Edited (own : UserId) (server : Script) : Script → Prop
  | polls {answers : List (Except Fault Batch × Nat)}
      (h : List.Forall₂ (fun x y => SameNews own x.1 y.1 ∧ y.2 = x.2) server.sync answers) :
      Edited own server { server with sync := answers }

namespace Script

theorem countDown_with_sync (kind : CallKind) (server : Script)
    (answers : List (Except Fault Batch × Nat)) :
    ({ server with sync := answers } : Script).countDown kind =
      ((server.countDown kind).1, { (server.countDown kind).2 with sync := answers }) := by
  unfold countDown
  dsimp only
  split
  · split
    · rfl
    · rfl
  · rfl

theorem Edited.countDown {own : UserId} {server server' : Script} (h : server.Edited own server')
    (kind : CallKind) : ∃ stops s t, server.countDown kind = (stops, s) ∧
      server'.countDown kind = (stops, t) ∧ s.Edited own t := by
  obtain ⟨hsync⟩ := h
  rw [← countDown_sync kind server] at hsync
  exact ⟨_, _, _, rfl, countDown_with_sync kind server _, .polls hsync⟩

theorem mirrors_edited (own : UserId) : Mirrors own (Edited own) homeserver homeserver := by
  constructor
  case register =>
    intro c server server' h
    obtain ⟨stops, s, t, hs, ht, ⟨hsync⟩⟩ := h.countDown .register
    dsimp only [homeserver]
    rw [hs, ht]
    exact ⟨rfl, rfl, rfl, .polls hsync⟩
  case login =>
    intro c server server' h
    obtain ⟨stops, s, t, hs, ht, ⟨hsync⟩⟩ := h.countDown .login
    dsimp only [homeserver]
    rw [hs, ht]
    exact ⟨rfl, rfl, rfl, .polls hsync⟩
  case setDisplayName =>
    intro token user name server server' h
    obtain ⟨stops, s, t, hs, ht, ⟨hsync⟩⟩ := h.countDown .setDisplayName
    dsimp only [homeserver]
    rw [hs, ht]
    exact ⟨rfl, rfl, rfl, .polls hsync⟩
  case createRoom =>
    intro token name topic server server' h
    obtain ⟨stops, s, t, hs, ht, ⟨hsync⟩⟩ := h.countDown .createRoom
    dsimp only [homeserver]
    rw [hs, ht]
    exact ⟨rfl, rfl, rfl, .polls hsync⟩
  case sendText =>
    intro token room body server server' h
    obtain ⟨stops, s, t, hs, ht, ⟨hsync⟩⟩ := h.countDown .sendText
    dsimp only [homeserver]
    rw [hs, ht]
    exact ⟨rfl, rfl, rfl, .polls hsync⟩
  case sync =>
    intro token poll server server' h
    obtain ⟨stops, s, t, hs, ht, ⟨hsync⟩⟩ := h.countDown .sync
    dsimp only [homeserver]
    rw [hs, ht]
    obtain ⟨register, login, setDisplayName, createRoom, sendText, sync, stopAt⟩ := s
    cases hsync with
    | nil => exact ⟨.refl own _, rfl, rfl, .polls .nil⟩
    | cons hfirst hmore => exact ⟨hfirst.1, hfirst.2, rfl, .polls hmore⟩

end Script

/-! ## Echoes -/

/-- A text of the bot, as it comes back in the timeline of its room. -/
def echo (own : UserId) (body : String) : Event :=
  ⟨Chat.messageType, some own, none, .object [("body", .text body)]⟩

/-- A homeserver that remembers the texts it is sent, and puts all that went to a room behind the
timeline of that room in every batch. -/
def echoing (own : UserId) (hs : Homeserver σ) : Homeserver (σ × List (RoomId × String)) where
  register c s :=
    let (answer, server) := hs.register c s.1
    (answer, server, s.2)
  login c s :=
    let (answer, server) := hs.login c s.1
    (answer, server, s.2)
  setDisplayName token user name s :=
    let (answer, server) := hs.setDisplayName token user name s.1
    (answer, server, s.2)
  createRoom token name topic s :=
    let (answer, server) := hs.createRoom token name topic s.1
    (answer, server, s.2)
  sendText token room body s :=
    let (answer, server) := hs.sendText token room body s.1
    (answer, server, s.2 ++ [(room, body)])
  sync token poll s :=
    let (answer, server) := hs.sync token poll s.1
    let echoes := fun room => (s.2.filter (·.1 = room)).map (echo own ·.2)
    ({ answer with result := answer.result.map (·.withMore echoes) }, server, s.2)

theorem mirrors_echoing (own : UserId) (hs : Homeserver σ) :
    Mirrors own (fun s t => t.1 = s) hs (echoing own hs) := by
  constructor
  case register => rintro c server ⟨_, texts⟩ rfl; exact ⟨rfl, rfl, rfl, rfl⟩
  case login => rintro c server ⟨_, texts⟩ rfl; exact ⟨rfl, rfl, rfl, rfl⟩
  case setDisplayName => rintro token user name server ⟨_, texts⟩ rfl; exact ⟨rfl, rfl, rfl, rfl⟩
  case createRoom => rintro token name topic server ⟨_, texts⟩ rfl; exact ⟨rfl, rfl, rfl, rfl⟩
  case sendText => rintro token room body server ⟨_, texts⟩ rfl; exact ⟨rfl, rfl, rfl, rfl⟩
  case sync =>
    rintro token poll server ⟨_, texts⟩ rfl
    refine ⟨?_, rfl, rfl, rfl⟩
    dsimp only [echoing]
    generalize (hs.sync token poll _).1.result = result
    cases result with
    | error f => exact .fault f
    | ok b =>
      refine .batch (b.edited_withMore fun room e he => ?_)
      obtain ⟨text, -, rfl⟩ := List.mem_map.1 he
      exact .fromBot rfl

end ChatBot.Service
