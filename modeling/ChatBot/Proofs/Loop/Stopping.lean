-- Runs that are asked to stop. A run goes on in whole rounds until the request has
-- come, and looks for it before each of them: all that it has done then is what so
-- many rounds do without any request.
import ChatBot.Proofs.Loop.Schedule
import ChatBot.Proofs.Loop.Turns
import ChatBot.Proofs.Service.Waiting

namespace ChatBot.Loop

open Chat (Batch Routed RoomId)
open Service (World Entry Call)

variable {σ : Type} {set : Setting σ}

namespace Scene

/-! ## Rounds are waits and calls -/

theorem later_send (s : Scene σ) (room : RoomId) (body : String) :
    World.Later s.world (s.send set room body).2.world := by
  rw [send_world]
  exact .perform .refl _ _ _ _

theorem later_compose (s : Scene σ) (m : Routed) :
    World.Later s.world (s.compose set m).2.world := by
  cases m with
  | command c => exact .refl
  | freeText t => exact .sleep .refl _

theorem later_answer (s : Scene σ) (m : Routed) : World.Later s.world (s.answer set m).world :=
  (later_compose s m).trans (later_send _ _ _)

theorem later_foldl_answer (s : Scene σ) (ms : List Routed) :
    World.Later s.world (ms.foldl (answer set) s).world := by
  induction ms generalizing s with
  | nil => exact .refl
  | cons m more ih => exact (later_answer s m).trans (ih (s.answer set m))

theorem later_sync (s : Scene σ) : World.Later s.world (s.sync set).2.world :=
  .perform .refl _ _ _ _

theorem later_poll (set : Setting σ) (s : Scene σ) : World.Later s.world (s.poll set).2.world := by
  cases h : (s.sync set).1 with
  | ok b =>
    rw [poll_eq_foldl h]
    exact (later_sync s).trans (later_foldl_answer (s.met set b) _)
  | error f =>
    rw [poll_of_error h]
    exact later_sync s

/-! ## Rounds that nothing disturbs -/

/-- A round and the whole pause after it, whatever is requested. -/
def fullRound (set : Setting σ) (s : Scene σ) : Scene σ :=
  let (outcome, s) := s.poll set
  { s with world := s.world.sleep (s.restTime outcome) }

@[simp] theorem fullRound_server (set : Setting σ) (s : Scene σ) :
    (s.fullRound set).world.server = (s.poll set).2.world.server := World.sleep_server _ _

@[simp] theorem fullRound_log (set : Setting σ) (s : Scene σ) :
    (s.fullRound set).world.log = (s.poll set).2.world.log := World.sleep_log _ _

/-- So many rounds, whatever is requested. -/
def undisturbed (set : Setting σ) : (rounds : Nat) → Scene σ → Scene σ
  | 0, s => s
  | rounds + 1, s => undisturbed set rounds (s.fullRound set)

theorem undisturbed_succ (rounds : Nat) (s : Scene σ) :
    s.undisturbed set (rounds + 1) = (s.undisturbed set rounds).fullRound set := by
  induction rounds generalizing s with
  | zero => rfl
  | succ rounds ih => exact ih (s.fullRound set)

theorem later_fullRound (set : Setting σ) (s : Scene σ) :
    World.Later s.world (s.fullRound set).world :=
  (later_poll set s).sleep _

theorem later_of_more_rounds (set : Setting σ) (s : Scene σ) {few many : Nat} (h : few ≤ many) :
    World.Later (s.undisturbed set few).world (s.undisturbed set many).world := by
  induction h with
  | refl => exact .refl
  | step _ ih =>
    rw [undisturbed_succ]
    exact ih.trans (later_fullRound set _)

theorem later_undisturbed (set : Setting σ) (s : Scene σ) (rounds : Nat) :
    World.Later s.world (s.undisturbed set rounds).world :=
  later_of_more_rounds set s (Nat.zero_le rounds)

/-- A round after which nothing is requested has had its whole pause. -/
theorem round_eq_fullRound {s : Scene σ} (h : (s.round set).world.stop.requested = false) :
    s.round set = s.fullRound set := by
  have hpause := World.pause_eq_sleep h
  unfold round fullRound
  exact congrArg (fun world => { (s.poll set).2 with world }) hpause

theorem requested_round (s : Scene σ) :
    (s.round set).world.stop.requested = (s.fullRound set).world.stop.requested :=
  World.requested_pause_eq _ _

/-! ## Runs are made of whole rounds -/

/-- A run that has made so many rounds, none of them after the request. Only the last pause may
have been cut short. -/
structure MadeRounds (set : Setting σ) (s t : Scene σ) (rounds : Nat) : Prop where
  unasked : ∀ k < rounds, (s.undisturbed set k).world.stop.requested = false
  asked : t.world.stop.requested = (s.undisturbed set rounds).world.stop.requested
  none : rounds = 0 → t = s
  last : ∀ k, rounds = k + 1 → t = (s.undisturbed set k).round set

namespace MadeRounds

variable {s t : Scene σ} {rounds : Nat}

/-- Cut short or not, the last pause touches nothing but the time. -/
theorem same (h : MadeRounds set s t rounds) :
    t.bot = (s.undisturbed set rounds).bot ∧
      t.world.server = (s.undisturbed set rounds).world.server ∧
      t.world.log = (s.undisturbed set rounds).world.log := by
  cases rounds with
  | zero =>
    rw [h.none rfl]
    exact ⟨rfl, rfl, rfl⟩
  | succ k =>
    rw [h.last k rfl, undisturbed_succ]
    refine ⟨rfl, ?_, ?_⟩
    · exact (World.pause_server _ _).trans (World.sleep_server _ _).symm
    · exact (World.pause_log _ _).trans (World.sleep_log _ _).symm

theorem zero (s : Scene σ) : MadeRounds set s s 0 := by
  refine ⟨?_, rfl, fun _ => rfl, ?_⟩
  · intro k hk
    cases hk
  · intro k hk
    cases hk

theorem one {s : Scene σ} (hs : s.world.stop.requested = false) :
    MadeRounds set s (s.round set) 1 := by
  refine ⟨?_, requested_round s, ?_, ?_⟩
  · intro k hk
    obtain rfl := Nat.lt_one_iff.1 hk
    exact hs
  · intro hzero
    cases hzero
  · intro k hk
    cases hk
    rfl

theorem cons {s t : Scene σ} (hs : s.world.stop.requested = false)
    (hround : (s.round set).world.stop.requested = false)
    (h : MadeRounds set (s.round set) t rounds) : MadeRounds set s t (rounds + 1) := by
  rw [round_eq_fullRound hround] at h
  constructor
  · intro k hk
    cases k with
    | zero => exact hs
    | succ k => exact h.unasked k (Nat.lt_of_succ_lt_succ hk)
  · exact h.asked
  · intro hzero
    cases hzero
  · intro k hk
    cases hk
    cases rounds with
    | zero => rw [h.none rfl, ← round_eq_fullRound hround]; rfl
    | succ k => exact h.last k rfl

end MadeRounds

theorem runFor_of_requested {s : Scene σ} (h : s.world.stop.requested = true) (limit : Nat) :
    s.runFor set limit = s := by
  cases limit with
  | zero => rfl
  | succ limit => exact if_pos h

/-- A run makes whole rounds until the request has come, or until it is seen. -/
theorem exists_madeRounds (set : Setting σ) (limit : Nat) (s : Scene σ) :
    ∃ rounds ≤ limit, MadeRounds set s (s.runFor set limit) rounds ∧
      ((s.runFor set limit).world.stop.requested = true ∨ rounds = limit) := by
  induction limit generalizing s with
  | zero => exact ⟨0, Nat.le_refl 0, .zero s, .inr rfl⟩
  | succ limit ih =>
    cases hs : s.world.stop.requested with
    | true =>
      rw [runFor_of_requested hs]
      exact ⟨0, Nat.zero_le _, .zero s, .inl hs⟩
    | false =>
      have hrun : s.runFor set (limit + 1) = (s.round set).runFor set limit := if_neg (by simp [hs])
      rw [hrun]
      cases hround : (s.round set).world.stop.requested with
      | true =>
        rw [runFor_of_requested hround]
        exact ⟨1, Nat.succ_le_succ (Nat.zero_le _), .one hs, .inl hround⟩
      | false =>
        obtain ⟨rounds, hle, hmade, hend⟩ := ih (s.round set)
        refine ⟨rounds + 1, Nat.succ_le_succ hle, .cons hs hround hmade, ?_⟩
        rcases hend with hend | hend
        · exact .inl hend
        · exact .inr (congrArg (· + 1) hend)

/-- A run makes all rounds before which nothing is requested. -/
theorem madeRounds_of_unasked {s : Scene σ} {rounds : Nat}
    (h : ∀ k < rounds, (s.undisturbed set k).world.stop.requested = false) :
    MadeRounds set s (s.runFor set rounds) rounds := by
  obtain ⟨made, hle, hmade, hend⟩ := exists_madeRounds set rounds s
  rcases Nat.lt_or_eq_of_le hle with hlt | rfl
  · rcases hend with hasked | rfl
    · rw [hmade.asked, h made hlt] at hasked
      cases hasked
    · exact absurd hlt (Nat.lt_irrefl _)
  · exact hmade

/-- A run that has come to its end was asked to. -/
theorem requested_of_runWithin {rounds : Nat} {s t : Scene σ}
    (h : s.runWithin set rounds = some t) : t.world.stop.requested = true := by
  induction rounds generalizing s with
  | zero =>
    unfold runWithin at h
    split at h
    · cases h
      assumption
    · cases h
  | succ rounds ih =>
    unfold runWithin at h
    split at h
    · cases h
      assumption
    · exact ih h

/-! ## How a run ends -/

/-- A run that was ended by a request, after so many rounds. -/
structure Stopped (set : Setting σ) (s t : Scene σ) (rounds : Nat) : Prop where
  /-- The run goes on until the request has come. -/
  asked : t.world.stop.requested = true
  /-- No round, and so no poll, begins after the request. -/
  unasked : ∀ k < rounds, (s.undisturbed set k).world.stop.requested = false
  /-- Nor does one begin when the alarm has gone off, unless no time has passed at all. -/
  early : ∀ alarm, s.world.stop.alarm = some alarm → ∀ k < rounds,
    (s.undisturbed set k).world.now < alarm ∨ (s.undisturbed set k).world.now = s.world.now
  /-- The last round, too, was made as a whole. -/
  bot : t.bot = (s.undisturbed set rounds).bot
  server : t.world.server = (s.undisturbed set rounds).world.server
  log : t.world.log = (s.undisturbed set rounds).world.log
  /-- A request before the start ends the run there and then, and nothing else does. -/
  at_once : s.world.stop.requested = true → t = s
  none : rounds = 0 → s.world.stop.requested = true
  /-- A request in a round ends the run with that round, without a pause. One in the pause after
  it ends the run when the alarm goes off, or at the start if it has gone off by then. A pause that
  takes no time is none. -/
  on_time : ∀ k, rounds = k + 1 →
    let made := (s.undisturbed set k).poll set
    (made.2.world.stop.requested = true ∧ t.world.now = made.2.world.now) ∨
      ∃ alarm, made.2.world.stop.requested = false ∧ s.world.stop.alarm = some alarm ∧
        made.2.restTime made.1 ≠ 0 ∧ alarm ≤ made.2.world.now + made.2.restTime made.1 ∧
        t.world.now = max s.world.now alarm

theorem MadeRounds.stopped {s t : Scene σ} {rounds : Nat} (h : MadeRounds set s t rounds)
    (ht : t.world.stop.requested = true) : Stopped set s t rounds := by
  obtain ⟨hbot, hserver, hlog⟩ := h.same
  refine ⟨ht, h.unasked, ?_, hbot, hserver, hlog, ?_, ?_, ?_⟩
  · intro alarm halarm k hk
    have hlater := later_undisturbed set s k
    exact hlater.early s.world.early_now (h.unasked k hk) alarm (hlater.alarm.trans halarm)
  · intro hs
    cases rounds with
    | zero => exact h.none rfl
    | succ k =>
      have hfirst : s.world.stop.requested = false := h.unasked 0 (Nat.succ_pos k)
      rw [hs] at hfirst
      cases hfirst
  · intro hzero
    rw [← h.none hzero]
    exact ht
  · intro k hk
    dsimp only
    have hlast := h.last k hk
    subst hlast
    have hlater := (later_undisturbed set s k).trans (later_poll set (s.undisturbed set k))
    cases hover : ((s.undisturbed set k).poll set).2.world.stop.requested with
    | true => exact .inl ⟨rfl, congrArg World.now (if_pos (.inr hover))⟩
    | false =>
      obtain ⟨alarm, halarm, hrest, hby, hnow⟩ := World.pause_cut hover ht
      have hearly := hlater.early s.world.early_now hover alarm halarm
      have hstart : s.world.now ≤ ((s.undisturbed set k).poll set).2.world.now := hlater.now
      refine .inr ⟨alarm, rfl, hlater.alarm.symm.trans halarm, hrest, hby, hnow.trans ?_⟩
      omega

end Scene

end ChatBot.Loop
