-- The descent is bounded. Each call comes to what the reader of its symbol comes to:
-- so it ends, has taken a token when it returns, and leaves the counter as it was. As
-- there are no more than five calls to a level, there are never more than 5 * 65.
import ChatBot.Proofs.Calc.Descent
import ChatBot.Proofs.Calc.Stops

namespace ChatBot

/-! ## What is read and what is left -/

section Plain

variable {α τ : Type} {input : List τ}

/-- A reading without the proof that the rest is shorter. -/
def Reading.plain (r : Reading α input) : α × List τ := (r.value, r.rest)

def Passing.plain (p : Passing α input) : α × List τ := (p.value, p.rest)

/-- What is not left was taken, and that is something. -/
theorem Reading.exists_taken (r : Reading α input) (h : r.rest <:+ input) :
    ∃ taken, taken ≠ [] ∧ input = taken ++ r.rest := by
  obtain ⟨taken, htaken⟩ := h
  refine ⟨taken, ?_, htaken.symm⟩
  rintro rfl
  exact absurd r.shorter (Nat.not_lt_of_le (Nat.le_of_eq (congrArg List.length htaken.symm)))

end Plain

namespace Calc

variable {α β : Type} {A : Arithmetic α} {level : Level} {top depth highest : Nat}
  {ts rest : List Token} {t : Token} {read : Reader α} {e : Failure} {acc v : α}

/-! ## What a call comes to -/

/-- A call or a loop ends as a reading does, unless the time was not enough. The counter is where
it was, and has not been above `top`. -/
inductive Comes (enough : Prop) (top depth : Nat) :
    Except Failure (α × List Token) → Option (Except Halt α × Descent) → Prop
  | unended {final : Except Failure (α × List Token)} (h : ¬ enough) :
      Comes enough top depth final none
  | failed (e : Failure) {d : Descent} (h : d.highest ≤ top) :
      Comes enough top depth (.error e) (some (.error (.failed e), d))
  | returned (v : α) (rest : List Token) {highest : Nat} (h : highest ≤ top) :
      Comes enough top depth (.ok (v, rest)) (some (.ok v, ⟨rest, depth, highest⟩))

variable {enough : Prop}

/-- What halts, halts whatever would come next, and what returns hands over. -/
theorem Comes.bind {x : Descending α} {f : α → Descending β} {enough' : Prop} {outer : Nat}
    {d : Descent} {final : Except Failure (β × List Token)}
    (h : Comes enough' top depth ((read ts).map Reading.plain) (outcome x d))
    (henough : enough → enough') (herror : ∀ e, read ts = .error e → final = .error e)
    (hok : ∀ r highest, read ts = .ok r → highest ≤ top →
      Comes enough top outer final (outcome (f r.value) ⟨r.rest, depth, highest⟩)) :
    Comes enough top outer final (outcome (x >>= f) d) := by
  generalize hresult : outcome x d = result at h
  cases hread : read ts with
  | error e =>
    rw [hread] at h
    cases h with
    | unended hnot =>
      rw [outcome_bind_of_none hresult]
      exact .unended (mt henough hnot)
    | failed _ hhighest =>
      rw [herror e hread, outcome_bind_of_error hresult]
      exact .failed e hhighest
  | ok r =>
    rw [hread] at h
    cases h with
    | unended hnot =>
      rw [outcome_bind_of_none hresult]
      exact .unended (mt henough hnot)
    | returned _ _ hhighest =>
      rw [outcome_bind_of_ok hresult]
      exact hok r _ hread hhighest

theorem Comes.weaken {ended : Option (Except Halt α × Descent)} {enough' : Prop}
    {final : Except Failure (α × List Token)} (h : Comes enough' top depth final ended)
    (henough : enough → enough') : Comes enough top depth final ended := by
  cases h with
  | unended h => exact .unended (mt henough h)
  | failed e h => exact .failed e h
  | returned v rest h => exact .returned v rest h

/-! ## Calls and levels -/

/-- How many more calls there may be on one level below that of a symbol. -/
def Symbol.height : Symbol → Nat
  | .chain .sums => 4
  | .chain .products => 3
  | .signed => 2
  | .power => 1
  | .atom => 0

variable {most : Option Nat} {time active : Nat} {s : Symbol}

theorem height_le (s : Symbol) : s.height ≤ 4 := by
  rcases s with (_ | _) | _ | _ | _ <;> decide

/-- The function of a symbol comes to what a reader reads, if enough calls are allowed: five for
each level that is not open yet. The time is enough if it is more than these and the tokens. -/
def Agrees (A : Arithmetic α) (most : Option Nat) (top depth : Nat) (s : Symbol)
    (read : Reader α) : Prop :=
  ∀ ⦃time active highest : Nat⦄ ⦃ts : List Token⦄, highest ≤ top →
    allows most (active + 5 * (nestingLimit - depth) + s.height) = true →
      Comes (ts.length + 5 * (nestingLimit - depth) + s.height < time) top depth
        ((read ts).map Reading.plain)
          (outcome (callWithin A most time active s) ⟨ts, depth, highest⟩)

/-- With no time at all, nothing has to be shown. -/
theorem Agrees.of_succ
    (h : ∀ ⦃time active highest : Nat⦄ ⦃ts : List Token⦄, highest ≤ top →
      allows most (active + 5 * (nestingLimit - depth) + s.height) = true →
        Comes (ts.length + 5 * (nestingLimit - depth) + s.height < time + 1) top depth
          ((read ts).map Reading.plain)
            (outcome (callWithin A most (time + 1) active s) ⟨ts, depth, highest⟩)) :
    Agrees A most top depth s read := by
  intro time active highest ts hhighest hallows
  cases time with
  | zero => exact .unended (Nat.not_lt_zero _)
  | succ time => exact h hhighest hallows

/-- A reader of what is one level deeper, for which there may be no room. -/
structure AgreesInside (A : Arithmetic α) (most : Option Nat) (top depth : Nat) (s : Symbol)
    (read : Reader α) : Prop where
  room : depth < nestingLimit → Agrees A most top (depth + 1) s read
  full : nestingLimit ≤ depth → ∀ ts, read ts = .error .tooDeep

/-- A level is opened, and a call made in it. -/
theorem AgreesInside.bind {f : α → Descending β} {final : Except Failure (β × List Token)}
    (h : AgreesInside A most top depth s read) (htop : depth < top) (hhighest : highest ≤ top)
    (ts : List Token) (hallows : allows most (active + 5 * (nestingLimit - depth)) = true)
    (henough : enough → ts.length + 5 * (nestingLimit - depth) ≤ time)
    (herror : ∀ e, read ts = .error e → final = .error e)
    (hok : ∀ r highest, read ts = .ok r → highest ≤ top →
      Comes enough top depth final (outcome (f r.value) ⟨r.rest, depth + 1, highest⟩)) :
    Comes enough top depth final
      (outcome (enter >>= fun _ => callWithin A most time (active + 1) s >>= f)
        ⟨ts, depth, highest⟩) := by
  have hentered : max highest (depth + 1) ≤ top := Nat.max_le.2 ⟨hhighest, htop⟩
  by_cases hdepth : depth < nestingLimit
  · have hheight := height_le s
    have hactive : active + 1 + 5 * (nestingLimit - (depth + 1)) + s.height ≤
      active + 5 * (nestingLimit - depth) := by omega
    have hinside : enough →
        ts.length + 5 * (nestingLimit - (depth + 1)) + s.height < time := by
      intro h
      have hbefore := henough h
      omega
    rw [outcome_bind_of_ok (outcome_enter hdepth)]
    exact (h.room hdepth hentered (allows_of_le hallows hactive)).bind hinside herror hok
  · -- the counter is up, but nothing is called
    have hfull : nestingLimit ≤ depth := Nat.le_of_not_lt hdepth
    rw [outcome_bind_of_error (outcome_enter_full hfull), herror .tooDeep (h.full hfull ts)]
    exact .failed .tooDeep hentered

/-! ## Chains -/

variable {join : Joining α} {combine : α → α → Except Failure α}

theorem chainFrom_of_error (hjoin : join t.lexeme = some combine) (he : read rest = .error e) :
    chainFrom join read acc (t :: rest) = .error e := by
  rw [chainFrom]
  simp only [hjoin, he]

theorem chainFrom_of_refused {r : Reading α rest} (hjoin : join t.lexeme = some combine)
    (hr : read rest = .ok r) (he : combine acc r.value = .error e) :
    chainFrom join read acc (t :: rest) = .error e := by
  rw [chainFrom]
  simp only [hjoin, hr, he]

theorem chainFrom_of_joined {r : Reading α rest} (hjoin : join t.lexeme = some combine)
    (hr : read rest = .ok r) (hv : combine acc r.value = .ok v) :
    (chainFrom join read acc (t :: rest)).map Passing.plain =
      (chainFrom join read v r.rest).map Passing.plain := by
  rw [chainFrom]
  simp only [hjoin, hr, hv]
  cases chainFrom join read v r.rest <;> rfl

/-- The loop of a chain comes to the rest of the chain. Each round of it takes an operator. -/
theorem comes_loop (hread : Agrees A most top depth level.operand read)
    (hhighest : highest ≤ top)
    (hallows : allows most
      (active + 1 + 5 * (nestingLimit - depth) + level.operand.height) = true)
    (acc : α) (ts : List Token) :
    Comes (ts.length + 5 * (nestingLimit - depth) + level.operand.height < time) top depth
      ((chainFrom (joining A level) read acc ts).map Passing.plain)
        (outcome (loopWithin A most time active level acc) ⟨ts, depth, highest⟩) := by
  -- on the time: the next round has one less, and two tokens less at least
  induction time generalizing ts acc highest with
  | zero => exact .unended (Nat.not_lt_zero _)
  | succ time ih =>
    rw [loopWithin, outcome_peek]
    cases ts with
    | nil =>
      rw [chainFrom]
      exact .returned acc [] hhighest
    | cons t rest =>
      dsimp only [Descent.front, List.head?_cons, Option.map_some, Option.bind_some]
      cases hjoin : joining A level t.lexeme with
      | none =>
        rw [chainFrom, hjoin]
        exact .returned acc (t :: rest) hhighest
      | some combine =>
        dsimp only
        rw [outcome_bump]
        dsimp only [Descent.bumped, List.tail_cons, List.length_cons]
        refine (hread hhighest hallows).bind (fun _ => by omega) (fun e he => ?_)
          fun r highest' hr hhighest' => ?_
        · rw [chainFrom_of_error hjoin he]
          rfl
        · cases hv : combine acc r.value with
          | error e =>
            rw [chainFrom_of_refused hjoin hr hv]
            exact .failed e hhighest'
          | ok v =>
            have hshorter := r.shorter
            rw [chainFrom_of_joined hjoin hr hv]
            exact (ih hhighest' v r.rest).weaken fun _ => by omega

theorem height_operand (level : Level) :
    level.operand.height + 1 = (Symbol.chain level).height := by
  cases level <;> rfl

theorem agrees_chain (hread : Agrees A most top depth level.operand read) :
    Agrees A most top depth (.chain level) (chain (joining A level) read) := by
  refine .of_succ fun time active highest ts hhighest hallows => ?_
  have hheight := height_operand level
  have hoperand : allows most
      (active + 1 + 5 * (nestingLimit - depth) + level.operand.height) = true :=
    allows_of_le hallows (by omega)
  rw [callWithin, outcome_arrive (allows_of_le hallows (by omega))]
  refine (hread hhighest hoperand).bind (fun _ => by omega) (fun e he => ?_)
    fun r highest' hr hhighest' => ?_
  · simp only [chain, he, Except.map]
  · have hshorter := r.shorter
    have hchain : (chain (joining A level) read ts).map Reading.plain =
        (chainFrom (joining A level) read r.value r.rest).map Passing.plain := by
      simp only [chain, hr]
      cases chainFrom (joining A level) read r.value r.rest <;> rfl
    rw [hchain]
    exact (comes_loop hread hhighest' hoperand r.value r.rest).weaken fun _ => by omega

/-- An expression is a chain of chains. -/
theorem agrees_expression (hread : Agrees A most top depth .signed read) :
    Agrees A most top depth (.chain .sums) (expression A read) := by
  have hterm : Agrees A most top depth (.chain .products) (term A read) := agrees_chain hread
  exact agrees_chain hterm

/-! ## Constructs -/

variable {deeper : Reader α}

theorem agrees_atom (hinside : AgreesInside A most top depth (.chain .sums) (expression A deeper))
    (htop : depth < top) : Agrees A most top depth .atom (atom A deeper) := by
  refine .of_succ fun time active highest ts hhighest hallows => ?_
  rw [callWithin, outcome_arrive (allows_of_le hallows (by omega)), outcome_peek]
  cases ts with
  | nil => exact .failed .unexpectedEnd hhighest
  | cons t rest =>
    obtain ⟨offset, x⟩ := t
    cases x with
    | number n => exact .returned (A.ofNumeral n) rest hhighest
    | opening =>
      refine hinside.bind htop hhighest rest hallows
        (fun h => by rw [List.length_cons] at h; omega) (fun e he => ?_)
        fun r highest' hr hhighest' => ?_
      · simp only [atom, he, Except.map]
      · obtain ⟨v, left, hshorter⟩ := r
        cases left with
        | nil =>
          simp only [atom, hr]
          exact .failed _ hhighest'
        | cons t after =>
          obtain ⟨offset', x⟩ := t
          cases x with
          | closing =>
            -- only here does the counter come down again
            simp only [atom, hr]
            exact .returned v after hhighest'
          | _ =>
            simp only [atom, hr]
            exact .failed _ hhighest'
    | _ => exact .failed _ hhighest

theorem agrees_power (hatom : Agrees A most top depth .atom (atom A deeper))
    (hinside : AgreesInside A most top depth .signed deeper)
    (htop : depth < top) : Agrees A most top depth .power (power A deeper) := by
  refine .of_succ fun time active highest ts hhighest hallows => ?_
  rw [Symbol.height] at hallows ⊢
  have hbase : allows most (active + 1 + 5 * (nestingLimit - depth) + Symbol.atom.height) = true :=
    allows_of_le hallows (by rw [Symbol.height]; omega)
  rw [callWithin, outcome_arrive (allows_of_le hallows (by omega))]
  refine (hatom hhighest hbase).bind (fun _ => by rw [Symbol.height]; omega) (fun e he => ?_)
    fun r highest' hr hhighest' => ?_
  · simp only [power, he, Except.map]
  · obtain ⟨v, left, hshorter⟩ := r
    rw [outcome_peek]
    cases left with
    | nil =>
      simp only [power, hr]
      exact .returned v [] hhighest'
    | cons t rest =>
      obtain ⟨offset, x⟩ := t
      cases x with
      | caret =>
        have hexponent : allows most (active + 5 * (nestingLimit - depth)) = true :=
          allows_of_le hallows (by omega)
        rw [List.length_cons] at hshorter
        refine hinside.bind htop hhighest' rest hexponent (fun _ => by omega)
          (fun e he => ?_) fun r highest'' hr' hhighest'' => ?_
        · simp only [power, hr, he, Except.map]
        · simp only [power, hr, hr']
          exact .returned (A.pow v r.value) r.rest hhighest''
      | _ =>
        simp only [power, hr]
        exact .returned v _ hhighest'

theorem agrees_signedWith (hpower : Agrees A most top depth .power (power A deeper))
    (hinside : AgreesInside A most top depth .signed deeper)
    (htop : depth < top) : Agrees A most top depth .signed (signedWith A deeper) := by
  refine .of_succ fun time active highest ts hhighest hallows => ?_
  rw [Symbol.height] at hallows ⊢
  have hmore : allows most (active + 1 + 5 * (nestingLimit - depth) + Symbol.power.height) = true :=
    allows_of_le hallows (by rw [Symbol.height]; omega)
  have hsign : allows most (active + 5 * (nestingLimit - depth)) = true :=
    allows_of_le hallows (by omega)
  -- with no sign in front, the power that is called is read
  have hunsigned : ∀ ts : List Token,
      Comes (ts.length + 5 * (nestingLimit - depth) + 2 < time + 1) top depth
        ((power A deeper ts).map Reading.plain)
          (outcome (callWithin A most time (active + 1) .power) ⟨ts, depth, highest⟩) :=
    fun ts => (hpower hhighest hmore).weaken fun _ => by rw [Symbol.height]; omega
  rw [callWithin, outcome_arrive (allows_of_le hallows (by omega)), outcome_peek]
  cases ts with
  | nil => exact hunsigned []
  | cons t rest =>
    obtain ⟨offset, x⟩ := t
    cases x with
    | plus =>
      refine hinside.bind htop hhighest rest hsign
        (fun h => by rw [List.length_cons] at h; omega) (fun e he => ?_)
        fun r highest' hr hhighest' => ?_
      · simp only [signedWith, he, Except.map]
      · simp only [signedWith, hr, Except.map]
        exact .returned r.value r.rest hhighest'
    | minus =>
      refine hinside.bind htop hhighest rest hsign
        (fun h => by rw [List.length_cons] at h; omega) (fun e he => ?_)
        fun r highest' hr hhighest' => ?_
      · simp only [signedWith, he, Except.map]
      · simp only [signedWith, hr, Except.map]
        exact .returned (A.neg r.value) r.rest hhighest'
    | _ => exact hunsigned _

/-! ## All levels -/

/-- What is read one level deeper, if so many more may be opened. -/
def deeperWith (A : Arithmetic α) : (room : Nat) → Reader α
  | 0 => fun _ => .error .tooDeep
  | room + 1 => signed A room

theorem signed_eq (A : Arithmetic α) (room : Nat) :
    signed A room = signedWith A (deeperWith A room) := by
  cases room <;> rfl

/-- The reader of a symbol, if so many more levels may be opened. -/
def readerOf (A : Arithmetic α) (room : Nat) : Symbol → Reader α
  | .chain .sums => expression A (signed A room)
  | .chain .products => term A (signed A room)
  | .signed => signed A room
  | .power => power A (deeperWith A room)
  | .atom => atom A (deeperWith A room)

theorem AgreesInside.expression (h : AgreesInside A most top depth .signed deeper) :
    AgreesInside A most top depth (.chain .sums) (expression A deeper) where
  room hdepth := agrees_expression (h.room hdepth)
  full hdepth ts := by simp only [Calc.expression, term, chain, h.full hdepth]

/-- What agrees on the level that is open, if it does on the next one. -/
theorem AgreesInside.agrees (h : AgreesInside A most top depth .signed deeper)
    (htop : depth < top) :
    Agrees A most top depth .atom (atom A deeper) ∧
      Agrees A most top depth .power (power A deeper) ∧
        Agrees A most top depth .signed (signedWith A deeper) := by
  have hatom := agrees_atom h.expression htop
  have hpower := agrees_power hatom h htop
  exact ⟨hatom, hpower, agrees_signedWith hpower h htop⟩

/-- By induction on the levels that may be opened. -/
theorem agreesInside_deeperWith (hlimit : nestingLimit < top) {room : Nat}
    (hroom : nestingLimit - depth = room) :
    AgreesInside A most top depth .signed (deeperWith A room) := by
  induction room generalizing depth with
  | zero => exact ⟨fun hdepth => by omega, fun _ _ => rfl⟩
  | succ room ih =>
    refine ⟨fun hdepth => ?_, fun hfull => by omega⟩
    have hdeeper : AgreesInside A most top (depth + 1) .signed (deeperWith A room) := ih (by omega)
    rw [deeperWith, signed_eq]
    exact (hdeeper.agrees (Nat.lt_of_le_of_lt hdepth hlimit)).2.2

theorem agrees_readerOf (A : Arithmetic α) (most : Option Nat) (hlimit : nestingLimit < top)
    (htop : depth < top) (s : Symbol) :
    Agrees A most top depth s (readerOf A (nestingLimit - depth) s) := by
  have hinside : AgreesInside A most top depth .signed (deeperWith A (nestingLimit - depth)) :=
    agreesInside_deeperWith hlimit rfl
  obtain ⟨hatom, hpower, hsigned⟩ := hinside.agrees htop
  rw [← signed_eq] at hsigned
  cases s with
  | chain level =>
    cases level with
    | sums => exact agrees_expression hsigned
    | products => exact agrees_chain hsigned
  | signed => exact hsigned
  | power => exact hpower
  | atom => exact hatom

/-- What readers leave is the end of what they read. -/
theorem suffix_readerOf {room : Nat} {r : Reading α ts} (hr : readerOf A room s ts = .ok r) :
    r.rest <:+ ts := by
  have hreads := reads_signed A room
  have hstops := stops_signed A room
  have hinner : ∃ limit, Stops A limit .signed (deeperWith A room) ∧
      Reads A limit .signed (deeperWith A room) := by
    cases room with
    | zero => exact ⟨0, stops_nothing, reads_nothing⟩
    | succ room => exact ⟨room + 1, stops_signed A room, reads_signed A room⟩
  obtain ⟨limit, hstopsInner, hreadsInner⟩ := hinner
  cases s with
  | chain level =>
    cases level with
    | sums => exact (stops_expression hstops hreads).suffix hr
    | products =>
      have hterm : Stops A (room + 1) (.chain .products) (term A (Calc.signed A room)) :=
        stops_chain hstops hreads
      exact hterm.suffix hr
  | signed => exact hstops.suffix hr
  | power => exact (stops_power hstopsInner hreadsInner).suffix hr
  | atom => exact (stops_atom hstopsInner hreadsInner).suffix hr

/-! ## The law of the descent -/

/-- What is handed over: a value and the tokens that are left, or why there is none. -/
def handedOver (ended : Option (Except Halt α × Descent)) :
    Option (Except Halt (α × List Token)) :=
  ended.map fun (answer, d) => answer.map fun v => (v, d.left)

section Ended

variable {ended : Option (Except Halt α × Descent)} {final : Except Failure (α × List Token)}

theorem Comes.exists_ended (h : Comes enough top depth final ended) (henough : enough) :
    ∃ answer d, ended = some (answer, d) ∧ d.highest ≤ top ∧
      handedOver ended = some (final.mapError .failed) := by
  cases h with
  | unended h => exact absurd henough h
  | failed e h => exact ⟨_, _, rfl, h, rfl⟩
  | returned v rest h => exact ⟨_, _, rfl, h, rfl⟩

theorem Comes.isSome (h : Comes enough top depth final ended) (henough : enough) :
    ended.isSome = true := by
  obtain ⟨answer, d, hended, -⟩ := h.exists_ended henough
  rw [hended]
  rfl

theorem Comes.of_returned {d : Descent} (h : Comes enough top depth final (some (.ok v, d))) :
    final = .ok (v, d.left) ∧ d.depth = depth := by
  cases h
  exact ⟨rfl, rfl⟩

end Ended

/-- Wherever a call or a loop starts, some value of the counter is high enough. -/
theorem exists_top (d : Descent) : ∃ top, nestingLimit < top ∧ d.depth < top ∧ d.highest ≤ top :=
  ⟨nestingLimit + d.depth + d.highest + 1, by omega, by omega, by omega⟩

/-- Five calls for each of 65 levels, and the tokens on top, are time enough for everything. -/
theorem time_enough (s : Symbol) (d : Descent) (more : Nat) :
    d.left.length + 5 * (nestingLimit - d.depth) + s.height < d.left.length + 5 * 65 + more := by
  have hheight := height_le s
  have hlimit : nestingLimit = 64 := rfl
  omega

theorem comes_call (A : Arithmetic α) (time active : Nat) (s : Symbol) (d : Descent) :
    ∃ top, Comes (d.left.length + 5 * (nestingLimit - d.depth) + s.height < time) top d.depth
      ((readerOf A (nestingLimit - d.depth) s d.left).map Reading.plain)
        (outcome (callWithin A none time active s) d) := by
  obtain ⟨top, hlimit, hdepth, hhighest⟩ := exists_top d
  exact ⟨top, agrees_readerOf A none hlimit hdepth s hhighest rfl⟩

/-- A descent through some tokens: it starts with no level open and one call active. -/
def descend (A : Arithmetic α) (most : Option Nat) (time : Nat) (ts : List Token) :
    Option (Except Halt α × Descent) :=
  outcome (callWithin A most time 1 (.chain .sums)) (.atFront ts)

/-- Never more than 65 levels are needed, and five calls on each. -/
theorem comes_descend (A : Arithmetic α) (most : Option Nat)
    (hmost : allows most (5 * 65) = true) (time : Nat) (ts : List Token) :
    Comes (ts.length + 5 * 65 ≤ time) 65 0
      ((expression A (signed A nestingLimit) ts).map Reading.plain) (descend A most time ts) := by
  have hagrees : Agrees A most 65 0 (.chain .sums) (readerOf A nestingLimit (.chain .sums)) :=
    agrees_readerOf A most (by decide) (by decide) (.chain .sums)
  exact (hagrees (Nat.zero_le 65) hmost).weaken id

/-- A call that returns has taken a token and left the counter as it was, whatever it started
from. In a descent the counter never passes 65, and one that gives up as soon as more than
5 * 65 calls are active does not give up, and comes to the same: to what is read. All calls and
loops come to an end. -/
theorem a_descent_stays_within_its_bounds (A : Arithmetic α) :
    (∀ (time active : Nat) (s : Symbol) (d d' : Descent) (v : α),
      outcome (callWithin A none time active s) d = some (.ok v, d') →
        (∃ taken, taken ≠ [] ∧ d.left = taken ++ d'.left) ∧ d'.depth = d.depth) ∧
    (∀ (ts : List Token) (more : Nat),
      let time := ts.length + 5 * 65 + more
      let found := (expression A (signed A nestingLimit) ts).map Reading.plain
      (∃ answer d, descend A none time ts = some (answer, d) ∧ d.highest ≤ 65) ∧
        handedOver (descend A none time ts) = some (found.mapError .failed) ∧
        handedOver (descend A (some (5 * 65)) time ts) = some (found.mapError .failed)) ∧
    (∀ (active : Nat) (d : Descent) (more : Nat),
      let time := d.left.length + 5 * 65 + more
      (∀ s, (outcome (callWithin A none time active s) d).isSome = true) ∧
        ∀ level acc, (outcome (loopWithin A none time active level acc) d).isSome = true) := by
  refine ⟨?_, fun ts more => ?_, fun active d more => ⟨fun s => ?_, fun level acc => ?_⟩⟩
  · intro time active s d d' v hreturned
    obtain ⟨top, hcall⟩ := comes_call A time active s d
    rw [hreturned] at hcall
    obtain ⟨hfound, hdepth⟩ := hcall.of_returned
    obtain ⟨r, hr, hplain⟩ := ok_of_map hfound
    have hrest : r.rest = d'.left := congrArg Prod.snd hplain
    rw [← hrest]
    exact ⟨r.exists_taken (suffix_readerOf hr), hdepth⟩
  · have henough : ts.length + 5 * 65 ≤ ts.length + 5 * 65 + more := Nat.le_add_right _ _
    obtain ⟨answer, d, hended, hhighest, hover⟩ :=
      (comes_descend A none rfl _ ts).exists_ended henough
    obtain ⟨-, -, -, -, hover'⟩ :=
      (comes_descend A (some (5 * 65)) rfl _ ts).exists_ended henough
    exact ⟨⟨answer, d, hended, hhighest⟩, hover, hover'⟩
  · obtain ⟨top, hcall⟩ := comes_call A (d.left.length + 5 * 65 + more) active s d
    exact hcall.isSome (time_enough s d more)
  · obtain ⟨top, hlimit, hdepth, hhighest⟩ := exists_top d
    have hoperand := agrees_readerOf A none hlimit hdepth level.operand
    exact (comes_loop hoperand hhighest rfl acc d.left).isSome (time_enough level.operand d more)

/-- A minus and a parenthesis open the last two levels. -/
theorem a_sign_at_the_last_but_two_levels_comes_back :
    let minus : List Token := [⟨0, .minus⟩, ⟨1, .opening⟩, ⟨2, .number .zero⟩, ⟨3, .closing⟩]
    let d : Descent := ⟨minus ++ [⟨4, .plus⟩], 62, 62⟩
    let d' : Descent := ⟨[⟨4, .plus⟩], 62, 64⟩
    let v := Arithmetic.double.neg (Numeral.toFloat .zero)
    outcome (callWithin .double none 18 3 .signed) d = some (.ok v, d') ∧
      (∃ taken, taken ≠ [] ∧ d.left = taken ++ d'.left) ∧ d'.depth = d.depth := by
  intro minus d d' v
  have hreturned : outcome (callWithin .double none 18 3 .signed) d = some (.ok v, d') := rfl
  exact ⟨hreturned, (a_descent_stays_within_its_bounds .double).1 18 3 .signed d d' v hreturned⟩

end Calc

end ChatBot
