-- The reading of expressions call by call. There is a function for each symbol of
-- the grammar. They call each other, loops go round, and a counter goes up and down
-- with the levels that are open. How long this takes is not known here: it is watched
-- for some time, and may not have come to an end by then.
import ChatBot.Proofs.Calc.Evaluation

namespace ChatBot.Calc

variable {α β γ : Type}

/-! ## What the calls share -/

/-- How far a descent is. -/
structure Descent where
  /-- The tokens that are not taken yet. -/
  left : List Token
  /-- The counter of open levels. -/
  depth : Nat
  /-- The most that the counter has ever been. -/
  highest : Nat

namespace Descent

/-- Nothing is taken, and no level is open. -/
def atFront (ts : List Token) : Descent := ⟨ts, 0, 0⟩

/-- The lexeme in front. -/
def front (d : Descent) : Option Lexeme := d.left.head?.map Token.lexeme

/-- The token in front is taken. -/
def bumped (d : Descent) : Descent := { d with left := d.left.tail }

def entered (d : Descent) : Descent :=
  { d with depth := d.depth + 1, highest := max d.highest (d.depth + 1) }

def closed (d : Descent) : Descent := { d with depth := d.depth - 1 }

end Descent

/-- Why a call does not return. -/
inductive Halt
  | failed (e : Failure)
  /-- More calls are active at once than are allowed. -/
  | crowded
  deriving DecidableEq

/-- What a call does: it returns or halts, and has changed what the calls share. -/
abbrev Descending (β : Type) : Type := ExceptT Halt (StateT Descent Option) β

/-- How it ends; `none` if it has not ended in time. -/
def outcome (x : Descending β) (d : Descent) : Option (Except Halt β × Descent) := x.run.run d

/-! ## The functions -/

def peek : Descending (Option Lexeme) := return (← get).front

def bump : Descending Unit := modify Descent.bumped

def fail (e : Failure) : Descending β := throw (.failed e)

def unexpectedHere : Descending β := do fail (misplaced (← get).left)

/-- One more level is open. It stays counted if that is one too many. -/
def enter : Descending Unit := do
  modify Descent.entered
  if nestingLimit < (← get).depth then fail .tooDeep

def leave : Descending Unit := modify Descent.closed

/-- Whether so many calls may be active at once. Without a limit, any number may. -/
def allows (most : Option Nat) (active : Nat) : Bool := most.all (active ≤ ·)

/-- Gives up if this call is one too many. -/
def arrive (most : Option Nat) (active : Nat) : Descending Unit :=
  if allows most active then return else throw .crowded

/-- Time is up. -/
def unended : Descending β := ExceptT.mk fun _ => none

mutual

/-- The function of a symbol, watched for some time. So many calls are active with this one. -/
def callWithin (A : Arithmetic α) (most : Option Nat) (time active : Nat) (s : Symbol) :
    Descending α :=
  match time with
  | 0 => unended
  | time + 1 => do
    arrive most active
    match s with
    | .chain level =>
      let first ← callWithin A most time (active + 1) level.operand
      loopWithin A most time active level first
    | .signed =>
      match ← peek with
      | some .minus =>
        bump
        enter
        let v ← callWithin A most time (active + 1) .signed
        leave
        return A.neg v
      | some .plus =>
        bump
        enter
        let v ← callWithin A most time (active + 1) .signed
        leave
        return v
      | _ => callWithin A most time (active + 1) .power
    | .power =>
      let base ← callWithin A most time (active + 1) .atom
      match ← peek with
      | some .caret =>
        bump
        enter
        let exponent ← callWithin A most time (active + 1) .signed
        leave
        return A.pow base exponent
      | _ => return base
    | .atom =>
      match ← peek with
      | some (.number n) =>
        bump
        return A.ofNumeral n
      | some .opening =>
        bump
        enter
        let v ← callWithin A most time (active + 1) (.chain .sums)
        match ← peek with
        | some .closing =>
          bump
          leave
          return v
        | _ => unexpectedHere
      | _ => unexpectedHere

/-- The loop of a chain, watched for some time. It belongs to the call that runs it. -/
def loopWithin (A : Arithmetic α) (most : Option Nat) (time active : Nat) (level : Level)
    (acc : α) : Descending α :=
  match time with
  | 0 => unended
  | time + 1 => do
    match (← peek).bind (joining A level) with
    | none => return acc
    | some combine =>
      bump
      let operand ← callWithin A most time (active + 1) level.operand
      match combine acc operand with
      | .error e => fail e
      | .ok v => loopWithin A most time active level v

end

/-! ## One thing after the other -/

variable {d d' : Descent} {x : Descending β} {f : β → Descending γ}

theorem outcome_bind_of_ok {b : β} (h : outcome x d = some (.ok b, d')) :
    outcome (x >>= f) d = outcome (f b) d' := by
  simp only [outcome, ExceptT.run_bind, StateT.run_bind] at h ⊢
  rw [h]
  rfl

theorem outcome_bind_of_error {halt : Halt} (h : outcome x d = some (.error halt, d')) :
    outcome (x >>= f) d = some (.error halt, d') := by
  simp only [outcome, ExceptT.run_bind, StateT.run_bind] at h ⊢
  rw [h]
  rfl

/-- What has not ended has not been followed by anything. -/
theorem outcome_bind_of_none (h : outcome x d = none) : outcome (x >>= f) d = none := by
  simp only [outcome, ExceptT.run_bind, StateT.run_bind] at h ⊢
  rw [h]
  rfl

theorem outcome_peek (f : Option Lexeme → Descending γ) :
    outcome (peek >>= f) d = outcome (f d.front) d := rfl

theorem outcome_bump (f : Unit → Descending γ) :
    outcome (bump >>= f) d = outcome (f ()) d.bumped := rfl

/-- The counter goes up before it is looked at. -/
theorem outcome_enter_eq (d : Descent) :
    outcome enter d =
      outcome (if nestingLimit < d.entered.depth then fail .tooDeep else pure ()) d.entered :=
  rfl

theorem outcome_enter (h : d.depth < nestingLimit) :
    outcome enter d = some (.ok (), d.entered) := by
  have hroom : ¬ nestingLimit < d.entered.depth := Nat.not_lt.2 h
  rw [outcome_enter_eq, if_neg hroom]
  rfl

theorem outcome_enter_full (h : nestingLimit ≤ d.depth) :
    outcome enter d = some (.error (.failed .tooDeep), d.entered) := by
  have hfull : nestingLimit < d.entered.depth := Nat.lt_succ_of_le h
  rw [outcome_enter_eq, if_pos hfull]
  rfl

variable {most : Option Nat} {active : Nat}

theorem outcome_arrive (h : allows most active = true) (f : Unit → Descending γ) :
    outcome (arrive most active >>= f) d = outcome (f ()) d := by
  unfold arrive
  rw [if_pos h]
  rfl

theorem allows_of_le {m n : Nat} (h : allows most n = true) (hle : m ≤ n) :
    allows most m = true := by
  cases most with
  | none => rfl
  | some limit => exact decide_eq_true (Nat.le_trans hle (of_decide_eq_true h))

end ChatBot.Calc
