-- Expressions and their values. An expression is a chain of terms, a term a
-- chain of signed powers:
--
--   expression := term (('+' | '-') term)*
--   term       := signed (('*' | '/') signed)*
--   signed     := ('+' | '-') signed | power
--   power      := atom ('^' signed)?
--   atom       := number | '(' expression ')'
--
-- Signs, exponents and parentheses open a level each, and levels are counted.
-- The value is worked out while the tokens are read, so the first thing that
-- goes wrong, in reading order, is what is reported.
import ChatBot.Calc.Token
import ChatBot.Calc.Arithmetic

namespace ChatBot.Calc

variable {α : Type}

/-- Reads a value off the front of the tokens. -/
abbrev Reader (α : Type) := (ts : List Token) → Except Failure (Reading α ts)

/-- What is wrong with a place where something else should stand. -/
def misplaced : List Token → Failure
  | [] => .unexpectedEnd
  | t :: _ => .unexpected t.lexeme.glyph t.offset

/-! ## Chains -/

/-- What an operator of a chain does with the value so far and the next operand. -/
abbrev Joining (α : Type) := Lexeme → Option (α → α → Except Failure α)

def sums (A : Arithmetic α) : Joining α
  | .plus => some fun a b => .ok (A.add a b)
  | .minus => some fun a b => .ok (A.sub a b)
  | _ => none

/-- A divisor that is zero stops everything. -/
def products (A : Arithmetic α) : Joining α
  | .star => some fun a b => .ok (A.mul a b)
  | .slash => some fun a b => if A.isZero b then .error .divisionByZero else .ok (A.div a b)
  | _ => none

/-- Operators and operands, as long as they come, folded from the left onto `acc`. -/
def chainFrom (join : Joining α) (operand : Reader α) (acc : α) (ts : List Token) :
    Except Failure (Passing α ts) :=
  match ts with
  | [] => .ok ⟨acc, [], Nat.le_refl _⟩
  | t :: rest =>
    match join t.lexeme with
    | none => .ok ⟨acc, t :: rest, Nat.le_refl _⟩
    | some combine =>
      match operand rest with
      | .error e => .error e
      | .ok r =>
        match combine acc r.value with
        | .error e => .error e
        | .ok v =>
          match chainFrom join operand v r.rest with
          | .error e => .error e
          | .ok p => .ok ⟨p.value, p.rest,
              Nat.le_trans p.within (Nat.le_of_lt (Nat.lt_succ_of_lt r.shorter))⟩
termination_by ts.length
decreasing_by exact Nat.lt_succ_of_lt r.shorter

/-- An operand, and the chain that goes on from it. -/
def chain (join : Joining α) (operand : Reader α) : Reader α := fun ts =>
  match operand ts with
  | .error e => .error e
  | .ok r =>
    match chainFrom join operand r.value r.rest with
    | .error e => .error e
    | .ok p => .ok (r.andThen p)

def term (A : Arithmetic α) (signed : Reader α) : Reader α := chain (products A) signed

def expression (A : Arithmetic α) (signed : Reader α) : Reader α := chain (sums A) (term A signed)

/-! ## One level -/

/-- A number, or an expression in parentheses that is read one level deeper. -/
def atom (A : Arithmetic α) (deeper : Reader α) : Reader α
  | ⟨_, .number n⟩ :: rest => .ok ⟨A.ofNumeral n, rest, Nat.lt_succ_self _⟩
  | ⟨_, .opening⟩ :: rest =>
    match expression A deeper rest with
    | .error e => .error e
    | .ok ⟨v, ⟨_, .closing⟩ :: after, h⟩ =>
      .ok ⟨v, after, Nat.lt_succ_of_lt (Nat.lt_of_succ_lt h)⟩
    | .ok r => .error (misplaced r.rest)
  | ts => .error (misplaced ts)

/-- An atom, raised to an exponent that is read one level deeper if there is one. -/
def power (A : Arithmetic α) (deeper : Reader α) : Reader α := fun ts =>
  match atom A deeper ts with
  | .error e => .error e
  | .ok ⟨v, ⟨o, .caret⟩ :: rest, h⟩ =>
    match deeper rest with
    | .error e => .error e
    | .ok r => .ok ⟨A.pow v r.value, r.rest,
        Nat.lt_trans (Nat.lt_succ_of_lt r.shorter) (show (Token.mk o .caret :: rest).length < _ from h)⟩
  | .ok r => .ok r

/-- A power, or a sign and the signed power behind it, which is read one level deeper. -/
def signedWith (A : Arithmetic α) (deeper : Reader α) : Reader α
  | ⟨_, .minus⟩ :: rest => (deeper rest).map fun r => (r.map A.neg).after
  | ⟨_, .plus⟩ :: rest => (deeper rest).map Reading.after
  | ts => power A deeper ts

/-! ## All levels -/

/-- How many levels may be open at once. -/
def nestingLimit : Nat := 64

/-- A signed power with `room` more levels to open. Opening one more is refused before
anything inside it is looked at. -/
def signed (A : Arithmetic α) : (room : Nat) → Reader α
  | 0 => signedWith A fun _ => .error .tooDeep
  | room + 1 => signedWith A (signed A room)

/-- The value of an expression: all its tokens are one expression, and its value is finite. -/
def evaluate (A : Arithmetic α) (input : String) : Except Failure α := do
  let ts ← tokens input
  if ts = [] then throw .empty
  let r ← expression A (signed A nestingLimit) ts
  if r.rest ≠ [] then throw (misplaced r.rest)
  if A.isFinite r.value then return r.value else throw .nonFinite

end ChatBot.Calc
