-- The trees of the grammar of expressions. A tree says how it is spelled, how deep
-- its constructs stand inside each other, and what it is worth. No two trees are
-- spelled the same.
import ChatBot.Calc.Evaluation

namespace ChatBot.Calc

/-! ## Symbols -/

/-- The two levels of operators that stand between operands. -/
inductive Level
  | sums
  | products

/-- The operators of each level. Those of sums are the signs, too. -/
inductive Operator : Level → Type
  | plus : Operator .sums
  | minus : Operator .sums
  | star : Operator .products
  | slash : Operator .products

/-- The symbols of the grammar. An expression is a chain of sums, a term a chain of products. -/
inductive Symbol
  | chain (level : Level)
  | signed
  | power
  | atom

/-- What the operators of a level stand between. -/
def Level.operand : Level → Symbol
  | .sums => .chain .products
  | .products => .signed

/-- A part of an expression: a phrase of one symbol, or what comes behind the first operand of
a chain. -/
inductive Part
  | phrase (s : Symbol)
  | tail (level : Level)

/-! ## Trees -/

/-- A derivation of a part. An expression and a term are an operand and a tail, and a tail is as
many operators, each with an operand behind it, as there are. -/
inductive Tree : Part → Type
  | chain {level : Level} (first : Tree (.phrase level.operand)) (more : Tree (.tail level)) :
      Tree (.phrase (.chain level))
  | done {level : Level} : Tree (.tail level)
  | next {level : Level} (op : Operator level) (operand : Tree (.phrase level.operand))
      (more : Tree (.tail level)) : Tree (.tail level)
  | sign (op : Operator .sums) (operand : Tree (.phrase .signed)) : Tree (.phrase .signed)
  | unsigned (p : Tree (.phrase .power)) : Tree (.phrase .signed)
  | base (a : Tree (.phrase .atom)) : Tree (.phrase .power)
  | raised (a : Tree (.phrase .atom)) (exponent : Tree (.phrase .signed)) : Tree (.phrase .power)
  | number (n : Numeral) : Tree (.phrase .atom)
  | parenthesised (e : Tree (.phrase (.chain .sums))) : Tree (.phrase .atom)

/-- A derivation of a phrase. -/
abbrev Phrase (s : Symbol) : Type := Tree (.phrase s)

abbrev Expression : Type := Phrase (.chain .sums)

def Operator.lexeme {level : Level} : Operator level → Lexeme
  | .plus => .plus
  | .minus => .minus
  | .star => .star
  | .slash => .slash

/-- The lexemes that a tree is spelled with. -/
def Tree.lexemes {k : Part} : Tree k → List Lexeme
  | .chain first more => first.lexemes ++ more.lexemes
  | .done => []
  | .next op operand more => op.lexeme :: (operand.lexemes ++ more.lexemes)
  | .sign op operand => op.lexeme :: operand.lexemes
  | .unsigned p => p.lexemes
  | .base a => a.lexemes
  | .raised a exponent => a.lexemes ++ .caret :: exponent.lexemes
  | .number n => [.number n]
  | .parenthesised e => .opening :: (e.lexemes ++ [.closing])

/-- How many constructs stand inside each other at the deepest place: signs around operands,
carets around exponents, parentheses around expressions. -/
def Tree.nesting {k : Part} : Tree k → Nat
  | .chain first more => max first.nesting more.nesting
  | .done => 0
  | .next _ operand more => max operand.nesting more.nesting
  | .sign _ operand => operand.nesting + 1
  | .unsigned p => p.nesting
  | .base a => a.nesting
  | .raised a exponent => max a.nesting (exponent.nesting + 1)
  | .number _ => 0
  | .parenthesised e => e.nesting + 1

/-! ## Values -/

variable {α : Type}

/-- What an operator makes of its operands; nothing if it divides by zero. -/
def Operator.apply (A : Arithmetic α) {level : Level} (op : Operator level) (a b : α) : Option α :=
  match op with
  | .plus => some (A.add a b)
  | .minus => some (A.sub a b)
  | .star => some (A.mul a b)
  | .slash => if A.isZero b then none else some (A.div a b)

/-- What a sign makes of its operand. -/
def Operator.signed (A : Arithmetic α) (op : Operator .sums) (a : α) : α :=
  match op with
  | .plus => a
  | .minus => A.neg a

/-- A phrase has a value, if nothing is divided by zero in it. The tail of a chain goes on from
the value of all that stands before it. -/
abbrev Part.Meaning (α : Type) : Part → Type
  | .phrase _ => Option α
  | .tail _ => α → Option α

/-- What a tree is worth. -/
def Tree.value (A : Arithmetic α) {k : Part} : Tree k → k.Meaning α
  | .chain first more => Option.bind (first.value A) (more.value A)
  | .done => some
  | .next op operand more => fun before =>
    Option.bind (operand.value A) fun b => Option.bind (op.apply A before b) (more.value A)
  | .sign op operand => Option.map (op.signed A) (operand.value A)
  | .unsigned p => p.value A
  | .base a => a.value A
  | .raised a exponent =>
    Option.bind (a.value A) fun b => Option.map (A.pow b) (exponent.value A)
  | .number n => some (A.ofNumeral n)
  | .parenthesised e => e.value A

end ChatBot.Calc
