-- Where a part of an expression ends, and that this leaves no choice: what is
-- spelled out has one tree.
import ChatBot.Proofs.Calc.Grammar

namespace ChatBot.Calc

/-! ## Ends -/

/-- The lexemes that go on with a phrase of a symbol when they come next. -/
def Symbol.extenders : Symbol → List Lexeme
  | .chain .sums => [.plus, .minus, .star, .slash, .caret]
  | .chain .products => [.star, .slash, .caret]
  | .signed => [.caret]
  | .power => [.caret]
  | .atom => []

/-- What is left behind a phrase does not go on with it. -/
def Ends (s : Symbol) (rest : List Lexeme) : Prop := ∀ x, rest.head? = some x → x ∉ s.extenders

/-- The symbol whose phrases end where the part ends. -/
def Part.symbol : Part → Symbol
  | .phrase s => s
  | .tail level => .chain level

variable {level : Level} {rest : List Lexeme}

theorem ends_nil (s : Symbol) : Ends s [] := by
  intro x hx
  cases hx

theorem ends_closing (s : Symbol) : Ends s (.closing :: rest) := by
  intro x hx
  cases hx
  rcases s with (_ | _) | _ | _ | _ <;> simp [Symbol.extenders]

/-- An atom ends of itself. -/
theorem ends_atom : Ends .atom rest := by
  intro x _ hmem
  cases hmem

theorem Ends.caret_ne {s : Symbol} (h : Ends s rest) (hs : s = .signed ∨ s = .power) :
    rest.head? ≠ some .caret := by
  intro hcaret
  apply h .caret hcaret
  rcases hs with rfl | rfl <;> simp [Symbol.extenders]

/-- Where a chain ends, its last operand ends. -/
theorem Ends.operand (h : Ends (.chain level) rest) : Ends level.operand rest := by
  intro x hx hmem
  apply h x hx
  cases level <;> simp_all [Symbol.extenders, Level.operand]

/-- An operand ends before an operator of its level. -/
theorem ends_operator (op : Operator level) : Ends level.operand (op.lexeme :: rest) := by
  intro x hx
  cases hx
  cases op <;> simp [Symbol.extenders, Level.operand, Operator.lexeme]

/-- A chain does not end before an operator of its level. -/
theorem not_ends_operator (op : Operator level) : ¬ Ends (.chain level) (op.lexeme :: rest) := by
  intro h
  apply h op.lexeme rfl
  cases op <;> simp [Symbol.extenders, Operator.lexeme]

/-- An operand ends before the tail of its chain. -/
theorem ends_tail (more : Tree (.tail level)) (h : Ends (.chain level) rest) :
    Ends level.operand (more.lexemes ++ rest) := by
  cases more with
  | done => exact h.operand
  | next op operand more => exact ends_operator op

/-! ## Beginnings -/

theorem Operator.lexeme_injective {op op' : Operator level} (h : op.lexeme = op'.lexeme) :
    op = op' := by
  cases op <;> cases op' <;> simp_all [Operator.lexeme]

/-- A power does not start with a sign. -/
theorem Tree.lexemes_power (p : Phrase .power) :
    ∃ x more, p.lexemes = x :: more ∧ ∀ op : Operator .sums, op.lexeme ≠ x := by
  have hatom : ∀ a : Phrase .atom,
      ∃ x more, a.lexemes = x :: more ∧ ∀ op : Operator .sums, op.lexeme ≠ x := by
    intro a
    cases a with
    | number n => exact ⟨.number n, [], rfl, by rintro (_ | _) <;> simp [Operator.lexeme]⟩
    | parenthesised e =>
      exact ⟨.opening, e.lexemes ++ [.closing], rfl, by rintro (_ | _) <;> simp [Operator.lexeme]⟩
  cases p with
  | base a => exact hatom a
  | raised a exponent =>
    obtain ⟨x, more, ha, hx⟩ := hatom a
    exact ⟨x, more ++ .caret :: exponent.lexemes, by simp [Tree.lexemes, ha], hx⟩

/-! ## One tree -/

/-- Two parts that start a row of lexemes, and end where they end, are the same part. -/
theorem Tree.eq_of_lexemes_append {k : Part} (t t' : Tree k) {rest rest' : List Lexeme}
    (h : t.lexemes ++ rest = t'.lexemes ++ rest') (hr : Ends k.symbol rest)
    (hr' : Ends k.symbol rest') : t = t' ∧ rest = rest' := by
  induction t generalizing rest rest' with
  | chain first more ihfirst ihmore =>
    cases t' with
    | chain first' more' =>
      simp only [Tree.lexemes, List.append_assoc] at h
      obtain ⟨rfl, hmore⟩ := ihfirst first' h (ends_tail more hr) (ends_tail more' hr')
      obtain ⟨rfl, hrest⟩ := ihmore more' hmore hr hr'
      exact ⟨rfl, hrest⟩
  | done =>
    cases t' with
    | done => exact ⟨rfl, h⟩
    | next op' operand' more' =>
      simp only [Tree.lexemes, List.nil_append] at h
      rw [h] at hr
      exact (not_ends_operator op' hr).elim
  | next op operand more ihoperand ihmore =>
    cases t' with
    | done =>
      simp only [Tree.lexemes, List.nil_append] at h
      rw [← h] at hr'
      exact (not_ends_operator op hr').elim
    | next op' operand' more' =>
      simp only [Tree.lexemes, List.cons_append, List.append_assoc, List.cons.injEq] at h
      obtain ⟨hop, hoperand⟩ := h
      obtain rfl := Operator.lexeme_injective hop
      obtain ⟨rfl, hmore⟩ := ihoperand operand' hoperand (ends_tail more hr) (ends_tail more' hr')
      obtain ⟨rfl, hrest⟩ := ihmore more' hmore hr hr'
      exact ⟨rfl, hrest⟩
  | sign op operand ih =>
    cases t' with
    | sign op' operand' =>
      simp only [Tree.lexemes, List.cons_append, List.cons.injEq] at h
      obtain ⟨hop, hoperand⟩ := h
      obtain rfl := Operator.lexeme_injective hop
      obtain ⟨rfl, hrest⟩ := ih operand' hoperand hr hr'
      exact ⟨rfl, hrest⟩
    | unsigned p' =>
      obtain ⟨x, more, hp, hx⟩ := p'.lexemes_power
      simp only [Tree.lexemes, hp, List.cons_append, List.cons.injEq] at h
      exact (hx op h.1).elim
  | unsigned p ih =>
    cases t' with
    | sign op' operand' =>
      obtain ⟨x, more, hp, hx⟩ := p.lexemes_power
      simp only [Tree.lexemes, hp, List.cons_append, List.cons.injEq] at h
      exact (hx op' h.1.symm).elim
    | unsigned p' =>
      obtain ⟨rfl, hrest⟩ := ih p' h hr hr'
      exact ⟨rfl, hrest⟩
  | base a ih =>
    cases t' with
    | base a' =>
      obtain ⟨rfl, hrest⟩ := ih a' h ends_atom ends_atom
      exact ⟨rfl, hrest⟩
    | raised a' exponent' =>
      simp only [Tree.lexemes, List.append_assoc] at h
      obtain ⟨-, hcaret⟩ := ih a' h ends_atom ends_atom
      rw [hcaret] at hr
      exact (hr.caret_ne (Or.inr rfl) rfl).elim
  | raised a exponent iha ihexponent =>
    cases t' with
    | base a' =>
      simp only [Tree.lexemes, List.append_assoc] at h
      obtain ⟨-, hcaret⟩ := iha a' h ends_atom ends_atom
      rw [← hcaret] at hr'
      exact (hr'.caret_ne (Or.inr rfl) rfl).elim
    | raised a' exponent' =>
      simp only [Tree.lexemes, List.append_assoc, List.cons_append] at h
      obtain ⟨rfl, hexponent⟩ := iha a' h ends_atom ends_atom
      obtain ⟨rfl, hrest⟩ := ihexponent exponent' (List.cons.inj hexponent).2 hr hr'
      exact ⟨rfl, hrest⟩
  | number n =>
    cases t' with
    | number n' =>
      simp only [Tree.lexemes, List.cons_append, List.nil_append, List.cons.injEq,
        Lexeme.number.injEq] at h
      obtain ⟨rfl, hrest⟩ := h
      exact ⟨rfl, hrest⟩
    | parenthesised e' =>
      simp only [Tree.lexemes, List.cons_append, List.cons.injEq, reduceCtorEq, false_and] at h
  | parenthesised e ih =>
    cases t' with
    | number n' =>
      simp only [Tree.lexemes, List.cons_append, List.cons.injEq, reduceCtorEq, false_and] at h
    | parenthesised e' =>
      simp only [Tree.lexemes, List.cons_append, List.append_assoc, List.nil_append,
        List.cons.injEq, true_and] at h
      obtain ⟨rfl, hclosing⟩ := ih e' h (ends_closing _) (ends_closing _)
      exact ⟨rfl, (List.cons.inj hclosing).2⟩

/-- What is spelled the same is derived the same. -/
theorem Tree.lexemes_injective {k : Part} {t t' : Tree k} (h : t.lexemes = t'.lexemes) :
    t = t' := by
  have happend : t.lexemes ++ [] = t'.lexemes ++ [] := by rw [h]
  exact (t.eq_of_lexemes_append t' happend (ends_nil _) (ends_nil _)).1

end ChatBot.Calc
