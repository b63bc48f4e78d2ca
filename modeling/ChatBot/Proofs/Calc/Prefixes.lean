-- Rows of lexemes that begin a part of an expression, and rows that cannot. A part
-- begins inside another one behind some lexemes of that, perhaps a level deeper; what
-- can begin there and how deep it has to go is known from the inner part alone.
import ChatBot.Proofs.Calc.Unambiguous

namespace ChatBot.Calc

/-! ## What can begin -/

/-- A row goes on to a part. -/
def Opens (k : Part) (row : List Lexeme) : Prop :=
  ∃ (t : Tree k) (more : List Lexeme), t.lexemes = row ++ more

/-- Every part that a row begins with, and that ends there, is nested so deep at least. -/
def Needs (k : Part) (row : List Lexeme) (depth : Nat) : Prop :=
  ∀ (t : Tree k) (rest : List Lexeme), t.lexemes ++ rest = row → Ends k.symbol rest →
    depth ≤ t.nesting

/-- A row begins with no part that ends there: none could be nested deep enough. -/
def Blocks (k : Part) (row : List Lexeme) : Prop := ∀ depth, Needs k row depth

theorem Blocks.not_ends {k : Part} {row : List Lexeme} (h : Blocks k row) {t : Tree k}
    {rest : List Lexeme} (hrow : t.lexemes ++ rest = row) : ¬ Ends k.symbol rest :=
  fun hends => absurd (h (t.nesting + 1) t rest hrow hends) (Nat.not_succ_le_self _)

theorem blocks_of_not_ends {k : Part} {row : List Lexeme}
    (h : ∀ (t : Tree k) (rest : List Lexeme), t.lexemes ++ rest = row → ¬ Ends k.symbol rest) :
    Blocks k row :=
  fun _ t rest hrow hends => (h t rest hrow hends).elim

/-- The shortest number. -/
def Numeral.zero : Numeral := ⟨['0'], none, rfl, by decide⟩

theorem nonempty_tree (k : Part) : Nonempty (Tree k) := by
  have hatom : Phrase .atom := .number .zero
  have hsigned : Phrase .signed := .unsigned (.base hatom)
  have hterm : Phrase (.chain .products) := .chain hsigned .done
  cases k with
  | phrase s =>
    cases s with
    | chain level =>
      cases level with
      | sums => exact ⟨.chain hterm .done⟩
      | products => exact ⟨hterm⟩
    | signed => exact ⟨hsigned⟩
    | power => exact ⟨.base hatom⟩
    | atom => exact ⟨hatom⟩
  | tail level => exact ⟨.done⟩

theorem opens_nil (k : Part) : Opens k [] := by
  obtain ⟨t⟩ := nonempty_tree k
  exact ⟨t, t.lexemes, rfl⟩

/-! ## What begins inside something else -/

/-- Behind some lexemes of an outer part an inner one begins, so many levels deeper. What comes
there may have to be of a certain kind. -/
structure Inside (may : List Lexeme → Prop) (front : List Lexeme) (levels : Nat)
    (inner outer : Part) : Prop where
  opens : ∀ {row}, Opens inner row → Opens outer (front ++ row)
  needs : ∀ {row depth}, may row → Needs inner row depth →
    Needs outer (front ++ row) (depth + levels)

/-- Nothing has to be known of a row. -/
abbrev Anything (_ : List Lexeme) : Prop := True

variable {level : Level}

theorem inside_first (level : Level) :
    Inside Anything [] 0 (.phrase level.operand) (.phrase (.chain level)) where
  opens := by
    rintro row ⟨t, more, ht⟩
    exact ⟨.chain t .done, more, (List.append_nil _).trans ht⟩
  needs := by
    rintro row depth - h t rest hrow hends
    cases t with
    | chain first more =>
      simp only [Tree.lexemes, List.append_assoc] at hrow
      have hfirst := h first (more.lexemes ++ rest) hrow (ends_tail more hends)
      exact Nat.le_trans hfirst (Nat.le_max_left _ _)

/-- Behind the first operand of a chain, which has ended, its tail begins. -/
theorem inside_more (first : Phrase level.operand) :
    Inside (Ends level.operand) first.lexemes 0 (.tail level) (.phrase (.chain level)) where
  opens := by
    rintro row ⟨t, more, ht⟩
    refine ⟨.chain first t, more, ?_⟩
    rw [Tree.lexemes, ht, List.append_assoc]
  needs := by
    rintro row depth hmay h t rest hrow hends
    cases t with
    | chain first' more =>
      simp only [Tree.lexemes, List.append_assoc] at hrow
      obtain ⟨-, hmore⟩ := first'.eq_of_lexemes_append first hrow (ends_tail more hends) hmay
      exact Nat.le_trans (h more rest hmore hends) (Nat.le_max_right _ _)

theorem inside_operand (op : Operator level) :
    Inside Anything [op.lexeme] 0 (.phrase level.operand) (.tail level) where
  opens := by
    rintro row ⟨t, more, ht⟩
    refine ⟨.next op t .done, more, ?_⟩
    rw [Tree.lexemes, Tree.lexemes, List.append_nil, ht]
    rfl
  needs := by
    rintro row depth - h t rest hrow hends
    cases t with
    | done =>
      rw [show rest = op.lexeme :: row from hrow] at hends
      exact (not_ends_operator op hends).elim
    | next op' operand more =>
      simp only [Tree.lexemes, List.cons_append, List.nil_append, List.append_assoc,
        List.cons.injEq] at hrow
      have hoperand := h operand (more.lexemes ++ rest) hrow.2 (ends_tail more hends)
      exact Nat.le_trans hoperand (Nat.le_max_left _ _)

/-- Behind an operator and its operand, which has ended, the tail goes on. -/
theorem inside_tail (op : Operator level) (operand : Phrase level.operand) :
    Inside (Ends level.operand) (op.lexeme :: operand.lexemes) 0 (.tail level) (.tail level) where
  opens := by
    rintro row ⟨t, more, ht⟩
    refine ⟨.next op operand t, more, ?_⟩
    rw [Tree.lexemes, ht, List.cons_append, List.cons_append, List.append_assoc]
  needs := by
    rintro row depth hmay h t rest hrow hends
    cases t with
    | done =>
      rw [show rest = op.lexeme :: (operand.lexemes ++ row) from hrow] at hends
      exact (not_ends_operator op hends).elim
    | next op' operand' more =>
      simp only [Tree.lexemes, List.cons_append, List.append_assoc, List.cons.injEq] at hrow
      obtain ⟨-, hmore⟩ :=
        operand'.eq_of_lexemes_append operand hrow.2 (ends_tail more hends) hmay
      exact Nat.le_trans (h more rest hmore hends) (Nat.le_max_right _ _)

theorem inside_parentheses :
    Inside Anything [.opening] 1 (.phrase (.chain .sums)) (.phrase .atom) where
  opens := by
    rintro row ⟨t, more, ht⟩
    refine ⟨.parenthesised t, more ++ [.closing], ?_⟩
    rw [Tree.lexemes, ht, List.append_assoc]
    rfl
  needs := by
    rintro row depth - h t rest hrow hends
    cases t with
    | number n => cases (List.cons.inj hrow).1
    | parenthesised e =>
      simp only [Tree.lexemes, List.cons_append, List.append_assoc, List.nil_append,
        List.cons.injEq, true_and] at hrow
      exact Nat.succ_le_succ (h e _ hrow (ends_closing _))

theorem inside_base : Inside Anything [] 0 (.phrase .atom) (.phrase .power) where
  opens := by
    rintro row ⟨t, more, ht⟩
    exact ⟨.base t, more, ht⟩
  needs := by
    rintro row depth - h t rest hrow hends
    cases t with
    | base a => exact h a rest hrow ends_atom
    | raised a exponent =>
      simp only [Tree.lexemes, List.append_assoc] at hrow
      exact Nat.le_trans (h a _ hrow ends_atom) (Nat.le_max_left _ _)

theorem inside_exponent (a : Phrase .atom) :
    Inside Anything (a.lexemes ++ [.caret]) 1 (.phrase .signed) (.phrase .power) where
  opens := by
    rintro row ⟨t, more, ht⟩
    refine ⟨.raised a t, more, ?_⟩
    rw [Tree.lexemes, ht, List.append_assoc, List.append_assoc]
    rfl
  needs := by
    rintro row depth - h t rest hrow hends
    rw [List.append_assoc] at hrow
    cases t with
    | base a' =>
      obtain ⟨-, hcaret⟩ := a'.eq_of_lexemes_append a hrow ends_atom ends_atom
      rw [hcaret] at hends
      exact (hends.caret_ne (Or.inr rfl) rfl).elim
    | raised a' exponent =>
      simp only [Tree.lexemes, List.append_assoc, List.cons_append] at hrow
      obtain ⟨-, hexponent⟩ := a'.eq_of_lexemes_append a hrow ends_atom ends_atom
      have hdepth := h exponent rest (List.cons.inj hexponent).2 hends
      exact Nat.le_trans (Nat.succ_le_succ hdepth) (Nat.le_max_right _ _)

theorem inside_sign (op : Operator .sums) :
    Inside Anything [op.lexeme] 1 (.phrase .signed) (.phrase .signed) where
  opens := by
    rintro row ⟨t, more, ht⟩
    refine ⟨.sign op t, more, ?_⟩
    rw [Tree.lexemes, ht]
    rfl
  needs := by
    rintro row depth - h t rest hrow hends
    cases t with
    | sign op' operand =>
      exact Nat.succ_le_succ (h operand rest (List.cons.inj hrow).2 hends)
    | unsigned p =>
      obtain ⟨x, more, hp, hx⟩ := p.lexemes_power
      simp only [Tree.lexemes, hp, List.cons_append, List.cons.injEq] at hrow
      exact (hx op hrow.1.symm).elim

/-- Where no sign comes, a signed power is a power. -/
theorem inside_unsigned :
    Inside (fun row => ∀ op : Operator .sums, row.head? ≠ some op.lexeme) [] 0
      (.phrase .power) (.phrase .signed) where
  opens := by
    rintro row ⟨t, more, ht⟩
    exact ⟨.unsigned t, more, ht⟩
  needs := by
    rintro row depth hmay h t rest hrow hends
    cases t with
    | sign op operand =>
      have hhead : row.head? = some op.lexeme := by
        rw [show row = op.lexeme :: (operand.lexemes ++ rest) from hrow.symm]
        rfl
      exact (hmay op hhead).elim
    | unsigned p => exact h p rest hrow hends

end ChatBot.Calc
