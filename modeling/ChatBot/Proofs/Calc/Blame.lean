-- What is to blame when a part of an expression cannot be read. The tokens before the
-- blamed place begin the part, and with that place they no longer do, or no longer
-- within the levels that are left.
import ChatBot.Proofs.Calc.Prefixes

namespace ChatBot.Calc

variable {α : Type} {A : Arithmetic α} {limit : Nat} {ts : List Token} {e : Failure}

/-- The lexemes of tokens. -/
abbrev spelled (ts : List Token) : List Lexeme := ts.map Token.lexeme

/-! ## Blame -/

/-- Why a part of an expression cannot be read, if fewer than `limit` levels may be opened. -/
inductive Blame (A : Arithmetic α) (limit : Nat) (k : Part) (ts : List Token) : Failure → Prop
  /-- A token with which the part cannot go on. -/
  | unexpected {before after : List Token} {t : Token} (h : ts = before ++ t :: after)
      (hopens : Opens k (spelled before))
      (hblocks : ∀ more, Blocks k (spelled (before ++ [t]) ++ more)) :
      Blame A limit k ts (.unexpected t.lexeme.glyph t.offset)
  /-- All tokens begin the part, and do not end it. -/
  | unexpectedEnd (hopens : Opens k (spelled ts)) (hblocks : Blocks k (spelled ts)) :
      Blame A limit k ts .unexpectedEnd
  /-- A divisor that is zero, read to its end. -/
  | divisionByZero {before rest : List Lexeme} {divisor : Phrase .signed} {v : α}
      (h : spelled ts = before ++ .slash :: (divisor.lexemes ++ rest))
      (hopens : Opens k (before ++ .slash :: divisor.lexemes)) (hends : Ends .signed rest)
      (hvalue : divisor.value A = some v) (hzero : A.isZero v = true) :
      Blame A limit k ts .divisionByZero
  /-- No level may be opened at all. -/
  | noRoom (h : limit = 0) : Blame A limit k ts .tooDeep
  /-- Tokens with which the part can only go on too deep. -/
  | tooDeep {before after : List Token} (h : ts = before ++ after) (hne : before ≠ [])
      (hopens : Opens k (spelled before))
      (hdeep : ∀ more, Needs k (spelled before ++ more) limit) : Blame A limit k ts .tooDeep

/-- A row has the head of what it starts with. -/
theorem head?_spelled_append {before : List Token} (hne : before ≠ []) (after : List Token)
    (more : List Lexeme) :
    (spelled before ++ more).head? = (spelled (before ++ after)).head? := by
  obtain ⟨t, few, rfl⟩ := List.exists_cons_of_ne_nil hne
  rfl

theorem Needs.weaken {k : Part} {row : List Lexeme} {depth less : Nat} (h : Needs k row depth)
    (hless : less ≤ depth) : Needs k row less :=
  fun t rest hrow hends => Nat.le_trans hless (h t rest hrow hends)

theorem Inside.blocks {may : List Lexeme → Prop} {front row : List Lexeme} {levels : Nat}
    {inner outer : Part} (hin : Inside may front levels inner outer) (hmay : may row)
    (h : Blocks inner row) : Blocks outer (front ++ row) :=
  fun depth => (hin.needs hmay (h depth)).weaken (Nat.le_add_right _ _)

/-- What is to blame for an inner part is to blame for the part that it begins in. -/
theorem Blame.inside {inner outer : Part} {may : List Lexeme → Prop} {front : List Token}
    {levels : Nat} (hin : Inside may (spelled front) levels inner outer)
    (hmay : ∀ row, row.head? = (spelled ts).head? → may row)
    (hlevels : levels = 0 ∨ front ≠ [] ∧ ∀ row, may row) (h : Blame A limit inner ts e) :
    Blame A (limit + levels) outer (front ++ ts) e := by
  cases h with
  | @unexpected before after t h hopens hblocks =>
    have hts : front ++ ts = (front ++ before) ++ t :: after := by rw [h, List.append_assoc]
    have hfront : spelled (front ++ before) = spelled front ++ spelled before := List.map_append
    refine .unexpected hts ?_ fun more => ?_
    · rw [hfront]
      exact hin.opens hopens
    · have hhead : (spelled (before ++ [t]) ++ more).head? = (spelled ts).head? := by
        rw [h, List.append_cons before t after]
        exact head?_spelled_append (List.append_ne_nil_of_right_ne_nil _ (List.cons_ne_nil _ _)) _ _
      have hrow : spelled (front ++ before ++ [t]) ++ more =
          spelled front ++ (spelled (before ++ [t]) ++ more) := by
        simp only [spelled, List.map_append, List.append_assoc]
      rw [hrow]
      exact hin.blocks (hmay _ hhead) (hblocks more)
  | unexpectedEnd hopens hblocks =>
    have hfront : spelled (front ++ ts) = spelled front ++ spelled ts := List.map_append
    refine .unexpectedEnd ?_ ?_
    · rw [hfront]
      exact hin.opens hopens
    · rw [hfront]
      exact hin.blocks (hmay _ rfl) hblocks
  | @divisionByZero before rest divisor v h hopens hends hvalue hzero =>
    have hrow : spelled (front ++ ts) =
        (spelled front ++ before) ++ .slash :: (divisor.lexemes ++ rest) := by
      rw [spelled, List.map_append, ← spelled, ← spelled, h, List.append_assoc]
    refine .divisionByZero hrow ?_ hends hvalue hzero
    rw [List.append_assoc]
    exact hin.opens hopens
  | noRoom h =>
    subst h
    rcases hlevels with rfl | ⟨hne, hmay⟩
    · exact .noRoom rfl
    · -- the lexemes in front open the levels that are not there
      have hopens : Opens outer (spelled front ++ []) := hin.opens (opens_nil inner)
      rw [List.append_nil] at hopens
      refine .tooDeep rfl hne hopens fun more => ?_
      exact hin.needs (hmay more) fun _ _ _ _ => Nat.zero_le _
  | @tooDeep before after h hne hopens hdeep =>
    have hts : front ++ ts = (front ++ before) ++ after := by rw [h, List.append_assoc]
    have hfront : spelled (front ++ before) = spelled front ++ spelled before := List.map_append
    refine .tooDeep hts (List.append_ne_nil_of_right_ne_nil _ hne) ?_ fun more => ?_
    · rw [hfront]
      exact hin.opens hopens
    · have hhead : (spelled before ++ more).head? = (spelled ts).head? := by
        rw [h]
        exact head?_spelled_append hne after more
      rw [hfront, List.append_assoc]
      exact hin.needs (hmay _ hhead) (hdeep more)

/-- The inner part may begin right where the outer one does. -/
theorem Blame.at_front {inner outer : Part} {may : List Lexeme → Prop}
    (hin : Inside may [] 0 inner outer)
    (hmay : ∀ row, row.head? = (spelled ts).head? → may row) (h : Blame A limit inner ts e) :
    Blame A limit outer ts e := by
  have hnil : Inside may (spelled []) 0 inner outer := hin
  exact h.inside hnil hmay (.inl rfl)

/-- What is misplaced is to blame, if what stands before it begins a part, and no more with
anything at its place. -/
theorem blame_misplaced {k : Part} {before rest : List Token} (hopens : Opens k (spelled before))
    (hblocks : ∀ row, row.head? = (spelled rest).head? → Blocks k (spelled before ++ row)) :
    Blame A limit k (before ++ rest) (misplaced rest) := by
  cases rest with
  | nil =>
    have hnil : Blocks k (spelled before ++ []) := hblocks [] rfl
    rw [List.append_nil] at hnil ⊢
    exact .unexpectedEnd hopens hnil
  | cons t after =>
    refine .unexpected rfl hopens fun more => ?_
    rw [spelled, List.map_append, List.append_assoc]
    exact hblocks _ rfl

end ChatBot.Calc
