-- What a failure of the calculator says about the input. It points at the first problem:
-- at the first wrong characters if there are any, and else at the first token with which
-- no expression goes on, unless a zero divisor or one level too many comes before it.
import ChatBot.Proofs.Calc.Places
import ChatBot.Proofs.Calc.Stops

namespace ChatBot.Calc

variable {α : Type} {A : Arithmetic α} {cs : List Char} {ts : List Token} {f : Failure}

/-! ## Problems -/

/-- A row that an expression is spelled with. -/
def Sentence (row : List Lexeme) : Prop := ∃ e : Expression, e.lexemes = row

/-- A row that an expression starts with. -/
def Viable (row : List Lexeme) : Prop := ∃ e : Expression, row <+: e.lexemes

/-- A character stands behind so many bytes. -/
def StandsAt (cs : List Char) (c : Char) (offset : Nat) : Prop :=
  ∃ before after, cs = before ++ c :: after ∧ offset = Text.byteLength before

/-- What is the matter with tokens, and what that is called. -/
inductive Problem (A : Arithmetic α) (cs : List Char) (ts : List Token) : Failure → Prop
  | empty (h : ts = []) : Problem A cs ts .empty
  /-- The first token with which no expression goes on, by its place and the character there. -/
  | unexpected {before after : List Token} {t : Token} {found : Char} {offset : Nat}
      (h : ts = before ++ t :: after) (hoffset : t.offset = offset)
      (hfound : StandsAt cs found offset) (hviable : Viable (spelled before))
      (hstuck : ¬ Viable (spelled (before ++ [t]))) : Problem A cs ts (.unexpected found offset)
  | unexpectedEnd (hsentence : ¬ Sentence (spelled ts)) (hviable : Viable (spelled ts)) :
      Problem A cs ts .unexpectedEnd
  /-- A divisor that is zero, read to its end. Up to there an expression goes on. -/
  | divisionByZero {before rest : List Lexeme} {divisor : Phrase .signed} {v : α}
      (h : spelled ts = before ++ .slash :: (divisor.lexemes ++ rest)) (hends : Ends .signed rest)
      (hviable : Viable (before ++ .slash :: divisor.lexemes))
      (hvalue : divisor.value A = some v) (hzero : A.isZero v = true) :
      Problem A cs ts .divisionByZero
  /-- Tokens with which an expression goes on, but only one with a 65th level. -/
  | tooDeep {before after : List Token} (h : ts = before ++ after)
      (hviable : Viable (spelled before))
      (hdeep : ∀ e : Expression, spelled before <+: e.lexemes → 65 ≤ e.nesting) :
      Problem A cs ts .tooDeep
  | nonFinite {e : Expression} {v : α} (h : e.lexemes = spelled ts)
      (hvalue : e.value A = some v) (hfinite : A.isFinite v = false) : Problem A cs ts .nonFinite

/-! ## What a reader blames is a problem -/

theorem Placed.standsAt {t : Token} (h : Placed 0 cs t) : StandsAt cs t.lexeme.glyph t.offset := by
  obtain ⟨before, after, hcs, hoffset, -⟩ := h
  obtain ⟨more, hchars⟩ := t.lexeme.chars_eq_cons
  refine ⟨before, more ++ after, ?_, ?_⟩
  · rw [hcs, hchars, List.cons_append]
  · rw [hoffset, Nat.zero_add]

theorem Opens.viable {row : List Lexeme} (h : Opens (.phrase (.chain .sums)) row) : Viable row := by
  obtain ⟨e, more, he⟩ := h
  exact ⟨e, more, he.symm⟩

theorem Blocks.not_sentence {row : List Lexeme} (h : Blocks (.phrase (.chain .sums)) row) :
    ¬ Sentence row := by
  rintro ⟨e, he⟩
  exact h.not_ends (show e.lexemes ++ [] = row by rw [List.append_nil, he]) (ends_nil _)

theorem not_viable_of_sentences {row : List Lexeme} (h : ∀ more, ¬ Sentence (row ++ more)) :
    ¬ Viable row := by
  rintro ⟨e, more, he⟩
  exact h more ⟨e, he.symm⟩

theorem Blame.problem (hplaced : ∀ t ∈ ts, Placed 0 cs t)
    (h : Blame A 65 (.phrase (.chain .sums)) ts f) : Problem A cs ts f := by
  cases h with
  | @unexpected before after t h hopens hblocks =>
    have ht : t ∈ ts := by
      rw [h]
      exact List.mem_append_right _ List.mem_cons_self
    have hstuck : ¬ Viable (spelled (before ++ [t])) :=
      not_viable_of_sentences fun more => (hblocks more).not_sentence
    exact .unexpected h rfl (hplaced t ht).standsAt hopens.viable hstuck
  | unexpectedEnd hopens hblocks => exact .unexpectedEnd hblocks.not_sentence hopens.viable
  | divisionByZero h hopens hends hvalue hzero =>
    exact .divisionByZero h hends hopens.viable hvalue hzero
  | noRoom h => cases h
  | tooDeep h hne hopens hdeep =>
    refine .tooDeep h hopens.viable ?_
    rintro e ⟨more, he⟩
    exact hdeep more e [] (by rw [List.append_nil, he]) (ends_nil _)

/-- Behind an expression that has ended, nothing goes on. -/
theorem problem_behind {e : Expression} {taken rest : List Token}
    (hplaced : ∀ t ∈ taken ++ rest, Placed 0 cs t) (htaken : spelled taken = e.lexemes)
    (hends : Ends (.chain .sums) (spelled rest)) (hne : rest ≠ []) :
    Problem A cs (taken ++ rest) (misplaced rest) := by
  obtain ⟨t, after, rfl⟩ := List.exists_cons_of_ne_nil hne
  have hplace : Placed 0 cs t := hplaced t (List.mem_append_right _ List.mem_cons_self)
  have hviable : Viable (spelled taken) := ⟨e, [], by rw [htaken, List.append_nil]⟩
  refine .unexpected rfl rfl hplace.standsAt hviable ?_
  rintro ⟨e', more, he'⟩
  have hrow : e'.lexemes ++ [] = e.lexemes ++ t.lexeme :: more := by
    rw [List.append_nil, ← he', ← htaken, spelled, List.map_append, List.append_assoc]
    rfl
  have hmore : Ends (.chain .sums) (t.lexeme :: more) := hends.of_head? rfl
  obtain ⟨-, hnil⟩ := e'.eq_of_lexemes_append e hrow (ends_nil _) hmore
  cases hnil

/-! ## The law of failures -/

/-- The ways to fail behind the scanner. -/
theorem evaluate_eq_error {input : String} (htokens : tokens input = .ok ts)
    (h : evaluate A input = .error f) :
    (ts = [] ∧ .empty = f) ∨ expression A (signed A nestingLimit) ts = .error f ∨
      ∃ r, expression A (signed A nestingLimit) ts = .ok r ∧
        ((r.rest ≠ [] ∧ misplaced r.rest = f) ∨
          (r.rest = [] ∧ A.isFinite r.value = false ∧ .nonFinite = f)) := by
  unfold evaluate at h
  by_cases hempty : ts = []
  · refine .inl ⟨hempty, ?_⟩
    simpa [htokens, bind, Except.bind, hempty, throw, throwThe, MonadExceptOf.throw] using h
  right
  cases hr : expression A (signed A nestingLimit) ts with
  | error e =>
    left
    simpa [htokens, bind, Except.bind, hempty, hr] using h
  | ok r =>
    refine .inr ⟨r, rfl, ?_⟩
    by_cases hrest : r.rest = []
    · by_cases hfinite : A.isFinite r.value = true
      · simp [htokens, bind, Except.bind, hempty, hr, hrest, hfinite, pure, Except.pure] at h
      · refine .inr ⟨hrest, Bool.not_eq_true _ ▸ hfinite, ?_⟩
        simpa [htokens, bind, Except.bind, hempty, hr, hrest, hfinite, throw, throwThe,
          MonadExceptOf.throw] using h
    · refine .inl ⟨hrest, ?_⟩
      simpa [htokens, bind, Except.bind, hempty, hr, hrest, throw, throwThe,
        MonadExceptOf.throw] using h

theorem problem_of_evaluate {input : String} (htokens : tokens input = .ok ts)
    (hplaced : ∀ t ∈ ts, Placed 0 cs t) (h : evaluate A input = .error f) : Problem A cs ts f := by
  have hstops : Stops A 65 (.chain .sums) (expression A (signed A nestingLimit)) :=
    stops_expression (stops_signed A nestingLimit) (reads_signed A nestingLimit)
  have hreads : Reads A 65 (.chain .sums) (expression A (signed A nestingLimit)) :=
    reads_expression (reads_signed A nestingLimit)
  rcases evaluate_eq_error htokens h with ⟨hempty, rfl⟩ | herror | ⟨r, hr, hbehind⟩
  · exact .empty hempty
  · exact (hstops.blame herror).problem hplaced
  · obtain ⟨e, taken, hts, htaken, hvalue⟩ := hstops.taken hreads hr
    rcases hbehind with ⟨hrest, rfl⟩ | ⟨hrest, hfinite, rfl⟩
    · have hplaced' : ∀ t ∈ taken ++ r.rest, Placed 0 cs t := by rwa [← hts]
      have hproblem : Problem A cs (taken ++ r.rest) (misplaced r.rest) :=
        problem_behind hplaced' htaken (hstops.ends hr) hrest
      rwa [← hts] at hproblem
    · have hspelled : e.lexemes = spelled ts := by
        rw [hrest, List.append_nil] at hts
        rw [← htaken, hts]
      exact .nonFinite hspelled hvalue hfinite

theorem evaluate_eq_empty {input : String} (htokens : tokens input = .ok ts)
    (hplaced : ∀ t ∈ ts, Placed 0 cs t) : evaluate A input = .error .empty ↔ ts = [] := by
  constructor
  · intro h
    cases problem_of_evaluate htokens hplaced h with
    | empty hnil => exact hnil
  · rintro rfl
    unfold evaluate
    rw [htokens]
    rfl

/-- A failure points at the first problem. If characters are wrong, it is that of the first wrong
place. Otherwise all tokens stand where they say, and it is what is the matter with them. -/
theorem a_failure_points_at_the_first_problem (A : Arithmetic α) (input : String) :
    (∃ before f, FirstFlaw 0 input.toList before f ∧ evaluate A input = .error f) ∨
      ∃ ts, tokens input = .ok ts ∧ Tokenized 0 input.toList ts ∧
        (evaluate A input = .error .empty ↔ ts = []) ∧
          ∀ f, evaluate A input = .error f → Problem A input.toList ts f := by
  have hscanned : Scanned 0 input.toList (tokens input) := scanned_scan 0 input.toList
  cases htokens : tokens input with
  | error f =>
    rw [htokens] at hscanned
    cases hscanned with
    | @error f before hflaw =>
      refine .inl ⟨before, f, hflaw, ?_⟩
      unfold evaluate
      rw [htokens]
      rfl
  | ok ts =>
    rw [htokens] at hscanned
    cases hscanned with
    | ok h =>
      exact .inr ⟨ts, rfl, h, evaluate_eq_empty htokens h.placed,
        fun f => problem_of_evaluate htokens h.placed⟩

end ChatBot.Calc
