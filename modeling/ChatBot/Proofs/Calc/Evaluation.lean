-- What the readers of expressions read. Each reads the phrases of one symbol, up to
-- some nesting: it takes what is spelled there, and gives what that is worth. So the
-- value of an expression is that of its only tree.
import ChatBot.Proofs.Calc.Unambiguous

namespace ChatBot.Calc

variable {α : Type} {A : Arithmetic α} {limit : Nat} {level : Level}

/-! ## What it is to read a symbol -/

/-- A reader that reads the phrases of a symbol which are nested less than `limit` deep. -/
structure Reads (A : Arithmetic α) (limit : Nat) (s : Symbol) (read : Reader α) : Prop where
  /-- What is read is a phrase, and its value. -/
  sound : ∀ {ts : List Token} {r : Reading α ts}, read ts = .ok r → ∃ t : Phrase s,
    ts.map Token.lexeme = t.lexemes ++ r.rest.map Token.lexeme ∧ t.nesting < limit ∧
      t.value A = some r.value
  /-- A phrase that has a value is read to its end. -/
  complete : ∀ (t : Phrase s) {ts : List Token} {rest : List Lexeme} {v : α},
    ts.map Token.lexeme = t.lexemes ++ rest → Ends s rest → t.nesting < limit →
      t.value A = some v → ∃ r, read ts = .ok r ∧ r.value = v ∧ r.rest.map Token.lexeme = rest

/-- The lexeme in front belongs to the token in front. -/
theorem token_of_lexemes {ts : List Token} {x : Lexeme} {more : List Lexeme}
    (h : ts.map Token.lexeme = x :: more) :
    ∃ offset after, ts = ⟨offset, x⟩ :: after ∧ after.map Token.lexeme = more := by
  obtain ⟨⟨offset, _⟩, after, rfl, rfl, rfl⟩ := List.map_eq_cons_iff.1 h
  exact ⟨offset, after, rfl, rfl⟩

/-! ## Chains -/

/-- What is done with the operators of a level. -/
def joining (A : Arithmetic α) : Level → Joining α
  | .sums => sums A
  | .products => products A

theorem joining_operator (A : Arithmetic α) (op : Operator level) :
    joining A level op.lexeme =
      some fun a b => (op.apply A a b).elim (.error .divisionByZero) .ok := by
  cases op with
  | plus => rfl
  | minus => rfl
  | star => rfl
  | slash =>
    refine congrArg some ?_
    funext a b
    by_cases hzero : A.isZero b = true
    · simp [Operator.apply, hzero]
    · simp [Operator.apply, hzero]

/-- All that is joined is joined by operators of the level. -/
theorem operator_of_joining {x : Lexeme} {combine : α → α → Except Failure α}
    (h : joining A level x = some combine) : ∃ op : Operator level, op.lexeme = x := by
  cases level with
  | sums =>
    cases x with
    | plus => exact ⟨.plus, rfl⟩
    | minus => exact ⟨.minus, rfl⟩
    | _ => cases h
  | products =>
    cases x with
    | star => exact ⟨.star, rfl⟩
    | slash => exact ⟨.slash, rfl⟩
    | _ => cases h

/-- A chain goes on as long as operators come, and each takes one operand. -/
theorem chainFrom_sound {read : Reader α} (hread : Reads A limit level.operand read)
    (hlimit : 0 < limit) {acc : α} {ts : List Token} {p : Passing α ts}
    (hp : chainFrom (joining A level) read acc ts = .ok p) :
    ∃ more : Tree (.tail level),
      ts.map Token.lexeme = more.lexemes ++ p.rest.map Token.lexeme ∧ more.nesting < limit ∧
        more.value A acc = some p.value := by
  fun_induction chainFrom (joining A level) read acc ts with
  | case1 acc =>
    cases hp
    exact ⟨.done, rfl, hlimit, rfl⟩
  | case2 acc t rest hjoin =>
    cases hp
    exact ⟨.done, rfl, hlimit, rfl⟩
  | case3 => cases hp
  | case4 => cases hp
  | case5 => cases hp
  | case6 acc t rest combine hjoin r hr v hv q hq ih =>
    cases hp
    obtain ⟨op, hop⟩ := operator_of_joining hjoin
    rw [← hop, joining_operator] at hjoin
    cases hjoin
    obtain ⟨operand, hoperand, hdepth, hvalue⟩ := hread.sound hr
    obtain ⟨more, hmore, hmoreDepth, hmoreValue⟩ := ih hq
    have happly : op.apply A acc r.value = some v := by
      cases happly : op.apply A acc r.value with
      | none => simp [happly] at hv
      | some v' => simpa [happly] using hv
    refine ⟨.next op operand more, ?_, Nat.max_lt.2 ⟨hdepth, hmoreDepth⟩, ?_⟩
    · simp [Tree.lexemes, hop, hoperand, hmore]
    · simp [Tree.value, hvalue, happly, hmoreValue]

/-- The tail of a chain is read to its end, where no operator of the level comes. -/
theorem chainFrom_complete {read : Reader α} (hread : Reads A limit level.operand read)
    (more : Tree (.tail level)) {acc : α} {ts : List Token} {rest : List Lexeme} {v : α}
    (hts : ts.map Token.lexeme = more.lexemes ++ rest) (hends : Ends (.chain level) rest)
    (hdepth : more.nesting < limit) (hv : more.value A acc = some v) :
    ∃ p, chainFrom (joining A level) read acc ts = .ok p ∧ p.value = v ∧
      p.rest.map Token.lexeme = rest := by
  cases more with
  | done =>
    cases hv
    cases ts with
    | nil =>
      refine ⟨⟨acc, [], Nat.le_refl _⟩, ?_, rfl, hts⟩
      rw [chainFrom]
    | cons t more =>
      refine ⟨⟨acc, t :: more, Nat.le_refl _⟩, ?_, rfl, hts⟩
      rw [chainFrom]
      cases hjoin : joining A level t.lexeme with
      | none => rfl
      | some combine =>
        obtain ⟨op, hop⟩ := operator_of_joining hjoin
        simp only [Tree.lexemes, List.nil_append, List.map_cons, ← hop] at hts
        rw [← hts] at hends
        exact (not_ends_operator op hends).elim
  | next op operand more =>
    simp only [Tree.lexemes, List.cons_append, List.append_assoc] at hts
    obtain ⟨offset, after, rfl, hafter⟩ := token_of_lexemes hts
    obtain ⟨hoperandDepth, hmoreDepth⟩ := Nat.max_lt.1 hdepth
    simp only [Tree.value, Option.bind_eq_some_iff] at hv
    obtain ⟨b, hb, acc', hacc', hmore⟩ := hv
    obtain ⟨r, hr, rfl, hrest⟩ :=
      hread.complete operand hafter (ends_tail more hends) hoperandDepth hb
    obtain ⟨p, hp, hpv, hprest⟩ := chainFrom_complete hread more hrest hends hmoreDepth hmore
    refine ⟨⟨p.value, p.rest, Nat.le_trans p.within (Nat.le_of_lt (Nat.lt_succ_of_lt r.shorter))⟩,
      ?_, hpv, hprest⟩
    rw [chainFrom]
    simp only [joining_operator, hr, hacc', Option.elim_some, hp]

theorem reads_chain {read : Reader α} (hread : Reads A limit level.operand read) :
    Reads A limit (.chain level) (chain (joining A level) read) where
  sound := by
    intro ts r hr
    unfold chain at hr
    split at hr
    · cases hr
    · rename_i first hfirst
      split at hr
      · cases hr
      · rename_i p hp
        cases hr
        obtain ⟨t, ht, hdepth, hvalue⟩ := hread.sound hfirst
        have hlimit : 0 < limit := Nat.lt_of_le_of_lt (Nat.zero_le _) hdepth
        obtain ⟨more, hmore, hmoreDepth, hmoreValue⟩ := chainFrom_sound hread hlimit hp
        refine ⟨.chain t more, ?_, Nat.max_lt.2 ⟨hdepth, hmoreDepth⟩, ?_⟩
        · simp [Tree.lexemes, ht, hmore, Reading.andThen]
        · simp [Tree.value, hvalue, hmoreValue, Reading.andThen]
  complete := by
    intro t ts rest v hts hends hdepth hv
    cases t with
    | chain first more =>
      obtain ⟨hfirstDepth, hmoreDepth⟩ := Nat.max_lt.1 hdepth
      simp only [Tree.lexemes, List.append_assoc] at hts
      obtain ⟨a, ha, hmore⟩ := Option.bind_eq_some_iff.1 hv
      obtain ⟨r, hr, rfl, hrest⟩ :=
        hread.complete first hts (ends_tail more hends) hfirstDepth ha
      obtain ⟨p, hp, hpv, hprest⟩ := chainFrom_complete hread more hrest hends hmoreDepth hmore
      refine ⟨r.andThen p, ?_, hpv, hprest⟩
      simp only [chain, hr, hp]

/-- An expression is a chain of chains. -/
theorem reads_expression {read : Reader α} (hread : Reads A limit .signed read) :
    Reads A limit (.chain .sums) (expression A read) := by
  have hterm : Reads A limit (.chain .products) (term A read) := reads_chain hread
  exact reads_chain hterm

/-! ## Constructs -/

variable {deeper : Reader α}

theorem reads_atom (hdeeper : Reads A limit .signed deeper) :
    Reads A (limit + 1) .atom (atom A deeper) where
  sound := by
    intro ts r hr
    unfold atom at hr
    split at hr
    · rename_i n rest
      cases hr
      exact ⟨.number n, rfl, Nat.succ_pos _, rfl⟩
    · rename_i rest
      split at hr
      · cases hr
      · rename_i v o after h hread
        cases hr
        obtain ⟨e, he, hdepth, hvalue⟩ := (reads_expression hdeeper).sound hread
        refine ⟨.parenthesised e, ?_, Nat.succ_lt_succ hdepth, hvalue⟩
        simp [Tree.lexemes, he]
      · cases hr
    · cases hr
  complete := by
    intro t ts rest v hts _ hdepth hv
    cases t with
    | number n =>
      obtain ⟨offset, after, rfl, hafter⟩ := token_of_lexemes hts
      cases hv
      exact ⟨⟨A.ofNumeral n, after, Nat.lt_succ_self _⟩, rfl, rfl, hafter⟩
    | parenthesised e =>
      simp only [Tree.lexemes, List.cons_append, List.append_assoc, List.nil_append] at hts
      obtain ⟨offset, within, rfl, hwithin⟩ := token_of_lexemes hts
      obtain ⟨⟨v', closed, h⟩, hr, rfl, hclosed⟩ := (reads_expression hdeeper).complete e hwithin
        (ends_closing _) (Nat.lt_of_succ_lt_succ hdepth) hv
      obtain ⟨offset', after, rfl, hafter⟩ := token_of_lexemes hclosed
      refine ⟨⟨v', after, Nat.lt_succ_of_lt (Nat.lt_of_succ_lt h)⟩, ?_, rfl, hafter⟩
      simp only [atom, hr]

theorem reads_power (hdeeper : Reads A limit .signed deeper) :
    Reads A (limit + 1) .power (power A deeper) where
  sound := by
    intro ts r hr
    unfold power at hr
    split at hr
    · cases hr
    · rename_i v o rest h hatom
      obtain ⟨a, ha, hdepth, hvalue⟩ := (reads_atom hdeeper).sound hatom
      split at hr
      · cases hr
      · rename_i e hexponent
        cases hr
        obtain ⟨t, ht, htDepth, htValue⟩ := hdeeper.sound hexponent
        refine ⟨.raised a t, ?_, Nat.max_lt.2 ⟨hdepth, Nat.succ_lt_succ htDepth⟩, ?_⟩
        · simp [Tree.lexemes, ha, ht]
        · simp [Tree.value, hvalue, htValue]
    · rename_i hatom
      cases hr
      obtain ⟨a, ha, hdepth, hvalue⟩ := (reads_atom hdeeper).sound hatom
      exact ⟨.base a, ha, hdepth, hvalue⟩
  complete := by
    intro t ts rest v hts hends hdepth hv
    cases t with
    | base a =>
      obtain ⟨r, hr, hrv, hrest⟩ := (reads_atom hdeeper).complete a hts ends_atom hdepth hv
      refine ⟨r, ?_, hrv, hrest⟩
      unfold power
      rw [hr]
      split
      · rename_i heq
        cases heq
      · rename_i heq
        cases heq
        rw [← hrest] at hends
        exact (hends.caret_ne (Or.inr rfl) rfl).elim
      · rename_i heq
        exact heq.symm
    | raised a exponent =>
      simp only [Tree.lexemes, List.append_assoc, List.cons_append] at hts
      obtain ⟨hbaseDepth, hexponentDepth⟩ := Nat.max_lt.1 hdepth
      obtain ⟨b, hb, hexponent⟩ := Option.bind_eq_some_iff.1 hv
      obtain ⟨c, hc, rfl⟩ := Option.map_eq_some_iff.1 hexponent
      obtain ⟨⟨b', raised, h⟩, hr, rfl, hraised⟩ :=
        (reads_atom hdeeper).complete a hts ends_atom hbaseDepth hb
      obtain ⟨offset, after, rfl, hafter⟩ := token_of_lexemes hraised
      obtain ⟨e, he, rfl, hrest⟩ :=
        hdeeper.complete exponent hafter hends (Nat.lt_of_succ_lt_succ hexponentDepth) hc
      refine ⟨⟨A.pow b' e.value, e.rest, Nat.lt_trans e.shorter (Nat.lt_of_succ_lt h)⟩, ?_, rfl,
        hrest⟩
      simp only [power, hr, he]

theorem ok_of_map {β γ : Type} {f : β → γ} {answer : Except Failure β} {c : γ}
    (h : answer.map f = .ok c) : ∃ b, answer = .ok b ∧ f b = c := by
  cases answer with
  | error e => cases h
  | ok b =>
    cases h
    exact ⟨b, rfl, rfl⟩

/-- A sign in front of what is read one level deeper. -/
theorem sign_sound (hdeeper : Reads A limit .signed deeper) (op : Operator .sums) (offset : Nat)
    {ts : List Token} {r : Reading α ts} (hr : deeper ts = .ok r) :
    ∃ t : Phrase .signed,
      (⟨offset, op.lexeme⟩ :: ts).map Token.lexeme = t.lexemes ++ r.rest.map Token.lexeme ∧
        t.nesting < limit + 1 ∧ t.value A = some (op.signed A r.value) := by
  obtain ⟨t, ht, hdepth, hvalue⟩ := hdeeper.sound hr
  refine ⟨.sign op t, ?_, Nat.succ_lt_succ hdepth, ?_⟩
  · simp [Tree.lexemes, ht]
  · simp [Tree.value, hvalue]

theorem reads_signedWith (hdeeper : Reads A limit .signed deeper) :
    Reads A (limit + 1) .signed (signedWith A deeper) where
  sound := by
    intro ts r hr
    unfold signedWith at hr
    split at hr
    · rename_i offset rest
      obtain ⟨inner, hinner, rfl⟩ := ok_of_map hr
      exact sign_sound hdeeper .minus offset hinner
    · rename_i offset rest
      obtain ⟨inner, hinner, rfl⟩ := ok_of_map hr
      exact sign_sound hdeeper .plus offset hinner
    · obtain ⟨p, hp, hdepth, hvalue⟩ := (reads_power hdeeper).sound hr
      exact ⟨.unsigned p, hp, hdepth, hvalue⟩
  complete := by
    intro t ts rest v hts hends hdepth hv
    cases t with
    | sign op operand =>
      simp only [Tree.lexemes, List.cons_append] at hts
      obtain ⟨offset, after, rfl, hafter⟩ := token_of_lexemes hts
      obtain ⟨a, ha, rfl⟩ := Option.map_eq_some_iff.1 hv
      obtain ⟨r, hr, rfl, hrest⟩ :=
        hdeeper.complete operand hafter hends (Nat.lt_of_succ_lt_succ hdepth) ha
      cases op with
      | plus =>
        refine ⟨r.after, ?_, rfl, hrest⟩
        simp only [signedWith, Operator.lexeme, hr, Except.map]
      | minus =>
        refine ⟨(r.map A.neg).after, ?_, rfl, hrest⟩
        simp only [signedWith, Operator.lexeme, hr, Except.map]
    | unsigned p =>
      obtain ⟨r, hr, hrv, hrest⟩ := (reads_power hdeeper).complete p hts hends hdepth hv
      refine ⟨r, ?_, hrv, hrest⟩
      -- a power does not start with a sign, so this is the last case of the reader
      obtain ⟨x, more, hp, hx⟩ := p.lexemes_power
      rw [Tree.lexemes, hp] at hts
      rw [← hr]
      unfold signedWith
      split
      · exact (hx .minus (List.cons.inj hts).1).elim
      · exact (hx .plus (List.cons.inj hts).1).elim
      · rfl

/-! ## All levels -/

/-- With no room left, nothing is nested little enough. -/
theorem reads_nothing : Reads A 0 .signed fun _ => .error .tooDeep where
  sound := by
    intro ts r hr
    cases hr
  complete := by
    intro t ts rest v _ _ hdepth
    exact absurd hdepth (Nat.not_lt_zero _)

theorem reads_signed (A : Arithmetic α) (room : Nat) :
    Reads A (room + 1) .signed (signed A room) := by
  induction room with
  | zero => exact reads_signedWith reads_nothing
  | succ room ih => exact reads_signedWith ih

/-! ## The law of the calculator -/

/-- All tokens are one expression, and its value is finite. -/
theorem evaluate_eq_ok {input : String} {v : α} :
    evaluate A input = .ok v ↔ ∃ ts, tokens input = .ok ts ∧ ts ≠ [] ∧
      ∃ r, expression A (signed A nestingLimit) ts = .ok r ∧ r.rest = [] ∧
        A.isFinite r.value = true ∧ r.value = v := by
  unfold evaluate
  cases htokens : tokens input with
  | error e => simp [bind, Except.bind]
  | ok ts =>
    by_cases hne : ts = []
    · simp [bind, Except.bind, hne, throw, throwThe, MonadExceptOf.throw]
    · cases hr : expression A (signed A nestingLimit) ts with
      | error e => simp [bind, Except.bind, hne, hr]
      | ok r =>
        by_cases hrest : r.rest = []
        · by_cases hfinite : A.isFinite r.value = true
          · simp [bind, Except.bind, hne, hr, hrest, hfinite, pure, Except.pure]
          · simp [bind, Except.bind, hne, hr, hrest, hfinite, throw, throwThe,
              MonadExceptOf.throw]
        · simp [bind, Except.bind, hne, hr, hrest, throw, throwThe, MonadExceptOf.throw]

/-- An expression has a value, if its tokens have a tree with no more than 64 constructs inside
each other, nothing is divided by zero in it, and what it is worth is finite. There is at most
one tree. -/
theorem an_expression_is_worth_what_its_tree_is (A : Arithmetic α) (input : String) (v : α) :
    (evaluate A input = .ok v ↔
      ∃ ts, tokens input = .ok ts ∧ ts ≠ [] ∧ ∃ t : Expression,
        t.lexemes = ts.map Token.lexeme ∧ t.nesting ≤ 64 ∧ t.value A = some v ∧
          A.isFinite v = true) ∧
    ∀ t t' : Expression, t.lexemes = t'.lexemes → t = t' := by
  have hreads : Reads A 65 (.chain .sums) (expression A (signed A nestingLimit)) :=
    reads_expression (reads_signed A nestingLimit)
  refine ⟨?_, fun _ _ => Tree.lexemes_injective⟩
  rw [evaluate_eq_ok]
  constructor
  · rintro ⟨ts, hts, hne, r, hr, hrest, hfinite, rfl⟩
    obtain ⟨t, ht, hdepth, hvalue⟩ := hreads.sound hr
    rw [hrest, List.map_nil, List.append_nil] at ht
    exact ⟨ts, hts, hne, t, ht.symm, Nat.le_of_lt_succ hdepth, hvalue, hfinite⟩
  · rintro ⟨ts, hts, hne, t, ht, hdepth, hvalue, hfinite⟩
    have hspelled : ts.map Token.lexeme = t.lexemes ++ [] := by rw [ht, List.append_nil]
    obtain ⟨r, hr, rfl, hrest⟩ :=
      hreads.complete t hspelled (ends_nil _) (Nat.lt_succ_of_le hdepth) hvalue
    exact ⟨ts, hts, hne, r, hr, List.map_eq_nil_iff.1 hrest, hfinite, rfl⟩

end ChatBot.Calc
