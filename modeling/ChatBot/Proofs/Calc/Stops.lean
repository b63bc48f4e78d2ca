-- Where the readers of expressions stop, and what they blame. A reader that succeeds
-- stops where its phrase ends, and one that fails blames a place with which it cannot
-- go on.
import ChatBot.Proofs.Calc.Blame
import ChatBot.Proofs.Calc.Evaluation

namespace ChatBot.Calc

variable {α : Type} {A : Arithmetic α} {limit : Nat} {level : Level} {ts : List Token}
  {e : Failure}

/-! ## What it is to stop -/

/-- A reader that stops where the phrase of a symbol ends, or blames a place. -/
structure Stops (A : Arithmetic α) (limit : Nat) (s : Symbol) (read : Reader α) : Prop where
  suffix : ∀ {ts : List Token} {r : Reading α ts}, read ts = .ok r → r.rest <:+ ts
  ends : ∀ {ts : List Token} {r : Reading α ts}, read ts = .ok r → Ends s (spelled r.rest)
  blame : ∀ {ts : List Token} {e : Failure}, read ts = .error e → Blame A limit (.phrase s) ts e

/-- The tokens that are taken spell the phrase that is read. -/
theorem Stops.taken {s : Symbol} {read : Reader α} {r : Reading α ts}
    (hstops : Stops A limit s read) (hreads : Reads A limit s read) (hr : read ts = .ok r) :
    ∃ (t : Phrase s) (taken : List Token), ts = taken ++ r.rest ∧ spelled taken = t.lexemes ∧
      t.value A = some r.value := by
  obtain ⟨taken, htaken⟩ := hstops.suffix hr
  obtain ⟨t, ht, -, hvalue⟩ := hreads.sound hr
  refine ⟨t, taken, htaken.symm, ?_, hvalue⟩
  have hlexemes : spelled taken ++ spelled r.rest = t.lexemes ++ spelled r.rest := by
    rw [← ht, ← List.map_append, htaken]
  exact List.append_cancel_right hlexemes

/-- The lexeme at the head belongs to the token in front. -/
theorem token_of_head? {x : Lexeme} (h : (spelled ts).head? = some x) :
    ∃ offset after, ts = ⟨offset, x⟩ :: after := by
  obtain ⟨more, hmore⟩ := List.head?_eq_some_iff.1 h
  obtain ⟨offset, after, hts, -⟩ := token_of_lexemes hmore
  exact ⟨offset, after, hts⟩

theorem Ends.of_head? {s : Symbol} {row row' : List Lexeme} (h : Ends s row)
    (hhead : row'.head? = row.head?) : Ends s row' :=
  fun x hx => h x (hhead ▸ hx)

/-! ## Chains -/

/-- A chain ends where its last operand has ended and no operator comes. -/
theorem ends_of_joining {x : Lexeme} {rest : List Lexeme} (hjoin : joining A level x = none)
    (hends : Ends level.operand (x :: rest)) : Ends (.chain level) (x :: rest) := by
  intro y hy hmem
  cases hy
  have hnot := hends x rfl
  cases level <;> cases x <;> simp_all [Symbol.extenders, Level.operand, joining, sums, products]

/-- A chain leaves what comes behind its last operand, where it ends. -/
theorem rest_chainFrom {read : Reader α} (hread : Stops A limit level.operand read) {acc : α}
    {p : Passing α ts} (hends : Ends level.operand (spelled ts))
    (hp : chainFrom (joining A level) read acc ts = .ok p) :
    p.rest <:+ ts ∧ Ends (.chain level) (spelled p.rest) := by
  fun_induction chainFrom (joining A level) read acc ts with
  | case1 acc =>
    cases hp
    exact ⟨List.suffix_refl _, ends_nil _⟩
  | case2 acc t rest hjoin =>
    cases hp
    exact ⟨List.suffix_refl _, ends_of_joining hjoin hends⟩
  | case3 => cases hp
  | case4 => cases hp
  | case5 => cases hp
  | case6 acc t rest combine hjoin r hr v hv q hq ih =>
    cases hp
    obtain ⟨hsuffix, hqends⟩ := ih (hread.ends hr) hq
    exact ⟨(hsuffix.trans (hread.suffix hr)).trans (List.suffix_cons t rest), hqends⟩

/-- Only a divisor that is zero cannot be joined. -/
theorem blame_of_joining {op : Operator level} {operand : Phrase level.operand} {acc b : α}
    {rest : List Lexeme} (hrow : spelled ts = op.lexeme :: (operand.lexemes ++ rest))
    (hends : Ends level.operand rest) (hvalue : operand.value A = some b)
    (h : (op.apply A acc b).elim (Except.error Failure.divisionByZero) Except.ok = .error e) :
    Blame A limit (.tail level) ts e := by
  cases op with
  | plus => cases h
  | minus => cases h
  | star => cases h
  | slash =>
    by_cases hzero : A.isZero b = true
    · rw [Operator.apply, if_pos hzero] at h
      cases h
      have hopens : Opens (.tail .products) ([] ++ .slash :: operand.lexemes) :=
        ⟨.next .slash operand .done, [], rfl⟩
      exact .divisionByZero hrow hopens hends hvalue hzero
    · rw [Operator.apply, if_neg hzero] at h
      cases h

theorem chainFrom_blame {read : Reader α} (hread : Stops A limit level.operand read)
    (hreads : Reads A limit level.operand read) {acc : α}
    (h : chainFrom (joining A level) read acc ts = .error e) :
    Blame A limit (.tail level) ts e := by
  fun_induction chainFrom (joining A level) read acc ts with
  | case1 => cases h
  | case2 => cases h
  | case3 acc t rest combine hjoin e' hoperand =>
    cases h
    obtain ⟨op, hop⟩ := operator_of_joining hjoin
    have hin : Inside Anything (spelled [t]) 0 (.phrase level.operand) (.tail level) := by
      have hspelled : spelled [t] = [op.lexeme] := by
        rw [hop]
        rfl
      rw [hspelled]
      exact inside_operand op
    exact (hread.blame hoperand).inside hin (fun _ _ => trivial) (.inl rfl)
  | case4 acc t rest combine hjoin r hr e' hv =>
    cases h
    obtain ⟨op, hop⟩ := operator_of_joining hjoin
    rw [← hop, joining_operator] at hjoin
    cases hjoin
    obtain ⟨operand, hoperand, -, hvalue⟩ := hreads.sound hr
    have hrow : spelled (t :: rest) = op.lexeme :: (operand.lexemes ++ spelled r.rest) := by
      rw [spelled, List.map_cons, hoperand, hop]
    exact blame_of_joining hrow (hread.ends hr) hvalue hv
  | case5 acc t rest combine hjoin r hr v hv e' hchain ih =>
    cases h
    obtain ⟨op, hop⟩ := operator_of_joining hjoin
    obtain ⟨operand, taken, hrest, htaken, -⟩ := hread.taken hreads hr
    have hin : Inside (Ends level.operand) (spelled (t :: taken)) 0 (.tail level)
        (.tail level) := by
      have hspelled : spelled (t :: taken) = op.lexeme :: operand.lexemes := by
        rw [hop, ← htaken]
        rfl
      rw [hspelled]
      exact inside_tail op operand
    have htail := (ih hchain).inside hin (fun _ => (hread.ends hr).of_head?) (.inl rfl)
    rwa [List.cons_append, ← hrest] at htail
  | case6 => cases h

theorem rest_chain {read : Reader α} (hread : Stops A limit level.operand read) {r : Reading α ts}
    (hr : chain (joining A level) read ts = .ok r) :
    r.rest <:+ ts ∧ Ends (.chain level) (spelled r.rest) := by
  unfold chain at hr
  split at hr
  · cases hr
  · rename_i first hfirst
    split at hr
    · cases hr
    · rename_i p hp
      cases hr
      obtain ⟨hsuffix, hends⟩ := rest_chainFrom hread (hread.ends hfirst) hp
      exact ⟨hsuffix.trans (hread.suffix hfirst), hends⟩

theorem stops_chain {read : Reader α} (hread : Stops A limit level.operand read)
    (hreads : Reads A limit level.operand read) :
    Stops A limit (.chain level) (chain (joining A level) read) := by
  refine ⟨fun hr => (rest_chain hread hr).1, fun hr => (rest_chain hread hr).2, ?_⟩
  intro ts e h
  unfold chain at h
  split at h
  · rename_i e' hfirst
    cases h
    exact (hread.blame hfirst).at_front (inside_first level) fun _ _ => trivial
  · rename_i first hfirst
    split at h
    · rename_i e' hmore
      cases h
      obtain ⟨t, taken, hts, htaken, -⟩ := hread.taken hreads hfirst
      have hin : Inside (Ends level.operand) (spelled taken) 0 (.tail level)
          (.phrase (.chain level)) := by
        rw [htaken]
        exact inside_more t
      rw [hts]
      exact (chainFrom_blame hread hreads hmore).inside hin
        (fun _ => (hread.ends hfirst).of_head?) (.inl rfl)
    · cases h

variable {read deeper : Reader α}

theorem stops_expression (hread : Stops A limit .signed read)
    (hreads : Reads A limit .signed read) :
    Stops A limit (.chain .sums) (expression A read) := by
  have hterm : Stops A limit (.chain .products) (term A read) := stops_chain hread hreads
  exact stops_chain hterm (reads_chain hreads)

/-! ## Constructs -/

/-- An atom is a number or begins with a parenthesis. -/
theorem blocks_atom {row : List Lexeme} (hnumber : ∀ n, row.head? ≠ some (.number n))
    (hopening : row.head? ≠ some .opening) : Blocks (.phrase .atom) row := by
  refine blocks_of_not_ends fun t rest hrow => ?_
  cases t with
  | number n => exact (hnumber n (by rw [← hrow]; rfl)).elim
  | parenthesised e => exact (hopening (by rw [← hrow]; rfl)).elim

/-- Behind an expression in parentheses, which has ended, nothing but the closing one may come. -/
theorem blocks_unclosed (e : Expression) {row : List Lexeme} (hends : Ends (.chain .sums) row)
    (hclosing : row.head? ≠ some .closing) :
    Blocks (.phrase .atom) (.opening :: (e.lexemes ++ row)) := by
  refine blocks_of_not_ends fun t rest hrow => ?_
  cases t with
  | number n => cases (List.cons.inj hrow).1
  | parenthesised e' =>
    simp only [Tree.lexemes, List.cons_append, List.append_assoc, List.nil_append, List.cons.injEq,
      true_and] at hrow
    obtain ⟨-, hrest⟩ := e'.eq_of_lexemes_append e hrow (ends_closing _) hends
    exact (hclosing (by rw [← hrest]; rfl)).elim

theorem blame_no_atom (hnumber : ∀ n, (spelled ts).head? ≠ some (.number n))
    (hopening : (spelled ts).head? ≠ some .opening) :
    Blame A limit (.phrase .atom) ts (misplaced ts) := by
  have hblocks : ∀ row : List Lexeme, row.head? = (spelled ts).head? →
      Blocks (.phrase .atom) (spelled [] ++ row) := by
    intro row hhead
    rw [← hhead] at hnumber hopening
    exact blocks_atom hnumber hopening
  exact blame_misplaced (opens_nil _) hblocks

theorem blame_unclosed (offset : Nat) {inner : Expression} {taken rest : List Token}
    (htaken : spelled taken = inner.lexemes) (hends : Ends (.chain .sums) (spelled rest))
    (hclosing : (spelled rest).head? ≠ some .closing) :
    Blame A limit (.phrase .atom) (⟨offset, .opening⟩ :: (taken ++ rest)) (misplaced rest) := by
  have hbefore : spelled (⟨offset, .opening⟩ :: taken) = .opening :: inner.lexemes := by
    rw [← htaken]
    rfl
  rw [← List.cons_append]
  refine blame_misplaced ?_ fun row hhead => ?_
  · rw [hbefore]
    exact ⟨.parenthesised inner, [.closing], rfl⟩
  · rw [hbefore]
    rw [← hhead] at hclosing
    exact blocks_unclosed inner (hends.of_head? hhead) hclosing

theorem stops_atom (hdeeper : Stops A limit .signed deeper)
    (hreads : Reads A limit .signed deeper) :
    Stops A (limit + 1) .atom (atom A deeper) where
  suffix := by
    intro ts r hr
    unfold atom at hr
    split at hr
    · cases hr
      exact List.suffix_cons _ _
    · split at hr
      · cases hr
      · rename_i v o after h hread
        cases hr
        have hsuffix := (stops_expression hdeeper hreads).suffix hread
        exact ((List.suffix_cons _ _).trans hsuffix).trans (List.suffix_cons _ _)
      · cases hr
    · cases hr
  ends _ := ends_atom
  blame := by
    intro ts e h
    unfold atom at h
    have hexpression := stops_expression hdeeper hreads
    split at h
    · cases h
    · rename_i o rest
      split at h
      · rename_i e' hread
        cases h
        have hne : [(⟨o, .opening⟩ : Token)] ≠ [] := List.cons_ne_nil _ _
        exact (hexpression.blame hread).inside inside_parentheses (fun _ _ => trivial)
          (.inr ⟨hne, fun _ => trivial⟩)
      · cases h
      · rename_i r hopen hread
        cases h
        obtain ⟨inner, taken, hrest, htaken, -⟩ :=
          hexpression.taken (reads_expression hreads) hread
        have hclosing : (spelled r.rest).head? ≠ some .closing := by
          intro hclosing
          obtain ⟨v, left, hshorter⟩ := r
          obtain ⟨offset, after, rfl⟩ := token_of_head? hclosing
          exact hopen v offset after hshorter rfl
        have hblame : Blame A (limit + 1) (.phrase .atom) (⟨o, .opening⟩ :: (taken ++ r.rest))
            (misplaced r.rest) := blame_unclosed o htaken (hexpression.ends hread) hclosing
        rwa [← hrest] at hblame
    · rename_i hnumber hopening
      cases h
      refine blame_no_atom (fun n hn => ?_) fun hn => ?_
      · obtain ⟨offset, after, hts⟩ := token_of_head? hn
        exact hnumber offset n after hts
      · obtain ⟨offset, after, hts⟩ := token_of_head? hn
        exact hopening offset after hts

/-- A power leaves no caret in front. -/
theorem rest_power (hdeeper : Stops A limit .signed deeper) (hreads : Reads A limit .signed deeper)
    {r : Reading α ts} (hr : power A deeper ts = .ok r) :
    r.rest <:+ ts ∧ Ends .power (spelled r.rest) := by
  have hatom := stops_atom hdeeper hreads
  unfold power at hr
  split at hr
  · cases hr
  · rename_i v o rest h hbase
    split at hr
    · cases hr
    · rename_i exponent hexponent
      cases hr
      have hcaret : rest <:+ ts := (List.suffix_cons _ _).trans (hatom.suffix hbase)
      have hends : Ends .signed (spelled exponent.rest) := hdeeper.ends hexponent
      exact ⟨(hdeeper.suffix hexponent).trans hcaret, hends⟩
  · rename_i hcaret hbase
    cases hr
    refine ⟨hatom.suffix hbase, fun x hx hmem => ?_⟩
    obtain rfl : x = .caret := List.mem_singleton.1 hmem
    obtain ⟨v, left, hshorter⟩ := r
    obtain ⟨offset, after, rfl⟩ := token_of_head? hx
    exact hcaret v offset after hshorter rfl

theorem stops_power (hdeeper : Stops A limit .signed deeper)
    (hreads : Reads A limit .signed deeper) :
    Stops A (limit + 1) .power (power A deeper) := by
  have hatom := stops_atom hdeeper hreads
  refine ⟨fun hr => (rest_power hdeeper hreads hr).1,
    fun hr => (rest_power hdeeper hreads hr).2, ?_⟩
  intro ts e h
  unfold power at h
  split at h
  · rename_i e' hbase
    cases h
    exact (hatom.blame hbase).at_front inside_base fun _ _ => trivial
  · rename_i v o rest hshorter hbase
    split at h
    · rename_i e' hexponent
      cases h
      obtain ⟨a, taken, hts, htaken, -⟩ := hatom.taken (reads_atom hreads) hbase
      have hin : Inside Anything (spelled (taken ++ [⟨o, .caret⟩])) 1 (.phrase .signed)
          (.phrase .power) := by
        have hspelled : spelled (taken ++ [⟨o, .caret⟩]) = a.lexemes ++ [.caret] := by
          rw [← htaken]
          exact List.map_append
        rw [hspelled]
        exact inside_exponent a
      have hne : taken ++ [(⟨o, .caret⟩ : Token)] ≠ [] :=
        List.append_ne_nil_of_right_ne_nil _ (List.cons_ne_nil _ _)
      rw [hts, List.append_cons]
      exact (hdeeper.blame hexponent).inside hin (fun _ _ => trivial) (.inr ⟨hne, fun _ => trivial⟩)
    · cases h
  · cases h

theorem error_of_map {β γ : Type} {f : β → γ} {answer : Except Failure β}
    (h : answer.map f = .error e) : answer = .error e := by
  cases answer with
  | error e' =>
    cases h
    rfl
  | ok b => cases h

/-- What is to blame behind a sign. -/
theorem Blame.sign (op : Operator .sums) (offset : Nat) (h : Blame A limit (.phrase .signed) ts e) :
    Blame A (limit + 1) (.phrase .signed) (⟨offset, op.lexeme⟩ :: ts) e := by
  have hin : Inside Anything (spelled [⟨offset, op.lexeme⟩]) 1 (.phrase .signed)
      (.phrase .signed) := inside_sign op
  exact h.inside hin (fun _ _ => trivial) (.inr ⟨List.cons_ne_nil _ _, fun _ => trivial⟩)

theorem rest_signedWith (hdeeper : Stops A limit .signed deeper)
    (hreads : Reads A limit .signed deeper) {r : Reading α ts}
    (hr : signedWith A deeper ts = .ok r) : r.rest <:+ ts ∧ Ends .signed (spelled r.rest) := by
  have hbehind : ∀ {t : Token} {ts : List Token} {r : Reading α ts}, deeper ts = .ok r →
      r.rest <:+ t :: ts ∧ Ends .signed (spelled r.rest) :=
    fun hr => ⟨(hdeeper.suffix hr).trans (List.suffix_cons _ _), hdeeper.ends hr⟩
  unfold signedWith at hr
  split at hr
  · obtain ⟨inner, hinner, rfl⟩ := ok_of_map hr
    exact hbehind hinner
  · obtain ⟨inner, hinner, rfl⟩ := ok_of_map hr
    exact hbehind hinner
  · exact rest_power hdeeper hreads hr

theorem stops_signedWith (hdeeper : Stops A limit .signed deeper)
    (hreads : Reads A limit .signed deeper) :
    Stops A (limit + 1) .signed (signedWith A deeper) := by
  have hpower := stops_power hdeeper hreads
  refine ⟨fun hr => (rest_signedWith hdeeper hreads hr).1,
    fun hr => (rest_signedWith hdeeper hreads hr).2, ?_⟩
  intro ts e h
  unfold signedWith at h
  split at h
  · exact (hdeeper.blame (error_of_map h)).sign .minus _
  · exact (hdeeper.blame (error_of_map h)).sign .plus _
  · rename_i hminus hplus
    refine (hpower.blame h).at_front inside_unsigned fun row hhead op hop => ?_
    obtain ⟨offset, after, hts⟩ := token_of_head? (hhead ▸ hop)
    cases op with
    | plus => exact hplus offset after hts
    | minus => exact hminus offset after hts

/-! ## All levels -/

theorem stops_nothing : Stops A 0 .signed fun _ => .error .tooDeep where
  suffix hr := by cases hr
  ends hr := by cases hr
  blame := by
    intro ts e h
    cases h
    exact .noRoom rfl

theorem stops_signed (A : Arithmetic α) (room : Nat) :
    Stops A (room + 1) .signed (signed A room) := by
  induction room with
  | zero => exact stops_signedWith stops_nothing reads_nothing
  | succ room ih => exact stops_signedWith ih (reads_signed A room)

end ChatBot.Calc
