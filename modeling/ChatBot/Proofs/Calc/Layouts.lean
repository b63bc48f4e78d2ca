-- Expressions as their lexemes laid out with white space. The scanner finds the lexemes
-- of every layout again, and what it finds tokens in is a layout of them. So the value
-- of an expression does not depend on its white space.
import Mathlib.Data.List.Chain
import ChatBot.Proofs.Calc.Evaluation
import ChatBot.Proofs.Calc.Places

namespace ChatBot.Calc

/-! ## Number texts -/

/-- ASCII digits with at most one point among them, and at least one digit. -/
structure NumberText (cs : List Char) : Prop where
  numeric : ∀ c ∈ cs, c.isDigit = true ∨ c = '.'
  onePoint : cs.count '.' ≤ 1
  hasDigit : ∃ c ∈ cs, c.isDigit = true

theorem count_point_of_digits {cs : List Char} (h : ∀ c ∈ cs, c.isDigit = true) :
    cs.count '.' = 0 := by
  rw [List.count_eq_zero]
  intro hmem
  cases h '.' hmem

namespace Numeral

theorem chars_injective {n m : Numeral} (h : n.chars = m.chars) : n = m := by
  have hn := n.ofChars?_chars
  rw [h, m.ofChars?_chars] at hn
  exact (Option.some.inj hn).symm

theorem numberText (n : Numeral) : NumberText n.chars where
  numeric c hc := by
    rcases Bool.or_eq_true_iff.1 (isNumeric_of_mem hc) with hdigit | hpoint
    · exact .inl hdigit
    · exact .inr (eq_of_beq hpoint)
  onePoint := by
    have hwhole : n.whole.count '.' = 0 :=
      count_point_of_digits fun c hc => n.isDigit_of_mem (List.mem_append_left _ hc)
    unfold chars
    rw [List.count_append, hwhole, Nat.zero_add]
    cases hcut : n.fraction with
    | none => exact Nat.zero_le 1
    | some ds =>
      have hds : ds.count '.' = 0 := by
        apply count_point_of_digits
        intro c hc
        exact n.isDigit_of_mem (List.mem_append_right _ (by rw [hcut]; exact hc))
      rw [List.count_cons_self, hds]
  hasDigit := by
    obtain ⟨c, hc⟩ := List.exists_mem_of_ne_nil _ n.hasDigit
    refine ⟨c, ?_, n.isDigit_of_mem hc⟩
    unfold chars
    rcases List.mem_append.1 hc with hwhole | hfraction
    · exact List.mem_append_left _ hwhole
    · cases hcut : n.fraction with
      | none =>
        rw [hcut] at hfraction
        cases hfraction
      | some ds =>
        rw [hcut] at hfraction
        exact List.mem_append_right _ (List.mem_cons_of_mem _ hfraction)

end Numeral

/-- Every number text is the text of a numeral. -/
theorem NumberText.exists_numeral {cs : List Char} (h : NumberText cs) :
    ∃ n : Numeral, n.chars = cs := by
  obtain ⟨d, hd, hdigit⟩ := h.hasDigit
  have hsplit := List.takeWhile_append_dropWhile (p := Char.isDigit) (l := cs)
  have hwhole : ∀ c ∈ cs.takeWhile Char.isDigit, c.isDigit = true :=
    List.all_eq_true.1 List.all_takeWhile
  cases hrest : cs.dropWhile Char.isDigit with
  | nil =>
    rw [hrest, List.append_nil] at hsplit
    rw [hsplit] at hwhole
    refine ⟨⟨cs, none, ?_, ?_⟩, List.append_nil cs⟩
    · rw [Option.getD_none, List.append_nil]
      exact List.all_eq_true.2 hwhole
    · rw [Option.getD_none, List.append_nil]
      exact List.ne_nil_of_mem hd
  | cons c ds =>
    rw [hrest] at hsplit
    have hc : c = '.' := by
      have hnot : c.isDigit = false := Text.of_head?_dropWhile (by rw [hrest]; rfl)
      rcases h.numeric c (by rw [← hsplit]; simp) with hdigit | hpoint
      · rw [hdigit] at hnot
        cases hnot
      · exact hpoint
    subst hc
    have hnoPoint : '.' ∉ ds := by
      have hone := h.onePoint
      rw [← hsplit, List.count_append, List.count_cons_self] at hone
      rw [← List.count_eq_zero]
      omega
    have hdigits : ∀ c ∈ ds, c.isDigit = true := by
      intro c hc
      rcases h.numeric c (by rw [← hsplit]; simp [hc]) with hdigit | rfl
      · exact hdigit
      · exact absurd hc hnoPoint
    refine ⟨⟨cs.takeWhile Char.isDigit, some ds, ?_, ?_⟩, hsplit⟩
    · rw [Option.getD_some]
      exact List.all_eq_true.2 (List.forall_mem_append.2 ⟨hwhole, hdigits⟩)
    · rw [Option.getD_some]
      rw [← hsplit] at hd
      rcases List.mem_append.1 hd with hd | hd
      · exact List.ne_nil_of_mem (List.mem_append_left _ hd)
      · rcases List.mem_cons.1 hd with rfl | hd
        · cases hdigit
        · exact List.ne_nil_of_mem (List.mem_append_right _ hd)

theorem numberText_iff (cs : List Char) : NumberText cs ↔ ∃! n : Numeral, n.chars = cs := by
  constructor
  · intro h
    obtain ⟨n, rfl⟩ := h.exists_numeral
    exact ⟨n, rfl, fun _ => Numeral.chars_injective⟩
  · rintro ⟨n, rfl, -⟩
    exact n.numberText

/-! ## Layouts -/

def Lexeme.IsNumber (x : Lexeme) : Prop := ∃ n, x = .number n

/-- All other lexemes are written with one character of their own. -/
theorem Lexeme.exists_sign {x : Lexeme} (h : ¬ x.IsNumber) : ∃ c, ofSign? c = some x := by
  cases x with
  | number n => exact absurd ⟨n, rfl⟩ h
  | plus => exact ⟨'+', rfl⟩
  | minus => exact ⟨'-', rfl⟩
  | star => exact ⟨'*', rfl⟩
  | slash => exact ⟨'/', rfl⟩
  | caret => exact ⟨'^', rfl⟩
  | opening => exact ⟨'(', rfl⟩
  | closing => exact ⟨')', rfl⟩

/-- Lexemes, laid out in a text: the white space in front of all, and each lexeme with the white
space behind it. Two numbers do not touch. -/
structure Layout where
  front : List Char
  pieces : List (Lexeme × List Char)
  blank_front : ∀ c ∈ front, Text.isBlank c = true
  blank_behind : ∀ p ∈ pieces, ∀ c ∈ p.2, Text.isBlank c = true
  apart : pieces.IsChain fun p q => p.1.IsNumber → q.1.IsNumber → p.2 ≠ []

/-- The characters of lexemes, each with the white space behind it. -/
def written (pieces : List (Lexeme × List Char)) : List Char :=
  pieces.flatMap fun p => p.1.chars ++ p.2

theorem written_cons (p : Lexeme × List Char) (more : List (Lexeme × List Char)) :
    written (p :: more) = p.1.chars ++ p.2 ++ written more := List.flatMap_cons

namespace Layout

def chars (l : Layout) : List Char := l.front ++ written l.pieces

def text (l : Layout) : String := String.ofList l.chars

def lexemes (l : Layout) : List Lexeme := l.pieces.map (·.1)

/-- The lexemes of a text that starts at a byte. Each is a token at the byte behind all that is
written before it. -/
def tokensFrom (offset : Nat) (l : Layout) : List Token :=
  l.pieces.mapIdx fun i p =>
    ⟨offset + Text.byteLength (l.front ++ written (l.pieces.take i)), p.1⟩

/-! ## Layouts from front to back -/

/-- No characters at all. -/
def empty : Layout where
  front := []
  pieces := []
  blank_front := nofun
  blank_behind := nofun
  apart := .nil

/-- One more character of white space in front. -/
def indent (c : Char) (hc : Text.isBlank c = true) (l : Layout) : Layout where
  front := c :: l.front
  pieces := l.pieces
  blank_front := List.forall_mem_cons.2 ⟨hc, l.blank_front⟩
  blank_behind := l.blank_behind
  apart := l.apart

/-- One more lexeme in front, which does not touch a number if it is one. -/
def putFront (x : Lexeme) (l : Layout)
    (hx : ∀ p ∈ l.pieces.head?, x.IsNumber → p.1.IsNumber → l.front ≠ []) : Layout where
  front := []
  pieces := (x, l.front) :: l.pieces
  blank_front := nofun
  blank_behind := List.forall_mem_cons.2 ⟨l.blank_front, l.blank_behind⟩
  apart := List.isChain_cons.2 ⟨hx, l.apart⟩

/-- All layouts are made so. -/
theorem induct {motive : Layout → Prop} (hempty : motive empty)
    (hindent : ∀ c hc l, motive l → motive (indent c hc l))
    (hputFront : ∀ x l hx, motive l → motive (putFront x l hx)) (l : Layout) : motive l := by
  obtain ⟨front, pieces, hfront, hbehind, hapart⟩ := l
  induction pieces generalizing front with
  | nil =>
    induction front with
    | nil => exact hempty
    | cons c more ih =>
      obtain ⟨hc, hmore⟩ := List.forall_mem_cons.1 hfront
      exact hindent c hc ⟨more, [], hmore, hbehind, hapart⟩ (ih hmore)
  | cons p after ih =>
    obtain ⟨hspace, hafter⟩ := List.forall_mem_cons.1 hbehind
    obtain ⟨hx, hchain⟩ := List.isChain_cons.1 hapart
    induction front with
    | nil => exact hputFront p.1 ⟨p.2, after, hspace, hafter, hchain⟩ hx (ih _ hspace hafter hchain)
    | cons c more ih' =>
      obtain ⟨hc, hmore⟩ := List.forall_mem_cons.1 hfront
      exact hindent c hc ⟨more, p :: after, hmore, hbehind, hapart⟩ (ih' hmore)

variable (offset : Nat) (l : Layout)

theorem chars_putFront {x : Lexeme} {hx} : (putFront x l hx).chars = x.chars ++ l.chars := by
  unfold chars putFront
  rw [written_cons, List.append_assoc]
  rfl

theorem tokensFrom_indent {c : Char} {hc} :
    (indent c hc l).tokensFrom offset = l.tokensFrom (offset + c.utf8Size) := by
  unfold tokensFrom indent
  simp only [List.cons_append, Text.byteLength_cons, Nat.add_assoc]

theorem tokensFrom_putFront {x : Lexeme} {hx} :
    (putFront x l hx).tokensFrom offset =
      ⟨offset, x⟩ :: l.tokensFrom (offset + Text.byteLength x.chars) := by
  unfold tokensFrom putFront
  simp only [List.mapIdx_cons, List.take_zero, List.take_succ_cons, List.nil_append, written_cons,
    List.append_assoc, Text.byteLength_append x.chars, Nat.add_assoc]
  rfl

theorem lexemes_tokensFrom : (l.tokensFrom offset).map Token.lexeme = l.lexemes := by
  induction l using induct generalizing offset with
  | hempty => rfl
  | hindent c hc l ih =>
    rw [tokensFrom_indent]
    exact ih _
  | hputFront x l hx ih =>
    rw [tokensFrom_putFront, List.map_cons, ih]
    rfl

/-- Behind a number, a layout does not go on with digits. -/
theorem isNumeric_head? {n : Numeral}
    (hx : ∀ p ∈ l.pieces.head?, Lexeme.IsNumber (.number n) → p.1.IsNumber → l.front ≠ [])
    {c : Char} (hc : l.chars.head? = some c) : isNumeric c = false := by
  obtain ⟨front, pieces, hfront, hbehind, hapart⟩ := l
  cases front with
  | cons d more =>
    cases hc
    exact isNumeric_of_isBlank (hfront c List.mem_cons_self)
  | nil =>
    cases pieces with
    | nil => cases hc
    | cons p after =>
      have hother : ¬ p.1.IsNumber := fun hp => hx p rfl ⟨n, rfl⟩ hp rfl
      obtain ⟨d, hsign⟩ := p.1.exists_sign hother
      obtain ⟨hchars, hd⟩ := chars_of_ofSign? hsign
      unfold chars at hc
      rw [List.nil_append, written_cons, hchars] at hc
      cases hc
      exact hd

/-- A layout that does not go on with digits has white space in front of a number. -/
theorem front_ne_nil {l : Layout} (h : ∀ c, l.chars.head? = some c → isNumeric c = false)
    {p : Lexeme × List Char} (hp : p ∈ l.pieces.head?) (hnumber : p.1.IsNumber) :
    l.front ≠ [] := by
  intro hfront
  obtain ⟨after, hpieces⟩ := List.head?_eq_some_iff.1 hp
  obtain ⟨n, hn⟩ := hnumber
  obtain ⟨c, more, hchars⟩ := List.exists_cons_of_ne_nil n.chars_ne_nil
  have hhead : l.chars.head? = some c := by
    unfold chars
    rw [hfront, hpieces, written_cons, hn, Lexeme.chars, hchars]
    rfl
  have hc : c ∈ n.chars := by
    rw [hchars]
    exact List.mem_cons_self
  have hnot := h c hhead
  rw [Numeral.isNumeric_of_mem hc] at hnot
  cases hnot

end Layout

/-! ## The scanner -/

theorem scan_nil (offset : Nat) : scan offset [] = .ok [] := by rw [scan.eq_def]

theorem scan_blank {c : Char} (hc : Text.isBlank c = true) (offset : Nat) (cs : List Char) :
    scan offset (c :: cs) = scan (offset + c.utf8Size) cs := by
  rw [scan.eq_def]
  exact if_pos hc

theorem scan_sign {c : Char} {x : Lexeme} (hsign : Lexeme.ofSign? c = some x) (offset : Nat)
    (cs : List Char) :
    scan offset (c :: cs) = (scan (offset + c.utf8Size) cs).map (⟨offset, x⟩ :: ·) := by
  have hblank : Text.isBlank c = false := by
    apply x.isBlank_of_mem
    rw [(chars_of_ofSign? hsign).1]
    exact List.mem_singleton_self c
  rw [scan.eq_def]
  simp only [hblank, hsign, Bool.false_eq_true, if_false]
  cases scan (offset + c.utf8Size) cs with
  | error f => rfl
  | ok ts => rfl

/-- A number text is one token, where the text does not go on with digits or points. -/
theorem scan_number (n : Numeral) {rest : List Char}
    (hrest : ∀ c, rest.head? = some c → isNumeric c = false) (offset : Nat) :
    scan offset (n.chars ++ rest) =
      (scan (offset + Text.byteLength n.chars) rest).map (⟨offset, .number n⟩ :: ·) := by
  obtain ⟨c, more, hchars⟩ := List.exists_cons_of_ne_nil n.chars_ne_nil
  have hn := n.ofChars?_chars
  have hnumeric : ∀ d ∈ c :: more, isNumeric d = true := by
    intro d hd
    rw [← hchars] at hd
    exact Numeral.isNumeric_of_mem hd
  have hc : isNumeric c = true := hnumeric c List.mem_cons_self
  have hblank : Text.isBlank c = false := by
    apply Lexeme.isBlank_of_mem (.number n)
    rw [Lexeme.chars, hchars]
    exact List.mem_cons_self
  have hsign : Lexeme.ofSign? c = none := by
    cases hsign : Lexeme.ofSign? c with
    | none => rfl
    | some x =>
      rw [(chars_of_ofSign? hsign).2] at hc
      cases hc
  obtain ⟨htake, hdrop⟩ := Text.span_append (List.forall_mem_cons.1 hnumeric).2 hrest
  rw [hchars] at hn ⊢
  rw [List.cons_append, scan.eq_def]
  simp only [hblank, hsign, hc, htake, hdrop, hn, if_true, Bool.false_eq_true, if_false]
  cases scan (offset + Text.byteLength (c :: more)) rest with
  | error f => rfl
  | ok ts => rfl

/-- The lexemes of a layout are found again, each where it starts. -/
theorem scan_layout (l : Layout) (offset : Nat) :
    scan offset l.chars = .ok (l.tokensFrom offset) := by
  induction l using Layout.induct generalizing offset with
  | hempty => exact scan_nil offset
  | hindent c hc l ih =>
    rw [l.tokensFrom_indent, ← ih]
    exact scan_blank hc offset l.chars
  | hputFront x l hx ih =>
    rw [l.tokensFrom_putFront, l.chars_putFront]
    by_cases hnumber : x.IsNumber
    · obtain ⟨n, rfl⟩ := hnumber
      rw [Lexeme.chars, scan_number n (fun c => l.isNumeric_head? hx), ih]
      rfl
    · obtain ⟨c, hsign⟩ := x.exists_sign hnumber
      obtain ⟨hchars, -⟩ := chars_of_ofSign? hsign
      rw [hchars, List.singleton_append, scan_sign hsign, ih]
      rfl

/-- What has tokens is a layout of their lexemes. -/
theorem exists_layout (offset : Nat) (cs : List Char) : ∀ ts, scan offset cs = .ok ts →
    ∃ l : Layout, l.chars = cs ∧ l.tokensFrom offset = ts := by
  fun_induction scan offset cs with
  | case1 offset =>
    intro ts h
    cases h
    exact ⟨.empty, rfl, rfl⟩
  | case2 offset c rest hblank ih =>
    intro ts h
    obtain ⟨l, rfl, rfl⟩ := ih ts h
    exact ⟨.indent c hblank l, rfl, l.tokensFrom_indent offset⟩
  | case3 offset c rest hblank x hsign ih =>
    intro ts h
    cases hscan : scan (offset + c.utf8Size) rest with
    | error f =>
      rw [hscan] at h
      cases h
    | ok more =>
      rw [hscan] at h
      cases h
      obtain ⟨l, hl, rfl⟩ := ih _ hscan
      obtain ⟨hchars, hnumeric⟩ := chars_of_ofSign? hsign
      have hx : ∀ p ∈ l.pieces.head?, x.IsNumber → p.1.IsNumber → l.front ≠ [] := by
        rintro p - ⟨n, rfl⟩
        have hc : c ∈ (Lexeme.number n).chars := by
          rw [hchars]
          exact List.mem_cons_self
        rw [Numeral.isNumeric_of_mem hc] at hnumeric
        cases hnumeric
      refine ⟨.putFront x l hx, ?_, ?_⟩
      · rw [l.chars_putFront, hchars, hl, List.singleton_append]
      · rw [l.tokensFrom_putFront, hchars]
        rfl
  | case4 =>
    intro ts h
    cases h
  | case5 offset c rest hblank hsign hnumeric run n hn ih =>
    intro ts h
    cases hscan : scan (offset + Text.byteLength (c :: rest.takeWhile isNumeric))
      (rest.dropWhile isNumeric) with
    | error f =>
      rw [hscan] at h
      cases h
    | ok more =>
      rw [hscan] at h
      cases h
      obtain ⟨l, hl, rfl⟩ := ih _ hscan
      have hchars : (Lexeme.number n).chars = c :: rest.takeWhile isNumeric :=
        Numeral.chars_of_ofChars? hn
      have hx : ∀ p ∈ l.pieces.head?, Lexeme.IsNumber (.number n) → p.1.IsNumber →
          l.front ≠ [] := by
        intro p hp _ hnumber
        refine Layout.front_ne_nil (fun c hc => ?_) hp hnumber
        rw [hl] at hc
        exact Text.of_head?_dropWhile hc
      refine ⟨.putFront (.number n) l hx, ?_, ?_⟩
      · rw [l.chars_putFront, hchars, hl, List.cons_append, List.takeWhile_append_dropWhile]
      · rw [l.tokensFrom_putFront, hchars]
  | case6 =>
    intro ts h
    cases h

/-! ## The value of a layout -/

/-- The value of an expression depends on nothing but its lexemes. -/
theorem evaluate_of_lexemes {α : Type} {A : Arithmetic α} {input input' : String}
    {ts ts' : List Token} (hts : tokens input = .ok ts) (hts' : tokens input' = .ok ts')
    (hlexemes : ts.map Token.lexeme = ts'.map Token.lexeme) {v : α}
    (h : evaluate A input = .ok v) : evaluate A input' = .ok v := by
  have hreads : Reads A 65 (.chain .sums) (expression A (signed A nestingLimit)) :=
    reads_expression (reads_signed A nestingLimit)
  rw [evaluate_eq_ok] at h ⊢
  obtain ⟨_, htokens, hne, r, hr, hrest, hfinite, rfl⟩ := h
  cases hts.symm.trans htokens
  obtain ⟨t, ht, hdepth, hvalue⟩ := hreads.sound hr
  rw [hrest, hlexemes] at ht
  obtain ⟨r', hr', hrv, hrest'⟩ := hreads.complete t ht (ends_nil _) hdepth hvalue
  refine ⟨ts', hts', ?_, r', hr', List.map_eq_nil_iff.1 hrest', ?_, hrv⟩
  · rintro rfl
    exact hne (List.map_eq_nil_iff.1 hlexemes)
  · rw [hrv]
    exact hfinite

theorem tokens_text (l : Layout) : tokens l.text = .ok (l.tokensFrom 0) := by
  unfold tokens Layout.text
  rw [String.toList_ofList]
  exact scan_layout l 0

theorem tokenized_layout (l : Layout) : Tokenized 0 l.chars (l.tokensFrom 0) := by
  have hscanned : Scanned 0 l.chars (scan 0 l.chars) := scanned_scan 0 l.chars
  rw [scan_layout] at hscanned
  cases hscanned with
  | ok h => exact h

/-- A layout of lexemes has just these as its tokens, each at the byte where it starts, and what
has tokens is a layout of them. A number text is the text of one numeral. Two layouts of the same
lexemes have the same value, if they have one. -/
theorem an_expression_is_a_layout_of_its_lexemes {α : Type} (A : Arithmetic α) :
    (∀ l : Layout, tokens l.text = .ok (l.tokensFrom 0) ∧
      (l.tokensFrom 0).map Token.lexeme = l.lexemes ∧ Tokenized 0 l.chars (l.tokensFrom 0)) ∧
    (∀ cs, NumberText cs ↔ ∃! n : Numeral, n.chars = cs) ∧
    (∀ input ts, tokens input = .ok ts → ∃ l : Layout, l.text = input ∧ l.tokensFrom 0 = ts) ∧
    ∀ l l' : Layout, l.lexemes = l'.lexemes →
      ∀ v, evaluate A l.text = .ok v ↔ evaluate A l'.text = .ok v := by
  refine ⟨fun l => ⟨tokens_text l, l.lexemes_tokensFrom 0, tokenized_layout l⟩, numberText_iff,
    ?_, ?_⟩
  · intro input ts h
    obtain ⟨l, hl, hts⟩ := exists_layout 0 input.toList ts h
    refine ⟨l, ?_, hts⟩
    unfold Layout.text
    rw [hl, String.ofList_toList]
  · intro l l' h v
    have hlexemes : (l.tokensFrom 0).map Token.lexeme = (l'.tokensFrom 0).map Token.lexeme := by
      rw [l.lexemes_tokensFrom, l'.lexemes_tokensFrom, h]
    exact ⟨evaluate_of_lexemes (tokens_text l) (tokens_text l') hlexemes,
      evaluate_of_lexemes (tokens_text l') (tokens_text l) hlexemes.symm⟩

end ChatBot.Calc
