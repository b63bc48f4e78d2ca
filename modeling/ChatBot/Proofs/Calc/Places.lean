-- Where the characters of an expression are wrong: a character that writes nothing, or
-- digits and points that write no number. The first such place is what is reported.
-- Where there is none, each token says at which byte its characters stand.
import ChatBot.Calc.Token
import ChatBot.Proofs.Text.Stripping

namespace ChatBot.Calc

/-! ## Number texts -/

namespace Numeral

theorem isDigit_of_mem {n : Numeral} {c : Char} (h : c ∈ n.whole ++ n.fraction.getD []) :
    c.isDigit = true := List.all_eq_true.1 n.allDigits c h

theorem ofParts?_of_digits (n : Numeral) : ofParts? n.whole n.fraction = some n :=
  dif_pos ⟨n.allDigits, n.hasDigit⟩

/-- A numeral is read back from its text. -/
theorem ofChars?_chars (n : Numeral) : ofChars? n.chars = some n := by
  have hdigits : ∀ c ∈ n.whole, c.isDigit = true :=
    fun c hc => n.isDigit_of_mem (List.mem_append_left _ hc)
  have hn := n.ofParts?_of_digits
  unfold ofChars? chars
  rw [List.dropWhile_append_of_pos hdigits]
  cases hfraction : n.fraction with
  | none =>
    rw [hfraction] at hn
    simpa using hn
  | some ds =>
    rw [hfraction] at hn
    have hpoint : ('.' :: ds).dropWhile Char.isDigit = '.' :: ds := rfl
    have hwhole : (n.whole ++ '.' :: ds).takeWhile Char.isDigit = n.whole := by
      rw [List.takeWhile_append_of_pos hdigits]
      exact List.append_nil _
    dsimp only
    rw [hpoint, hwhole]
    exact hn

/-- What is read is written as the text was. -/
theorem chars_of_ofChars? {cs : List Char} {n : Numeral} (h : ofChars? cs = some n) :
    n.chars = cs := by
  have hsplit := List.takeWhile_append_dropWhile (p := Char.isDigit) (l := cs)
  unfold ofChars? at h
  split at h
  · unfold ofParts? at h
    split at h
    · cases h
      exact List.append_nil _
    · cases h
  · rename_i c ds hdrop
    split at h
    · rename_i hpoint
      unfold ofParts? at h
      split at h
      · cases h
        rw [hdrop, hpoint] at hsplit
        exact hsplit
      · cases h
    · cases h

theorem isNumeric_of_mem {n : Numeral} {c : Char} (h : c ∈ n.chars) : isNumeric c = true := by
  have hdigit : ∀ c ∈ n.whole ++ n.fraction.getD [], isNumeric c = true := by
    intro c hc
    unfold isNumeric
    rw [n.isDigit_of_mem hc, Bool.true_or]
  unfold chars at h
  rcases List.mem_append.1 h with hwhole | hfraction
  · exact hdigit c (List.mem_append_left _ hwhole)
  · cases hcut : n.fraction with
    | none =>
      rw [hcut] at hfraction
      cases hfraction
    | some ds =>
      rw [hcut] at hfraction hdigit
      rcases List.mem_cons.1 hfraction with rfl | hc
      · rfl
      · exact hdigit c (List.mem_append_right _ hc)

theorem chars_ne_nil (n : Numeral) : n.chars ≠ [] := by
  intro hnil
  obtain ⟨hwhole, hfraction⟩ := List.append_eq_nil_iff.1 hnil
  cases hcut : n.fraction with
  | none => exact n.hasDigit (by rw [hwhole, hcut]; rfl)
  | some ds =>
    rw [hcut] at hfraction
    cases hfraction

end Numeral

/-! ## Texts of lexemes -/

/-- No white space is a digit or a point. -/
theorem isNumeric_of_isBlank {c : Char} (h : Text.isBlank c = true) : isNumeric c = false := by
  cases hnumeric : isNumeric c with
  | false => rfl
  | true =>
    have hcode : 46 ≤ c.toNat ∧ c.toNat ≤ 57 := by
      rcases Bool.or_eq_true_iff.1 hnumeric with hdigit | hpoint
      · simp only [Char.isDigit, Bool.and_eq_true, decide_eq_true_eq, ge_iff_le,
          UInt32.le_iff_toNat_le] at hdigit
        exact ⟨Nat.le_trans (by decide) hdigit.1, hdigit.2⟩
      · rw [eq_of_beq hpoint]
        decide
    simp only [Text.isBlank, Bool.or_eq_true, Bool.and_eq_true, decide_eq_true_eq,
      beq_iff_eq] at h
    omega

/-- A lexeme is written with its glyph first. -/
theorem Lexeme.chars_eq_cons (x : Lexeme) : ∃ more, x.chars = x.glyph :: more := by
  cases x with
  | number n =>
    obtain ⟨c, more, hchars⟩ := List.exists_cons_of_ne_nil n.chars_ne_nil
    refine ⟨more, ?_⟩
    rw [Lexeme.chars, Lexeme.glyph, Numeral.glyph, hchars]
    rfl
  | _ => exact ⟨[], rfl⟩

theorem Lexeme.byteLength_chars_pos (x : Lexeme) : 0 < Text.byteLength x.chars := by
  obtain ⟨more, hchars⟩ := x.chars_eq_cons
  rw [hchars, Text.byteLength_cons]
  exact Nat.add_pos_left (Char.utf8Size_pos _) _

theorem Lexeme.isBlank_of_mem (x : Lexeme) {c : Char} (h : c ∈ x.chars) :
    Text.isBlank c = false := by
  cases x with
  | number n =>
    cases hblank : Text.isBlank c with
    | false => rfl
    | true =>
      have hnumeric := isNumeric_of_isBlank hblank
      rw [Numeral.isNumeric_of_mem h] at hnumeric
      cases hnumeric
  | _ =>
    rw [List.mem_singleton.1 h]
    rfl

theorem chars_of_ofSign? {c : Char} {sign : Lexeme} (h : Lexeme.ofSign? c = some sign) :
    sign.chars = [c] ∧ isNumeric c = false := by
  unfold Lexeme.ofSign? at h
  split at h
  all_goals first
    | cases h
      exact ⟨rfl, rfl⟩
    | cases h

/-! ## Wrong places -/

/-- A character that writes nothing: it is no white space, no sign of its own, and no part of a
number. -/
structure Stray (c : Char) : Prop where
  notBlank : Text.isBlank c = false
  noSign : Lexeme.ofSign? c = none
  notNumeric : isNumeric c = false

/-- A run of digits and points between other characters, as long as it can be. -/
structure Run (before run after : List Char) : Prop where
  ne_nil : run ≠ []
  numeric : ∀ c ∈ run, isNumeric c = true
  before : ∀ c, before.getLast? = some c → isNumeric c = false
  after : ∀ c, after.head? = some c → isNumeric c = false

/-- A text that starts at a byte is wrong behind some of its characters, and what that is called. -/
inductive Flaw (offset : Nat) (cs before : List Char) : Failure → Prop
  | stray {c : Char} {after : List Char} (h : cs = before ++ c :: after) (hc : Stray c) :
      Flaw offset cs before (.unexpected c (offset + Text.byteLength before))
  | noNumber {run after : List Char} (h : cs = before ++ (run ++ after))
      (hrun : Run before run after) (hn : ∀ n : Numeral, n.chars ≠ run) :
      Flaw offset cs before (.invalidNumber (String.ofList run))

/-- The first wrong place. -/
structure FirstFlaw (offset : Nat) (cs before : List Char) (f : Failure) : Prop where
  flaw : Flaw offset cs before f
  first : ∀ before' f', Flaw offset cs before' f' → before.length ≤ before'.length

/-- The characters of a token stand where it says. Those of a number are all that stand there
together. -/
def Placed (offset : Nat) (cs : List Char) (t : Token) : Prop :=
  ∃ before after, cs = before ++ (t.lexeme.chars ++ after) ∧
    t.offset = offset + Text.byteLength before ∧
      ∀ n, t.lexeme = .number n → Run before n.chars after

/-- A text without wrong places, and its tokens. Only white space is left out of them. -/
structure Tokenized (offset : Nat) (cs : List Char) (ts : List Token) : Prop where
  flawless : ∀ before f, ¬ Flaw offset cs before f
  placed : ∀ t ∈ ts, Placed offset cs t
  rising : ts.Pairwise fun t t' => t.offset < t'.offset
  spelled : cs.filter (fun c => !Text.isBlank c) = ts.flatMap (·.lexeme.chars)

/-! ## Pieces -/

/-- What the scanner takes in one turn, with nothing wrong in it: a character that is not stray, or
a number text. -/
inductive Piece (rest : List Char) : List Char → Prop
  | single {c : Char} (hnumeric : isNumeric c = false) (hc : ¬ Stray c) : Piece rest [c]
  | number (n : Numeral) (hrest : ∀ c, rest.head? = some c → isNumeric c = false) :
      Piece rest n.chars

variable {offset : Nat} {piece rest before : List Char} {f : Failure}

/-- A run behind a piece does not go on with it. -/
theorem Piece.run_behind (hpiece : Piece rest piece) {run after : List Char}
    (h : rest = before ++ (run ++ after)) (hrun : Run before run after) :
    Run (piece ++ before) run after := by
  refine ⟨hrun.ne_nil, hrun.numeric, ?_, hrun.after⟩
  intro c hlast
  rcases List.eq_nil_or_concat before with rfl | ⟨few, last, rfl⟩
  · rw [List.append_nil] at hlast
    cases hpiece with
    | single hnumeric _ =>
      cases hlast
      exact hnumeric
    | number n hrest =>
      obtain ⟨first, more, rfl⟩ := List.exists_cons_of_ne_nil hrun.ne_nil
      have hfirst := hrest first (by rw [h]; rfl)
      rw [hrun.numeric first List.mem_cons_self] at hfirst
      cases hfirst
  · apply hrun.before c
    rw [List.concat_eq_append] at hlast ⊢
    rw [← List.append_assoc, List.getLast?_concat] at hlast
    rw [List.getLast?_concat, hlast]

theorem Piece.flaw_behind (hpiece : Piece rest piece)
    (h : Flaw (offset + Text.byteLength piece) rest before f) :
    Flaw offset (piece ++ rest) (piece ++ before) f := by
  cases h with
  | @stray c after h hc =>
    have hflaw : Flaw offset (piece ++ rest) (piece ++ before)
        (.unexpected c (offset + Text.byteLength (piece ++ before))) :=
      .stray (by rw [h, List.append_assoc]) hc
    rwa [Text.byteLength_append, ← Nat.add_assoc] at hflaw
  | @noNumber run after h hrun hn =>
    exact .noNumber (by rw [h, List.append_assoc]) (hpiece.run_behind h hrun) hn

theorem Piece.not_stray (hpiece : Piece rest piece) {c : Char} (hc : c ∈ piece) : ¬ Stray c := by
  intro hstray
  cases hpiece with
  | single hnumeric hnot =>
    rw [List.mem_singleton.1 hc] at hstray
    exact hnot hstray
  | number n hrest =>
    have hnumeric := hstray.notNumeric
    rw [Numeral.isNumeric_of_mem hc] at hnumeric
    cases hnumeric

/-- What stands before a place in a row of two parts: all of the first part, or less. -/
theorem split_append {α : Type} {as bs cs ds : List α} (h : as ++ bs = cs ++ ds) :
    (∃ more, cs = as ++ more ∧ bs = more ++ ds) ∨
      ∃ x xs, as = cs ++ x :: xs ∧ ds = x :: xs ++ bs := by
  rcases List.append_eq_append_iff.1 h with ⟨more, hcs, hbs⟩ | ⟨more, has, hds⟩
  · exact .inl ⟨more, hcs, hbs⟩
  · cases more with
    | nil =>
      rw [List.append_nil] at has
      exact .inl ⟨[], by rw [has, List.append_nil], hds.symm⟩
    | cons x xs => exact .inr ⟨x, xs, has, hds⟩

/-- No wrong run begins in a piece. -/
theorem Piece.no_run (hpiece : Piece rest piece) {run after : List Char}
    (hrun : Run before run after) (hn : ∀ n : Numeral, n.chars ≠ run) {x : Char} {xs : List Char}
    (hcut : piece = before ++ x :: xs) (h : run ++ after = x :: xs ++ rest) : False := by
  have hx : isNumeric x = true := by
    obtain ⟨first, more, rfl⟩ := List.exists_cons_of_ne_nil hrun.ne_nil
    obtain ⟨rfl, -⟩ := List.cons.inj h
    exact hrun.numeric first List.mem_cons_self
  cases hpiece with
  | @single c hnumeric _ =>
    have hmem : x ∈ [c] := by
      rw [hcut]
      exact List.mem_append_right _ List.mem_cons_self
    rw [← List.mem_singleton.1 hmem, hx] at hnumeric
    cases hnumeric
  | number n hrest =>
    rcases List.eq_nil_or_concat before with rfl | ⟨few, last, rfl⟩
    · -- the run is the number
      have hchars : ∀ c ∈ x :: xs, isNumeric c = true := by
        intro c hc
        rw [List.nil_append] at hcut
        rw [← hcut] at hc
        exact Numeral.isNumeric_of_mem hc
      have hsame := (Text.span_append hrun.numeric hrun.after).1
      rw [h, (Text.span_append hchars hrest).1] at hsame
      exact hn n (hcut.trans hsame)
    · -- the run would go on to its left
      rw [List.concat_eq_append] at hcut
      have hlast : isNumeric last = true := by
        apply Numeral.isNumeric_of_mem (n := n)
        rw [hcut]
        simp
      rw [hrun.before last (by rw [List.concat_eq_append, List.getLast?_concat])] at hlast
      cases hlast

theorem Piece.behind_of_flaw (hpiece : Piece rest piece)
    (h : Flaw offset (piece ++ rest) before f) :
    ∃ before', before = piece ++ before' ∧
      Flaw (offset + Text.byteLength piece) rest before' f := by
  cases h with
  | @stray c after h hc =>
    rcases split_append h with ⟨more, rfl, hrest⟩ | ⟨x, xs, hcut, hafter⟩
    · refine ⟨more, rfl, ?_⟩
      have hflaw : Flaw (offset + Text.byteLength piece) rest more
          (.unexpected c (offset + Text.byteLength piece + Text.byteLength more)) := .stray hrest hc
      rwa [Nat.add_assoc, ← Text.byteLength_append] at hflaw
    · obtain ⟨rfl, -⟩ := List.cons.inj hafter
      have hmem : c ∈ piece := by
        rw [hcut]
        exact List.mem_append_right _ List.mem_cons_self
      exact (hpiece.not_stray hmem hc).elim
  | @noNumber run after h hrun hn =>
    rcases split_append h with ⟨more, rfl, hrest⟩ | ⟨x, xs, hcut, hafter⟩
    · refine ⟨more, rfl, .noNumber hrest ⟨hrun.ne_nil, hrun.numeric, ?_, hrun.after⟩ hn⟩
      intro c hlast
      apply hrun.before c
      rw [List.getLast?_append, hlast]
      rfl
    · exact (hpiece.no_run hrun hn hcut hafter).elim

/-- A number that is a piece ends where its run ends. -/
theorem Piece.run {n : Numeral} (hpiece : Piece rest n.chars) : Run [] n.chars rest := by
  refine ⟨n.chars_ne_nil, fun c => Numeral.isNumeric_of_mem, nofun, ?_⟩
  generalize hchars : n.chars = piece at hpiece
  cases hpiece with
  | @single c hnumeric _ =>
    have hc : c ∈ n.chars := by
      rw [hchars]
      exact List.mem_singleton_self c
    rw [Numeral.isNumeric_of_mem hc] at hnumeric
    cases hnumeric
  | number m hrest => exact hrest

/-! ## The scanner -/

theorem FirstFlaw.behind (hpiece : Piece rest piece)
    (h : FirstFlaw (offset + Text.byteLength piece) rest before f) :
    FirstFlaw offset (piece ++ rest) (piece ++ before) f := by
  refine ⟨hpiece.flaw_behind h.flaw, ?_⟩
  intro before' f' hflaw
  obtain ⟨more, rfl, hmore⟩ := hpiece.behind_of_flaw hflaw
  rw [List.length_append, List.length_append]
  exact Nat.add_le_add_left (h.first more f' hmore) _

theorem Placed.behind {t : Token} (hpiece : Piece rest piece)
    (h : Placed (offset + Text.byteLength piece) rest t) : Placed offset (piece ++ rest) t := by
  obtain ⟨before, after, hrest, hoffset, hrun⟩ := h
  refine ⟨piece ++ before, after, ?_, ?_, fun n hn => ?_⟩
  · rw [hrest, List.append_assoc]
  · rw [hoffset, Text.byteLength_append, Nat.add_assoc]
  · rw [hn] at hrest
    exact hpiece.run_behind hrest (hrun n hn)

/-- A piece that is a token comes before the other tokens. -/
theorem Tokenized.token {ts : List Token} {lexeme : Lexeme} (hpiece : Piece rest lexeme.chars)
    (h : Tokenized (offset + Text.byteLength lexeme.chars) rest ts) :
    Tokenized offset (lexeme.chars ++ rest) (⟨offset, lexeme⟩ :: ts) := by
  constructor
  · intro before f hflaw
    obtain ⟨more, -, hmore⟩ := hpiece.behind_of_flaw hflaw
    exact h.flawless more f hmore
  · intro t ht
    rcases List.mem_cons.1 ht with rfl | ht
    · refine ⟨[], rest, rfl, rfl, ?_⟩
      rintro n rfl
      exact hpiece.run
    · exact (h.placed t ht).behind hpiece
  · refine List.pairwise_cons.2 ⟨fun t ht => ?_, h.rising⟩
    obtain ⟨before, -, -, hoffset, -⟩ := h.placed t ht
    have hpos := lexeme.byteLength_chars_pos
    dsimp only
    omega
  · have hchars : lexeme.chars.filter (fun c => !Text.isBlank c) = lexeme.chars := by
      rw [List.filter_eq_self]
      intro c hc
      rw [lexeme.isBlank_of_mem hc]
      rfl
    rw [List.filter_append, hchars, h.spelled]
    rfl

/-- White space is no token. -/
theorem Tokenized.space {ts : List Token} {c : Char} (hblank : Text.isBlank c = true)
    (hpiece : Piece rest [c]) (h : Tokenized (offset + Text.byteLength [c]) rest ts) :
    Tokenized offset ([c] ++ rest) ts := by
  constructor
  · intro before f hflaw
    obtain ⟨more, -, hmore⟩ := hpiece.behind_of_flaw hflaw
    exact h.flawless more f hmore
  · exact fun t ht => (h.placed t ht).behind hpiece
  · exact h.rising
  · rw [List.filter_append, h.spelled, List.filter_cons_of_neg (by simp [hblank])]
    rfl

/-- What the scanner gives: the first wrong place, or all tokens if there is none. -/
inductive Scanned (offset : Nat) (cs : List Char) : Except Failure (List Token) → Prop
  | error {f : Failure} {before : List Char} (h : FirstFlaw offset cs before f) :
      Scanned offset cs (.error f)
  | ok {ts : List Token} (h : Tokenized offset cs ts) : Scanned offset cs (.ok ts)

theorem Scanned.token {lexeme : Lexeme} {result : Except Failure (List Token)}
    (hpiece : Piece rest lexeme.chars)
    (h : Scanned (offset + Text.byteLength lexeme.chars) rest result) :
    Scanned offset (lexeme.chars ++ rest) (do let ts ← result; return ⟨offset, lexeme⟩ :: ts) := by
  cases h with
  | error hflaw => exact .error (hflaw.behind hpiece)
  | ok hts => exact .ok (hts.token hpiece)

theorem Scanned.space {c : Char} {result : Except Failure (List Token)}
    (hblank : Text.isBlank c = true) (hpiece : Piece rest [c])
    (h : Scanned (offset + Text.byteLength [c]) rest result) :
    Scanned offset ([c] ++ rest) result := by
  cases h with
  | error hflaw => exact .error (hflaw.behind hpiece)
  | ok hts => exact .ok (hts.space hblank hpiece)

/-- Digits and points at the front of a text, as many as there are. -/
theorem run_front {c : Char} (hc : isNumeric c = true) (rest : List Char) :
    Run [] (c :: rest.takeWhile isNumeric) (rest.dropWhile isNumeric) where
  ne_nil := List.cons_ne_nil _ _
  numeric d hd := by
    rcases List.mem_cons.1 hd with rfl | hd
    · exact hc
    · exact List.all_eq_true.1 List.all_takeWhile d hd
  before d hd := by cases hd
  after _ := Text.of_head?_dropWhile

/-- What stands at the front of a text is the first wrong place. -/
theorem FirstFlaw.front {cs : List Char} (h : Flaw offset cs [] f) : FirstFlaw offset cs [] f :=
  ⟨h, fun _ _ _ => Nat.zero_le _⟩

theorem scanned_scan (offset : Nat) (cs : List Char) : Scanned offset cs (scan offset cs) := by
  fun_induction scan offset cs with
  | case1 offset =>
    refine .ok ⟨?_, ?_, .nil, ?_⟩
    · intro before f hflaw
      cases hflaw with
      | stray h _ => simp at h
      | noNumber h hrun _ => exact hrun.ne_nil (by simp_all)
    · intro t ht
      cases ht
    · rfl
  | case2 offset c rest hblank ih =>
    have hpiece : Piece rest [c] := by
      refine .single (isNumeric_of_isBlank hblank) fun hstray => ?_
      have hnot := hstray.notBlank
      rw [hblank] at hnot
      cases hnot
    exact ih.space hblank hpiece
  | case3 offset c rest hblank sign hsign ih =>
    obtain ⟨hchars, hnumeric⟩ := chars_of_ofSign? hsign
    have hpiece : Piece rest sign.chars := by
      rw [hchars]
      refine .single hnumeric fun hstray => ?_
      rw [hstray.noSign] at hsign
      cases hsign
    have htoken : Scanned offset (sign.chars ++ rest)
        (do let ts ← scan (offset + c.utf8Size) rest; return ⟨offset, sign⟩ :: ts) :=
      .token hpiece (by rw [hchars]; exact ih)
    rwa [hchars] at htoken
  | case4 offset c rest hblank hsign hnumeric run hrun =>
    have hcut : c :: rest = [] ++ (run ++ rest.dropWhile isNumeric) := by
      rw [List.nil_append, List.cons_append, List.takeWhile_append_dropWhile]
    refine .error (.front (.noNumber hcut (run_front hnumeric rest) fun n hn => ?_))
    rw [← hn, Numeral.ofChars?_chars] at hrun
    cases hrun
  | case5 offset c rest hblank hsign hnumeric run n hn ih =>
    have hchars : (Lexeme.number n).chars = run := Numeral.chars_of_ofChars? hn
    have hpiece : Piece (rest.dropWhile isNumeric) (Lexeme.number n).chars :=
      .number n (fun _ => Text.of_head?_dropWhile)
    have htoken : Scanned offset ((Lexeme.number n).chars ++ rest.dropWhile isNumeric)
        (do let ts ← scan (offset + Text.byteLength run) (rest.dropWhile isNumeric)
            return ⟨offset, .number n⟩ :: ts) :=
      .token hpiece (by rw [hchars]; exact ih)
    rwa [hchars, List.cons_append, List.takeWhile_append_dropWhile] at htoken
  | case6 offset c rest hblank hsign hnumeric =>
    have hstray : Stray c := ⟨by simpa using hblank, hsign, by simpa using hnumeric⟩
    exact .error (.front (.stray rfl hstray))

end ChatBot.Calc
