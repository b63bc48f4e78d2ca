-- Files of settings that are written plainly: a line for each pair, with the value in single
-- quotes, and blank lines and comments anywhere between. Such a file says its pairs in their
-- order, each value as it is.
import ChatBot.Proofs.Config.Lines
import ChatBot.Proofs.Text.Stripping

namespace ChatBot.Config.EnvFile

open Text (isBlank)

/-! ## Plain files -/

/-- A key of the bot: its prefix, with letters, digits and underscores behind it. -/
def IsBotKey (key : String) : Prop :=
  ∃ rest, key.toList = "MXBOT_".toList ++ rest ∧ ∀ c ∈ rest, c.isAlphanum = true ∨ c = '_'

/-- A value that single quotes hold as it is, on one line. -/
def IsQuotable (v : String) : Prop :=
  ∀ c ∈ v.toList, c ≠ '\'' ∧ c ≠ '\\' ∧ c ≠ '\x00' ∧ c ≠ '\r' ∧ c ≠ '\n'

/-- White space on one line. -/
def IsSpace (cs : List Char) : Prop := ∀ c ∈ cs, isBlank c = true ∧ c ≠ '\n'

/-- What makes the line of a pair. The word `export` may stand in front of the key. -/
structure IsPair (lead key v : String) : Prop where
  lead : lead = "" ∨ lead = "export "
  key : IsBotKey key
  value : IsQuotable v

/-- The line of a pair. -/
def pairLine (lead key v : String) : List Char :=
  lead.toList ++ (key.toList ++ '=' :: '\'' :: (v.toList ++ ['\'']))

/-- A line of a plain file without its line end, and the pairs that it writes. -/
inductive PlainLine : List Char → Pairs → Prop
  | blank {spaces : List Char} (h : IsSpace spaces) : PlainLine spaces []
  | comment {spaces words : List Char} (hspaces : IsSpace spaces) (hwords : '\n' ∉ words) :
      PlainLine (spaces ++ '#' :: words) []
  | pair {lead key v : String} (h : IsPair lead key v) : PlainLine (pairLine lead key v) [(key, v)]

/-- A plain file, and its pairs in order. The last line need not have a line end, unless it is
blank: white space at the end of a file is no line. -/
inductive Plain : List Char → Pairs → Prop
  | nil : Plain [] []
  | line {line file : List Char} {pairs more : Pairs} (h : PlainLine line pairs)
      (hfile : Plain file more) : Plain (line ++ '\n' :: file) (pairs ++ more)
  | last {line : List Char} {pairs : Pairs} (h : PlainLine line pairs) (hword : ¬ IsSpace line) :
      Plain line pairs

/-! ## Characters -/

section Characters

variable {c : Char} {key : String} {p : Char → Bool}

/-- A kind of character that is neither a backslash nor a quote has no meaning of its own. -/
theorem outside_eq_plain (hp : p '\\' = false ∧ p '"' = false ∧ p '\'' = false) (h : p c = true) :
    Edge.outside c = .plain := by
  obtain ⟨hescape, hdouble, hsingle⟩ := hp
  have hne : c ≠ '\\' ∧ c ≠ '"' ∧ c ≠ '\'' := by
    refine ⟨?_, ?_, ?_⟩ <;> rintro rfl <;> simp_all
  simp [Edge.outside, hne]

theorem outside_of_isBlank (h : isBlank c = true) : Edge.outside c = .plain :=
  outside_eq_plain (by decide) h

theorem outside_of_isKeyPart (h : Place.isKeyPart c = true) : Edge.outside c = .plain :=
  outside_eq_plain (by decide) h

theorem isBlank_of_isAlphanum (h : c.isAlphanum = true) : isBlank c = false := by
  have hcases : (decide (65 ≤ c.toNat ∧ c.toNat ≤ 90) ||
      (decide (97 ≤ c.toNat) && decide (c.toNat ≤ 122)) ||
      (decide (48 ≤ c.toNat) && decide (c.toNat ≤ 57))) = true := h
  simp only [Bool.or_eq_true, Bool.and_eq_true, decide_eq_true_eq] at hcases
  simp only [isBlank, Bool.or_eq_false_iff, Bool.and_eq_false_iff, beq_eq_false_iff_ne,
    decide_eq_false_iff_not]
  omega

theorem isBlank_of_isKeyPart (h : Place.isKeyPart c = true) : isBlank c = false := by
  simp only [Place.isKeyPart, Bool.or_eq_true, beq_iff_eq] at h
  rcases h with (h | rfl) | rfl
  · exact isBlank_of_isAlphanum h
  · decide
  · decide

theorem ne_number_sign_of_isKeyPart (h : Place.isKeyPart c = true) : c ≠ '#' := by
  rintro rfl
  exact absurd h (by decide)

theorem IsBotKey.isKeyPart (h : IsBotKey key) : ∀ c ∈ key.toList, Place.isKeyPart c = true := by
  obtain ⟨rest, hkey, hrest⟩ := h
  rw [hkey, List.forall_mem_append]
  refine ⟨List.all_eq_true.1 (by decide), fun c hc => ?_⟩
  rcases hrest c hc with h | rfl
  · simp [Place.isKeyPart, h]
  · decide

theorem IsBotKey.first (h : IsBotKey key) : ∃ rest, key.toList = 'M' :: rest := by
  obtain ⟨rest, hkey, -⟩ := h
  exact ⟨_, hkey⟩

end Characters

/-! ## Where lines end -/

section Ends

variable {edge edge' last : Edge} {c : Char} {line cs front behind : List Char}

theorem physicalLines_line (h : '\n' ∉ line) (file : List Char) :
    physicalLines (line ++ '\n' :: file) = (line ++ ['\n']) :: physicalLines file := by
  induction line with
  | nil => rfl
  | cons c line ih =>
    rw [List.mem_cons, not_or] at h
    rw [List.cons_append, physicalLines_cons (Ne.symm h.1), ih h.2]
    rfl

theorem physicalLines_last (h : '\n' ∉ line) (hne : line ≠ []) : physicalLines line = [line] := by
  induction line with
  | nil => exact absurd rfl hne
  | cons c line ih =>
    rw [List.mem_cons, not_or] at h
    rw [physicalLines_cons (Ne.symm h.1)]
    by_cases hnil : line = []
    · simp [hnil, physicalLines]
    · simp [ih h.2 hnil]

theorem mem_of_mem_dropLineEnd (h : c ∈ dropLineEnd cs) : c ∈ cs := by
  have hcs : cs = cs.reverse.reverse := cs.reverse_reverse.symm
  unfold dropLineEnd at h
  split at h <;> simp_all

/-- A text has no comment in it and is left in some state. -/
def Scans (edge : Edge) (cs : List Char) (last : Edge) : Prop :=
  scanLine edge cs = (cs, some last)

theorem Scans.cons (hc : ¬ (edge = .blank ∧ c = '#')) (h : Scans (edge.next c) cs last) :
    Scans edge (c :: cs) last := by
  unfold Scans at h ⊢
  rw [scanLine, if_neg hc, h]

theorem Scans.append (h : Scans edge front edge') (h' : Scans edge' behind last) :
    Scans edge (front ++ behind) last := by
  induction front generalizing edge with
  | nil =>
    cases h
    exact h'
  | cons c front ih =>
    unfold Scans at h
    rw [scanLine] at h
    by_cases hc : edge = .blank ∧ c = '#'
    · simp [hc] at h
    · rw [if_neg hc] at h
      refine .cons hc (ih ?_)
      simpa [Scans, Prod.ext_iff] using h

theorem scans_blanks (hedge : edge = .plain ∨ edge = .blank) (h : ∀ c ∈ cs, isBlank c = true) :
    ∃ last, (last = .plain ∨ last = .blank) ∧ Scans edge cs last := by
  induction cs generalizing edge with
  | nil => exact ⟨edge, hedge, rfl⟩
  | cons c cs ih =>
    rw [List.forall_mem_cons] at h
    have hnext : edge.next c = .plain ∨ edge.next c = .blank := by
      rcases hedge with rfl | rfl
      · simp only [Edge.next, outside_of_isBlank h.1]
        split
        · exact .inr rfl
        · exact .inl rfl
      · exact .inl (outside_of_isBlank h.1)
    obtain ⟨last, hlast, hscan⟩ := ih hnext h.2
    refine ⟨last, hlast, .cons ?_ hscan⟩
    rintro ⟨-, rfl⟩
    exact absurd h.1 (by decide)

theorem scans_word (h : ∀ c ∈ cs, Place.isKeyPart c = true) : Scans .plain cs .plain := by
  induction cs with
  | nil => rfl
  | cons c cs ih =>
    rw [List.forall_mem_cons] at h
    refine .cons (by simp) ?_
    simpa [Edge.next, isBlank_of_isKeyPart h.1, outside_of_isKeyPart h.1] using ih h.2

theorem scans_quoted (h : ∀ c ∈ cs, c ≠ '\'' ∧ c ≠ '\\') : Scans .single cs .single := by
  induction cs with
  | nil => rfl
  | cons c cs ih =>
    rw [List.forall_mem_cons] at h
    refine .cons (by simp) ?_
    simpa [Edge.next, h.1] using ih h.2

theorem scans_value {v : String} (h : IsQuotable v) :
    Scans .plain ('=' :: '\'' :: (v.toList ++ ['\''])) .plain := by
  have hquoted : Scans .single v.toList .single :=
    scans_quoted fun c hc => ⟨(h c hc).1, (h c hc).2.1⟩
  exact .cons (by simp) (.cons (by simp) (hquoted.append rfl))

theorem IsPair.scans {lead key v : String} (h : IsPair lead key v) :
    Scans .plain (pairLine lead key v) .plain := by
  have hword := h.key.isKeyPart
  rcases h.lead with rfl | rfl
  · exact (scans_word hword).append (scans_value h.value)
  · obtain ⟨rest, hrest⟩ := h.key.first
    rw [hrest, List.forall_mem_cons] at hword
    -- the blank behind the first word is over with the first letter of the key
    have hscan : Scans .blank key.toList .plain := by
      rw [hrest]
      exact .cons (by simp) (scans_word hword.2)
    exact Scans.append rfl (hscan.append (scans_value h.value))

end Ends

/-! ## Keys and values -/

section Pairs

variable {lookup : Lookup} {p q r t : Place} {word behind cs : List Char} {offset : Nat}

theorem skip_eq_self {isSkipped : Char → Bool}
    (h : ∀ c, p.rest.head? = some c → isSkipped c = false) : p.skip isSkipped = p := by
  have hnone : ∀ c ∈ ([] : List Char), isSkipped c = true := by simp
  obtain ⟨htake, hdrop⟩ := Text.span_append hnone h
  rw [List.nil_append] at htake hdrop
  simp [Place.skip, htake, hdrop]

theorem key?_append (hfirst : ∃ c rest, word = c :: rest ∧ Place.isKeyStart c = true)
    (hword : ∀ c ∈ word, Place.isKeyPart c = true)
    (hbehind : ∀ c, behind.head? = some c → Place.isKeyPart c = false) (offset : Nat) :
    ∃ offset', Place.key? ⟨word ++ behind, offset⟩ =
      some (word, ⟨behind.dropWhile isBlank, offset'⟩) := by
  obtain ⟨c, rest, rfl, hc⟩ := hfirst
  obtain ⟨htake, hdrop⟩ := Text.span_append hword hbehind
  rw [List.cons_append] at htake hdrop ⊢
  simp only [Place.key?, hc, Place.skip, htake, hdrop]
  exact ⟨_, rfl⟩

theorem keyAndPlace_of_key (hkey : p.key? = some (word, q)) (hequals : q.equals? = some r) :
    keyAndPlace p = .ok (word, r) := by
  simp [keyAndPlace, hkey, hequals]

/-- The word `export` is no key if another word follows. -/
theorem keyAndPlace_of_export (hexport : p.key? = some ("export".toList, q))
    (hnone : q.equals? = none) (hkey : q.key? = some (word, r)) (hequals : r.equals? = some t) :
    keyAndPlace p = .ok (word, t) := by
  simp only [keyAndPlace, hexport, hnone, hkey, hequals, if_true]

theorem key?_botKey {key : String} (h : IsBotKey key) (behind : List Char) (offset : Nat) :
    ∃ offset', Place.key? ⟨key.toList ++ '=' :: behind, offset⟩ =
      some (key.toList, ⟨'=' :: behind, offset'⟩) := by
  obtain ⟨rest, hrest⟩ := h.first
  refine key?_append ⟨'M', rest, hrest, by decide⟩ h.isKeyPart ?_ offset
  rintro c ⟨⟩
  decide

theorem key?_export {key : String} (h : IsBotKey key) (behind : List Char) (offset : Nat) :
    ∃ offset', Place.key? ⟨"export ".toList ++ (key.toList ++ behind), offset⟩ =
      some ("export".toList, ⟨key.toList ++ behind, offset'⟩) := by
  have hword : ∀ c ∈ "export".toList, Place.isKeyPart c = true := List.all_eq_true.1 (by decide)
  have hbehind : ∀ c, (' ' :: (key.toList ++ behind)).head? = some c →
      Place.isKeyPart c = false := by
    rintro c ⟨⟩
    decide
  obtain ⟨offset', hoffset⟩ := key?_append ⟨'e', _, rfl, by decide⟩ hword hbehind offset
  have hdrop : (' ' :: (key.toList ++ behind)).dropWhile isBlank = key.toList ++ behind := by
    obtain ⟨rest, hrest⟩ := h.first
    rw [hrest]
    rfl
  rw [hdrop] at hoffset
  exact ⟨offset', hoffset⟩

theorem keyAndPlace_pair {lead key : String} (hlead : lead = "" ∨ lead = "export ")
    (hkey : IsBotKey key) (behind : List Char) (offset : Nat) :
    ∃ offset', keyAndPlace ⟨lead.toList ++ (key.toList ++ '=' :: behind), offset⟩ =
      .ok (key.toList, ⟨behind, offset'⟩) := by
  rcases hlead with rfl | rfl
  · obtain ⟨offset', hread⟩ := key?_botKey hkey behind offset
    exact ⟨offset' + 1, keyAndPlace_of_key hread rfl⟩
  · obtain ⟨offset₁, hexport⟩ := key?_export hkey ('=' :: behind) offset
    obtain ⟨offset₂, hread⟩ := key?_botKey hkey behind offset₁
    have hnone : Place.equals? ⟨key.toList ++ '=' :: behind, offset₁⟩ = none := by
      obtain ⟨rest, hrest⟩ := hkey.first
      rw [hrest]
      rfl
    exact ⟨offset₂ + 1, keyAndPlace_of_export hexport hnone hread rfl⟩

theorem valueFrom_literal (h : '\'' ∉ cs) (index : Nat) :
    valueFrom lookup index .literal (cs ++ ['\'']) = .ok cs := by
  induction cs generalizing index with
  | nil => rfl
  | cons c cs ih =>
    rw [List.mem_cons, not_or] at h
    simp [valueFrom, Mode.step, Ne.symm h.1, ih h.2]

theorem value_quoted (h : '\'' ∉ cs) : value lookup ('\'' :: (cs ++ ['\''])) = .ok cs := by
  unfold value
  rw [valueFrom]
  simp [Mode.step, valueFrom_literal h]

end Pairs

/-! ## Lines -/

section Lines

variable {lookup : Lookup} {lead key v : String} {line ending cs : List Char} {pairs : Pairs}

theorem assignment_of_blank (lookup : Lookup) (h : ∀ c ∈ cs, isBlank c = true) :
    assignment lookup cs = .ok none := by
  have htrim : Text.trimEnd cs = [] := by
    refine Text.rdropWhile_eq_iff.2 ⟨⟨cs, rfl, h⟩, ?_⟩
    rintro c ⟨⟩
  unfold assignment
  rw [htrim]
  rfl

theorem pairLine_last (lead key v : String) :
    ∃ front, pairLine lead key v = front ++ ['\''] :=
  ⟨lead.toList ++ (key.toList ++ '=' :: '\'' :: v.toList), by simp [pairLine]⟩

namespace IsPair

theorem first (h : IsPair lead key v) :
    ∃ c rest, pairLine lead key v = c :: rest ∧ Place.isKeyPart c = true := by
  rcases h.lead with rfl | rfl
  · obtain ⟨rest, hrest⟩ := h.key.first
    refine ⟨'M', rest ++ '=' :: '\'' :: (v.toList ++ ['\'']), ?_, by decide⟩
    unfold pairLine
    rw [hrest]
    rfl
  · exact ⟨'e', _, rfl, by decide⟩

theorem newline_not_mem (h : IsPair lead key v) : '\n' ∉ pairLine lead key v := by
  have hlead : '\n' ∉ lead.toList := by rcases h.lead with rfl | rfl <;> decide
  have hkey : '\n' ∉ key.toList := fun hmem => absurd (h.key.isKeyPart _ hmem) (by decide)
  have hvalue : '\n' ∉ v.toList := fun hmem => (h.value _ hmem).2.2.2.2 rfl
  simp [pairLine, hlead, hkey, hvalue]

theorem assignment (h : IsPair lead key v) (lookup : Lookup) :
    assignment lookup (pairLine lead key v) = .ok (some (key, v)) := by
  obtain ⟨front, hfront⟩ := pairLine_last lead key v
  obtain ⟨c, rest, hcons, hc⟩ := h.first
  have htrim : Text.trimEnd (pairLine lead key v) = pairLine lead key v := by
    rw [hfront, Text.trimEnd_concat, if_neg (by decide)]
  have hstart : Place.skip isBlank ⟨pairLine lead key v, 0⟩ = ⟨pairLine lead key v, 0⟩ := by
    refine skip_eq_self fun d hd => ?_
    rw [hcons] at hd
    cases hd
    exact isBlank_of_isKeyPart hc
  have hover : Place.isOver ⟨pairLine lead key v, 0⟩ = false := by
    simpa [Place.isOver, hcons] using ne_number_sign_of_isKeyPart hc
  obtain ⟨offset, hplace⟩ := keyAndPlace_pair h.lead h.key ('\'' :: (v.toList ++ ['\''])) 0
  have hskip : Place.skip isBlank ⟨'\'' :: (v.toList ++ ['\'']), offset⟩ =
      ⟨'\'' :: (v.toList ++ ['\'']), offset⟩ := by
    refine skip_eq_self ?_
    rintro d ⟨⟩
    decide
  have hopen : Place.isOver ⟨'\'' :: (v.toList ++ ['\'']), offset⟩ = false := rfl
  have hquote : '\'' ∉ v.toList := fun hmem => (h.value _ hmem).1 rfl
  change keyAndPlace ⟨pairLine lead key v, 0⟩ = _ at hplace
  unfold EnvFile.assignment
  simp [htrim, hstart, hover, hplace, hskip, hopen, value_quoted hquote]

end IsPair

/-- A line of the file is read by itself, and adds some pairs. -/
def Adds (line : List Char) (pairs : Pairs) : Prop :=
  ∃ row, (∀ more, logicalLines [] .plain (line :: more) = row :: logicalLines [] .plain more) ∧
    ∀ lookup before rows,
      readLines lookup before (row :: rows) = readLines lookup (before ++ pairs) rows

theorem adds_blank (h : IsSpace cs) : Adds (cs ++ ['\n']) [] := by
  have hspace : ∀ c ∈ cs ++ ['\n'], isBlank c = true := by
    rw [List.forall_mem_append]
    exact ⟨fun c hc => (h c hc).1, List.all_eq_true.1 (by decide)⟩
  have htrim : Text.trimStart (cs ++ ['\n']) = [] := List.dropWhile_eq_nil_iff.2 hspace
  have hscan : Scans .plain (cs ++ ['\n']) .plain := by
    obtain ⟨last, hlast, hscan⟩ := scans_blanks (.inl rfl) fun c hc => (h c hc).1
    refine hscan.append ?_
    rcases hlast with rfl | rfl <;> rfl
  refine ⟨.ok (dropLineEnd (cs ++ ['\n'])), fun more => ?_, fun lookup before rows => ?_⟩
  · rw [Scans] at hscan
    simp [logicalLines, htrim, hscan]
  · have hnone := assignment_of_blank (withPairs lookup before)
      fun c hc => hspace c (mem_of_mem_dropLineEnd hc)
    simp [readLines, hnone]

theorem adds_comment (h : IsSpace cs) (words : List Char) : Adds (cs ++ '#' :: words) [] := by
  have hhead : (Text.trimStart (cs ++ '#' :: words)).head? = some '#' := by
    have hdrop : (cs ++ '#' :: words).dropWhile isBlank = '#' :: words := by
      refine (Text.span_append (fun c hc => (h c hc).1) ?_).2
      rintro c ⟨⟩
      decide
    rw [Text.trimStart, hdrop]
    rfl
  refine ⟨.ok [], fun more => ?_, fun lookup before rows => ?_⟩
  · rw [logicalLines, List.nil_append, if_pos hhead]
  · have hnone : assignment (withPairs lookup before) [] = .ok none := rfl
    simp [readLines, hnone]

theorem IsPair.adds (h : IsPair lead key v) (hending : ending = ['\n'] ∨ ending = []) :
    Adds (pairLine lead key v ++ ending) [(key, v)] := by
  obtain ⟨front, hfront⟩ := pairLine_last lead key v
  obtain ⟨c, rest, hcons, hc⟩ := h.first
  have hhead : (Text.trimStart (pairLine lead key v ++ ending)).head? ≠ some '#' := by
    rw [hcons, List.cons_append, Text.trimStart_cons, if_neg (by simp [isBlank_of_isKeyPart hc])]
    simpa using ne_number_sign_of_isKeyPart hc
  have hscan : Scans .plain (pairLine lead key v ++ ending) .plain := by
    refine h.scans.append ?_
    rcases hending with rfl | rfl <;> rfl
  have hdrop : dropLineEnd (pairLine lead key v ++ ending) = pairLine lead key v := by
    rw [hfront]
    rcases hending with rfl | rfl <;> simp [dropLineEnd]
  refine ⟨.ok (pairLine lead key v), fun more => ?_, fun lookup before rows => ?_⟩
  · rw [Scans] at hscan
    simp [logicalLines, hhead, hscan, hdrop]
  · simp [readLines, h.assignment]

theorem PlainLine.adds (h : PlainLine line pairs) : Adds (line ++ ['\n']) pairs := by
  cases h with
  | blank h => exact adds_blank h
  | @comment spaces words hspaces _ =>
    rw [List.append_assoc]
    exact adds_comment hspaces (words ++ ['\n'])
  | pair h => exact h.adds (.inl rfl)

/-- At the end of the file, a line that is not blank needs no line end. -/
theorem PlainLine.adds_last (h : PlainLine line pairs) (hword : ¬ IsSpace line) :
    Adds line pairs := by
  cases h with
  | blank h => exact absurd h hword
  | comment hspaces _ => exact adds_comment hspaces _
  | pair h =>
    rw [← List.append_nil (pairLine _ _ _)]
    exact h.adds (.inr rfl)

theorem PlainLine.newline_not_mem (h : PlainLine line pairs) : '\n' ∉ line := by
  cases h with
  | blank h => exact fun hmem => (h _ hmem).2 rfl
  | comment hspaces hwords =>
    have hfront : '\n' ∉ _ := fun hmem => (hspaces _ hmem).2 rfl
    simp [hfront, hwords]
  | pair h => exact h.newline_not_mem

end Lines

/-! ## Files -/

variable {line cs : List Char} {pairs : Pairs} {file : String}

/-- A plain file is read as its pairs. -/
theorem Plain.readLines (h : Plain cs pairs) (lookup : Lookup) (before : Pairs) :
    readLines lookup before (linesOf cs) = .ok (before ++ pairs) := by
  induction h generalizing before with
  | nil => exact congrArg Except.ok before.append_nil.symm
  | line h hfile ih =>
    obtain ⟨row, hrow, hread⟩ := h.adds
    unfold linesOf at ih ⊢
    rw [physicalLines_line h.newline_not_mem, hrow, hread, ih, List.append_assoc]
  | @last line pairs h hword =>
    obtain ⟨row, hrow, hread⟩ := h.adds_last hword
    have hne : line ≠ [] := by
      rintro rfl
      exact hword (by simp [IsSpace])
    unfold linesOf
    rw [physicalLines_last h.newline_not_mem hne, hrow, hread]
    rfl

theorem PlainLine.head?_ne (h : PlainLine line pairs) : line.head? ≠ some '\ufeff' := by
  intro hhead
  cases h with
  | blank h => exact absurd (h _ (List.mem_of_mem_head? hhead)).1 (by decide)
  | @comment spaces words hspaces _ =>
    cases spaces with
    | nil => cases hhead
    | cons c spaces =>
      cases hhead
      exact absurd (hspaces _ List.mem_cons_self).1 (by decide)
  | pair h =>
    obtain ⟨c, rest, hcons, hc⟩ := h.first
    rw [hcons] at hhead
    cases hhead
    exact absurd hc (by decide)

/-- A plain file does not begin with a mark of the byte order. -/
theorem Plain.withoutByteOrderMark (h : Plain cs pairs) : Text.withoutByteOrderMark cs = cs := by
  have hhead : cs.head? ≠ some '\ufeff' := by
    cases h with
    | nil => simp
    | @line line _ _ _ h _ =>
      cases line with
      | nil => simp
      | cons c rest => exact h.head?_ne
    | last h _ => exact h.head?_ne
  unfold Text.withoutByteOrderMark
  split
  · exact absurd rfl hhead
  · rfl

/-- A plain file says its pairs, whatever is set already. -/
theorem Plain.read (h : Plain file.toList pairs) (lookup : Lookup) :
    read lookup file = .ok pairs := by
  have hread := h.readLines lookup []
  rw [EnvFile.read, h.withoutByteOrderMark]
  exact hread

end ChatBot.Config.EnvFile
