-- What is written is read back: the text of a document is read as its tree. Numbers
-- are left out, for they may be written as less than they are.
import Mathlib.Data.List.Forall2
import ChatBot.Json.Reader
import ChatBot.Json.Writer

namespace ChatBot.Json

variable {α β : Type}

/-! ## Readers that take what was written -/

/-- A reader takes a written text off the front, whatever comes behind it. -/
def Takes (read : Reader α) (written : List Char) (a : α) : Prop :=
  ∀ cs rest : List Char, cs = written ++ rest → ∃ r, read cs = some r ∧ r.value = a ∧ r.rest = rest

/-- A text begins with a character that is no white space, and not a given mark. -/
def BeginsBeside (c : Char) (written : List Char) : Prop :=
  ∃ d more, written = d :: more ∧ isSpace d = false ∧ d ≠ c

theorem dropWhile_isSpace {d : Char} (h : isSpace d = false) (more : List Char) :
    (d :: more).dropWhile isSpace = d :: more := by
  rw [List.dropWhile_cons, h]
  rfl

theorem Takes.afterSpace {read : Reader α} {d : Char} {more : List Char} {a : α}
    (h : Takes read (d :: more) a) (hd : isSpace d = false) :
    Takes (afterSpace read) (d :: more) a := by
  intro cs rest hcs
  have hdrop : cs.dropWhile isSpace = d :: more ++ rest := by
    rw [hcs, List.cons_append, dropWhile_isSpace hd]
  obtain ⟨r, hr, hvalue, hrest⟩ := h _ _ hdrop
  refine ⟨⟨r.value, r.rest, Nat.lt_of_lt_of_le r.shorter (length_dropWhile_le _ _)⟩, ?_, hvalue, hrest⟩
  unfold Json.afterSpace
  rw [hr]
  rfl

theorem takes_mark {c : Char} (h : isSpace c = false) : Takes (mark c) [c] () := by
  refine Takes.afterSpace ?_ h
  rintro cs rest rfl
  exact ⟨_, if_pos rfl, rfl, rfl⟩

theorem afterSpace_eq_none {read : Reader α} {cs : List Char}
    (h : read (cs.dropWhile isSpace) = none) : afterSpace read cs = none := by
  unfold Json.afterSpace
  rw [h]
  rfl

/-- A mark is not there where something else begins. -/
theorem mark_eq_none {c : Char} {written : List Char} (h : BeginsBeside c written)
    (rest : List Char) : mark c (written ++ rest) = none := by
  obtain ⟨d, more, rfl, hspace, hne⟩ := h
  apply afterSpace_eq_none
  rw [List.cons_append, dropWhile_isSpace hspace]
  exact if_neg hne

/-! ## Strings -/

/-- A piece of a string that stands for one character. -/
def StandsFor (p : Piece) (c : Char) : Prop :=
  ∀ more, joinPieces (p :: more) = (joinPieces more).map (c :: ·)

theorem standsFor_char (c : Char) : StandsFor (.char c) c := fun _ => rfl

/-- A unit that is no surrogate stands for a character of its own. -/
theorem standsFor_unit {c : Char} (h : c.toNat < 0xD800) : StandsFor (.unit c.toNat) c := by
  intro more
  have hlow : isLowSurrogate c.toNat = false := by
    simp [isLowSurrogate]
    omega
  have hhigh : isHighSurrogate c.toNat = false := by
    simp [isHighSurrogate]
    omega
  conv => lhs; rw [joinPieces.eq_def]
  simp [hlow, hhigh]

theorem takes_escape {letter c : Char} (hletter : letter ≠ 'u') (h : escapedChar? letter = some c) :
    Takes readPiece ['\\', letter] (.char c) := by
  rintro cs rest rfl
  refine ⟨⟨.char c, rest, show rest.length < rest.length + 2 by omega⟩, ?_, rfl, rfl⟩
  simp [readPiece, h, hletter]

theorem takes_hexadecimal {c : Char} (h : c.toNat < 0x20) :
    Takes readPiece ('\\' :: 'u' :: '0' :: '0' :: hexPair c.toNat) (.unit c.toNat) := by
  rintro cs rest rfl
  have hhigh := Text.hexDigit?_hexDigit (n := c.toNat / 16) (by omega)
  have hlow := Text.hexDigit?_hexDigit (n := c.toNat % 16) (by omega)
  have hzero : Text.hexDigit? '0' = some 0 := rfl
  refine ⟨⟨.unit c.toNat, rest, show rest.length < rest.length + 6 by omega⟩, ?_, rfl, rfl⟩
  simp [readPiece, hexPair, hhigh, hlow, hzero, Nat.div_add_mod']

theorem takes_itself {c : Char} (hslash : c ≠ '\\') (h : ¬ c.toNat < 0x20) :
    Takes readPiece [c] (.char c) := by
  rintro cs rest rfl
  refine ⟨⟨.char c, rest, by simp⟩, ?_, rfl, rfl⟩
  simp [readPiece, hslash, h]

/-- A character that is written is one piece when it is read. -/
theorem takes_writeChar (c : Char) : ∃ p, Takes readPiece (writeChar c) p ∧ StandsFor p c := by
  unfold writeChar
  split
  · exact ⟨_, takes_escape (by decide) rfl, standsFor_char _⟩
  · exact ⟨_, takes_escape (by decide) rfl, standsFor_char _⟩
  · exact ⟨_, takes_escape (by decide) rfl, standsFor_char _⟩
  · exact ⟨_, takes_escape (by decide) rfl, standsFor_char _⟩
  · exact ⟨_, takes_escape (by decide) rfl, standsFor_char _⟩
  · exact ⟨_, takes_escape (by decide) rfl, standsFor_char _⟩
  · exact ⟨_, takes_escape (by decide) rfl, standsFor_char _⟩
  · rename_i hslash _ _ _ _ _
    split
    · rename_i hcontrol
      exact ⟨_, takes_hexadecimal hcontrol, standsFor_unit (by omega)⟩
    · rename_i hcontrol
      exact ⟨_, takes_itself hslash hcontrol, standsFor_char c⟩

theorem beginsBeside_writeChar (c : Char) :
    ∃ d more, writeChar c = d :: more ∧ d ≠ '"' := by
  unfold writeChar
  split
  all_goals try exact ⟨'\\', _, rfl, by decide⟩
  rename_i hquote _ _ _ _ _ _
  split
  · exact ⟨'\\', _, rfl, by decide⟩
  · exact ⟨c, [], rfl, hquote⟩

/-- One more piece in front of a string. -/
theorem takes_cons_readPieces {d : Char} {more written : List Char} {p : Piece} {ps : List Piece}
    (hd : d ≠ '"') (hp : Takes readPiece (d :: more) p) (hps : Takes readPieces written ps) :
    Takes readPieces (d :: more ++ written) (p :: ps) := by
  rintro cs rest rfl
  obtain ⟨r, hr, rfl, hrest⟩ := hp _ _ (List.append_assoc (d :: more) written rest)
  obtain ⟨rs, hrs, rfl, hrest'⟩ := hps _ _ hrest
  refine ⟨⟨r.value :: rs.value, rs.rest, Nat.lt_trans rs.shorter r.shorter⟩, ?_, rfl, hrest'⟩
  rw [readPieces]
  · rw [hr]
    dsimp only
    rw [hrs]
  · intro rest' heq
    exact hd (List.cons.inj heq).1

theorem takes_readPieces (cs : List Char) :
    ∃ ps, Takes readPieces (cs.flatMap writeChar ++ ['"']) ps ∧ joinPieces ps = some cs := by
  induction cs with
  | nil =>
    refine ⟨[], ?_, rfl⟩
    rintro cs rest rfl
    refine ⟨⟨[], rest, Nat.lt_succ_self _⟩, ?_, rfl, rfl⟩
    change readPieces ('"' :: rest) = _
    rw [readPieces]
  | cons c cs ih =>
    obtain ⟨ps, hps, hjoin⟩ := ih
    obtain ⟨p, hp, hstands⟩ := takes_writeChar c
    obtain ⟨d, more, hwritten, hd⟩ := beginsBeside_writeChar c
    rw [hwritten] at hp
    refine ⟨p :: ps, ?_, ?_⟩
    · rw [List.flatMap_cons, hwritten, List.append_assoc]
      exact takes_cons_readPieces hd hp hps
    · rw [hstands, hjoin]
      rfl

/-- A text is read back. -/
theorem takes_readString (s : String) : Takes readString (writeText s) (some s) := by
  intro cs rest hcs
  obtain rfl : cs = '"' :: (s.toList.flatMap writeChar ++ ['"'] ++ rest) := hcs
  obtain ⟨ps, hps, hjoin⟩ := takes_readPieces s.toList
  obtain ⟨r, hr, hvalue, hrest⟩ := hps _ _ rfl
  refine ⟨(r.map fun ps => (joinPieces ps).map String.ofList).after, ?_, ?_, hrest⟩
  · change (readPieces _).map _ = _
    rw [hr]
    rfl
  · change (joinPieces r.value).map String.ofList = some s
    rw [hvalue, hjoin, Option.map_some, String.ofList_toList]

/-! ## Lists -/

/-- What stands behind the first item of a list: a comma in front of every other item. -/
def afterCommas (written : List (List Char)) : List Char := written.flatMap (',' :: ·)

theorem takes_readMore {close : Char} {item : Reader α} (hspace : isSpace close = false)
    (hcomma : close ≠ ',') {written : List (List Char)} {items : List α}
    (h : List.Forall₂ (Takes item) written items) :
    Takes (readMore close item) (afterCommas written ++ [close]) items := by
  induction h with
  | nil =>
    intro cs rest hcs
    obtain ⟨r, hr, -, hrest⟩ := takes_mark hspace _ _ hcs
    refine ⟨r.map fun _ => [], ?_, rfl, hrest⟩
    rw [readMore, hr]
  | @cons w a written items hitem _ ih =>
    intro cs rest hcs
    have hcs' : cs = [','] ++ (w ++ (afterCommas written ++ [close] ++ rest)) := by
      rw [hcs]
      simp [afterCommas]
    have hclose : mark close cs = none := by
      rw [hcs']
      exact mark_eq_none ⟨',', [], rfl, rfl, hcomma.symm⟩ _
    obtain ⟨comma, hcomma, -, hcommaRest⟩ := takes_mark rfl _ _ hcs'
    obtain ⟨first, hfirst, rfl, hfirstRest⟩ := hitem _ _ hcommaRest
    obtain ⟨more, hmore, rfl, hmoreRest⟩ := ih _ _ hfirstRest
    refine ⟨⟨first.value :: more.value, more.rest,
      Nat.lt_trans more.shorter (Nat.lt_trans first.shorter comma.shorter)⟩, ?_, rfl, hmoreRest⟩
    rw [readMore, hclose, hcomma]
    dsimp only
    rw [hfirst]
    dsimp only
    rw [hmore]

/-- Items with commas between them. -/
def withCommas : List (List Char) → List Char
  | [] => []
  | w :: more => w ++ afterCommas more

theorem takes_readList {close : Char} {item : Reader α} (hspace : isSpace close = false)
    (hcomma : close ≠ ',') {written : List (List Char)} {items : List α}
    (h : List.Forall₂ (Takes item) written items) (hbegin : ∀ w ∈ written, BeginsBeside close w) :
    Takes (readList close item) (withCommas written ++ [close]) items := by
  intro cs rest hcs
  cases h with
  | nil =>
    obtain ⟨r, hr, -, hrest⟩ := takes_mark hspace _ _ hcs
    refine ⟨r.map fun _ => [], ?_, rfl, hrest⟩
    unfold readList
    rw [hr]
  | @cons w a written items hitem hitems =>
    have hcs' : cs = w ++ (afterCommas written ++ [close] ++ rest) := by
      rw [hcs]
      simp [withCommas]
    have hclose : mark close cs = none := by
      rw [hcs']
      exact mark_eq_none (hbegin w List.mem_cons_self) _
    obtain ⟨first, hfirst, rfl, hfirstRest⟩ := hitem _ _ hcs'
    obtain ⟨more, hmore, rfl, hmoreRest⟩ := takes_readMore hspace hcomma hitems _ _ hfirstRest
    refine ⟨⟨first.value :: more.value, more.rest, Nat.lt_trans more.shorter first.shorter⟩, ?_,
      rfl, hmoreRest⟩
    unfold readList
    rw [hclose, hfirst]
    dsimp only
    rw [hmore]
    rfl

/-! ## Documents -/

/-- The text of a member. -/
def memberText (m : String × Value) : List Char := writeText m.1 ++ ':' :: m.2.chars

theorem itemChars_eq (vs : List Value) : Value.itemChars vs = withCommas (vs.map Value.chars) := by
  induction vs with
  | nil => simp [Value.itemChars, withCommas]
  | cons v vs ih =>
    cases vs with
    | nil => simp [Value.itemChars, withCommas, afterCommas]
    | cons v' vs =>
      rw [Value.itemChars, ih]
      · simp [withCommas, afterCommas]
      · exact fun h => nomatch h

theorem memberChars_eq (ms : List (String × Value)) :
    Value.memberChars ms = withCommas (ms.map memberText) := by
  induction ms with
  | nil => simp [Value.memberChars, withCommas]
  | cons m ms ih =>
    obtain ⟨name, v⟩ := m
    cases ms with
    | nil => simp [Value.memberChars, withCommas, afterCommas, memberText]
    | cons m' ms =>
      rw [Value.memberChars, ih]
      · simp [withCommas, afterCommas, memberText]
      · exact fun h => nomatch h

theorem trees_eq_map (vs : List Value) : Value.trees vs = vs.map Value.tree := by
  induction vs with
  | nil => simp [Value.trees]
  | cons v vs ih => simp [Value.trees, ih]

theorem memberTrees_eq_map (ms : List (String × Value)) :
    Value.memberTrees ms = ms.map fun m => (some m.1, m.2.tree) := by
  induction ms with
  | nil => simp [Value.memberTrees]
  | cons m ms ih => simp [Value.memberTrees, ih]

/-- A document without numbers. -/
inductive Wordy : Value → Prop
  | null : Wordy .null
  | bool (b : Bool) : Wordy (.bool b)
  | text (s : String) : Wordy (.text s)
  | array {items : List Value} : (∀ v ∈ items, Wordy v) → Wordy (.array items)
  | object {members : List (String × Value)} : (∀ m ∈ members, Wordy m.2) →
      Wordy (.object members)

/-- A document does not begin like the end of an array. -/
theorem Wordy.begins {v : Value} (h : Wordy v) : BeginsBeside ']' v.chars := by
  cases h with
  | null => exact ⟨'n', _, rfl, rfl, by decide⟩
  | bool b => cases b <;> exact ⟨_, _, rfl, rfl, by decide⟩
  | text s => exact ⟨'"', _, rfl, rfl, by decide⟩
  | array => exact ⟨'[', _, rfl, rfl, by decide⟩
  | object => exact ⟨'\x7b', _, rfl, rfl, by decide⟩

theorem takes_readMember {value : Reader Tree} {v : Value} (h : Takes value v.chars v.tree)
    (name : String) : Takes (readMember value) (memberText (name, v)) (some name, v.tree) := by
  intro cs rest hcs
  have hcs' : cs = writeText name ++ ([':'] ++ (v.chars ++ rest)) := by
    rw [hcs]
    simp [memberText]
  obtain ⟨first, hfirst, hname, hfirstRest⟩ := Takes.afterSpace (takes_readString name) rfl _ _ hcs'
  obtain ⟨colon, hcolon, -, hcolonRest⟩ := takes_mark rfl _ _ hfirstRest
  obtain ⟨r, hr, hvalue, hrest⟩ := h _ _ hcolonRest
  refine ⟨⟨(first.value, r.value), r.rest,
    Nat.lt_trans r.shorter (Nat.lt_trans colon.shorter first.shorter)⟩, ?_, ?_, hrest⟩
  · unfold readMember
    rw [hfirst]
    dsimp only
    rw [hcolon]
    dsimp only
    rw [hr]
    rfl
  · rw [← hname, ← hvalue]

theorem readWord_append (letters : List Char) (t : Tree) (rest : List Char) :
    ∃ p, readWord letters t (letters ++ rest) = some p ∧ p.value = t ∧ p.rest = rest := by
  have hprefix : letters.isPrefixOf (letters ++ rest) = true :=
    List.isPrefixOf_iff_prefix.2 (List.prefix_append letters rest)
  exact ⟨_, if_pos hprefix, rfl, List.drop_left⟩

/-- A word that is known by its first letter. -/
theorem takes_word {read : Reader Tree} {letter : Char} {letters : List Char} {t : Tree}
    (hread : ∀ rest, read (letter :: rest) =
      (readWord letters t rest).map fun p => ⟨p.value, p.rest, Nat.lt_succ_of_le p.within⟩) :
    Takes read (letter :: letters) t := by
  intro cs rest hcs
  obtain rfl : cs = letter :: (letters ++ rest) := hcs
  obtain ⟨p, hp, hvalue, hrest⟩ := readWord_append letters t rest
  refine ⟨⟨p.value, p.rest, Nat.lt_succ_of_le p.within⟩, ?_, hvalue, hrest⟩
  rw [hread, hp]
  rfl

/-- A list that is known by the character that opens it. -/
theorem takes_opened {read : Reader Tree} {opening close : Char} {item : Reader α}
    {make : List α → Tree} (hread : ∀ rest, read (opening :: rest) =
      (readList close item rest).map fun r => (r.map make).after)
    {written : List (List Char)} {items : List α}
    (h : Takes (readList close item) (withCommas written ++ [close]) items) :
    Takes read (opening :: withCommas written ++ [close]) (make items) := by
  intro cs rest hcs
  obtain rfl : cs = opening :: (withCommas written ++ [close] ++ rest) := hcs
  obtain ⟨r, hr, hvalue, hrest⟩ := h _ _ rfl
  refine ⟨(r.map make).after, ?_, congrArg make hvalue, hrest⟩
  rw [hread, hr]
  rfl

theorem takes_text (inner : Reader Tree) (s : String) :
    Takes (valueWith inner) (Value.text s).chars (.text (some s)) := by
  refine Takes.afterSpace ?_ rfl
  intro cs rest hcs
  obtain rfl : cs = '"' :: (s.toList.flatMap writeChar ++ ['"'] ++ rest) := hcs
  obtain ⟨r, hr, hvalue, hrest⟩ := takes_readString s (writeText s ++ rest) rest rfl
  refine ⟨r.map .text, ?_, congrArg Tree.text hvalue, hrest⟩
  change (readString (writeText s ++ rest)).map _ = _
  rw [hr]
  rfl

theorem takes_array {inner : Reader Tree} {items : List Value}
    (h : ∀ v ∈ items, Takes inner v.chars v.tree) (hbegin : ∀ v ∈ items, BeginsBeside ']' v.chars) :
    Takes (valueWith inner) (Value.array items).chars (Value.array items).tree := by
  rw [Value.chars, Value.tree, itemChars_eq, trees_eq_map]
  refine Takes.afterSpace (takes_opened (fun _ => rfl) (takes_readList rfl (by decide) ?_ ?_)) rfl
  · rw [List.forall₂_map_left_iff, List.forall₂_map_right_iff, List.forall₂_same]
    exact h
  · simpa using hbegin

theorem takes_object {inner : Reader Tree} {members : List (String × Value)}
    (h : ∀ m ∈ members, Takes inner m.2.chars m.2.tree) :
    Takes (valueWith inner) (Value.object members).chars (Value.object members).tree := by
  rw [Value.chars, Value.tree, memberChars_eq, memberTrees_eq_map]
  refine Takes.afterSpace (takes_opened (fun _ => rfl) (takes_readList rfl (by decide) ?_ ?_)) rfl
  · rw [List.forall₂_map_left_iff, List.forall₂_map_right_iff, List.forall₂_same]
    exact fun m hm => takes_readMember (h m hm) m.1
  · intro w hw
    obtain ⟨m, -, rfl⟩ := List.mem_map.1 hw
    exact ⟨'"', _, rfl, rfl, by decide⟩

/-! ## Whole documents -/

theorem length_le_withCommas {w : List Char} {written : List (List Char)} (h : w ∈ written) :
    w.length ≤ (withCommas written).length := by
  cases written with
  | nil => cases h
  | cons first more =>
    rw [withCommas, List.length_append]
    cases h with
    | head => omega
    | tail _ hmore =>
      have hsub : (',' :: w).length ≤ (afterCommas more).length :=
        (List.sublist_flatten_of_mem (List.mem_map.2 ⟨w, hmore, rfl⟩)).length_le
      rw [List.length_cons] at hsub
      omega

/-- A document needs no more room than it has characters. -/
theorem Wordy.takes {v : Value} (h : Wordy v) {room : Nat} (hroom : v.chars.length ≤ room) :
    Takes (readValue (room + 1)) v.chars v.tree := by
  induction h generalizing room with
  | null =>
    change Takes (valueWith _) ('n' :: "ull".toList) .null
    exact Takes.afterSpace (takes_word fun _ => rfl) rfl
  | bool b =>
    cases b with
    | true =>
      change Takes (valueWith _) ('t' :: "rue".toList) (.bool true)
      exact Takes.afterSpace (takes_word fun _ => rfl) rfl
    | false =>
      change Takes (valueWith _) ('f' :: "alse".toList) (.bool false)
      exact Takes.afterSpace (takes_word fun _ => rfl) rfl
  | text s => exact takes_text _ s
  | @array items hitems ih =>
    rw [Value.chars, itemChars_eq, List.length_append, List.length_cons] at hroom
    cases room with
    | zero => omega
    | succ room =>
      refine takes_array (fun v hv => ih v hv ?_) fun v hv => (hitems v hv).begins
      have hle := length_le_withCommas (List.mem_map_of_mem (f := Value.chars) hv)
      omega
  | @object members hmembers ih =>
    rw [Value.chars, memberChars_eq, List.length_append, List.length_cons] at hroom
    cases room with
    | zero => omega
    | succ room =>
      refine takes_object fun m hm => ih m hm ?_
      have hle := length_le_withCommas (List.mem_map_of_mem (f := memberText) hm)
      rw [memberText, List.length_append, List.length_cons] at hle
      omega

/-- What is written is read back. -/
theorem Wordy.ofText?_render {v : Value} (h : Wordy v) : Tree.ofText? v.render = some v.tree := by
  obtain ⟨r, hr, hvalue, hrest⟩ := h.takes (Nat.le_refl _) _ _ (List.append_nil _).symm
  unfold Tree.ofText? Value.render
  rw [String.toList_ofList]
  dsimp only
  rw [hr]
  dsimp only
  rw [hrest, hvalue]
  rfl

end ChatBot.Json
