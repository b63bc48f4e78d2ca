-- What a text is about, said without a search: a keyword stands somewhere in the text,
-- in small letters or capitals, and no word goes on around it. Of the rules that a text
-- meets, the first decides.
import Mathlib.Data.List.Forall2
import Mathlib.Data.List.TakeWhile
import ChatBot.Proofs.Text.Letters
import ChatBot.Reply.Category

namespace ChatBot.Reply

/-! ## Texts that keywords stand in -/

/-- The characters that count as a letter when case does not matter. -/
inductive CountsAs : (letter : Char) → Char → Prop
  | small {k : Char} : CountsAs k k
  | capital {k c : Char} (hcode : c.toNat + 32 = k.toNat) (hlow : 65 ≤ c.toNat)
      (hhigh : c.toNat ≤ 90) : CountsAs k c
  | kelvin : CountsAs 'k' '\u212a'
  | longS : CountsAs 's' '\u017f'

/-- A piece is a keyword, in whatever case. -/
def Folds (keyword piece : List Char) : Prop := List.Forall₂ CountsAs keyword piece

/-- A piece is a row of keywords, in whatever case, with white space between any two of them. -/
inductive Spells : (keywords : List (List Char)) → List Char → Prop
  | last {w piece : List Char} (h : Folds w piece) : Spells [w] piece
  | next {w piece gap rest : List Char} {ws : List (List Char)} (h : Folds w piece)
      (hgap : gap ≠ []) (hblank : ∀ c ∈ gap, Text.isBlank c = true) (hrest : Spells ws rest) :
      Spells (w :: ws) (piece ++ (gap ++ rest))

/-- No word goes on at the end of what stands before a piece. -/
def ClearBefore (before : List Char) : Prop :=
  ∀ c, before.getLast? = some c → Text.isWord c = false

/-- No word goes on at the front of what stands behind a piece. -/
def ClearBehind (behind : List Char) : Prop :=
  ∀ c, behind.head? = some c → Text.isWord c = false

/-- A text greets: it has hello, hi or hey as a word of its own. -/
def Greets (text : List Char) : Prop :=
  ∃ before piece behind, text = before ++ (piece ++ behind) ∧
    (Folds "hello".toList piece ∨ Folds "hi".toList piece ∨ Folds "hey".toList piece) ∧
    ClearBefore before ∧ ClearBehind behind

/-- A text asks how one is. -/
def AsksHow (text : List Char) : Prop :=
  ∃ before piece behind, text = before ++ (piece ++ behind) ∧
    Spells ["how".toList, "are".toList, "you".toList] piece ∧
    ClearBefore before ∧ ClearBehind behind

/-- A text thanks: a word in it begins with thank. -/
def Thanks (text : List Char) : Prop :=
  ∃ before piece behind, text = before ++ (piece ++ behind) ∧ Folds "thank".toList piece ∧
    ClearBefore before

/-! ## One keyword -/

/-- A small letter of ASCII. -/
def IsSmall (k : Char) : Prop := 97 ≤ k.toNat ∧ k.toNat ≤ 122

instance (k : Char) : Decidable (IsSmall k) := inferInstanceAs (Decidable (_ ∧ _))

theorem foldChar_eq_iff {k : Char} (hk : IsSmall k) (c : Char) :
    foldChar c = k ↔ CountsAs k c := by
  obtain ⟨hlow, hhigh⟩ := hk
  constructor
  · intro h
    unfold foldChar at h
    split at h
    · rename_i hkelvin
      subst hkelvin h
      exact .kelvin
    · split at h
      · rename_i hlong
        subst hlong h
        exact .longS
      · rcases Text.eq_or_capital_of_toLower h with rfl | ⟨hcode, hfrom, hto⟩
        · exact .small
        · exact .capital hcode hfrom hto
  · intro h
    have hkelvin : '\u212a'.toNat = 0x212A := rfl
    have hlong : '\u017f'.toNat = 0x17F := rfl
    cases h with
    | kelvin => rfl
    | longS => rfl
    | small =>
      have hk : k ≠ '\u212a' := by rintro rfl; omega
      have hs : k ≠ '\u017f' := by rintro rfl; omega
      unfold foldChar
      rw [if_neg hk, if_neg hs, Text.toLower_of_not_capital (by omega)]
    | capital hcode hfrom hto =>
      have hk : c ≠ '\u212a' := by rintro rfl; omega
      have hs : c ≠ '\u017f' := by rintro rfl; omega
      unfold foldChar
      rw [if_neg hk, if_neg hs, ← Char.toNat_inj, Text.toNat_toLower_of_capital hfrom hto, hcode]

/-- What counts as a letter is no white space. -/
theorem isBlank_of_countsAs {k c : Char} (hk : IsSmall k) (h : CountsAs k c) :
    Text.isBlank c = false := by
  obtain ⟨hlow, hhigh⟩ := hk
  cases h with
  | kelvin => rfl
  | longS => rfl
  | small =>
    simp only [Text.isBlank, Bool.or_eq_false_iff, Bool.and_eq_false_iff, decide_eq_false_iff_not,
      beq_eq_false_iff_ne]
    omega
  | capital hcode hfrom hto =>
    simp only [Text.isBlank, Bool.or_eq_false_iff, Bool.and_eq_false_iff, decide_eq_false_iff_not,
      beq_eq_false_iff_ne]
    omega

theorem afterKeyword?_eq_some_iff {w : List Char} (hw : ∀ k ∈ w, IsSmall k) (cs rest : List Char) :
    afterKeyword? w cs = some rest ↔ ∃ piece, cs = piece ++ rest ∧ Folds w piece := by
  induction w generalizing cs with
  | nil =>
    constructor
    · intro h
      cases h
      exact ⟨[], rfl, .nil⟩
    · rintro ⟨piece, rfl, hpiece⟩
      cases hpiece
      rfl
  | cons k ks ih =>
    obtain ⟨hk, hks⟩ := List.forall_mem_cons.1 hw
    constructor
    · intro h
      cases cs with
      | nil => cases h
      | cons c cs =>
        unfold afterKeyword? at h
        split at h
        · rename_i hfold
          obtain ⟨piece, rfl, hpiece⟩ := (ih hks cs).1 h
          exact ⟨c :: piece, rfl, .cons ((foldChar_eq_iff hk c).1 hfold) hpiece⟩
        · cases h
    · rintro ⟨piece, rfl, hpiece⟩
      cases hpiece with
      | @cons _ c _ piece hc hpiece =>
        have hrest := (ih hks (piece ++ rest)).2 ⟨piece, rfl, hpiece⟩
        rw [List.cons_append, afterKeyword?, if_pos ((foldChar_eq_iff hk c).2 hc), hrest]

/-! ## One phrase -/

/-- Keywords in small letters, none of them empty. -/
def Worded (ws : List (List Char)) : Prop := ∀ w ∈ ws, w ≠ [] ∧ ∀ k ∈ w, IsSmall k

theorem exists_head_of_folds {w : List Char} (hw : w ≠ [] ∧ ∀ k ∈ w, IsSmall k)
    {piece : List Char} (h : Folds w piece) :
    ∃ c more, piece = c :: more ∧ Text.isBlank c = false := by
  obtain ⟨hne, hsmall⟩ := hw
  cases h with
  | nil => exact absurd rfl hne
  | @cons k c _ more hc _ =>
    exact ⟨c, more, rfl, isBlank_of_countsAs (hsmall k List.mem_cons_self) hc⟩

/-- What is spelled does not begin with white space. -/
theorem exists_head_of_spells {ws : List (List Char)} (hws : Worded ws) {piece : List Char}
    (h : Spells ws piece) : ∃ c more, piece = c :: more ∧ Text.isBlank c = false := by
  cases h with
  | last hfolds => exact exists_head_of_folds (hws _ List.mem_cons_self) hfolds
  | next hfolds _ _ _ =>
    obtain ⟨c, more, rfl, hc⟩ := exists_head_of_folds (hws _ List.mem_cons_self) hfolds
    exact ⟨c, _, rfl, hc⟩

/-- White space is passed over up to what is spelled behind it. -/
theorem dropWhile_gap {gap more rest : List Char} {d : Char}
    (hgap : ∀ c ∈ gap, Text.isBlank c = true) (hd : Text.isBlank d = false) :
    (gap ++ (d :: more ++ rest)).dropWhile Text.isBlank = d :: more ++ rest := by
  rw [List.dropWhile_append_of_pos hgap]
  apply List.dropWhile_cons_of_neg
  rw [hd]
  exact Bool.false_ne_true

/-- Behind a keyword that is not the last one, the row goes on after white space. -/
theorem afterPhrase?_cons {w : List Char} {ws : List (List Char)} (hne : ws ≠ [])
    (cs rest : List Char) : afterPhrase? (w :: ws) cs = some rest ↔
      ∃ c behind, afterKeyword? w cs = some (c :: behind) ∧ Text.isBlank c = true ∧
        afterPhrase? ws (behind.dropWhile Text.isBlank) = some rest := by
  rw [afterPhrase?]
  · constructor
    · intro h
      split at h
      · rename_i c behind hfirst
        split at h
        · rename_i hblank
          exact ⟨c, behind, hfirst, hblank, h⟩
        · cases h
      · cases h
    · rintro ⟨c, behind, hfirst, hblank, hmore⟩
      rw [hfirst]
      dsimp only
      rw [if_pos hblank, hmore]
  · exact hne

theorem spells_singleton (w piece : List Char) : Spells [w] piece ↔ Folds w piece := by
  constructor
  · intro h
    cases h with
    | last hfolds => exact hfolds
    | next _ _ _ hrest => cases hrest
  · exact .last

/-- A row of keywords is a keyword, white space and the rest of the row, which does not begin with
white space. -/
theorem spells_cons {w : List Char} {ws : List (List Char)} (hne : ws ≠ []) (hws : Worded ws)
    (piece : List Char) : Spells (w :: ws) piece ↔ ∃ first c gap d more,
      piece = first ++ c :: (gap ++ d :: more) ∧ Folds w first ∧
        (∀ e ∈ c :: gap, Text.isBlank e = true) ∧ Text.isBlank d = false ∧
        Spells ws (d :: more) := by
  constructor
  · intro h
    cases h with
    | last => exact absurd rfl hne
    | @next _ first gap others _ hfolds hgap hblank hothers =>
      obtain ⟨c, gap, rfl⟩ := List.exists_cons_of_ne_nil hgap
      obtain ⟨d, more, rfl, hd⟩ := exists_head_of_spells hws hothers
      exact ⟨first, c, gap, d, more, rfl, hfolds, hblank, hd, hothers⟩
  · rintro ⟨first, c, gap, d, more, rfl, hfolds, hblank, -, hothers⟩
    exact .next hfolds (List.cons_ne_nil c gap) hblank hothers

theorem afterPhrase?_eq_some_iff {ws : List (List Char)} (hws : Worded ws) (hne : ws ≠ [])
    (cs rest : List Char) :
    afterPhrase? ws cs = some rest ↔ ∃ piece, cs = piece ++ rest ∧ Spells ws piece := by
  induction ws generalizing cs with
  | nil => exact absurd rfl hne
  | cons w ws ih =>
    obtain ⟨⟨-, hsmall⟩, hmore⟩ := List.forall_mem_cons.1 hws
    by_cases hlast : ws = []
    · subst hlast
      rw [show afterPhrase? [w] cs = afterKeyword? w cs from rfl, afterKeyword?_eq_some_iff hsmall]
      simp only [spells_singleton]
    · rw [afterPhrase?_cons hlast]
      constructor
      · rintro ⟨c, behind, hfirst, hblank, hrest⟩
        obtain ⟨first, rfl, hfolds⟩ := (afterKeyword?_eq_some_iff hsmall _ _).1 hfirst
        obtain ⟨others, hothers, hspells⟩ := (ih hmore hlast _).1 hrest
        have hgap : ∀ d ∈ c :: behind.takeWhile Text.isBlank, Text.isBlank d = true := by
          rintro d (_ | ⟨_, hd⟩)
          · exact hblank
          · exact List.mem_takeWhile_imp hd
        refine ⟨_, ?_, .next hfolds (List.cons_ne_nil _ _) hgap hspells⟩
        rw [List.append_assoc, List.append_assoc, ← hothers, List.cons_append,
          List.takeWhile_append_dropWhile]
      · rintro ⟨piece, rfl, hspells⟩
        obtain ⟨first, c, gap, d, more, rfl, hfolds, hblank, hd, hothers⟩ :=
          (spells_cons hlast hmore piece).1 hspells
        obtain ⟨hc, hgap⟩ := List.forall_mem_cons.1 hblank
        have hfirst : afterKeyword? w (first ++ c :: (gap ++ d :: more) ++ rest) =
            some (c :: (gap ++ (d :: more ++ rest))) :=
          (afterKeyword?_eq_some_iff hsmall _ _).2 ⟨first, by simp, hfolds⟩
        refine ⟨c, _, hfirst, hc, ?_⟩
        rw [dropWhile_gap hgap hd]
        exact (ih hmore hlast _).2 ⟨d :: more, rfl, hothers⟩

/-! ## One rule -/

namespace Rule

/-- The phrases of a rule are made of keywords in small letters. -/
def Worded (r : Rule) : Prop :=
  ∀ phrase ∈ r.phrases, phrase ≠ [] ∧ Reply.Worded (phrase.map String.toList)

/-- A rule applies to a text: one of its phrases stands in it, and no word goes on around it, or
around its front if the rule does not ask for whole words. -/
def Applies (r : Rule) (text : List Char) : Prop :=
  ∃ before piece behind, text = before ++ (piece ++ behind) ∧
    (∃ phrase ∈ r.phrases, Spells (phrase.map String.toList) piece) ∧
    ClearBefore before ∧ (r.wholeWord = true → ClearBehind behind)

theorem wordEnds_iff (cs : List Char) : wordEnds cs = true ↔ ClearBehind cs := by
  unfold wordEnds ClearBehind
  cases cs with
  | nil => simp
  | cons c more => simp

theorem startsHere_iff {r : Rule} (hr : r.Worded) (cs : List Char) :
    r.startsHere cs = true ↔ ∃ piece behind, cs = piece ++ behind ∧
      (∃ phrase ∈ r.phrases, Spells (phrase.map String.toList) piece) ∧
      (r.wholeWord = true → ClearBehind behind) := by
  unfold startsHere
  rw [List.any_eq_true]
  constructor
  · rintro ⟨phrase, hphrase, h⟩
    obtain ⟨hne, hworded⟩ := hr phrase hphrase
    split at h
    · rename_i behind hafter
      obtain ⟨piece, rfl, hspells⟩ :=
        (afterPhrase?_eq_some_iff hworded (by simpa using hne) _ _).1 hafter
      refine ⟨piece, behind, rfl, ⟨phrase, hphrase, hspells⟩, ?_⟩
      intro hwhole
      rw [hwhole] at h
      exact (wordEnds_iff behind).1 h
    · cases h
  · rintro ⟨piece, behind, rfl, ⟨phrase, hphrase, hspells⟩, hclear⟩
    obtain ⟨hne, hworded⟩ := hr phrase hphrase
    refine ⟨phrase, hphrase, ?_⟩
    rw [(afterPhrase?_eq_some_iff hworded (by simpa using hne) _ _).2 ⟨piece, rfl, hspells⟩]
    dsimp only
    cases hwhole : r.wholeWord with
    | false => rfl
    | true => exact (wordEnds_iff behind).2 (hclear hwhole)

/-- An occurrence begins behind some front of the text, and no word goes on from that front. -/
theorem occursAfter_iff (r : Rule) (inWord : Bool) (cs : List Char) :
    r.occursAfter inWord cs = true ↔ ∃ before rest, cs = before ++ rest ∧ rest ≠ [] ∧
      (before = [] → inWord = false) ∧ ClearBefore before ∧ r.startsHere rest = true := by
  induction cs generalizing inWord with
  | nil =>
    constructor
    · intro h
      cases h
    · rintro ⟨before, rest, hcs, hne, -⟩
      exact absurd (List.append_eq_nil_iff.1 hcs.symm).2 hne
  | cons c cs ih =>
    rw [occursAfter, Bool.or_eq_true, Bool.and_eq_true, Bool.not_eq_true', ih]
    constructor
    · rintro (⟨hclear, hstarts⟩ | ⟨before, rest, rfl, hne, hword, hclear, hstarts⟩)
      · exact ⟨[], c :: cs, rfl, List.cons_ne_nil c cs, fun _ => hclear, by simp [ClearBefore],
          hstarts⟩
      · refine ⟨c :: before, rest, rfl, hne, by simp, ?_, hstarts⟩
        intro d hd
        cases before with
        | nil =>
          cases hd
          exact hword rfl
        | cons e more => exact hclear d (by rwa [List.getLast?_cons_cons] at hd)
    · rintro ⟨before, rest, hcs, hne, hword, hclear, hstarts⟩
      cases before with
      | nil =>
        rw [List.nil_append] at hcs
        exact .inl ⟨hword rfl, hcs ▸ hstarts⟩
      | cons d before =>
        obtain ⟨rfl, rfl⟩ := List.cons.inj hcs
        refine .inr ⟨before, rest, rfl, hne, ?_, ?_, hstarts⟩
        · rintro rfl
          exact hclear c rfl
        · intro e he
          cases before with
          | nil => cases he
          | cons f more => exact hclear e (by rwa [List.getLast?_cons_cons])

theorem occursIn_iff {r : Rule} (hr : r.Worded) (text : String) :
    r.occursIn text = true ↔ r.Applies text.toList := by
  unfold occursIn
  rw [occursAfter_iff]
  constructor
  · rintro ⟨before, rest, htext, -, -, hclear, hstarts⟩
    obtain ⟨piece, behind, rfl, hspells, hbehind⟩ := (startsHere_iff hr rest).1 hstarts
    exact ⟨before, piece, behind, htext, hspells, hclear, hbehind⟩
  · rintro ⟨before, piece, behind, htext, hspells, hclear, hbehind⟩
    refine ⟨before, piece ++ behind, htext, ?_, fun _ => rfl, hclear,
      (startsHere_iff hr _).2 ⟨piece, behind, rfl, hspells, hbehind⟩⟩
    obtain ⟨phrase, hphrase, hspells⟩ := hspells
    obtain ⟨c, more, rfl, -⟩ := exists_head_of_spells (hr phrase hphrase).2 hspells
    exact List.cons_ne_nil _ _

end Rule

/-! ## The law of categories -/

theorem worded_rules : ∀ r ∈ rules, r.Worded := by
  have hall : ∀ r ∈ rules, ∀ phrase ∈ r.phrases, phrase ≠ [] ∧
      ∀ w ∈ phrase, w.toList ≠ [] ∧ w.toList.all (IsSmall ·) = true := by decide
  intro r hr phrase hphrase
  obtain ⟨hne, hwords⟩ := hall r hr phrase hphrase
  refine ⟨hne, ?_⟩
  intro w hw
  obtain ⟨word, hword, rfl⟩ := List.mem_map.1 hw
  obtain ⟨hfull, hsmall⟩ := hwords word hword
  exact ⟨hfull, fun k hk => of_decide_eq_true (List.all_eq_true.1 hsmall k hk)⟩

theorem greets_iff (text : String) :
    Greets text.toList ↔
      Rule.occursIn ⟨[["hello"], ["hi"], ["hey"]], true, .greeting⟩ text = true := by
  rw [Rule.occursIn_iff (worded_rules _ (by simp [rules]))]
  unfold Greets Rule.Applies
  simp [spells_singleton]

theorem asksHow_iff (text : String) :
    AsksHow text.toList ↔
      Rule.occursIn ⟨[["how", "are", "you"]], true, .wellBeing⟩ text = true := by
  rw [Rule.occursIn_iff (worded_rules _ (by simp [rules]))]
  unfold AsksHow Rule.Applies
  simp

theorem thanks_iff (text : String) :
    Thanks text.toList ↔ Rule.occursIn ⟨[["thank"]], false, .gratitude⟩ text = true := by
  rw [Rule.occursIn_iff (worded_rules _ (by simp [rules]))]
  unfold Thanks Rule.Applies
  simp [spells_singleton]

/-- What a text is about is decided by the first of the three rules that it meets. -/
theorem the_first_rule_that_a_text_meets_decides (text : String) :
    let cs := text.toList
    (categorize text = .greeting ↔ Greets cs) ∧
      (categorize text = .wellBeing ↔ ¬ Greets cs ∧ AsksHow cs) ∧
      (categorize text = .gratitude ↔ ¬ Greets cs ∧ ¬ AsksHow cs ∧ Thanks cs) ∧
      (categorize text = .fallback ↔ ¬ Greets cs ∧ ¬ AsksHow cs ∧ ¬ Thanks cs) := by
  intro cs
  rw [greets_iff, asksHow_iff, thanks_iff]
  unfold categorize rules
  simp only [List.find?_cons, List.find?_nil]
  cases Rule.occursIn ⟨[["hello"], ["hi"], ["hey"]], true, .greeting⟩ text with
  | true => simp
  | false =>
    cases Rule.occursIn ⟨[["how", "are", "you"]], true, .wellBeing⟩ text with
    | true => simp
    | false =>
      cases Rule.occursIn ⟨[["thank"]], false, .gratitude⟩ text with
      | true => simp
      | false => simp

end ChatBot.Reply
