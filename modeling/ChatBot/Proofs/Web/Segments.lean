-- What a text becomes when it is added to a path: one segment that stands for
-- it. Dots are left out, and so are tabs and line ends.
import ChatBot.Proofs.Text.Letters
import ChatBot.Proofs.Web.Percent
import ChatBot.Web.Path

namespace ChatBot.Web

open Text (eq_or_capital_of_toLower eq_of_toLower)

/-! ## Segments that are dots -/

theorem e_of_toLower {c : Char} (h : c.toLower = 'e') : c = 'e' ∨ c = 'E' := by
  rcases eq_or_capital_of_toLower h with h | h
  · exact .inl h
  · right
    have he : 'e'.toNat = 101 := rfl
    have hE : 'E'.toNat = 69 := rfl
    exact Char.toNat_inj.1 (by omega)

/-- The two ways to write a dot. -/
def IsDot (way : List Char) : Prop := way = ['.'] ∨ way = ['%', '2', 'e']

/-- Whichever way a dot is written, it is read as a dot. -/
theorem percentDecode_dot {s way more : List Char} (hway : IsDot way)
    (h : s.map Char.toLower = way ++ more) :
    ∃ rest, rest.map Char.toLower = more ∧
      percentDecode s = String.utf8EncodeChar '.' ++ percentDecode rest := by
  rcases hway with rfl | rfl
  · obtain ⟨a, rest, rfl, ha, hrest⟩ := List.map_eq_cons_iff.1 h
    obtain rfl := eq_of_toLower ha (by decide)
    exact ⟨rest, hrest, percentDecode_cons (by decide) rest⟩
  · obtain ⟨a, s, rfl, ha, h⟩ := List.map_eq_cons_iff.1 h
    obtain ⟨b, s, rfl, hb, h⟩ := List.map_eq_cons_iff.1 h
    obtain ⟨c, rest, rfl, hc, hrest⟩ := List.map_eq_cons_iff.1 h
    obtain rfl := eq_of_toLower ha (by decide)
    obtain rfl := eq_of_toLower hb (by decide)
    refine ⟨rest, hrest, ?_⟩
    rcases e_of_toLower hc with rfl | rfl
    · rfl
    · rfl

namespace Path

theorem percentDecode_singleDot {s : List Char} (h : isSingleDot s = true) :
    percentDecode s = Text.utf8Bytes ['.'] := by
  obtain ⟨w, hw, hs⟩ := List.any_eq_true.1 h
  have hway : IsDot w.toList := by
    rcases List.mem_cons.1 hw with rfl | hw
    · exact .inl rfl
    rcases List.mem_singleton.1 hw with rfl
    exact .inr rfl
  have hmap : s.map Char.toLower = w.toList ++ [] := by
    rw [List.append_nil, eq_of_beq hs]
  obtain ⟨rest, hrest, hdecode⟩ := percentDecode_dot hway hmap
  rw [hdecode, List.map_eq_nil_iff.1 hrest]
  rfl

theorem percentDecode_doubleDot {s : List Char} (h : isDoubleDot s = true) :
    percentDecode s = Text.utf8Bytes ['.', '.'] := by
  obtain ⟨w, hw, hs⟩ := List.any_eq_true.1 h
  have hways : ∃ first second, IsDot first ∧ IsDot second ∧ w.toList = first ++ second := by
    rcases List.mem_cons.1 hw with rfl | hw
    · exact ⟨['.'], ['.'], .inl rfl, .inl rfl, rfl⟩
    rcases List.mem_cons.1 hw with rfl | hw
    · exact ⟨['%', '2', 'e'], ['%', '2', 'e'], .inr rfl, .inr rfl, rfl⟩
    rcases List.mem_cons.1 hw with rfl | hw
    · exact ⟨['%', '2', 'e'], ['.'], .inr rfl, .inl rfl, rfl⟩
    rcases List.mem_singleton.1 hw with rfl
    exact ⟨['.'], ['%', '2', 'e'], .inl rfl, .inr rfl, rfl⟩
  obtain ⟨first, second, hfirst, hsecond, hw⟩ := hways
  have hmap : s.map Char.toLower = first ++ (second ++ []) := by
    rw [List.append_nil, ← hw, eq_of_beq hs]
  obtain ⟨rest, hrest, hdecode⟩ := percentDecode_dot hfirst hmap
  obtain ⟨rest', hrest', hdecode'⟩ := percentDecode_dot hsecond hrest
  rw [hdecode, hdecode', List.map_eq_nil_iff.1 hrest']
  rfl

/-- Behind the encoding of a segment, only dots are dots. -/
theorem isSingleDot_encoded (cs : List Char) :
    isSingleDot (percentEncode keptInSegment cs) = true ↔ cs = ['.'] := by
  constructor
  · intro h
    have hdecode := percentDecode_singleDot h
    rw [percentDecode_percentEncode rfl] at hdecode
    exact Text.utf8Bytes_injective hdecode
  · rintro rfl
    decide

theorem isDoubleDot_encoded (cs : List Char) :
    isDoubleDot (percentEncode keptInSegment cs) = true ↔ cs = ['.', '.'] := by
  constructor
  · intro h
    have hdecode := percentDecode_doubleDot h
    rw [percentDecode_percentEncode rfl] at hdecode
    exact Text.utf8Bytes_injective hdecode
  · rintro rfl
    decide

/-! ## Segments that are added -/

/-- The segments that stay in front of those that are added: the path of nothing but a slash has
none. -/
def opened (path : Path) : Path := if path = [[]] then [] else path

theorem opened_opened (path : Path) : opened (opened path) = opened path := by
  unfold opened
  split
  · rfl
  · rfl

theorem opened_of_length {path : Path} (h : 2 ≤ path.length) : opened path = path := by
  apply if_neg
  rintro rfl
  exact absurd h (by decide)

theorem opened_append {path : Path} {s : List Char} (h : s ≠ []) :
    opened (path ++ [s]) = path ++ [s] := by
  apply if_neg
  intro heq
  have hs : s ∈ [([] : List Char)] := heq ▸ by simp
  exact h (List.mem_singleton.1 hs)

/-- What is left of a text in an address. -/
def visible (text : String) : List Char := text.toList.filter fun c => !vanishes c

theorem push_dots {path : Path} {text : String} (h : text = "." ∨ text = "..") :
    push path text = path := if_pos h

theorem push_of_not_dots {path : Path} {text : String} (h : ¬ (text = "." ∨ text = "..")) :
    push path text =
      if visible text = ['.', '.'] then (opened path).dropLast ++ [[]]
      else if visible text = ['.'] then opened path ++ [[]]
      else opened path ++ [percentEncode keptInSegment (visible text)] := by
  unfold push
  rw [if_neg h]
  unfold readSegment
  simp only [isSingleDot_encoded, isDoubleDot_encoded, if_true]
  rfl

/-- A text that is not made of dots, and of which nothing vanishes. -/
structure Intact (text : String) : Prop where
  ne_dot : text ≠ "."
  ne_dots : text ≠ ".."
  visible : ∀ c ∈ text.toList, vanishes c = false

theorem Intact.push_eq {text : String} (h : Intact text) (path : Path) :
    push path text = opened path ++ [percentEncode keptInSegment text.toList] := by
  have hvisible : Path.visible text = text.toList :=
    List.filter_eq_self.2 fun c hc => by simp [h.visible c hc]
  have hdots : text.toList ≠ ['.', '.'] := fun heq => h.ne_dots (String.toList_injective heq)
  have hdot : text.toList ≠ ['.'] := fun heq => h.ne_dot (String.toList_injective heq)
  have hnot : ¬ (text = "." ∨ text = "..") := by
    rintro (heq | heq)
    · exact h.ne_dot heq
    · exact h.ne_dots heq
  rw [push_of_not_dots hnot, hvisible, if_neg hdots, if_neg hdot]

/-! ## Segments that stand for themselves -/

/-- A text that is a segment as it stands. -/
structure Plain (text : String) : Prop where
  kept : ∀ c ∈ text.toList, keptInSegment c = true
  ne_empty : text ≠ ""
  ne_dot : text ≠ "."
  ne_dots : text ≠ ".."

theorem not_vanishes_of_kept {c : Char} (h : keptInSegment c = true) : vanishes c = false := by
  cases hv : vanishes c with
  | false => rfl
  | true =>
    simp only [vanishes, Bool.or_eq_true, beq_iff_eq] at hv
    rcases hv with (rfl | rfl) | rfl
    · revert h
      decide
    · revert h
      decide
    · revert h
      decide

theorem Plain.push_eq {text : String} (h : Plain text) (path : Path) :
    push path text = opened path ++ [text.toList] := by
  have hintact : Intact text :=
    ⟨h.ne_dot, h.ne_dots, fun c hc => not_vanishes_of_kept (h.kept c hc)⟩
  rw [hintact.push_eq, percentEncode_of_kept h.kept]

theorem pushAll_of_opened {path : Path} {texts : List String} (hpath : opened path = path)
    (h : ∀ text ∈ texts, Plain text) : pushAll path texts = path ++ texts.map String.toList := by
  induction texts generalizing path with
  | nil => exact (List.append_nil _).symm
  | cons text more ih =>
    have htext := h text List.mem_cons_self
    have hne : text.toList ≠ [] := fun heq => htext.ne_empty (String.toList_injective heq)
    have hpush : push path text = path ++ [text.toList] := by rw [htext.push_eq, hpath]
    have hopened : opened (push path text) = push path text := by
      rw [hpush, opened_append hne]
    have hmore := ih hopened fun t ht => h t (List.mem_cons_of_mem text ht)
    rw [List.map_cons, List.append_cons, ← hpush]
    exact hmore

theorem pushAll_cons {path : Path} {text : String} {more : List String}
    (h : ∀ t ∈ text :: more, Plain t) :
    pushAll path (text :: more) = opened path ++ (text :: more).map String.toList := by
  have htext := h text List.mem_cons_self
  have hsame : push path text = push (opened path) text := by
    rw [htext.push_eq, htext.push_eq, opened_opened]
  have hpush : pushAll path (text :: more) = pushAll (opened path) (text :: more) :=
    congrArg (pushAll · more) hsame
  rw [hpush, pushAll_of_opened (opened_opened path) h]

end Path

end ChatBot.Web
