-- Texts cut where a kind of character begins or ends. Trimming finds the piece of a text
-- between the white space at its two ends, and there is only one such piece.
import Mathlib.Data.List.DropRight
import ChatBot.Text.Blank

namespace ChatBot.Text

/-! ## Cuts -/

section Cuts

variable {α : Type} {p : α → Bool} {all front rest core : List α}

theorem of_head?_dropWhile {x : α} (h : (all.dropWhile p).head? = some x) : p x = false := by
  have hhead := List.head?_dropWhile_not p all
  rw [h] at hhead
  simpa using hhead

/-- A row is cut in front of its first item of another kind. -/
theorem span_append (hfront : ∀ x ∈ front, p x = true)
    (hrest : ∀ x, rest.head? = some x → p x = false) :
    (front ++ rest).takeWhile p = front ∧ (front ++ rest).dropWhile p = rest := by
  rw [List.takeWhile_append_of_pos hfront, List.dropWhile_append_of_pos hfront]
  cases rest with
  | nil => exact ⟨List.append_nil front, rfl⟩
  | cons x more =>
    have hx : ¬ p x = true := by simp [hrest x rfl]
    rw [List.takeWhile_cons_of_neg hx, List.dropWhile_cons_of_neg hx]
    exact ⟨List.append_nil front, rfl⟩

/-- A row is cut behind its last item of another kind. -/
theorem rdropWhile_eq_iff : all.rdropWhile p = core ↔
    (∃ behind, all = core ++ behind ∧ ∀ x ∈ behind, p x = true) ∧
      ∀ x, core.getLast? = some x → p x = false := by
  constructor
  · rintro rfl
    refine ⟨⟨all.rtakeWhile p, List.rdropWhile_append_rtakeWhile.symm,
      fun x => List.mem_rtakeWhile_imp⟩, fun x hx => ?_⟩
    unfold List.rdropWhile at hx
    rw [List.getLast?_reverse] at hx
    exact of_head?_dropWhile hx
  · rintro ⟨⟨behind, rfl, hbehind⟩, hlast⟩
    have hdrop : (behind.reverse ++ core.reverse).dropWhile p = core.reverse := by
      refine (span_append (fun x hx => hbehind x (List.mem_reverse.1 hx)) fun x hx => ?_).2
      rw [List.head?_reverse] at hx
      exact hlast x hx
    unfold List.rdropWhile
    rw [List.reverse_append, hdrop, List.reverse_reverse]

end Cuts

/-! ## White space at the ends -/

variable {cs core : List Char}

/-- The piece of a text between the white space at its two ends. -/
structure Stripped (cs core : List Char) : Prop where
  cut : ∃ before behind, cs = before ++ (core ++ behind) ∧ (∀ c ∈ before, isBlank c = true) ∧
    ∀ c ∈ behind, isBlank c = true
  first : ∀ c, core.head? = some c → isBlank c = false
  last : ∀ c, core.getLast? = some c → isBlank c = false

theorem Stripped.trim_eq (h : Stripped cs core) : trim cs = core := by
  obtain ⟨⟨before, behind, rfl, hbefore, hbehind⟩, hfirst, hlast⟩ := h
  cases core with
  | nil =>
    have hstart : trimStart (before ++ behind) = [] := by
      apply List.dropWhile_eq_nil_iff.2
      exact List.forall_mem_append.2 ⟨hbefore, hbehind⟩
    rw [List.nil_append, trim, hstart]
    rfl
  | cons c more =>
    have hhead : ∀ d, (c :: (more ++ behind)).head? = some d → isBlank d = false := hfirst
    have hstart : trimStart (before ++ c :: (more ++ behind)) = c :: (more ++ behind) :=
      (span_append hbefore hhead).2
    rw [List.cons_append, trim, hstart]
    exact rdropWhile_eq_iff.2 ⟨⟨behind, rfl, hbehind⟩, hlast⟩

theorem stripped_of_trim_eq (h : trim cs = core) : Stripped cs core := by
  obtain ⟨⟨behind, hcore, hbehind⟩, hlast⟩ :=
    rdropWhile_eq_iff.1 (h : (trimStart cs).rdropWhile isBlank = core)
  refine ⟨⟨cs.takeWhile isBlank, behind, ?_, fun c => List.mem_takeWhile_imp, hbehind⟩,
    fun c hc => ?_, hlast⟩
  · rw [← hcore]
    exact List.takeWhile_append_dropWhile.symm
  · have hhead : (trimStart cs).head? = some c := by
      rw [hcore, List.head?_append, hc]
      rfl
    exact of_head?_dropWhile hhead

/-- Trimming finds the piece. -/
theorem stripped_iff : Stripped cs core ↔ trim cs = core :=
  ⟨Stripped.trim_eq, stripped_of_trim_eq⟩

end ChatBot.Text
