-- The lines of a file of settings. A line is read in the same way whatever comes behind it,
-- and whether it can be read does not hang on what is set already. So a file with a bad line
-- is refused with one fault in every environment.
import Mathlib.Tactic.SplitIfs
import ChatBot.Config.EnvFile

namespace ChatBot.Config.EnvFile

/-! ## Values in two environments -/

section Values

variable {lookup : Lookup} {e : Option Nat} {f : LineFault} {line cs : List Char}

/-- What is set decides what a character adds, but not how the next one is meant. -/
theorem map_step (lookup other : Lookup) (c : Char) (mode : Mode) :
    (mode.step lookup c).map (·.2) = (mode.step other c).map (·.2) := by
  cases mode with
  | ordinary quoted => cases quoted <;> rfl
  | escaped quoted => rfl
  | literal => simp only [Mode.step]
  | name quoted read => simp only [Mode.step]; split_ifs <;> rfl
  | braced quoted read => simp only [Mode.step]; split_ifs <;> rfl
  | behind => simp only [Mode.step]

theorem isSome_finish? (lookup other : Lookup) (mode : Mode) :
    (mode.finish? lookup).isSome = (mode.finish? other).isSome := by
  cases mode with
  | name quoted read => cases quoted <;> rfl
  | _ => rfl

theorem valueFrom_error {index : Nat} {mode : Mode} (other : Lookup)
    (h : valueFrom lookup index mode cs = .error e) : valueFrom other index mode cs = .error e := by
  induction cs generalizing index mode with
  | nil =>
    have hsome := isSome_finish? lookup other mode
    unfold valueFrom at h ⊢
    cases hfinish : mode.finish? lookup <;> cases hfinish' : mode.finish? other <;> simp_all
  | cons c rest ih =>
    have hmap := map_step lookup other c mode
    unfold valueFrom at h ⊢
    by_cases hcomment : mode = .behind ∧ c = '#'
    · simp [hcomment] at h
    · rw [if_neg hcomment] at h ⊢
      cases hstep : mode.step lookup c with
      | none =>
        rw [hstep, Option.map_none, eq_comm, Option.map_eq_none_iff] at hmap
        rw [hstep] at h
        rw [hmap]
        exact h
      | some next =>
        obtain ⟨added, mode'⟩ := next
        rw [hstep, Option.map_some, eq_comm, Option.map_eq_some_iff] at hmap
        obtain ⟨⟨added', mode''⟩, hstep', hmode⟩ := hmap
        rw [hstep] at h
        rw [hstep']
        dsimp only at h hmode ⊢
        rw [hmode]
        cases hmore : valueFrom lookup (index + 1) mode' rest with
        | ok more => simp [hmore] at h
        | error e' =>
          rw [hmore] at h
          obtain rfl : e' = e := Except.error.inj h
          rw [ih hmore]

theorem value_error (other : Lookup) (h : value lookup cs = .error f) :
    value other cs = .error f := by
  unfold value at h ⊢
  cases hvalue : valueFrom lookup 0 (.ordinary false) cs with
  | ok v => simp [hvalue] at h
  | error e =>
    rw [hvalue] at h
    rw [valueFrom_error other hvalue]
    exact h

/-- A line that cannot be read in one environment cannot be read in any. -/
theorem assignment_error (other : Lookup) (h : assignment lookup line = .error f) :
    assignment other line = .error f := by
  unfold assignment at h ⊢
  dsimp only at h ⊢
  by_cases hover : (Place.skip Text.isBlank ⟨Text.trimEnd line, 0⟩).isOver = true
  · rw [if_pos hover] at h ⊢
    exact h
  · rw [if_neg hover] at h ⊢
    cases hkey : keyAndPlace (Place.skip Text.isBlank ⟨Text.trimEnd line, 0⟩) with
    | error p =>
      rw [hkey] at h
      exact h
    | ok found =>
      obtain ⟨key, p⟩ := found
      rw [hkey] at h
      dsimp only at h ⊢
      by_cases hempty : (p.skip Text.isBlank).isOver = true
      · rw [if_pos hempty] at h ⊢
        exact h
      · rw [if_neg hempty] at h ⊢
        cases hvalue : value lookup (p.skip Text.isBlank).rest with
        | ok v => simp [hvalue] at h
        | error g =>
          rw [hvalue] at h
          rw [value_error other hvalue]
          exact h

end Values

/-! ## Lines -/

section Lines

variable {cs more : List Char}

theorem physicalLines_cons {c : Char} (hc : c ≠ '\n') (rest : List Char) :
    physicalLines (c :: rest) =
      (c :: (physicalLines rest).headD []) :: (physicalLines rest).tail := by
  simp only [physicalLines]
  cases physicalLines rest <;> rfl

theorem physicalLines_ne_nil (h : cs ≠ []) : physicalLines cs ≠ [] := by
  cases cs with
  | nil => exact absurd rfl h
  | cons c rest =>
    by_cases hc : c = '\n'
    · simp [hc, physicalLines]
    · simp [physicalLines_cons hc]

/-- Behind a line end, a new line begins. -/
theorem physicalLines_append (h : cs = [] ∨ cs.getLast? = some '\n') (more : List Char) :
    physicalLines (cs ++ more) = physicalLines cs ++ physicalLines more := by
  induction cs with
  | nil => rfl
  | cons c rest ih =>
    have hlast : (c :: rest).getLast? = some '\n' := h.resolve_left (by simp)
    have hrest : rest = [] ∨ rest.getLast? = some '\n' := by
      cases rest with
      | nil => exact .inl rfl
      | cons d rest => exact .inr (by simpa using hlast)
    by_cases hc : c = '\n'
    · simp [hc, physicalLines, ih hrest]
    · have hne : rest ≠ [] := by
        rintro rfl
        exact hc (by simpa using hlast)
      obtain ⟨line, lines, hlines⟩ := List.exists_cons_of_ne_nil (physicalLines_ne_nil hne)
      rw [List.cons_append, physicalLines_cons hc, physicalLines_cons hc, ih hrest, hlines]
      rfl

/-- A line of the file either ends a line that is read, or leaves one open. -/
theorem logicalLines_cons (pending : List Char) (edge : Edge) (line : List Char) :
    (∃ words, ∀ more, logicalLines pending edge (line :: more) =
      .ok words :: logicalLines [] .plain more) ∨
    ∃ edge', edge' ≠ .plain ∧ ∀ more, logicalLines pending edge (line :: more) =
      logicalLines (pending ++ line) edge' more := by
  by_cases hcomment : (Text.trimStart (pending ++ line)).head? = some '#'
  · exact .inl ⟨[], fun more => by simp [logicalLines, hcomment]⟩
  · rcases hscan : scanLine edge line with ⟨kept, last⟩
    cases last with
    | none => exact .inl ⟨pending ++ kept, fun more => by simp [logicalLines, hcomment, hscan]⟩
    | some edge' =>
      by_cases hedge : edge' = .plain
      · exact .inl ⟨dropLineEnd (pending ++ line), fun more => by
          simp [logicalLines, hcomment, hscan, hedge]⟩
      · refine .inr ⟨edge', hedge, fun more => ?_⟩
        cases edge' <;> simp_all [logicalLines]

theorem logicalLines_append {pending : List Char} {edge : Edge} {lines : List (List Char)}
    (hedge : edge = .plain → pending = [])
    (hclosed : ∀ row ∈ logicalLines pending edge lines, ∃ words, row = .ok words)
    (more : List (List Char)) :
    logicalLines pending edge (lines ++ more) =
      logicalLines pending edge lines ++ logicalLines [] .plain more := by
  induction lines generalizing pending edge with
  | nil =>
    by_cases hplain : edge = .plain
    · simp [hplain, hedge hplain, logicalLines]
    · simp [logicalLines, hplain] at hclosed
  | cons line lines ih =>
    rcases logicalLines_cons pending edge line with ⟨words, hwords⟩ | ⟨edge', hopen, hlines⟩
    · rw [hwords] at hclosed
      rw [List.cons_append, hwords, hwords, List.cons_append,
        ih (fun _ => rfl) (List.forall_mem_cons.1 hclosed).2]
    · rw [hlines] at hclosed
      rw [List.cons_append, hlines, hlines, ih (fun hplain => absurd hplain hopen) hclosed]

/-- The lines of a text, as they are read. -/
def linesOf (cs : List Char) : List (Except LineFault (List Char)) :=
  logicalLines [] .plain (physicalLines cs)

/-- A text of whole lines: the last of them has ended, and nothing is left open. -/
structure Whole (cs : List Char) : Prop where
  ended : cs = [] ∨ cs.getLast? = some '\n'
  closed : ∀ row ∈ linesOf cs, ∃ words, row = .ok words

/-- Behind whole lines, a text is read as if it stood by itself. -/
theorem Whole.linesOf_append (h : Whole cs) (more : List Char) :
    linesOf (cs ++ more) = linesOf cs ++ linesOf more := by
  unfold linesOf
  rw [physicalLines_append h.ended]
  exact logicalLines_append (fun _ => rfl) h.closed _

end Lines

/-! ## Bad lines -/

/-- A line that cannot be read: what is open at the end of the file, or what writes no
assignment. -/
def IsBad : Except LineFault (List Char) → Prop
  | .error _ => True
  | .ok line => ∃ lookup f, assignment lookup line = .error f

/-- The first bad line is the fault, whatever is set. -/
theorem readLines_of_bad {rows : List (Except LineFault (List Char))}
    (h : ∃ row ∈ rows, IsBad row) :
    ∃ f, ∀ lookup pairs, readLines lookup pairs rows = .error f := by
  induction rows with
  | nil => simp at h
  | cons row more ih =>
    cases row with
    | error f => exact ⟨f, fun lookup pairs => rfl⟩
    | ok line =>
      by_cases hbad : IsBad (.ok line)
      · obtain ⟨lookup, f, hf⟩ := hbad
        refine ⟨f, fun other pairs => ?_⟩
        simp [readLines, assignment_error (withPairs other pairs) hf]
      · have hmore : ∃ row ∈ more, IsBad row := by
          obtain ⟨row, hrow, hrowbad⟩ := h
          rcases List.mem_cons.1 hrow with rfl | hrow
          · exact absurd hrowbad hbad
          · exact ⟨row, hrow, hrowbad⟩
        obtain ⟨f, hf⟩ := ih hmore
        refine ⟨f, fun lookup pairs => ?_⟩
        unfold readLines
        cases hline : assignment (withPairs lookup pairs) line with
        | error g => exact absurd ⟨_, g, hline⟩ hbad
        | ok pair => cases pair <;> exact hf _ _

/-- A file without bad lines is read. -/
theorem readLines_of_good {rows : List (Except LineFault (List Char))}
    (h : ∀ row ∈ rows, ¬ IsBad row) (lookup : Lookup) (pairs : Pairs) :
    ∃ all, readLines lookup pairs rows = .ok all := by
  induction rows generalizing pairs with
  | nil => exact ⟨pairs, rfl⟩
  | cons row more ih =>
    obtain ⟨hrow, hmore⟩ := List.forall_mem_cons.1 h
    cases row with
    | error f => exact absurd trivial hrow
    | ok line =>
      unfold readLines
      cases hline : assignment (withPairs lookup pairs) line with
      | error g => exact absurd ⟨_, g, hline⟩ hrow
      | ok pair => cases pair <;> exact ih hmore _

end ChatBot.Config.EnvFile
