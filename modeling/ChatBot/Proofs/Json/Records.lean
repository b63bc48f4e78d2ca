-- How the fields of a structure stand in a document: as the members of an object,
-- each known name once, or as the items of an array, in order. Exactly what stands
-- so is read, and nothing else about an object matters.
import Mathlib.Data.List.Perm.Basic
import ChatBot.Json.Shape

namespace ChatBot

/-- Items are read one by one. -/
theorem mapM_eq_some_iff {α β : Type} {f : α → Option β} {items : List α} {values : List β} :
    items.mapM f = some values ↔ List.Forall₂ (fun a b => f a = some b) items values := by
  induction items generalizing values with
  | nil => cases values <;> simp
  | cons a more ih =>
    rw [List.mapM_cons]
    cases ha : f a with
    | none => cases values <;> simp [ha]
    | some b =>
      cases hmore : more.mapM f with
      | none => cases values <;> simp [ha, ← ih, hmore]
      | some bs => cases values <;> simp [ha, ← ih, hmore]

/-- Items that are read, beside what they are read as. A row of `γ` has both. -/
theorem mapM_eq_some_iff_exists {α β γ : Type} {f : α → Option β} (item : γ → α) (value : γ → β)
    (hboth : ∀ {a b}, f a = some b → ∃ c, item c = a ∧ value c = b) {items : List α}
    {values : List β} :
    items.mapM f = some values ↔ ∃ both : List γ, items = both.map item ∧
      values = both.map value ∧ ∀ c ∈ both, f (item c) = some (value c) := by
  rw [mapM_eq_some_iff]
  constructor
  · intro h
    induction h with
    | nil => exact ⟨[], rfl, rfl, by simp⟩
    | cons hread _ ih =>
      obtain ⟨c, rfl, rfl⟩ := hboth hread
      obtain ⟨both, rfl, rfl, hall⟩ := ih
      exact ⟨c :: both, rfl, rfl, List.forall_mem_cons.2 ⟨hread, hall⟩⟩
  · rintro ⟨both, rfl, rfl, hall⟩
    rw [List.forall₂_map_left_iff, List.forall₂_map_right_iff, List.forall₂_same]
    exact hall

/-- Items in another order are read as the same values in another order. -/
theorem exists_mapM_of_perm {α β : Type} {f : α → Option β} {items other : List α}
    {values : List β} (h : other.Perm items) (hvalues : items.mapM f = some values) :
    ∃ values', other.mapM f = some values' ∧ values'.Perm values := by
  obtain ⟨values', hvalues', hperm⟩ := List.perm_comp_forall₂ h (mapM_eq_some_iff.1 hvalues)
  exact ⟨values', mapM_eq_some_iff.2 hvalues', hperm⟩

/-- Where the order of the values does not matter, that of the items does not. -/
theorem map_mapM_perm {α β γ : Type} {f : α → Option β} {collect : List β → γ}
    {items other : List α} (h : items.Perm other)
    (hcollect : ∀ {values values'}, items.mapM f = some values → values.Perm values' →
      collect values = collect values') :
    (items.mapM f).map collect = (other.mapM f).map collect := by
  cases hitems : items.mapM f with
  | none =>
    cases hother : other.mapM f with
    | none => rfl
    | some values' =>
      obtain ⟨values, hvalues, -⟩ := exists_mapM_of_perm h hother
      rw [hitems] at hvalues
      cases hvalues
  | some values =>
    obtain ⟨values', hvalues', hperm⟩ := exists_mapM_of_perm h.symm hitems
    rw [hvalues', Option.map_some, Option.map_some, hcollect hitems hperm.symm]

/-- An item may be replaced by one that is read alike. -/
theorem mapM_replace {α β : Type} {f : α → Option β} {a a' : α} (h : f a = f a')
    (before after : List α) : (before ++ a :: after).mapM f = (before ++ a' :: after).mapM f := by
  rw [List.mapM_append, List.mapM_append, List.mapM_cons, List.mapM_cons, h]

namespace Json.Tree

/-! ## Fields -/

/-- Where a field stands among the members of an object: there once, or nowhere if it may be
missing. -/
inductive InObject (members : List (Option String × Tree)) (f : Field) : Option Tree → Prop
  | given {before after : List (Option String × Tree)} {t : Tree} :
      members = before ++ (some f.name, t) :: after →
      (∀ m ∈ before ++ after, m.1 ≠ some f.name) → InObject members f (some t)
  | missing : f.presence ≠ .required → (∀ m ∈ members, m.1 ≠ some f.name) →
      InObject members f none

/-- How the fields of a structure stand in a document. The names of an object have to be texts;
an array may end before fields at the end that have a default. -/
inductive Lays (fs : List Field) : Tree → List (Option Tree) → Prop
  | object {members : List (Option String × Tree)} {parts : List (Option Tree)} :
      (∀ m ∈ members, m.1.isSome) → List.Forall₂ (InObject members) fs parts →
      Lays fs (.object members) parts
  | array {items : List Tree} : items.length ≤ fs.length →
      (∀ f ∈ fs.drop items.length, f.presence = .defaulted) →
      Lays fs (.array items) (items.map some ++ List.replicate (fs.length - items.length) none)

theorem named_eq_nil_iff {name : String} {members : List (Option String × Tree)} :
    named name members = [] ↔ ∀ m ∈ members, m.1 ≠ some name := by
  simp [named]

theorem named_append (name : String) (before after : List (Option String × Tree)) :
    named name (before ++ after) = named name before ++ named name after := by
  simp [named]

theorem named_cons_self (name : String) (t : Tree) (more : List (Option String × Tree)) :
    named name ((some name, t) :: more) = t :: named name more := by
  simp [named]

theorem named_cons_of_ne {name : String} {m : Option String × Tree} (h : m.1 ≠ some name)
    (more : List (Option String × Tree)) : named name (m :: more) = named name more := by
  simp [named, h]

/-- A name that stands in an object has a first place there. -/
theorem named_eq_cons_iff {name : String} {members : List (Option String × Tree)} {t : Tree}
    {ts : List Tree} :
    named name members = t :: ts ↔ ∃ before after, members = before ++ (some name, t) :: after ∧
      (∀ m ∈ before, m.1 ≠ some name) ∧ named name after = ts := by
  constructor
  · intro h
    induction members with
    | nil => cases h
    | cons m more ih =>
      obtain ⟨other, u⟩ := m
      by_cases hother : other = some name
      · subst hother
        rw [named_cons_self, List.cons.injEq] at h
        obtain ⟨rfl, hts⟩ := h
        exact ⟨[], more, rfl, by simp, hts⟩
      · rw [named_cons_of_ne hother] at h
        obtain ⟨before, after, rfl, hbefore, hts⟩ := ih h
        exact ⟨(other, u) :: before, after, rfl, List.forall_mem_cons.2 ⟨hother, hbefore⟩, hts⟩
  · rintro ⟨before, after, rfl, hbefore, rfl⟩
    rw [named_append, named_eq_nil_iff.2 hbefore, named_cons_self, List.nil_append]

theorem fieldOf?_eq_some_iff {members : List (Option String × Tree)} {f : Field}
    {part : Option Tree} : fieldOf? members f = some part ↔ InObject members f part := by
  unfold fieldOf?
  constructor
  · intro h
    split at h
    · rename_i hnone
      split at h
      · cases h
      · rename_i hpresence
        cases h
        exact .missing hpresence (named_eq_nil_iff.1 hnone)
    · rename_i t hone
      cases h
      obtain ⟨before, after, rfl, hbefore, hafter⟩ := named_eq_cons_iff.1 hone
      refine .given rfl fun m hm => ?_
      rcases List.mem_append.1 hm with hm | hm
      · exact hbefore m hm
      · exact named_eq_nil_iff.1 hafter m hm
    · cases h
  · intro h
    cases h with
    | @given before after t hmembers hothers =>
      have hone : named f.name members = [t] := named_eq_cons_iff.2
        ⟨before, after, hmembers, fun m hm => hothers m (List.mem_append_left _ hm),
          named_eq_nil_iff.2 fun m hm => hothers m (List.mem_append_right _ hm)⟩
      rw [hone]
    | missing hpresence hothers =>
      rw [named_eq_nil_iff.2 hothers]
      exact if_neg hpresence

theorem fieldsInOrder?_eq_some_iff {fs : List Field} {items : List Tree}
    {parts : List (Option Tree)} :
    fieldsInOrder? fs items = some parts ↔ items.length ≤ fs.length ∧
      (∀ f ∈ fs.drop items.length, f.presence = .defaulted) ∧
      parts = items.map some ++ List.replicate (fs.length - items.length) none := by
  fun_induction fieldsInOrder? fs items generalizing parts with
  | case1 => simp [eq_comm]
  | case2 => simp
  | case3 f fs hdefaulted ih =>
    simp only [Option.map_eq_some_iff, ih]
    constructor
    · rintro ⟨more, ⟨-, hrest, rfl⟩, rfl⟩
      simpa [hdefaulted, List.replicate_succ] using hrest
    · rintro ⟨-, hrest, rfl⟩
      refine ⟨List.replicate fs.length none, ?_, by simp [List.replicate_succ]⟩
      simpa [hdefaulted] using hrest
  | case4 f fs hdefaulted =>
    simp only [reduceCtorEq, false_iff, not_and]
    intro _ hrest
    exact absurd (hrest f (by simp)) hdefaulted
  | case5 f fs t ts ih =>
    simp only [Option.map_eq_some_iff, ih]
    constructor
    · rintro ⟨more, ⟨hfits, hrest, rfl⟩, rfl⟩
      simpa using ⟨hfits, hrest⟩
    · rintro ⟨hfits, hrest, rfl⟩
      refine ⟨_, ⟨by simpa using hfits, by simpa using hrest, rfl⟩, by simp⟩

/-- The fields of a structure are found just where they stand. -/
theorem fields?_eq_some_iff {fs : List Field} {t : Tree} {parts : List (Option Tree)} :
    t.fields? fs = some parts ↔ Lays fs t parts := by
  constructor
  · intro h
    unfold fields? at h
    split at h
    · split at h
      · rename_i hnames
        apply Lays.object (by simpa using hnames)
        exact (mapM_eq_some_iff.1 h).imp fun _ _ => fieldOf?_eq_some_iff.1
      · cases h
    · obtain ⟨hfits, hrest, rfl⟩ := fieldsInOrder?_eq_some_iff.1 h
      exact .array hfits hrest
    · cases h
  · intro h
    cases h with
    | object hnames hparts =>
      unfold fields?
      dsimp only
      rw [if_pos (by simpa using hnames)]
      exact mapM_eq_some_iff.2 (hparts.imp fun _ _ => fieldOf?_eq_some_iff.2)
    | array hfits hrest => exact fieldsInOrder?_eq_some_iff.2 ⟨hfits, hrest, rfl⟩

/-! ## What a field stands for -/

/-- A part with a value of its own when it is missing. -/
inductive Part {α : Type} (missing : α) (Is : Tree → α → Prop) : Option Tree → α → Prop
  | missing : Part missing Is none missing
  | given {t : Tree} {a : α} : Is t a → Part missing Is (some t) a

/-- A text. -/
def IsText (t : Tree) (s : String) : Prop := t = .text (some s)

/-- A text, or null. -/
inductive IsTextOrNull : Tree → Option String → Prop
  | null : IsTextOrNull .null none
  | text (s : String) : IsTextOrNull (.text (some s)) (some s)

theorem text?_eq_some_iff {t : Tree} {s : String} : t.text? = some s ↔ IsText t s := by
  unfold IsText
  cases t <;> simp [text?]

theorem orElse_eq_some_iff {α : Type} {missing : α} {read : Tree → Option α}
    {Is : Tree → α → Prop} (h : ∀ t a, read t = some a ↔ Is t a) {part : Option Tree} {a : α} :
    orElse missing read part = some a ↔ Part missing Is part a := by
  cases part with
  | none =>
    constructor
    · intro hread
      cases hread
      exact .missing
    · rintro ⟨⟩
      rfl
  | some t =>
    constructor
    · exact fun hread => .given ((h t a).1 hread)
    · rintro (_ | ht)
      exact (h t a).2 ht

theorem textOrNull?_eq_some_iff {part : Option Tree} {s : Option String} :
    textOrNull? part = some s ↔ Part none IsTextOrNull part s := by
  constructor
  · intro h
    unfold textOrNull? at h
    split at h
    · cases h
      exact .missing
    · cases h
      exact .given .null
    · rename_i t _
      obtain ⟨s, hs, rfl⟩ := Option.map_eq_some_iff.1 h
      rw [text?_eq_some_iff.1 hs]
      exact .given (.text s)
  · intro h
    cases h with
    | missing => rfl
    | given ht => cases ht <;> rfl

end Json.Tree

end ChatBot
