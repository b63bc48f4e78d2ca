-- The value that a document stands for: which documents have one, what it is, and
-- that the order of members with different names does not matter.
import Mathlib.Data.List.Induction
import Mathlib.Data.List.Nodup
import Mathlib.Data.String.Basic
import ChatBot.Proofs.Json.Records

namespace ChatBot.Json

/-! ## Documents that have a value -/

namespace Tree

/-- A member with its name and its value. -/
def memberOf? (room : Nat) (m : Option String × Tree) : Option (String × Value) := do
  let name ← m.1
  let v ← m.2.value? room
  return (name, v)

theorem values?_eq_mapM (room : Nat) (ts : List Tree) :
    values? room ts = ts.mapM (value? room) := by
  induction ts with
  | nil => simp [values?]
  | cons t ts ih =>
    rw [List.mapM_cons, values?, ih]
    cases value? room t with
    | none => rfl
    | some v => cases ts.mapM (value? room) <;> rfl

theorem members?_eq_mapM (room : Nat) (ms : List (Option String × Tree)) :
    members? room ms = ms.mapM (memberOf? room) := by
  induction ms with
  | nil => simp [members?]
  | cons m ms ih =>
    obtain ⟨name, t⟩ := m
    rw [List.mapM_cons, ← ih]
    cases name with
    | none => rfl
    | some name =>
      cases hv : value? room t with
      | none => simp [members?, memberOf?, hv]
      | some v => cases hms : members? room ms <;> simp [members?, memberOf?, hv, hms]

/-- A document of which every leaf and every name stands for something, with at most `room` levels
of arrays and objects inside each other. -/
inductive Fits : (room : Nat) → Tree → Prop
  | null {room : Nat} : Fits room .null
  | bool {room : Nat} (b : Bool) : Fits room (.bool b)
  | number {room : Nat} (n : Number) : Fits room (.number (some n))
  | text {room : Nat} (s : String) : Fits room (.text (some s))
  | array {room : Nat} {items : List Tree} : (∀ t ∈ items, Fits room t) →
      Fits (room + 1) (.array items)
  | object {room : Nat} {members : List (Option String × Tree)} :
      (∀ m ∈ members, m.1.isSome) → (∀ m ∈ members, Fits room m.2) →
      Fits (room + 1) (.object members)

theorem isSome_mapM_iff {α β : Type} (f : α → Option β) (items : List α) :
    (items.mapM f).isSome ↔ ∀ a ∈ items, (f a).isSome := by
  induction items with
  | nil => simp
  | cons a more ih =>
    rw [List.mapM_cons, List.forall_mem_cons, ← ih]
    cases f a with
    | none => simp
    | some b => cases more.mapM f <;> simp

theorem isSome_memberOf?_iff (room : Nat) (m : Option String × Tree) :
    (memberOf? room m).isSome ↔ m.1.isSome ∧ (m.2.value? room).isSome := by
  obtain ⟨name, t⟩ := m
  unfold memberOf?
  cases name with
  | none => simp
  | some name => cases t.value? room <;> simp

/-- Whatever fits has a value, and nothing else has. -/
theorem isSome_value?_iff (room : Nat) (t : Tree) : (t.value? room).isSome ↔ Fits room t := by
  constructor
  · intro h
    induction room generalizing t with
    | zero =>
      match t with
      | .null => exact .null
      | .bool b => exact .bool b
      | .number (some n) => exact .number n
      | .text (some s) => exact .text s
      | .number none | .text none | .array _ | .object _ => simp [value?] at h
    | succ room ih =>
      match t with
      | .null => exact .null
      | .bool b => exact .bool b
      | .number (some n) => exact .number n
      | .text (some s) => exact .text s
      | .number none | .text none => simp [value?] at h
      | .array items =>
        rw [value?, Option.isSome_map, values?_eq_mapM, isSome_mapM_iff] at h
        exact .array fun t ht => ih t (h t ht)
      | .object members =>
        rw [value?, Option.isSome_map, members?_eq_mapM, isSome_mapM_iff] at h
        exact .object (fun m hm => ((isSome_memberOf?_iff room m).1 (h m hm)).1)
          fun m hm => ih m.2 ((isSome_memberOf?_iff room m).1 (h m hm)).2
  · intro h
    induction h with
    | null => simp [value?]
    | bool b => simp [value?]
    | number n => simp [value?]
    | text s => simp [value?]
    | array _ ih =>
      rw [value?, Option.isSome_map, values?_eq_mapM, isSome_mapM_iff]
      exact ih
    | object hnames _ ih =>
      rw [value?, Option.isSome_map, members?_eq_mapM, isSome_mapM_iff]
      exact fun m hm => (isSome_memberOf?_iff _ m).2 ⟨hnames m hm, ih m hm⟩

end Tree

/-! ## Members gathered by name -/

/-- Members gathered by rising name. Each name stands once, with the value that was given for it
last. -/
structure Gathers (given all : List (String × Value)) : Prop where
  rising : all.Pairwise fun m n => m.1 < n.1
  last : ∀ name v, (name, v) ∈ all ↔
    ∃ before after, given = before ++ (name, v) :: after ∧ ∀ m ∈ after, m.1 ≠ name

namespace Value

theorem mem_putMember_iff {name : String} {v : Value} {all : List (String × Value)}
    (h : all.Pairwise fun m n => m.1 < n.1) (m : String × Value) :
    m ∈ putMember name v all ↔ m = (name, v) ∨ m ∈ all ∧ m.1 ≠ name := by
  induction all with
  | nil => simp [putMember]
  | cons first more ih =>
    obtain ⟨other, w⟩ := first
    obtain ⟨hother, hmore⟩ := List.pairwise_cons.1 h
    unfold putMember
    split
    · rename_i hlt
      -- all names that are there come later
      have hlater : ∀ n ∈ (other, w) :: more, n.1 ≠ name := by
        intro n hn
        rcases List.mem_cons.1 hn with rfl | hn
        · exact ne_of_gt hlt
        · exact ne_of_gt (lt_trans hlt (hother n hn))
      rw [List.mem_cons]
      exact or_congr_right ⟨fun hm => ⟨hm, hlater m hm⟩, And.left⟩
    · split
      · rename_i heq
        subst heq
        have hlater : ∀ n ∈ more, n.1 ≠ name := fun n hn => ne_of_gt (hother n hn)
        rw [List.mem_cons, List.mem_cons]
        constructor
        · rintro (hm | hm)
          · exact .inl hm
          · exact .inr ⟨.inr hm, hlater m hm⟩
        · rintro (hm | ⟨rfl | hm, hne⟩)
          · exact .inl hm
          · exact absurd rfl hne
          · exact .inr hm
      · rename_i hne
        rw [List.mem_cons, List.mem_cons, ih hmore]
        constructor
        · rintro (rfl | hm | ⟨hm, hname⟩)
          · exact .inr ⟨.inl rfl, Ne.symm hne⟩
          · exact .inl hm
          · exact .inr ⟨.inr hm, hname⟩
        · rintro (hm | ⟨hm | hm, hname⟩)
          · exact .inr (.inl hm)
          · exact .inl hm
          · exact .inr (.inr ⟨hm, hname⟩)

theorem rising_putMember (name : String) (v : Value) {all : List (String × Value)}
    (h : all.Pairwise fun m n => m.1 < n.1) :
    (putMember name v all).Pairwise fun m n => m.1 < n.1 := by
  induction all with
  | nil => exact List.pairwise_singleton _ _
  | cons first more ih =>
    obtain ⟨other, w⟩ := first
    obtain ⟨hother, hmore⟩ := List.pairwise_cons.1 h
    unfold putMember
    split
    · rename_i hlt
      refine List.pairwise_cons.2 ⟨fun n hn => ?_, h⟩
      rcases List.mem_cons.1 hn with rfl | hn
      · exact hlt
      · exact lt_trans hlt (hother n hn)
    · split
      · rename_i heq
        subst heq
        exact List.pairwise_cons.2 ⟨hother, hmore⟩
      · rename_i hnot hne
        refine List.pairwise_cons.2 ⟨fun n hn => ?_, ih hmore⟩
        rcases (mem_putMember_iff hmore n).1 hn with rfl | ⟨hn, -⟩
        · exact lt_of_le_of_ne (not_lt.1 hnot) (Ne.symm hne)
        · exact hother n hn

end Value

namespace Gathers

variable {given all : List (String × Value)}

/-- One more member takes the place of all of its name. -/
theorem putMember (h : Gathers given all) (name : String) (v : Value) :
    Gathers (given ++ [(name, v)]) (Value.putMember name v all) := by
  refine ⟨Value.rising_putMember name v h.rising, fun other w => ?_⟩
  rw [Value.mem_putMember_iff h.rising, h.last]
  constructor
  · rintro (hnew | ⟨⟨before, after, rfl, hafter⟩, hne⟩)
    · cases hnew
      exact ⟨given, [], rfl, by simp⟩
    · refine ⟨before, after ++ [(name, v)], by simp, fun m hm => ?_⟩
      rcases List.mem_append.1 hm with hm | hm
      · exact hafter m hm
      · obtain rfl := List.mem_singleton.1 hm
        exact Ne.symm hne
  · rintro ⟨before, after, hgiven, hafter⟩
    rcases List.eq_nil_or_concat' after with rfl | ⟨after, m, rfl⟩
    · obtain ⟨-, hlast⟩ := List.append_inj' hgiven rfl
      exact .inl (List.singleton_inj.1 hlast).symm
    · rw [← List.cons_append, ← List.append_assoc] at hgiven
      obtain ⟨rfl, hlast⟩ := List.append_inj' hgiven rfl
      obtain rfl := List.singleton_inj.1 hlast
      refine .inr ⟨⟨before, after, rfl, fun m hm => hafter m (List.mem_append_left _ hm)⟩, ?_⟩
      exact Ne.symm (hafter (name, v) (by simp))

theorem foldl_putMember (given : List (String × Value)) :
    Gathers given (given.foldl (fun all m => Value.putMember m.1 m.2 all) []) := by
  induction given using List.reverseRecOn with
  | nil => exact ⟨.nil, by simp⟩
  | append_singleton given m ih =>
    rw [List.foldl_append]
    exact ih.putMember m.1 m.2

/-- There is but one way to gather members. -/
theorem unique (h : Gathers given all) {other : List (String × Value)} (h' : Gathers given other) :
    all = other := by
  have hnodup : ∀ {l : List (String × Value)}, l.Pairwise (fun m n => m.1 < n.1) → l.Nodup :=
    fun hl => hl.imp fun hlt heq => absurd (congrArg Prod.fst heq) (ne_of_lt hlt)
  have hperm : all.Perm other := by
    rw [List.perm_ext_iff_of_nodup (hnodup h.rising) (hnodup h'.rising)]
    rintro ⟨name, v⟩
    rw [h.last, h'.last]
  exact hperm.eq_of_pairwise (fun m n _ _ hlt hgt => absurd hgt (lt_asymm hlt)) h.rising h'.rising

end Gathers

theorem Value.ofMembers_eq_iff (given all : List (String × Value)) :
    Value.ofMembers given = .object all ↔ Gathers given all := by
  have hgathers := Gathers.foldl_putMember given
  unfold Value.ofMembers
  rw [Value.object.injEq]
  constructor
  · rintro rfl
    exact hgathers
  · exact hgathers.unique

/-! ## What documents mean -/

namespace Tree

/-- What a document means, with at most `room` levels of arrays and objects inside each other.
Every leaf stands for itself, an array for what its items mean, in their order, and an object for
what its members mean, by name. -/
inductive Means : (room : Nat) → Tree → Value → Prop
  | null {room : Nat} : Means room .null .null
  | bool {room : Nat} (b : Bool) : Means room (.bool b) (.bool b)
  | number {room : Nat} (n : Number) : Means room (.number (some n)) (.number n)
  | text {room : Nat} (s : String) : Means room (.text (some s)) (.text s)
  | array {room : Nat} (items : List (Tree × Value)) : (∀ i ∈ items, Means room i.1 i.2) →
      Means (room + 1) (.array (items.map fun i => i.1)) (.array (items.map fun i => i.2))
  | object {room : Nat} (members : List (String × Tree × Value)) {all : List (String × Value)} :
      (∀ m ∈ members, Means room m.2.1 m.2.2) →
      Gathers (members.map fun m => (m.1, m.2.2)) all →
      Means (room + 1) (.object (members.map fun m => (some m.1, m.2.1))) (.object all)

theorem memberOf?_eq_some_iff {room : Nat} {m : Option String × Tree} {n : String × Value} :
    memberOf? room m = some n ↔ m.1 = some n.1 ∧ m.2.value? room = some n.2 := by
  obtain ⟨name, t⟩ := m
  obtain ⟨other, v⟩ := n
  unfold memberOf?
  cases name with
  | none => simp
  | some name => cases t.value? room <;> simp

/-- Items are read as they stand beside their values. -/
theorem mapM_value?_eq_some_iff {room : Nat} {items : List Tree} {values : List Value} :
    items.mapM (value? room) = some values ↔ ∃ both : List (Tree × Value),
      items = both.map (fun i => i.1) ∧ values = both.map (fun i => i.2) ∧
        ∀ i ∈ both, i.1.value? room = some i.2 :=
  mapM_eq_some_iff_exists _ _ fun _ => ⟨(_, _), rfl, rfl⟩

theorem mapM_memberOf?_eq_some_iff {room : Nat} {members : List (Option String × Tree)}
    {given : List (String × Value)} :
    members.mapM (memberOf? room) = some given ↔ ∃ both : List (String × Tree × Value),
      members = both.map (fun m => (some m.1, m.2.1)) ∧ given = both.map (fun m => (m.1, m.2.2)) ∧
        ∀ m ∈ both, m.2.1.value? room = some m.2.2 := by
  have hmember : ∀ {m n}, memberOf? room m = some n →
      ∃ c : String × Tree × Value, (some c.1, c.2.1) = m ∧ (c.1, c.2.2) = n := by
    intro m n hn
    obtain ⟨hname, -⟩ := memberOf?_eq_some_iff.1 hn
    exact ⟨(n.1, m.2, n.2), by rw [← hname], rfl⟩
  rw [mapM_eq_some_iff_exists _ _ hmember]
  simp only [memberOf?_eq_some_iff, true_and]

theorem means_of_value? {room : Nat} {t : Tree} {v : Value} (h : t.value? room = some v) :
    Means room t v := by
  cases t with
  | null => cases h; exact .null
  | bool b => cases h; exact .bool b
  | number n =>
    cases n with
    | none => cases h
    | some n => cases h; exact .number n
  | text s =>
    cases s with
    | none => cases h
    | some s => cases h; exact .text s
  | array items =>
    cases room with
    | zero => cases h
    | succ room =>
      rw [value?, values?_eq_mapM] at h
      obtain ⟨values, hvalues, rfl⟩ := Option.map_eq_some_iff.1 h
      obtain ⟨both, rfl, rfl, hboth⟩ := mapM_value?_eq_some_iff.1 hvalues
      exact .array both fun i hi => means_of_value? (hboth i hi)
  | object members =>
    cases room with
    | zero => cases h
    | succ room =>
      rw [value?, members?_eq_mapM] at h
      obtain ⟨given, hgiven, rfl⟩ := Option.map_eq_some_iff.1 h
      obtain ⟨both, rfl, rfl, hboth⟩ := mapM_memberOf?_eq_some_iff.1 hgiven
      exact .object both (fun m hm => means_of_value? (hboth m hm)) (.foldl_putMember _)
termination_by room

theorem value?_of_means {room : Nat} {t : Tree} {v : Value} (h : Means room t v) :
    t.value? room = some v := by
  induction h with
  | null => simp [value?]
  | bool b => simp [value?]
  | number n => simp [value?]
  | text s => simp [value?]
  | array both _ ih =>
    rw [value?, values?_eq_mapM, mapM_value?_eq_some_iff.2 ⟨both, rfl, rfl, ih⟩, Option.map_some]
  | object both _ hall ih =>
    rw [value?, members?_eq_mapM, mapM_memberOf?_eq_some_iff.2 ⟨both, rfl, rfl, ih⟩,
      Option.map_some, (Value.ofMembers_eq_iff _ _).2 hall]

/-- A document has just the value that it means. -/
theorem value?_eq_some_iff {room : Nat} {t : Tree} {v : Value} :
    t.value? room = some v ↔ Means room t v :=
  ⟨means_of_value?, value?_of_means⟩

end Tree

/-! ## The order of members -/

namespace Value

theorem putMember_comm {name other : String} (h : name ≠ other) (v w : Value)
    (members : List (String × Value)) :
    putMember name v (putMember other w members) = putMember other w (putMember name v members) := by
  induction members with
  | nil => grind [putMember]
  | cons m more ih => grind [putMember]

/-- Members with different names make the same object in every order. -/
theorem ofMembers_perm {members other : List (String × Value)} (h : members.Perm other)
    (hnames : (members.map (·.1)).Nodup) : ofMembers members = ofMembers other := by
  unfold ofMembers
  congr 1
  apply h.foldl_eq'
  intro m hm n hn all
  by_cases hmn : m = n
  · rw [hmn]
  · have hne : m.1 ≠ n.1 := fun heq => hmn (List.inj_on_of_nodup_map hnames hm hn heq)
    exact putMember_comm hne.symm _ _ _

end Value

namespace Tree

/-- The names of the members that are read are those that stand there. -/
theorem names_of_mapM {room : Nat} {members : List (Option String × Tree)}
    {values : List (String × Value)} (h : members.mapM (memberOf? room) = some values) :
    members.map (·.1) = values.map fun m => some m.1 := by
  obtain ⟨both, rfl, rfl, -⟩ := mapM_memberOf?_eq_some_iff.1 h
  simp

/-- An object with its members in another order has the same value. -/
theorem value?_object_perm {members other : List (Option String × Tree)} (h : members.Perm other)
    (hnames : (members.map (·.1)).Nodup) (room : Nat) :
    (Tree.object members).value? room = (Tree.object other).value? room := by
  cases room with
  | zero => simp [value?]
  | succ room =>
    rw [value?, value?, members?_eq_mapM, members?_eq_mapM]
    apply map_mapM_perm h
    intro values values' hvalues hperm
    have hdistinct : (values.map (·.1)).Nodup := by
      rw [names_of_mapM hvalues] at hnames
      exact List.Nodup.of_map some (by rwa [List.map_map])
    exact Value.ofMembers_perm hperm hdistinct

end Tree

end ChatBot.Json
