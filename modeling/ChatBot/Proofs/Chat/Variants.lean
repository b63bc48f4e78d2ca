-- Other ways to write a document: members in another order, members that nobody
-- knows, and members that say what holds without them. Wherever in a batch or in
-- credentials this is done, the same is read.
import Mathlib.Logic.Relation
import ChatBot.Proofs.Chat.Shapes

namespace ChatBot.Chat

open Json (Tree Field)
open Json.Tree (named fieldOf? fieldsInOrder?)

/-! ## The parts of a document -/

/-- What a document, or a part of one, is for. -/
inductive Role
  | text
  | textOrNull
  | content (levels : Nat)
  | event
  | events
  | timeline
  | room
  | joined
  | rooms
  | batch
  | auth

namespace Role

/-- The fields of a structure, and what stands in each. -/
def fields : Role → List (Field × Role)
  | .event =>
    [(⟨"type", .defaulted⟩, .text), (⟨"sender", .defaulted⟩, .textOrNull),
      (⟨"event_id", .defaulted⟩, .textOrNull), (⟨"content", .defaulted⟩, .content contentLevels)]
  | .timeline => [(⟨"events", .defaulted⟩, .events)]
  | .room => [(⟨"timeline", .defaulted⟩, .timeline)]
  | .rooms => [(⟨"join", .defaulted⟩, .joined)]
  | .batch => [(⟨"next_batch", .required⟩, .text), (⟨"rooms", .defaulted⟩, .rooms)]
  | .auth =>
    [(⟨"user_id", .required⟩, .text), (⟨"access_token", .required⟩, .text),
      (⟨"device_id", .defaulted⟩, .textOrNull)]
  | _ => []

/-- What stands behind a name in an object. Behind the names that nobody knows stands nothing of
interest. -/
def member? (r : Role) (name : String) : Option Role :=
  match r with
  | .joined => some .room
  | .content (levels + 1) => some (.content levels)
  | r => (r.fields.find? fun p => p.1.name == name).map (·.2)

/-- What stands at a place of an array. -/
def item? (r : Role) (place : Nat) : Option Role :=
  match r with
  | .events => some .event
  | .content (levels + 1) => some (.content levels)
  | r => r.fields[place]?.map (·.2)

/-- What is made of a part. -/
def Meaning : Role → Type
  | .text => String
  | .textOrNull => Option String
  | .content _ => Json.Value
  | .event => Event
  | .events => List Event
  | .timeline => List Event
  | .room => List Event
  | .joined => ByRoom (List Event)
  | .rooms => ByRoom (List Event)
  | .batch => Batch
  | .auth => Auth

/-- How a part is read. -/
def read : (r : Role) → Tree → Option r.Meaning
  | .text => Tree.text?
  | .textOrNull => fun t => Tree.textOrNull? (some t)
  | .content levels => Tree.value? levels
  | .event => Event.ofTree?
  | .events => Event.listOfTree?
  | .timeline => onlyField? "events" [] Event.listOfTree?
  | .room => roomEvents?
  | .joined => joinedRooms?
  | .rooms => onlyField? "join" .empty joinedRooms?
  | .batch => Batch.ofTree?
  | .auth => Auth.ofTree?

/-- What holds when a part is missing. -/
def missing? : (r : Role) → Option r.Meaning
  | .text => some ""
  | .textOrNull => some none
  | .content _ => some Json.Value.null
  | .events => some []
  | .timeline => some []
  | .joined => some ByRoom.empty
  | .rooms => some ByRoom.empty
  | .event | .room | .batch | .auth => none

/-- A part that may be missing. -/
def readPart (r : Role) : Option Tree → Option r.Meaning
  | none => r.missing?
  | some t => r.read t

end Role

/-! ## Variants -/

/-- The second document is the first one with one change that does not matter, somewhere in it. -/
inductive Variant : Role → Tree → Tree → Prop
  /-- Members with different names in another order. -/
  | reorder {r : Role} {members other : List (Option String × Tree)} :
      members.Perm other → (members.map (·.1)).Nodup → Variant r (.object members) (.object other)
  /-- One more member of a structure, with a name that is not known. -/
  | unknown {r : Role} {name : String} {t : Tree} {before after : List (Option String × Tree)} :
      r.fields ≠ [] → r.member? name = none →
      Variant r (.object (before ++ after)) (.object (before ++ (some name, t) :: after))
  /-- A structure without the member that says what holds without it. -/
  | leaveOut {r q : Role} {f : Field} {t : Tree} {before after : List (Option String × Tree)} :
      (f, q) ∈ r.fields → f.presence ≠ .required → (∀ m ∈ before ++ after, m.1 ≠ some f.name) →
      q.read t = q.missing? →
      Variant r (.object (before ++ (some f.name, t) :: after)) (.object (before ++ after))
  /-- A change inside a member. -/
  | member {r q : Role} {name : String} {t t' : Tree} {before after : List (Option String × Tree)} :
      r.member? name = some q → Variant q t t' →
      Variant r (.object (before ++ (some name, t) :: after))
        (.object (before ++ (some name, t') :: after))
  /-- A change inside an item of an array. -/
  | item {r q : Role} {t t' : Tree} {before after : List Tree} :
      r.item? before.length = some q → Variant q t t' →
      Variant r (.array (before ++ t :: after)) (.array (before ++ t' :: after))

namespace Role

/-! ## Structures, field by field -/

/-- Two parts that are read alike. A part that has to be there is so in both documents. -/
structure AlikePart (p : Field × Role) (part part' : Option Tree) : Prop where
  read : p.2.readPart part = p.2.readPart part'
  required : p.1.presence = .required → part.isSome = part'.isSome

/-- Parts that are read alike, one by one. -/
inductive AlikeParts : List (Field × Role) → List (Option Tree) → List (Option Tree) → Prop
  | nil : AlikeParts [] [] []
  | cons {p : Field × Role} {fs : List (Field × Role)} {part part' : Option Tree}
      {parts parts' : List (Option Tree)} : AlikePart p part part' → AlikeParts fs parts parts' →
      AlikeParts (p :: fs) (part :: parts) (part' :: parts')

theorem AlikePart.refl (p : Field × Role) (part : Option Tree) : AlikePart p part part :=
  ⟨rfl, fun _ => rfl⟩

theorem AlikeParts.refl {fs : List (Field × Role)} {parts : List (Option Tree)}
    (h : fs.length = parts.length) : AlikeParts fs parts parts := by
  induction fs generalizing parts with
  | nil =>
    obtain rfl := List.length_eq_zero_iff.1 h.symm
    exact .nil
  | cons p fs ih =>
    cases parts with
    | nil => cases h
    | cons part parts => exact .cons (.refl p part) (ih (Nat.succ.inj h))

/-- Two documents in which the fields of a structure are alike, or are found in neither. -/
def AlikeFields (fs : List (Field × Role)) (t t' : Tree) : Prop :=
  Option.Rel (AlikeParts fs) (t.fields? (fs.map (·.1))) (t'.fields? (fs.map (·.1)))

theorem orElse_eq_readPart {r : Role} {a : r.Meaning} (h : r.missing? = some a)
    (part : Option Tree) : Tree.orElse a r.read part = r.readPart part := by
  cases part with
  | none => exact h.symm
  | some t => rfl

theorem textOrNull?_eq_readPart (part : Option Tree) :
    Tree.textOrNull? part = Role.textOrNull.readPart part := by
  cases part <;> rfl

/-- Alike parts are read alike, whichever value a reader takes for a part that is missing. -/
theorem AlikePart.orElse_eq {p : Field × Role} {part part' : Option Tree}
    (h : AlikePart p part part') {a : p.2.Meaning} (ha : p.2.missing? = some a) :
    Tree.orElse a p.2.read part = Tree.orElse a p.2.read part' := by
  rw [orElse_eq_readPart ha, orElse_eq_readPart ha, h.read]

/-- A part that has to be there is so in both documents, or in neither. -/
theorem AlikePart.of_required {p : Field × Role} {part part' : Option Tree}
    (h : AlikePart p part part') (hp : p.1.presence = .required) :
    (part = none ∧ part' = none) ∨
      ∃ t t', part = some t ∧ part' = some t' ∧ p.2.read t = p.2.read t' := by
  have hsome := h.required hp
  cases part with
  | none =>
    cases part' with
    | none => exact .inl ⟨rfl, rfl⟩
    | some t' => cases hsome
  | some t =>
    cases part' with
    | none => cases hsome
    | some t' => exact .inr ⟨t, t', rfl, rfl, h.read⟩

theorem AlikePart.textOrNull?_eq {f : Field} {part part' : Option Tree}
    (h : AlikePart (f, .textOrNull) part part') : Tree.textOrNull? part = Tree.textOrNull? part' := by
  rw [textOrNull?_eq_readPart, textOrNull?_eq_readPart]
  exact h.read

/-- A structure of one field is read by this field. -/
theorem onlyField?_eq_of_alike {name : String} {q : Role} {a : q.Meaning} (ha : q.missing? = some a)
    {t t' : Tree} (h : AlikeFields [(⟨name, .defaulted⟩, q)] t t') :
    onlyField? name a q.read t = onlyField? name a q.read t' := by
  unfold AlikeFields at h
  unfold onlyField?
  simp only [List.map_cons, List.map_nil] at h
  generalize t.fields? _ = parts at h ⊢
  generalize t'.fields? _ = parts' at h ⊢
  rcases h with ⟨_ | ⟨hpart, ⟨⟩⟩⟩ | _
  · exact hpart.orElse_eq ha
  · rfl

theorem event_eq_of_alike {t t' : Tree} (h : AlikeFields Role.event.fields t t') :
    Event.ofTree? t = Event.ofTree? t' := by
  unfold Event.ofTree?
  simp only [AlikeFields, fields, List.map_cons, List.map_nil] at h
  generalize t.fields? _ = parts at h ⊢
  generalize t'.fields? _ = parts' at h ⊢
  rcases h with ⟨_ | ⟨htype, _ | ⟨hsender, _ | ⟨hid, _ | ⟨hcontent, ⟨⟩⟩⟩⟩⟩⟩ | _
  · dsimp only
    rw [show Tree.orElse "" Tree.text? _ = _ from htype.orElse_eq rfl,
      hsender.textOrNull?_eq, hid.textOrNull?_eq,
      show Tree.orElse .null (Tree.value? contentLevels) _ = _ from hcontent.orElse_eq rfl]
    rfl
  · rfl

theorem batch_eq_of_alike {t t' : Tree} (h : AlikeFields Role.batch.fields t t') :
    Batch.ofTree? t = Batch.ofTree? t' := by
  unfold Batch.ofTree?
  simp only [AlikeFields, fields, List.map_cons, List.map_nil] at h
  generalize t.fields? _ = parts at h ⊢
  generalize t'.fields? _ = parts' at h ⊢
  rcases h with ⟨_ | ⟨hnext, _ | ⟨hrooms, ⟨⟩⟩⟩⟩ | _
  · obtain ⟨rfl, rfl⟩ | ⟨next, next', rfl, rfl, htext⟩ := hnext.of_required rfl
    · rfl
    · dsimp only
      rw [show next.text? = next'.text? from htext,
        show Tree.orElse .empty (onlyField? "join" .empty joinedRooms?) _ = _ from
          hrooms.orElse_eq rfl]
      rfl
  · rfl

theorem auth_eq_of_alike {t t' : Tree} (h : AlikeFields Role.auth.fields t t') :
    Auth.ofTree? t = Auth.ofTree? t' := by
  unfold Auth.ofTree?
  simp only [AlikeFields, fields, List.map_cons, List.map_nil] at h
  generalize t.fields? _ = parts at h ⊢
  generalize t'.fields? _ = parts' at h ⊢
  rcases h with ⟨_ | ⟨huser, _ | ⟨htoken, _ | ⟨hdevice, ⟨⟩⟩⟩⟩⟩ | _
  · obtain ⟨rfl, rfl⟩ | ⟨user, user', rfl, rfl, hname⟩ := huser.of_required rfl
    · rfl
    obtain ⟨rfl, rfl⟩ | ⟨token, token', rfl, rfl, htext⟩ := htoken.of_required rfl
    · rfl
    dsimp only
    rw [show user.text? = user'.text? from hname, show token.text? = token'.text? from htext,
      hdevice.textOrNull?_eq]
  · rfl

/-- A structure is read by its fields. -/
theorem read_eq_of_alikeFields {r : Role} (hr : r.fields ≠ []) {t t' : Tree}
    (h : AlikeFields r.fields t t') : r.read t = r.read t' := by
  cases r with
  | text | textOrNull | content | events | joined => exact absurd rfl hr
  | event => exact event_eq_of_alike h
  | timeline => exact onlyField?_eq_of_alike (q := .events) rfl h
  | room => exact onlyField?_eq_of_alike (q := .timeline) rfl h
  | rooms => exact onlyField?_eq_of_alike (q := .joined) rfl h
  | batch => exact batch_eq_of_alike h
  | auth => exact auth_eq_of_alike h

/-! ## Objects -/

/-- What is known of a field of an object: it is found in neither document, or alike. -/
theorem alikeFields_object {fs : List (Field × Role)} {members other : List (Option String × Tree)}
    (hnames : members.all (·.1.isSome) = other.all (·.1.isSome))
    (h : ∀ p ∈ fs, Option.Rel (AlikePart p) (fieldOf? members p.1) (fieldOf? other p.1)) :
    AlikeFields fs (.object members) (.object other) := by
  unfold AlikeFields Tree.fields?
  dsimp only
  rw [← hnames]
  split
  · induction fs with
    | nil => exact .some .nil
    | cons p fs ih =>
      rw [List.map_cons, List.mapM_cons, List.mapM_cons]
      obtain ⟨hp, hfs⟩ := List.forall_mem_cons.1 h
      have hmore := ih hfs
      revert hp hmore
      generalize fieldOf? members p.1 = part
      generalize fieldOf? other p.1 = part'
      generalize (fs.map (·.1)).mapM (fieldOf? members) = parts
      generalize (fs.map (·.1)).mapM (fieldOf? other) = parts'
      rintro (hpart | _) (hparts | _)
      · exact .some (.cons hpart hparts)
      all_goals exact .none
  · exact .none

theorem rel_refl (p : Field × Role) (part : Option (Option Tree)) :
    Option.Rel (AlikePart p) part part := by
  cases part with
  | none => exact .none
  | some part => exact .some (.refl p part)

/-- A field with the same members is the same field. -/
theorem rel_of_named_eq {members other : List (Option String × Tree)} (p : Field × Role)
    (h : named p.1.name members = named p.1.name other) :
    Option.Rel (AlikePart p) (fieldOf? members p.1) (fieldOf? other p.1) := by
  have hsame : fieldOf? members p.1 = fieldOf? other p.1 := by
    unfold fieldOf?
    rw [h]
  rw [hsame]
  exact rel_refl p _

theorem length_named (name : String) (members : List (Option String × Tree)) :
    (named name members).length = (members.map (·.1)).count (some name) := by
  rw [named, List.length_map, ← List.countP_eq_length_filter, List.count, List.countP_map]
  rfl

/-- Of members with different names the order does not matter: there is one of a name, or none. -/
theorem named_perm {members other : List (Option String × Tree)} (h : members.Perm other)
    (hnames : (members.map (·.1)).Nodup) (name : String) : named name members = named name other := by
  have hperm : (named name members).Perm (named name other) := (h.filter _).map _
  have hone : (named name members).length ≤ 1 := by
    rw [length_named]
    exact List.nodup_iff_count_le_one.1 hnames _
  match hnamed : named name members with
  | [] =>
    rw [hnamed] at hperm
    exact hperm.nil_eq
  | [t] =>
    rw [hnamed] at hperm
    exact (List.perm_singleton.1 hperm.symm).symm
  | _ :: _ :: _ =>
    rw [hnamed] at hone
    simp at hone

theorem alikeFields_perm {fs : List (Field × Role)} {members other : List (Option String × Tree)}
    (h : members.Perm other) (hnames : (members.map (·.1)).Nodup) :
    AlikeFields fs (.object members) (.object other) :=
  alikeFields_object h.all_eq fun p _ => rel_of_named_eq p (named_perm h hnames p.1.name)

theorem alikeFields_unknown {fs : List (Field × Role)} {name : String} (t : Tree)
    (before after : List (Option String × Tree)) (h : ∀ p ∈ fs, p.1.name ≠ name) :
    AlikeFields fs (.object (before ++ after)) (.object (before ++ (some name, t) :: after)) := by
  apply alikeFields_object (by simp)
  intro p hp
  apply rel_of_named_eq
  rw [Tree.named_append, Tree.named_append, Tree.named_cons_of_ne]
  exact fun heq => h p hp (Option.some.inj heq).symm

/-- Only the field of a name changes with a member of this name. -/
theorem alikeFields_member {fs : List (Field × Role)} {name : String} {t t' : Tree}
    (before after : List (Option String × Tree))
    (h : ∀ p ∈ fs, p.1.name = name → AlikePart p (some t) (some t')) :
    AlikeFields fs (.object (before ++ (some name, t) :: after))
      (.object (before ++ (some name, t') :: after)) := by
  apply alikeFields_object (by simp)
  intro p hp
  by_cases hname : p.1.name = name
  · unfold fieldOf?
    rw [hname, Tree.named_append, Tree.named_append, Tree.named_cons_self, Tree.named_cons_self]
    match named name before, named name after with
    | [], [] => exact .some (h p hp hname)
    | [], _ :: _ | [_], _ | _ :: _ :: _, _ => exact .none
  · apply rel_of_named_eq
    have hne : ∀ t : Tree, (some name, t).1 ≠ some p.1.name :=
      fun _ heq => hname (Option.some.inj heq).symm
    rw [Tree.named_append, Tree.named_append, Tree.named_cons_of_ne (hne t),
      Tree.named_cons_of_ne (hne t')]

/-- Only the field of a name is missing without the member of this name. -/
theorem alikeFields_leaveOut {fs : List (Field × Role)} {f : Field} {t : Tree}
    {before after : List (Option String × Tree)} (hf : f.presence ≠ .required)
    (hothers : ∀ m ∈ before ++ after, m.1 ≠ some f.name)
    (h : ∀ p ∈ fs, p.1.name = f.name → p.1 = f ∧ AlikePart p (some t) none) :
    AlikeFields fs (.object (before ++ (some f.name, t) :: after)) (.object (before ++ after)) := by
  apply alikeFields_object (by simp)
  intro p hp
  by_cases hname : p.1.name = f.name
  · obtain ⟨hpf, hpart⟩ := h p hp hname
    rw [hpf, Tree.fieldOf?_eq_some_iff.2 (.given rfl hothers),
      Tree.fieldOf?_eq_some_iff.2 (.missing hf hothers)]
    exact .some hpart
  · apply rel_of_named_eq
    rw [Tree.named_append, Tree.named_append, Tree.named_cons_of_ne]
    exact fun heq => hname (Option.some.inj heq).symm

/-! ## Arrays -/

theorem length_of_fieldsInOrder? {fs : List Field} {items : List Tree} {parts : List (Option Tree)}
    (h : fieldsInOrder? fs items = some parts) : fs.length = parts.length := by
  obtain ⟨hfits, -, rfl⟩ := Tree.fieldsInOrder?_eq_some_iff.1 h
  simp
  omega

theorem alikeFields_item {fs : List (Field × Role)} {before : List Tree} {p : Field × Role}
    {t t' : Tree} (after : List Tree) (hp : fs[before.length]? = some p)
    (h : AlikePart p (some t) (some t')) :
    AlikeFields fs (.array (before ++ t :: after)) (.array (before ++ t' :: after)) := by
  change Option.Rel (AlikeParts fs) (fieldsInOrder? (fs.map (·.1)) (before ++ t :: after))
    (fieldsInOrder? (fs.map (·.1)) (before ++ t' :: after))
  induction before generalizing fs with
  | nil =>
    obtain ⟨fs, rfl⟩ : ∃ more, fs = p :: more := by
      cases fs with
      | nil => cases hp
      | cons q fs =>
        cases hp
        exact ⟨fs, rfl⟩
    rw [List.map_cons, List.nil_append, List.nil_append, fieldsInOrder?, fieldsInOrder?]
    cases hparts : fieldsInOrder? (fs.map (·.1)) after with
    | none => exact .none
    | some parts =>
      have hlength := length_of_fieldsInOrder? hparts
      rw [List.length_map] at hlength
      exact .some (.cons h (.refl hlength))
  | cons u before ih =>
    cases fs with
    | nil => cases hp
    | cons q fs =>
      rw [List.map_cons, List.cons_append, List.cons_append, fieldsInOrder?, fieldsInOrder?]
      have hmore := ih hp
      revert hmore
      generalize fieldsInOrder? (fs.map (·.1)) (before ++ t :: after) = parts
      generalize fieldsInOrder? (fs.map (·.1)) (before ++ t' :: after) = parts'
      rintro (hparts | _)
      · exact .some (.cons (.refl q _) hparts)
      · exact .none

/-! ## Structures in a document -/

/-- The fields of a structure have different names. -/
theorem nodup_names (r : Role) : (r.fields.map (·.1.name)).Nodup := by
  cases r with
  | content levels => exact List.nodup_nil
  | _ => decide

theorem eq_of_name_eq {r : Role} {p q : Field × Role} (hp : p ∈ r.fields) (hq : q ∈ r.fields)
    (h : p.1.name = q.1.name) : p = q :=
  List.inj_on_of_nodup_map (nodup_names r) hp hq h

theorem member?_of_fields {r : Role} (hr : r.fields ≠ []) (name : String) :
    r.member? name = (r.fields.find? fun p => p.1.name == name).map (·.2) := by
  cases r with
  | text | textOrNull | content | events | joined => exact absurd rfl hr
  | event | timeline | room | rooms | batch | auth => rfl

theorem item?_of_fields {r : Role} (hr : r.fields ≠ []) (place : Nat) :
    r.item? place = r.fields[place]?.map (·.2) := by
  cases r with
  | text | textOrNull | content | events | joined => exact absurd rfl hr
  | event | timeline | room | rooms | batch | auth => rfl

theorem exists_of_member? {r : Role} (hr : r.fields ≠ []) {name : String} {q : Role}
    (h : r.member? name = some q) : ∃ f, (f, q) ∈ r.fields ∧ f.name = name := by
  rw [member?_of_fields hr] at h
  obtain ⟨⟨f, _⟩, hf, rfl⟩ := Option.map_eq_some_iff.1 h
  exact ⟨f, List.mem_of_find?_eq_some hf, by simpa using List.find?_some hf⟩

theorem ne_of_member?_eq_none {r : Role} (hr : r.fields ≠ []) {name : String}
    (h : r.member? name = none) : ∀ p ∈ r.fields, p.1.name ≠ name := by
  rw [member?_of_fields hr] at h
  simpa using h

theorem exists_of_item? {r : Role} (hr : r.fields ≠ []) {place : Nat} {q : Role}
    (h : r.item? place = some q) : ∃ f, r.fields[place]? = some (f, q) := by
  rw [item?_of_fields hr] at h
  obtain ⟨⟨f, _⟩, hf, rfl⟩ := Option.map_eq_some_iff.1 h
  exact ⟨f, hf⟩

theorem alikePart_of_read {f : Field} {q : Role} {t t' : Tree} (h : q.read t = q.read t') :
    AlikePart (f, q) (some t) (some t') :=
  ⟨h, fun _ => rfl⟩

/-! ## What is read -/

theorem joinedRooms?_perm {members other : List (Option String × Tree)} (h : members.Perm other)
    (hnames : (members.map (·.1)).Nodup) :
    joinedRooms? (.object members) = joinedRooms? (.object other) := by
  rw [joinedRooms?_object, joinedRooms?_object]
  apply map_mapM_perm h
  intro rows rows' hrows hperm
  have hsame : members.map (·.1) = rows.map fun row => some row.1.text := by
    have hall := mapM_eq_some_iff.1 hrows
    clear hrows h hnames hperm
    induction hall with
    | nil => rfl
    | cons hm _ ih => rw [List.map_cons, List.map_cons, ih, ((rowOf?_eq_some_iff _ _).1 hm).1]
  apply ByRoom.ofList_perm hperm
  rw [hsame] at hnames
  exact List.Nodup.of_map (fun room : RoomId => some room.text) (by rwa [List.map_map])

theorem read_reorder (r : Role) {members other : List (Option String × Tree)}
    (h : members.Perm other) (hnames : (members.map (·.1)).Nodup) :
    r.read (.object members) = r.read (.object other) := by
  by_cases hr : r.fields = []
  · cases r with
    | text | textOrNull | events => rfl
    | content levels => exact Tree.value?_object_perm h hnames levels
    | joined => exact joinedRooms?_perm h hnames
    | event | timeline | room | rooms | batch | auth => cases hr
  · exact read_eq_of_alikeFields hr (alikeFields_perm h hnames)

theorem read_member {r q : Role} {name : String} (hq : r.member? name = some q) {t t' : Tree}
    (h : q.read t = q.read t') (before after : List (Option String × Tree)) :
    r.read (.object (before ++ (some name, t) :: after)) =
      r.read (.object (before ++ (some name, t') :: after)) := by
  by_cases hr : r.fields = []
  · cases r with
    | text | textOrNull | events => rfl
    | content levels =>
      cases levels with
      | zero => cases hq
      | succ levels =>
        cases hq
        change (Tree.members? levels _).map _ = (Tree.members? levels _).map _
        rw [Tree.members?_eq_mapM, Tree.members?_eq_mapM, mapM_replace]
        exact congrArg (fun v => Option.bind v fun v => some (name, v)) h
    | joined =>
      cases hq
      change joinedRooms? (.object _) = joinedRooms? (.object _)
      rw [joinedRooms?_object, joinedRooms?_object, mapM_replace]
      exact congrArg (fun es => Option.bind es fun es => some (RoomId.mk name, es)) h
    | event | timeline | room | rooms | batch | auth => cases hr
  · obtain ⟨f, hf, rfl⟩ := exists_of_member? hr hq
    apply read_eq_of_alikeFields hr
    apply alikeFields_member
    intro p hp hname
    rw [eq_of_name_eq hp hf hname]
    exact alikePart_of_read h

theorem read_item {r q : Role} {before : List Tree} (hq : r.item? before.length = some q)
    {t t' : Tree} (h : q.read t = q.read t') (after : List Tree) :
    r.read (.array (before ++ t :: after)) = r.read (.array (before ++ t' :: after)) := by
  by_cases hr : r.fields = []
  · cases r with
    | text | textOrNull | joined => rfl
    | events =>
      cases hq
      exact mapM_replace h before after
    | content levels =>
      cases levels with
      | zero => cases hq
      | succ levels =>
        cases hq
        change (Tree.values? levels _).map _ = (Tree.values? levels _).map _
        rw [Tree.values?_eq_mapM, Tree.values?_eq_mapM,
          mapM_replace (show t.value? levels = t'.value? levels from h)]
    | event | timeline | room | rooms | batch | auth => cases hr
  · obtain ⟨f, hf⟩ := exists_of_item? hr hq
    exact read_eq_of_alikeFields hr (alikeFields_item after hf (alikePart_of_read h))

/-- A change that does not matter is not seen. -/
theorem read_eq_of_variant {r : Role} {t t' : Tree} (h : Variant r t t') : r.read t = r.read t' := by
  induction h with
  | reorder hperm hnames => exact read_reorder _ hperm hnames
  | unknown hr hname =>
    exact read_eq_of_alikeFields hr (alikeFields_unknown _ _ _ (ne_of_member?_eq_none hr hname))
  | @leaveOut r q f t before after hf hpresence hothers hmissing =>
    apply read_eq_of_alikeFields (List.ne_nil_of_mem hf)
    apply alikeFields_leaveOut hpresence hothers
    intro p hp hname
    rw [eq_of_name_eq hp hf hname]
    exact ⟨rfl, hmissing, fun hrequired => absurd hrequired hpresence⟩
  | member hq _ ih => exact read_member hq ih _ _
  | item hq _ ih => exact read_item hq ih _

/-- Nor are many of them, made or undone. -/
theorem read_eq_of_variants {r : Role} {t t' : Tree} (h : Relation.EqvGen (Variant r) t t') :
    r.read t = r.read t' := by
  induction h with
  | rel _ _ h => exact read_eq_of_variant h
  | refl => rfl
  | symm _ _ _ ih => exact ih.symm
  | trans _ _ _ _ _ ih ih' => exact ih.trans ih'

end Role

/-! ## Batches and credentials -/

/-- What is read as a batch or as credentials has just the shape of it, and is what the shape
stands for. Variants of a document are read alike, wherever in it they differ. The rooms of a
batch stand in the order of the bytes of their ids. As content anything will do that has a value
within the levels that are left. -/
theorem a_document_is_read_by_its_shape :
    (∀ t b, Batch.ofTree? t = some b ↔ IsBatch t b) ∧
    (∀ t a, Auth.ofTree? t = some a ↔ IsAuth t a) ∧
    (∀ t t', Relation.EqvGen (Variant .batch) t t' → Batch.ofTree? t = Batch.ofTree? t') ∧
    (∀ t t', Relation.EqvGen (Variant .auth) t t' → Auth.ofTree? t = Auth.ofTree? t') ∧
    (∀ b : Batch, b.joined.rows.Pairwise fun row row' =>
      Text.utf8Bytes row.1.text.toList < Text.utf8Bytes row'.1.text.toList) ∧
    (∀ t, (∃ v, IsContent t v) ↔ Tree.Fits 120 t) := by
  refine ⟨batch_eq_some_iff, auth_eq_some_iff, fun _ _ => Role.read_eq_of_variants,
    fun _ _ => Role.read_eq_of_variants, fun b => b.joined.pairwise_utf8Bytes, fun t => ?_⟩
  rw [← Tree.isSome_value?_iff, Option.isSome_iff_exists]
  exact exists_congr fun v => Tree.value?_eq_some_iff.symm

/-- Rooms with one message in one of them. -/
def roomsWithGreeting (content : List (Option String × Tree)) : Tree :=
  .object [(some "join", .object [(some "!r:hs", .object [(some "timeline", .object [(some "events",
    .array [.object [(some "type", .text (some "m.room.message")), (some "content", .object content)]])])])])]

def greeting : Tree :=
  .object [(some "next_batch", .text (some "s1")), (some "rooms",
    roomsWithGreeting [(some "msgtype", .text (some "m.text")), (some "body", .text (some "hi"))])]

/-- The same with its members in another order, and one more of them. -/
def greetingOtherwise : Tree :=
  .object [(some "rooms",
    roomsWithGreeting [(some "body", .text (some "hi")), (some "msgtype", .text (some "m.text"))]),
    (some "presence", .null), (some "next_batch", .text (some "s1"))]

theorem Variant.first_member {r q : Role} {name : String} {t t' : Tree}
    {after : List (Option String × Tree)} (hq : r.member? name = some q) (h : Variant q t t') :
    Variant r (.object ((some name, t) :: after)) (.object ((some name, t') :: after)) :=
  @Variant.member r q name t t' [] after hq h

theorem Variant.first_item {r q : Role} {t t' : Tree} {after : List Tree}
    (hq : r.item? 0 = some q) (h : Variant q t t') :
    Variant r (.array (t :: after)) (.array (t' :: after)) :=
  @Variant.item r q t t' [] after hq h

theorem variant_roomsWithGreeting {content content' : List (Option String × Tree)}
    (h : Variant (.content contentLevels) (.object content) (.object content')) :
    Variant .rooms (roomsWithGreeting content) (roomsWithGreeting content') := by
  apply Variant.first_member (q := .joined) rfl
  apply Variant.first_member (q := .room) rfl
  apply Variant.first_member (q := .timeline) rfl
  apply Variant.first_member (q := .events) rfl
  apply Variant.first_item (q := .event) rfl
  exact @Variant.member .event _ "content" _ _ [(some "type", .text (some "m.room.message"))] []
    rfl h

def credentials : Tree :=
  .object [(some "user_id", .text (some "@bot:hs")), (some "access_token", .text (some "t")),
    (some "device_id", .null)]

/-- The same without the member that says that there is no device. -/
def credentialsInShort : Tree :=
  .object [(some "user_id", .text (some "@bot:hs")), (some "access_token", .text (some "t"))]

theorem documents_written_otherwise_are_read_alike :
    Relation.EqvGen (Variant .batch) greeting greetingOtherwise ∧
    (∃ b, IsBatch greeting b ∧ IsBatch greetingOtherwise b ∧ b.next = ⟨"s1"⟩) ∧
    Relation.EqvGen (Variant .auth) credentials credentialsInShort ∧
    ∃ a, IsAuth credentials a ∧ IsAuth credentialsInShort a ∧ a.deviceId = none := by
  have hgreeting : Relation.EqvGen (Variant .batch) greeting greetingOtherwise := by
    refine .trans _ _ _ (.rel _ _ (.reorder (.swap _ _ _) (by decide))) ?_
    refine .trans _ _ _ (.rel _ _ (.first_member rfl (variant_roomsWithGreeting
      (.reorder (.swap _ _ _) (by decide))))) ?_
    exact .rel _ _ (@Variant.unknown .batch "presence" .null [_] [_] (by decide) rfl)
  have hcredentials : Relation.EqvGen (Variant .auth) credentials credentialsInShort :=
    .rel _ _ (@Variant.leaveOut .auth .textOrNull ⟨"device_id", .defaulted⟩ .null [_, _] []
      (by simp [Role.fields]) (by decide) (by decide) rfl)
  have hshape := a_document_is_read_by_its_shape
  have hbatch := hshape.2.2.1 _ _ hgreeting
  have hauth := hshape.2.2.2.1 _ _ hcredentials
  exact ⟨hgreeting, ⟨_, (hshape.1 _ _).1 rfl, (hshape.1 _ _).1 (hbatch.symm.trans rfl), rfl⟩,
    hcredentials, _, (hshape.2.1 _ _).1 rfl, (hshape.2.1 _ _).1 (hauth.symm.trans rfl), rfl⟩

end ChatBot.Chat
