-- What the variables make of the settings: which values are accepted, what each setting is
-- then, and which fault is reported when they are not. Every setting has a variable of its own.
import Mathlib.Logic.Relator
import ChatBot.Config.Settings
import ChatBot.Proofs.Text.Stripping

namespace ChatBot.Config

open Text (Stripped isBlank)

/-! ## Values -/

section Values

variable {lookup : Lookup} {key v : String} {cs : List Char} {n : Nat}

/-- A variable has a value, and not a blank one. -/
def IsSet (lookup : Lookup) (key v : String) : Prop :=
  lookup key = some v ∧ ∃ c ∈ v.toList, isBlank c = false

/-- A variable has no value, or a blank one. -/
def IsUnset (lookup : Lookup) (key : String) : Prop :=
  ∀ v, lookup key = some v → ∀ c ∈ v.toList, isBlank c = true

theorem get_eq_some_iff : lookup.get key = some v ↔ IsSet lookup key v := by
  unfold Lookup.get IsSet
  cases lookup key with
  | none => simp
  | some w =>
    have hblank : (¬ Text.isBlankText w = true) ↔ ∃ c ∈ w.toList, isBlank c = false := by
      simp [Text.isBlankText]
    by_cases hw : Text.isBlankText w = true
    · simp only [if_pos hw, reduceCtorEq, false_iff]
      rintro ⟨heq, hset⟩
      cases heq
      exact hblank.2 hset hw
    · simp only [if_neg hw]
      exact ⟨fun h => ⟨h, by cases h; exact hblank.1 hw⟩, And.left⟩

theorem get_eq_none_iff : lookup.get key = none ↔ IsUnset lookup key := by
  unfold Lookup.get IsUnset
  cases lookup key with
  | none => simp
  | some w => simp [Text.isBlankText]

/-- A text writes a number of 64 bits in digits, with a plus sign in front or without. -/
def Writes (cs : List Char) (n : Nat) : Prop :=
  ∃ digits, (cs = digits ∨ cs = '+' :: digits) ∧ digits ≠ [] ∧
    (∀ c ∈ digits, c.isDigit = true) ∧ Decimal.valueOfDigits digits = n ∧ n < UInt64.size

/-- A text without the plus sign in front. -/
def withoutPlus : List Char → List Char
  | '+' :: ds => ds
  | ds => ds

theorem withoutPlus_digits {digits : List Char} (h : ∀ c ∈ digits, c.isDigit = true) :
    withoutPlus digits = digits := by
  unfold withoutPlus
  split
  · exact absurd (h '+' List.mem_cons_self) (by decide)
  · rfl

theorem eq_withoutPlus_or (cs : List Char) : cs = withoutPlus cs ∨ cs = '+' :: withoutPlus cs := by
  unfold withoutPlus
  split
  · exact .inr rfl
  · exact .inl rfl

/-- The digits behind the plus sign give the number. -/
theorem naturalOf?_eq_some_of_digits : naturalOf? cs = some n ↔
    withoutPlus cs ≠ [] ∧ (∀ c ∈ withoutPlus cs, c.isDigit = true) ∧
      Decimal.valueOfDigits (withoutPlus cs) = n ∧ n < UInt64.size := by
  have hnatural : naturalOf? cs =
      if withoutPlus cs ≠ [] ∧ (withoutPlus cs).all Char.isDigit = true then
        if Decimal.valueOfDigits (withoutPlus cs) < millisecondLimit then
          some (Decimal.valueOfDigits (withoutPlus cs))
        else none
      else none := rfl
  have hlimit : millisecondLimit = UInt64.size := rfl
  rw [hnatural, hlimit, ← List.all_eq_true]
  constructor
  · intro h
    split_ifs at h with hdigits hn
    cases h
    exact ⟨hdigits.1, hdigits.2, rfl, hn⟩
  · rintro ⟨hne, hdigits, rfl, hn⟩
    rw [if_pos ⟨hne, hdigits⟩, if_pos hn]

theorem naturalOf?_eq_some_iff : naturalOf? cs = some n ↔ Writes cs n := by
  rw [naturalOf?_eq_some_of_digits]
  constructor
  · intro h
    exact ⟨withoutPlus cs, eq_withoutPlus_or cs, h⟩
  · rintro ⟨digits, rfl | rfl, hne, hdigits, hn⟩
    · rw [withoutPlus_digits hdigits]
      exact ⟨hne, hdigits, hn⟩
    · exact ⟨hne, hdigits, hn⟩

end Values

/-! ## What a value comes to -/

section Readings

variable {v core : String} {n : Nat} {yes : Bool}

/-- A value writes a number of milliseconds, with white space around it or without. -/
def Milliseconds (v : String) (n : Nat) : Prop :=
  ∃ core, Stripped v.toList core ∧ Writes core n

/-- A text without the slashes at its end. -/
def Unslashed (v core : String) : Prop :=
  (∃ slashes, v.toList = core.toList ++ slashes ∧ ∀ c ∈ slashes, c = '/') ∧
    ∀ c, core.toList.getLast? = some c → c ≠ '/'

/-- A value says yes in one of four ways, and no in any other. -/
def SaysYes (v : String) (yes : Bool) : Prop :=
  yes = true ↔ ∃ core, Stripped v.toList core ∧
    Text.lowercase (String.ofList core) ∈ ["1", "true", "yes", "on"]

theorem milliseconds_iff : Milliseconds v n ↔ naturalOf? (Text.trim v.toList) = some n := by
  rw [naturalOf?_eq_some_iff]
  constructor
  · rintro ⟨core, hcore, hn⟩
    rwa [hcore.trim_eq]
  · intro h
    exact ⟨_, Text.stripped_iff.2 rfl, h⟩

theorem unslashed_iff : Unslashed v core ↔ withoutTrailingSlashes v = core := by
  have hdrop : (withoutTrailingSlashes v).toList = v.toList.rdropWhile (· == '/') :=
    String.toList_ofList
  rw [← String.toList_inj, hdrop, Text.rdropWhile_eq_iff]
  simp [Unslashed]

theorem saysYes_iff : SaysYes v yes ↔ saysYes v = yes := by
  have hcore : (∃ core, Stripped v.toList core ∧
      Text.lowercase (String.ofList core) ∈ ["1", "true", "yes", "on"]) ↔ saysYes v = true := by
    unfold saysYes Text.trimmed
    rw [List.contains_iff_mem]
    constructor
    · rintro ⟨core, hcore, h⟩
      rwa [hcore.trim_eq]
    · intro h
      exact ⟨_, Text.stripped_iff.2 rfl, h⟩
  unfold SaysYes
  rw [hcore]
  cases yes <;> cases saysYes v <;> simp

theorem milliseconds_rightUnique : Relator.RightUnique Milliseconds := by
  intro v m n hm hn
  exact Option.some.inj ((milliseconds_iff.1 hm).symm.trans (milliseconds_iff.1 hn))

theorem unslashed_rightUnique : Relator.RightUnique Unslashed :=
  fun _ _ _ h h' => (unslashed_iff.1 h).symm.trans (unslashed_iff.1 h')

theorem saysYes_rightUnique : Relator.RightUnique SaysYes :=
  fun _ _ _ h h' => (saysYes_iff.1 h).symm.trans (saysYes_iff.1 h')

end Readings

/-! ## Variables -/

/-- A variable of the environment with the setting that is taken from it. What its values come
to is told by `Reads`. -/
structure Variable {α : Type} (Reads : String → α → Prop) where
  key : String
  /-- What the setting is when the variable is not set. -/
  missing : α
  field : Settings → α

def syncTimeout : Variable Milliseconds :=
  ⟨"MXBOT_SYNC_TIMEOUT_MS", 10000, (·.timings.syncTimeout)⟩

def requestTimeout : Variable Milliseconds :=
  ⟨"MXBOT_REQUEST_TIMEOUT_MS", 15000, (·.timings.requestTimeout)⟩

/-- The variables of the times, in the order in which they are looked at. -/
def timeVariables : List (Variable Milliseconds) := [
  syncTimeout,
  requestTimeout,
  ⟨"MXBOT_ERROR_COOLDOWN_MS", 5000, (·.timings.errorCooldown)⟩,
  ⟨"MXBOT_IDLE_DELAY_MS", 100, (·.timings.idleDelay)⟩,
  ⟨"MXBOT_REPLY_DELAY_MS", 1000, (·.timings.replyDelay)⟩]

def textVariables : List (Variable (@Eq String)) := [
  ⟨"MXBOT_USERNAME", "demo_ai_bot", (·.username)⟩,
  ⟨"MXBOT_PASSWORD", "AIBotDemo123!", (·.password)⟩,
  ⟨"MXBOT_DISPLAY_NAME", "Demo AI Assistant 🤖", (·.displayName)⟩,
  ⟨"MXBOT_DEMO_ROOM_NAME", "AI Bot Demo Room", (·.demoRoomName)⟩,
  ⟨"MXBOT_DEMO_ROOM_TOPIC", "🤖 Chat with the Demo AI Assistant Bot", (·.demoRoomTopic)⟩]

def addressVariable : Variable Unslashed :=
  ⟨"MXBOT_HOMESERVER_URL", "http://localhost:6167", (·.homeserverUrl)⟩

def demoRoomVariable : Variable SaysYes :=
  ⟨"MXBOT_CREATE_DEMO_ROOM", true, (·.createDemoRoom)⟩

section Gives

variable {α : Type} {Reads : String → α → Prop} {x : Variable Reads} {lookup other : Lookup}
  {v : String} {a b : α}

/-- What a variable gives. -/
inductive Variable.Gives (x : Variable Reads) (lookup : Lookup) : α → Prop
  | missing (h : IsUnset lookup x.key) : x.Gives lookup x.missing
  | set {v : String} {a : α} (h : IsSet lookup x.key v) (ha : Reads v a) : x.Gives lookup a

theorem exists_gives_iff : (∃ a, x.Gives lookup a) ↔
    IsUnset lookup x.key ∨ ∃ v a, IsSet lookup x.key v ∧ Reads v a := by
  constructor
  · rintro ⟨_, hunset | ⟨hset, ha⟩⟩
    · exact .inl hunset
    · exact .inr ⟨_, _, hset, ha⟩
  · rintro (hunset | ⟨v, a, hset, ha⟩)
    · exact ⟨_, .missing hunset⟩
    · exact ⟨a, .set hset ha⟩

theorem gives_of_get_none (h : lookup.get x.key = none) : x.Gives lookup a ↔ a = x.missing := by
  constructor
  · rintro (_ | ⟨hset, _⟩)
    · rfl
    · rw [get_eq_some_iff.2 hset] at h
      cases h
  · rintro rfl
    exact .missing (get_eq_none_iff.1 h)

theorem gives_of_get_some (h : lookup.get x.key = some v) : x.Gives lookup a ↔ Reads v a := by
  constructor
  · rintro (hunset | ⟨hset, ha⟩)
    · rw [get_eq_none_iff.2 hunset] at h
      cases h
    · rw [get_eq_some_iff.2 hset] at h
      cases h
      exact ha
  · intro ha
    exact .set (get_eq_some_iff.1 h) ha

/-- Two environments have the same value under a name, or none that counts. -/
def AgreeAt (lookup other : Lookup) (key : String) : Prop :=
  ∀ v, IsSet lookup key v ↔ IsSet other key v

theorem get_eq_of_agreeAt {key : String} (h : AgreeAt lookup other key) :
    lookup.get key = other.get key := by
  apply Option.ext
  intro v
  rw [get_eq_some_iff, get_eq_some_iff]
  exact h v

/-- A setting depends on its own variable only. -/
theorem Variable.Gives.eq_of_agreeAt (hunique : Relator.RightUnique Reads)
    (ha : x.Gives lookup a) (hb : x.Gives other b) (h : AgreeAt lookup other x.key) : a = b := by
  have hget := get_eq_of_agreeAt h
  cases hv : lookup.get x.key with
  | none =>
    rw [gives_of_get_none hv] at ha
    rw [gives_of_get_none (hget.symm.trans hv)] at hb
    exact ha.trans hb.symm
  | some v =>
    rw [gives_of_get_some hv] at ha
    rw [gives_of_get_some (hget.symm.trans hv)] at hb
    exact hunique ha hb

theorem Variable.Gives.unique (hunique : Relator.RightUnique Reads) (ha : x.Gives lookup a)
    (hb : x.Gives lookup b) : a = b :=
  ha.eq_of_agreeAt hunique hb fun _ => Iff.rfl

end Gives

/-! ## The settings -/

attribute [ext] Timings Settings

section Making

variable {lookup other : Lookup} {s t : Settings} {n : Nat} {v : String}

/-- Each setting is what its variable gives. -/
structure Makes (lookup : Lookup) (s : Settings) : Prop where
  times : ∀ x ∈ timeVariables, x.Gives lookup (x.field s)
  texts : ∀ x ∈ textVariables, x.Gives lookup (x.field s)
  address : addressVariable.Gives lookup s.homeserverUrl
  demoRoom : demoRoomVariable.Gives lookup s.createDemoRoom

theorem time_gives_iff {x : Variable Milliseconds} :
    x.Gives lookup n ↔ milliseconds lookup x.key x.missing = .ok n := by
  unfold milliseconds
  cases hv : lookup.get x.key with
  | none =>
    rw [gives_of_get_none hv]
    simp [eq_comm]
  | some v =>
    rw [gives_of_get_some hv, milliseconds_iff]
    dsimp only
    cases naturalOf? (Text.trim v.toList) <;> simp

theorem text_gives {x : Variable (@Eq String)} :
    x.Gives lookup ((lookup.get x.key).getD x.missing) := by
  cases hv : lookup.get x.key with
  | none => exact (gives_of_get_none hv).2 rfl
  | some v => exact (gives_of_get_some hv).2 rfl

theorem address_gives_iff : addressVariable.Gives lookup v ↔
    withoutTrailingSlashes ((lookup.get "MXBOT_HOMESERVER_URL").getD "http://localhost:6167") =
      v := by
  cases hv : lookup.get "MXBOT_HOMESERVER_URL" with
  | none =>
    have hmissing : withoutTrailingSlashes "http://localhost:6167" = "http://localhost:6167" := by
      decide +kernel
    rw [gives_of_get_none (x := addressVariable) hv, Option.getD_none, hmissing]
    exact eq_comm
  | some w => rw [gives_of_get_some (x := addressVariable) hv, unslashed_iff, Option.getD_some]

theorem demoRoom_gives : demoRoomVariable.Gives lookup
    (((lookup.get "MXBOT_CREATE_DEMO_ROOM").map saysYes).getD true) := by
  cases hv : lookup.get "MXBOT_CREATE_DEMO_ROOM" with
  | none =>
    rw [gives_of_get_none (x := demoRoomVariable) hv]
    rfl
  | some w =>
    rw [gives_of_get_some (x := demoRoomVariable) hv, saysYes_iff, Option.map_some,
      Option.getD_some]

/-- Two settings have each field in common whose variable is the same for both. -/
structure SameWhereAgreed (lookup other : Lookup) (s t : Settings) : Prop where
  times : ∀ x ∈ timeVariables, AgreeAt lookup other x.key → x.field s = x.field t
  texts : ∀ x ∈ textVariables, AgreeAt lookup other x.key → x.field s = x.field t
  address : AgreeAt lookup other addressVariable.key → s.homeserverUrl = t.homeserverUrl
  demoRoom : AgreeAt lookup other demoRoomVariable.key → s.createDemoRoom = t.createDemoRoom

theorem Makes.sameWhereAgreed (hs : Makes lookup s) (ht : Makes other t) :
    SameWhereAgreed lookup other s t where
  times x hx := (hs.times x hx).eq_of_agreeAt milliseconds_rightUnique (ht.times x hx)
  texts x hx := (hs.texts x hx).eq_of_agreeAt (fun _ _ _ h h' => h.symm.trans h') (ht.texts x hx)
  address := hs.address.eq_of_agreeAt unslashed_rightUnique ht.address
  demoRoom := hs.demoRoom.eq_of_agreeAt saysYes_rightUnique ht.demoRoom

theorem Makes.unique (hs : Makes lookup s) (ht : Makes lookup t) : s = t := by
  obtain ⟨htimes, htexts, haddress, hroom⟩ := hs.sameWhereAgreed ht
  have hsame : ∀ key, AgreeAt lookup lookup key := fun _ _ => Iff.rfl
  simp only [timeVariables, textVariables, List.forall_mem_cons, hsame, forall_const,
    syncTimeout, requestTimeout] at htimes htexts haddress hroom
  obtain ⟨hsync, hrequest, hcooldown, hidle, hreply, -⟩ := htimes
  obtain ⟨hname, hpassword, hdisplay, htitle, htopic, -⟩ := htexts
  have htimings := Timings.ext hsync hrequest hcooldown hidle hreply
  exact Settings.ext haddress hname hpassword hdisplay htimings hroom htitle htopic

end Making

/-! ## The checks -/

/-- What is checked. -/
inductive Check
  | time (x : Variable Milliseconds)
  | address
  | timeouts

/-- The checks in their order. -/
def checks : List Check := timeVariables.map .time ++ [.address, .timeouts]

/-- A check fails with a fault: a time whose value writes no number, an address of nothing but
slashes, or a poll that is not waited for as long as it may be held back. -/
inductive Violates (lookup : Lookup) : Check → Fault → Prop
  | time {x : Variable Milliseconds} {v : String} (h : IsSet lookup x.key v)
      (hv : ∀ n, ¬ Milliseconds v n) :
      Violates lookup (.time x)
        (.config (x.key ++ " must be an integer (ms), got " ++ Text.quoted v))
  | address (h : addressVariable.Gives lookup "") :
      Violates lookup .address (.config "MXBOT_HOMESERVER_URL must not be empty")
  | timeouts {sync request : Nat} (hsync : syncTimeout.Gives lookup sync)
      (hrequest : requestTimeout.Gives lookup request) (h : request ≤ sync) :
      Violates lookup .timeouts (.config ("MXBOT_REQUEST_TIMEOUT_MS (" ++ Decimal.text request ++
        "ms) must exceed MXBOT_SYNC_TIMEOUT_MS (" ++ Decimal.text sync ++ "ms)"))

def Passes (lookup : Lookup) (check : Check) : Prop := ∀ f, ¬ Violates lookup check f

/-- The fault of the first check that fails. -/
inductive Reports (lookup : Lookup) : List Check → Fault → Prop
  | here {check : Check} {rest : List Check} {f : Fault} (h : Violates lookup check f) :
      Reports lookup (check :: rest) f
  | later {check : Check} {rest : List Check} {f : Fault} (h : Passes lookup check)
      (hrest : Reports lookup rest f) : Reports lookup (check :: rest) f

/-- What the checks accept. -/
structure Acceptable (lookup : Lookup) : Prop where
  times : ∀ x ∈ timeVariables, IsUnset lookup x.key ∨
    ∃ v n, IsSet lookup x.key v ∧ Milliseconds v n
  address : ∃ url, addressVariable.Gives lookup url ∧ url ≠ ""
  timeouts : ∃ sync request, syncTimeout.Gives lookup sync ∧
    requestTimeout.Gives lookup request ∧ sync < request

section Checks

variable {lookup : Lookup} {x : Variable Milliseconds} {check : Check} {rest : List Check}
  {result : Except Fault Settings} {s : Settings} {f g : Fault}

theorem violates_of_milliseconds (h : milliseconds lookup x.key x.missing = .error f) :
    Violates lookup (.time x) f := by
  unfold milliseconds at h
  split at h
  · cases h
  · rename_i v hv
    split at h
    · cases h
    · rename_i hnone
      cases h
      refine .time (get_eq_some_iff.1 hv) fun n hn => ?_
      rw [milliseconds_iff.1 hn] at hnone
      cases hnone

theorem passes_time {n : Nat} (h : x.Gives lookup n) : Passes lookup (.time x) := by
  intro f hf
  cases hf with
  | time hset hv => exact hv n ((gives_of_get_some (get_eq_some_iff.2 hset)).1 h)

theorem passes_address {url : String} (h : addressVariable.Gives lookup url) (hne : url ≠ "") :
    Passes lookup .address := by
  intro f hf
  cases hf with
  | address hempty => exact hne (h.unique unslashed_rightUnique hempty)

theorem passes_timeouts {sync request : Nat} (hsync : syncTimeout.Gives lookup sync)
    (hrequest : requestTimeout.Gives lookup request) (hlt : sync < request) :
    Passes lookup .timeouts := by
  intro f hf
  cases hf with
  | timeouts hsync' hrequest' hle =>
    rw [hsync'.unique milliseconds_rightUnique hsync,
      hrequest'.unique milliseconds_rightUnique hrequest] at hle
    exact absurd hlt (Nat.not_lt_of_le hle)

/-- The settings come to an end with the checks that are left: all pass and the settings are made,
or the first that fails is reported. -/
def Settles (lookup : Lookup) (rest : List Check) : Except Fault Settings → Prop
  | .ok s => (∀ check ∈ rest, Passes lookup check) ∧ Makes lookup s
  | .error f => Reports lookup rest f

theorem Settles.later (hpass : Passes lookup check) (h : Settles lookup rest result) :
    Settles lookup (check :: rest) result := by
  cases result with
  | ok s => exact ⟨List.forall_mem_cons.2 ⟨hpass, h.1⟩, h.2⟩
  | error f => exact .later hpass h

theorem Settles.time {go : Nat → Except Fault Settings}
    (h : ∀ n, x.Gives lookup n → Settles lookup rest (go n)) :
    Settles lookup (.time x :: rest) (milliseconds lookup x.key x.missing >>= go) := by
  cases hn : milliseconds lookup x.key x.missing with
  | ok n =>
    have hgives := time_gives_iff.2 hn
    exact .later (passes_time hgives) (h n hgives)
  | error f => exact Reports.here (violates_of_milliseconds hn)

theorem Settles.guard {failing : Prop} [Decidable failing] {refused go : Except Fault Settings}
    (hrefused : refused = .error f) (hfails : failing → Violates lookup check f)
    (hpass : ¬ failing → Passes lookup check) (h : Settles lookup rest go) :
    Settles lookup (check :: rest) (if failing then refused else go) := by
  split_ifs with hfailing
  · rw [hrefused]
    exact Reports.here (hfails hfailing)
  · exact .later (hpass hfailing) h

theorem ofLookup_settles (lookup : Lookup) : Settles lookup checks (Settings.ofLookup lookup) := by
  unfold Settings.ofLookup
  -- The program and the list of the checks are taken apart side by side.
  refine Settles.time fun sync hsync => ?_
  refine Settles.time fun request hrequest => ?_
  refine Settles.time fun cooldown hcooldown => ?_
  refine Settles.time fun idle hidle => ?_
  refine Settles.time fun reply hreply => ?_
  have haddress : addressVariable.Gives lookup _ := address_gives_iff.2 rfl
  refine Settles.guard rfl (fun hempty => .address (hempty ▸ haddress)) (passes_address haddress) ?_
  refine Settles.guard rfl (.timeouts hsync hrequest)
    (fun h => passes_timeouts hsync hrequest (Nat.lt_of_not_le h)) ?_
  refine ⟨fun check hcheck => absurd hcheck List.not_mem_nil, ?_, ?_, haddress, demoRoom_gives⟩
  · simp only [timeVariables, List.forall_mem_cons]
    exact ⟨hsync, hrequest, hcooldown, hidle, hreply, fun x hx => absurd hx List.not_mem_nil⟩
  · simp only [textVariables, List.forall_mem_cons]
    exact ⟨text_gives, text_gives, text_gives, text_gives, text_gives,
      fun x hx => absurd hx List.not_mem_nil⟩

/-! ## What is accepted -/

theorem Reports.not_all_pass {list : List Check} (h : Reports lookup list f) :
    ¬ ∀ check ∈ list, Passes lookup check := by
  intro hpass
  induction h with
  | here h => exact hpass _ List.mem_cons_self _ h
  | later _ _ ih => exact ih (List.forall_mem_cons.1 hpass).2

theorem acceptable_iff : Acceptable lookup ↔ ∀ check ∈ checks, Passes lookup check := by
  have hchecks : (∀ check ∈ checks, Passes lookup check) ↔
      (∀ x ∈ timeVariables, Passes lookup (.time x)) ∧ Passes lookup .address ∧
        Passes lookup .timeouts := by
    simp [checks, or_imp, forall_and]
  rw [hchecks]
  constructor
  · rintro ⟨htimes, ⟨url, hurl, hne⟩, sync, request, hsync, hrequest, hlt⟩
    refine ⟨fun x hx => ?_, passes_address hurl hne, passes_timeouts hsync hrequest hlt⟩
    obtain ⟨n, hn⟩ := exists_gives_iff.2 (htimes x hx)
    exact passes_time hn
  · rintro ⟨htimes, haddress, htimeouts⟩
    have hgives : ∀ x ∈ timeVariables, ∃ n, x.Gives lookup n := by
      intro x hx
      cases hn : milliseconds lookup x.key x.missing with
      | ok n => exact ⟨n, time_gives_iff.2 hn⟩
      | error f => exact absurd (violates_of_milliseconds hn) (htimes x hx f)
    obtain ⟨sync, hsync⟩ := hgives syncTimeout (by simp [timeVariables])
    obtain ⟨request, hrequest⟩ := hgives requestTimeout (by simp [timeVariables])
    refine ⟨fun x hx => exists_gives_iff.1 (hgives x hx), ⟨_, address_gives_iff.2 rfl, ?_⟩,
      sync, request, hsync, hrequest, ?_⟩
    · intro hempty
      exact haddress _ (.address (address_gives_iff.2 hempty))
    · by_contra hle
      exact htimeouts _ (.timeouts hsync hrequest (Nat.le_of_not_lt hle))

theorem ofLookup_eq_ok_iff :
    Settings.ofLookup lookup = .ok s ↔ Acceptable lookup ∧ Makes lookup s := by
  have hsettles := ofLookup_settles lookup
  rw [acceptable_iff]
  cases hresult : Settings.ofLookup lookup with
  | ok t =>
    rw [hresult] at hsettles
    constructor
    · rintro ⟨⟩
      exact hsettles
    · rintro ⟨-, hs⟩
      rw [hsettles.2.unique hs]
  | error f =>
    rw [hresult] at hsettles
    constructor
    · rintro ⟨⟩
    · rintro ⟨hpass, -⟩
      exact absurd hpass (Reports.not_all_pass hsettles)

theorem Violates.unique (hf : Violates lookup check f) (hg : Violates lookup check g) : f = g := by
  cases hf with
  | time hset hv =>
    cases hg with
    | time hset' hv' =>
      cases hset.1.symm.trans hset'.1
      rfl
  | address _ =>
    cases hg with
    | address _ => rfl
  | timeouts hsync hrequest h =>
    cases hg with
    | timeouts hsync' hrequest' h' =>
      rw [hsync.unique milliseconds_rightUnique hsync',
        hrequest.unique milliseconds_rightUnique hrequest']

theorem Reports.unique {list : List Check} (hf : Reports lookup list f)
    (hg : Reports lookup list g) : f = g := by
  induction hf with
  | here hf =>
    cases hg with
    | here hg => exact hf.unique hg
    | later hpass _ => exact absurd hf (hpass _)
  | later hpass _ ih =>
    cases hg with
    | here hg => exact absurd hg (hpass _)
    | later _ hg => exact ih hg

theorem ofLookup_eq_error_iff :
    Settings.ofLookup lookup = .error f ↔ Reports lookup checks f := by
  have hsettles := ofLookup_settles lookup
  cases hresult : Settings.ofLookup lookup with
  | ok s =>
    rw [hresult] at hsettles
    constructor
    · rintro ⟨⟩
    · intro hreports
      exact absurd hsettles.1 hreports.not_all_pass
  | error g =>
    rw [hresult] at hsettles
    constructor
    · rintro ⟨⟩
      exact hsettles
    · intro hf
      rw [Reports.unique hsettles hf]

theorem exists_ofLookup_eq_ok_iff :
    (∃ s, Settings.ofLookup lookup = .ok s) ↔ Acceptable lookup := by
  constructor
  · rintro ⟨s, hs⟩
    exact (ofLookup_eq_ok_iff.1 hs).1
  · intro hacceptable
    cases hresult : Settings.ofLookup lookup with
    | ok s => exact ⟨s, rfl⟩
    | error f =>
      have hreports := ofLookup_eq_error_iff.1 hresult
      exact absurd (acceptable_iff.1 hacceptable) hreports.not_all_pass

end Checks

-- A time that is set can clash with one that is not.
example : Settings.ofLookup
    (fun key => if key = "MXBOT_SYNC_TIMEOUT_MS" then some " +20000\n" else none) =
      .error (.config
        "MXBOT_REQUEST_TIMEOUT_MS (15000ms) must exceed MXBOT_SYNC_TIMEOUT_MS (20000ms)") := by
  decide +kernel

end ChatBot.Config
