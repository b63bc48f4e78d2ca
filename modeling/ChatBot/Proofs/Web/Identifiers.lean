-- Where the ids of rooms and users stand in the paths of requests. An id gets one
-- segment, from which it is read back, unless it is made of dots or holds tabs or
-- line ends: those move it to another place, or make it another id.
import ChatBot.Proofs.Decimal.Digits
import ChatBot.Proofs.Web.Segments
import ChatBot.Web.Client

namespace ChatBot.Web

open Chat (AccessToken messageType)
open Service (Call)

namespace Path

/-! ## The place of an id in a path -/

/-- A path in which an id fills one segment, from which it is read back, with the right segments
before and after it. -/
def LeadsTo (before : Path) (id : String) (after path : Path) : Prop :=
  ∃ segment, path = before ++ [segment] ++ after ∧
    percentDecode segment = Text.utf8Bytes id.toList

/-- An id adds one segment at most. -/
theorem length_push {path : Path} (h : 2 ≤ path.length) (id : String) :
    2 ≤ (push path id).length ∧ (push path id).length ≤ path.length + 1 := by
  by_cases hdots : id = "." ∨ id = ".."
  · rw [push_dots hdots]
    omega
  · rw [push_of_not_dots hdots, opened_of_length h]
    split
    · simp only [List.length_append, List.length_dropLast, List.length_singleton]
      omega
    · split
      · simp only [List.length_append, List.length_singleton]
        omega
      · simp only [List.length_append, List.length_singleton]
        omega

/-- An id gets its segment if it is intact, and only then. -/
theorem leadsTo_push_iff {trunk after : Path} (h : 2 ≤ trunk.length) (id : String) :
    LeadsTo trunk id after (push trunk id ++ after) ↔ Intact id := by
  constructor
  · rintro ⟨segment, hpath, hsegment⟩
    have hpush : push trunk id = trunk ++ [segment] := List.append_cancel_right hpath
    by_cases hdots : id = "." ∨ id = ".."
    · rw [push_dots hdots] at hpush
      simp at hpush
    · rw [push_of_not_dots hdots, opened_of_length h] at hpush
      have hid : Text.utf8Bytes id.toList = Text.utf8Bytes (visible id) := by
        split at hpush
        · -- two dots take the place of the segment before them
          have hlength := congrArg List.length hpush
          simp only [List.length_append, List.length_dropLast, List.length_singleton] at hlength
          omega
        · split at hpush
          · have hempty : [] = segment := by simpa using hpush
            rw [← hempty] at hsegment
            have hnone : id.toList = [] := Text.utf8Bytes_injective hsegment.symm
            simp [visible, hnone]
          · have hencoded : percentEncode keptInSegment (visible id) = segment := by
              simpa using hpush
            rw [← hsegment, ← hencoded, percentDecode_percentEncode rfl]
      have hvisible := List.filter_eq_self.1 (Text.utf8Bytes_injective hid).symm
      refine ⟨fun heq => hdots (.inl heq), fun heq => hdots (.inr heq), ?_⟩
      intro c hc
      simpa using hvisible c hc
  · intro hintact
    refine ⟨percentEncode keptInSegment id.toList, ?_, percentDecode_percentEncode rfl _⟩
    rw [hintact.push_eq, opened_of_length h]

/-- Intact ids that share a path are one. -/
theorem eq_of_push {trunk after : Path} {id other : String} (hid : Intact id)
    (hother : Intact other) (h : push trunk id ++ after = push trunk other ++ after) :
    id = other := by
  have hpush := List.append_cancel_right h
  rw [hid.push_eq, hother.push_eq] at hpush
  have hsegment := congrArg percentDecode (List.singleton_inj.1 (List.append_cancel_left hpush))
  rw [percentDecode_percentEncode rfl, percentDecode_percentEncode rfl] at hsegment
  exact String.toList_injective (Text.utf8Bytes_injective hsegment)

/-! ## Behind a base -/

/-- The segments of a base, an empty one at its end left out. -/
def front (base : Path) : Path := if base.getLast? = some [] then base.dropLast else base

/-- Of a base, its front is kept. A base of two empty segments loses both. -/
theorem opened_popIfEmpty (base : Path) :
    opened (popIfEmpty base) = if base = [[], []] then [] else front base := by
  by_cases hlast : base.getLast? = some []
  · obtain ⟨before, rfl⟩ := List.getLast?_eq_some_iff.1 hlast
    have hfront : front (before ++ [[]]) = before := by simp [front]
    rw [hfront]
    cases before with
    | nil => rfl
    | cons first more =>
      have hpop : popIfEmpty (first :: more ++ [[]]) = first :: more := by
        unfold popIfEmpty
        rw [if_pos ⟨by simp, List.getLast?_concat⟩, List.dropLast_concat]
      have hempty : first :: more ++ [[]] = [[], []] ↔ first :: more = [[]] := by simp
      rw [hpop]
      simp only [opened, hempty]
  · have hpop : popIfEmpty base = base := if_neg fun h => hlast h.2
    have hfront : front base = base := if_neg hlast
    rw [hpop, hfront, opened, if_neg, if_neg]
    · rintro rfl
      exact hlast rfl
    · rintro rfl
      exact hlast rfl

/-! ## Words that are segments as they stand -/

/-- A word of kept characters that are not all dots. -/
theorem Plain.ofKept {text : String} (hkept : text.toList.all keptInSegment = true)
    (hword : text.toList.any (· ≠ '.') = true) : Plain text := by
  refine ⟨List.all_eq_true.1 hkept, ?_, ?_, ?_⟩
  · rintro rfl
    exact absurd hword (by decide)
  · rintro rfl
    exact absurd hword (by decide)
  · rintro rfl
    exact absurd hword (by decide)

theorem plain_words {texts : List String}
    (h : texts.all (fun t => t.toList.all keptInSegment && t.toList.any (· ≠ '.')) = true) :
    ∀ t ∈ texts, Plain t := by
  intro t ht
  have hboth := List.all_eq_true.1 h t ht
  rw [Bool.and_eq_true] at hboth
  exact .ofKept hboth.1 hboth.2

theorem kept_of_isDigit {c : Char} (h : c.isDigit = true) : keptInSegment c = true := by
  have hrange : 48 ≤ c.toNat ∧ c.toNat ≤ 57 := by
    simpa [Char.isDigit, UInt32.le_iff_toNat_le] using h
  have hall : ∀ n < 58, 48 ≤ n → keptInSegment (Char.ofNat n) = true := by decide
  have hc := hall c.toNat (by omega) hrange.1
  rwa [Char.ofNat_toNat] at hc

theorem kept_decimal (n : Nat) : (Decimal.text n).toList.all keptInSegment = true := by
  rw [List.all_eq_true]
  intro c hc
  rw [Decimal.text, String.toList_ofList] at hc
  exact kept_of_isDigit (Decimal.isDigit_of_mem_digits hc)

/-- The id of a transaction is a segment as it stands. -/
theorem plain_transactionId (milliseconds : Nat) (count : UInt64) :
    Plain (Client.transactionId milliseconds count) := by
  unfold Client.transactionId
  apply Plain.ofKept
  · simp only [String.toList_append, List.all_append, kept_decimal]
    rfl
  · simp only [String.toList_append, List.any_append]
    rfl

end Path

namespace Client

open ChatBot.Web.Path

/-! ## The two calls that name an id -/

/-- Where the segments of a call begin: behind the base and the root of all calls. -/
def trunk (base : Path) (words : List String) : Path :=
  opened (popIfEmpty base) ++ (Request.apiRoot ++ words).map String.toList

theorem length_trunk (base : Path) (words : List String) : 2 ≤ (trunk base words).length := by
  simp only [trunk, Request.apiRoot, List.length_append, List.length_map, List.length_cons]
  omega

theorem path_of_words {base : Path} {words after : List String} (id : String)
    (hwords : ∀ w ∈ Request.apiRoot ++ words, Plain w) (hafter : ∀ w ∈ after, Plain w) :
    pushAll (popIfEmpty base) (Request.apiRoot ++ (words ++ id :: after)) =
      push (trunk base words) id ++ after.map String.toList := by
  have hlength := length_trunk base words
  have hfront : pushAll (popIfEmpty base) (Request.apiRoot ++ words) = trunk base words :=
    pushAll_cons hwords
  have hopened := opened_of_length (length_push hlength id).1
  rw [← List.append_assoc]
  unfold pushAll at hfront ⊢
  rw [List.foldl_append, hfront, List.foldl_cons]
  exact pushAll_of_opened hopened hafter

/-- The segments that should stand before an id: those of the base, the root of all calls, and
the words of this one. -/
def promised (base : Path) (words : List String) : Path :=
  front base ++ (Request.apiRoot ++ words).map String.toList

/-- An id arrives where it should if it is intact, and only then. Behind a base of two empty
segments nothing stands where it should. -/
theorem leadsTo_promised_iff (base : Path) (words : List String) (id : String) (after : Path) :
    LeadsTo (promised base words) id after (push (trunk base words) id ++ after) ↔
      Intact id ∧ base ≠ [[], []] := by
  have hlength := length_trunk base words
  by_cases hbase : base = [[], []]
  · refine ⟨?_, fun h => absurd hbase h.2⟩
    rintro ⟨segment, hpath, -⟩
    subst hbase
    have hpush := (length_push hlength id).2
    have hsame := congrArg List.length hpath
    have hpromised : promised [[], []] words = [] :: trunk [[], []] words := rfl
    simp only [hpromised, List.length_append, List.length_cons, List.length_nil] at hsame
    omega
  · have htrunk : promised base words = trunk base words := by
      unfold promised trunk
      rw [opened_popIfEmpty, if_neg hbase]
    rw [htrunk, leadsTo_push_iff hlength]
    exact ⟨fun h => ⟨h, hbase⟩, fun h => h.1⟩

/-- What the requests that name an id have in common. -/
structure Addresses (base : Path) (words after : List String) (request : String → Option Request) :
    Prop where
  /-- Intact ids arrive, and no others do. -/
  arrives : ∀ id, ∃ r, request id = some r ∧
    (LeadsTo (promised base words) id (after.map String.toList) r.path ↔
      Intact id ∧ base ≠ [[], []])
  /-- No two intact ids share a path. -/
  apart : ∀ id other r r', Intact id → Intact other → request id = some r →
    request other = some r' → r.path = r'.path → id = other

theorem addresses_of_path {base : Path} {words after : List String}
    {request : String → Option Request} (hwords : ∀ w ∈ Request.apiRoot ++ words, Plain w)
    (hafter : ∀ w ∈ after, Plain w)
    (h : ∀ id, ∃ r, request id = some r ∧
      r.path = pushAll (popIfEmpty base) (Request.apiRoot ++ (words ++ id :: after))) :
    Addresses base words after request := by
  constructor
  · intro id
    obtain ⟨r, hr, hpath⟩ := h id
    refine ⟨r, hr, ?_⟩
    rw [hpath, path_of_words id hwords hafter]
    exact leadsTo_promised_iff base words id _
  · intro id other r r' hid hother hr hr' hsame
    obtain ⟨s, hs, hpath⟩ := h id
    obtain ⟨s', hs', hpath'⟩ := h other
    cases hr.symm.trans hs
    cases hr'.symm.trans hs'
    rw [hpath, hpath', path_of_words id hwords hafter, path_of_words other hwords hafter] at hsame
    exact eq_of_push hid hother hsame

/-- The address of a new client has a path. -/
theorem path?_of_new {address : String} {c : Client} (h : Client.new address = .ok c) :
    ∃ base, c.base.path? = some base := by
  unfold Client.new at h
  split at h
  · cases h
  · split at h
    · cases h
    · rename_i base hbase
      cases h
      exact ⟨base, hbase⟩

/-- With a token that fits into a header, every call has a request. -/
theorem path_of_ofCall? {url : Url} {base : Path} (hbase : url.path? = some base) (call : Call)
    (htoken : (Request.tokenOf? call).all fun t => t.text.toList.all Request.isHeaderChar)
    (transaction : String) :
    ∃ r, Request.ofCall? url transaction call = some r ∧
      r.path = pushAll (popIfEmpty base) (Request.apiRoot ++ Request.segmentsOf transaction call) := by
  unfold Request.ofCall?
  rw [hbase]
  dsimp only
  rw [if_pos htoken]
  exact ⟨_, rfl, rfl⟩

/-- Whatever the id of a room or a user is, it has a segment of its own in the path of a request,
and is read back from there, if it is intact and the base is not two empty segments; else it is
not. -/
theorem an_id_arrives_iff_it_is_intact (address : String) (c : Client)
    (hnew : Client.new address = .ok c) (token : AccessToken)
    (htoken : token.text.toList.all Request.isHeaderChar = true) (milliseconds : Nat)
    (body name : String) :
    ∃ base, c.base.path? = some base ∧
      Addresses base ["rooms"] ["send", messageType, transactionId milliseconds c.transactions]
        (fun id => (c.request milliseconds (.sendText token ⟨id⟩ body)).1) ∧
      Addresses base ["profile"] ["displayname"]
        (fun id => (c.request milliseconds (.setDisplayName token ⟨id⟩ name)).1) := by
  obtain ⟨base, hbase⟩ := path?_of_new hnew
  refine ⟨base, hbase, ?_, ?_⟩
  · apply addresses_of_path (plain_words (by decide))
    · intro w hw
      rcases List.mem_cons.1 hw with rfl | hw
      · exact .ofKept (by decide) (by decide)
      rcases List.mem_cons.1 hw with rfl | hw
      · exact .ofKept (by decide) (by decide)
      rcases List.mem_singleton.1 hw with rfl
      exact plain_transactionId milliseconds c.transactions
    · intro id
      exact path_of_ofCall? hbase (.sendText token ⟨id⟩ body) htoken _
  · apply addresses_of_path (plain_words (by decide)) (plain_words (by decide))
    intro id
    exact path_of_ofCall? hbase (.setDisplayName token ⟨id⟩ name) htoken _

/-! ## Ids that do not arrive -/

/-- A new client of a homeserver on this machine. -/
def localClient : Client where
  base :=
    { scheme := "http".toList
      user := none
      host := some (.domain "localhost".toList)
      port := some 6167
      locator := .path [[]]
      query := none }
  transactions := 0

theorem ids_arrive_at_a_local_homeserver :
    Client.new "http://localhost:6167" = .ok localClient ∧
      "token".toList.all Request.isHeaderChar = true ∧
      ∃ base, localClient.base.path? = some base ∧
        Addresses base ["rooms"] ["send", messageType, transactionId 0 localClient.transactions]
          (fun id => (localClient.request 0 (.sendText ⟨"token"⟩ ⟨id⟩ "Hello")).1) ∧
        Addresses base ["profile"] ["displayname"]
          (fun id => (localClient.request 0 (.setDisplayName ⟨"token"⟩ ⟨id⟩ "Bot")).1) :=
  ⟨rfl, by decide, an_id_arrives_iff_it_is_intact "http://localhost:6167" localClient rfl ⟨"token"⟩
    (by decide) 0 "Hello" "Bot"⟩

/-- Two dots with a tab between them take away the segment before them. -/
theorem dots_around_a_tab_do_not_arrive :
    Client.new "http://localhost:6167" = .ok localClient ∧
      ∃ r, (localClient.request 0 (.sendText ⟨"token"⟩ ⟨".\t."⟩ "Hello")).1 = some r ∧
        r.target = "/_matrix/client/r0//send/m.room.message/mxbot_0_0" ∧
        ¬ LeadsTo (promised [[]] ["rooms"]) ".\t."
          (["send", messageType, transactionId 0 0].map String.toList) r.path := by
  refine ⟨rfl, _, rfl, by decide, ?_⟩
  rintro ⟨segment, hpath, -⟩
  have hlength := congrArg List.length hpath
  rw [List.length_append, List.length_append, List.length_singleton] at hlength
  exact absurd hlength (by decide)

end Client

end ChatBot.Web
