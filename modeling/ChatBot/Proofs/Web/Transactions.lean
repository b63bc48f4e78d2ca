-- The ids of transactions. No two texts that a client sends share one, and so no two
-- requests for texts have the same path, whatever the wall clock shows and whatever comes
-- back for the texts before them.
import ChatBot.Proofs.Decimal.Digits
import ChatBot.Proofs.Web.Identifiers

namespace ChatBot.Web

open Service (Call)

/-! ## Paths that end in an id -/

namespace Path

/-- A path tells its last segment, if no slash stands in it. -/
theorem last_of_chars {path other : Path} {s t : List Char} (hs : '/' ∉ s) (ht : '/' ∉ t)
    (h : chars (path ++ [s]) = chars (other ++ [t])) : s = t := by
  have hback : ∀ (before : Path) {u : List Char}, '/' ∉ u →
      (chars (before ++ [u])).reverse.takeWhile (· ≠ '/') = u.reverse := by
    intro before u hu
    have hreverse : (chars (before ++ [u])).reverse = u.reverse ++ '/' :: (chars before).reverse := by
      simp [chars]
    rw [hreverse]
    refine (Text.span_append ?_ ?_).1
    · intro c hc
      rw [List.mem_reverse] at hc
      exact decide_eq_true fun heq => hu (heq ▸ hc)
    · rintro c ⟨⟩
      rfl
  have hsame := hback path hs
  rw [h, hback other ht] at hsame
  exact (List.reverse_injective hsame).symm

theorem pushAll_concat (path : Path) (words : List String) {text : String} (h : Plain text) :
    ∃ before, pushAll path (words ++ [text]) = before ++ [text.toList] := by
  refine ⟨opened (pushAll path words), ?_⟩
  unfold pushAll
  rw [List.foldl_append, List.foldl_cons, List.foldl_nil, h.push_eq]

theorem slash_not_mem {text : String} (h : Plain text) : '/' ∉ text.toList := by
  intro hslash
  have hkept := h.kept '/' hslash
  revert hkept
  decide

end Path

namespace Client

/-- The id of a transaction tells the time and the count. -/
theorem eq_of_transactionId {milliseconds milliseconds' : Nat} {count count' : UInt64}
    (h : transactionId milliseconds count = transactionId milliseconds' count') :
    milliseconds = milliseconds' ∧ count = count' := by
  have hchars := congrArg String.toList h
  unfold transactionId at hchars
  simp only [String.toList_append, Decimal.text, String.toList_ofList, List.append_assoc] at hchars
  obtain ⟨htime, hrest⟩ := Decimal.eq_of_digits_append (by rintro c ⟨⟩; rfl) (by rintro c ⟨⟩; rfl)
    (List.append_cancel_left hchars)
  have hcount := Decimal.digits_injective (List.append_cancel_left hrest)
  exact ⟨htime, UInt64.toNat_inj.1 hcount⟩

/-! ## Calls one after the other -/

variable {ν : Type}

/-- The client and its network after a call, whatever comes back. -/
def afterCall (network : Network ν) (call : Call) (s : Client × ν) : Client × ν :=
  match call with
  | .register c => ((homeserver network).register c s).2
  | .login c => ((homeserver network).login c s).2
  | .setDisplayName token user name => ((homeserver network).setDisplayName token user name s).2
  | .createRoom token name topic => ((homeserver network).createRoom token name topic s).2
  | .sendText token room body => ((homeserver network).sendText token room body s).2
  | .sync token poll => ((homeserver network).sync token poll s).2

/-- A text on its way: the id of its transaction, and its request if one can be made. -/
structure Sending where
  transaction : String
  request : Option Request

/-- The texts among calls that are made one after the other, each over the network as it is then.
So the wall clock may show anything from one call to the next. -/
def sendings : List (Network ν × Call) → Client × ν → List Sending
  | [], _ => []
  | (network, call) :: more, s =>
    let later := sendings more (afterCall network call s)
    let milliseconds := network.milliseconds s.2
    match call with
    | .sendText _ _ _ =>
      ⟨(s.1.nextTransaction milliseconds).1, (s.1.request milliseconds call).1⟩ :: later
    | _ => later

/-- What comes back for a call does not show in the client. -/
theorem client_call {α : Type} (network : Network ν) (read : Json.Tree → Option α) (call : Call)
    (s : Client × ν) :
    (Client.call network read call s).2.1 = (s.1.request (network.milliseconds s.2) call).2 := by
  unfold Client.call
  split
  · rename_i hrequest
    rw [hrequest]
  · rename_i hrequest
    rw [hrequest]

theorem client_afterCall (network : Network ν) (call : Call) (s : Client × ν) :
    (afterCall network call s).1 = (s.1.request (network.milliseconds s.2) call).2 := by
  cases call with
  | _ => exact client_call network _ _ s

theorem length_sendings (calls : List (Network ν × Call)) (s : Client × ν) :
    (sendings calls s).length = calls.countP (·.2.kind = .sendText) := by
  induction calls generalizing s with
  | nil => rfl
  | cons first more ih =>
    obtain ⟨network, call⟩ := first
    rw [List.countP_cons, ← ih (afterCall network call s)]
    cases call with
    | _ => rfl

/-- A sending whose id was made from a count, and whose request, if there is one, goes to a path
that ends in the id. -/
structure Sending.Numbered (x : Sending) (count : UInt64) : Prop where
  transaction : ∃ milliseconds, x.transaction = transactionId milliseconds count
  path : ∀ r, x.request = some r → ∃ before, r.path = before ++ [x.transaction.toList]

theorem path_of_sendText {base : Url} {token : Chat.AccessToken} {room : Chat.RoomId}
    {body transaction : String} {r : Request} (hplain : Path.Plain transaction)
    (h : Request.ofCall? base transaction (.sendText token room body) = some r) :
    ∃ before, r.path = before ++ [transaction.toList] := by
  unfold Request.ofCall? at h
  split at h
  · cases h
  · split at h
    · cases h
      exact Path.pushAll_concat _ (Request.apiRoot ++ ["rooms", room.text, "send", Chat.messageType])
        hplain
    · cases h

/-- The texts are numbered from the count of the client on, whatever other calls are made
between them. -/
theorem numbered_sendings (calls : List (Network ν × Call)) (s : Client × ν) (i : Nat)
    (hi : i < (sendings calls s).length) :
    ((sendings calls s)[i]).Numbered (s.1.transactions + .ofNat i) := by
  induction calls generalizing s i with
  | nil => exact absurd hi (Nat.not_lt_zero i)
  | cons first more ih =>
    obtain ⟨network, call⟩ := first
    have hclient := client_afterCall network call s
    cases call with
    | sendText token room body =>
      cases i with
      | zero =>
        refine ⟨⟨network.milliseconds s.2, ?_⟩, fun r hr => ?_⟩
        · simp [sendings, nextTransaction]
        · exact path_of_sendText (Path.plain_transactionId _ _) hr
      | succ i =>
        have hlater := ih (afterCall network _ s) i (Nat.lt_of_succ_lt_succ hi)
        have hcount : s.1.transactions + .ofNat (i + 1) = s.1.transactions + 1 + .ofNat i := by
          rw [UInt64.ofNat_add, UInt64.add_assoc, UInt64.add_comm (.ofNat i)]
          rfl
        rw [hclient] at hlater
        rw [hcount]
        exact hlater
    | _ =>
      have hlater := ih (afterCall network _ s) i hi
      rw [hclient] at hlater
      exact hlater

/-- Two texts of one row, fewer than all counts apart. -/
theorem ne_of_numbered {x y : Sending} {start : UInt64} {i j : Nat} (hij : i < j)
    (hj : j < UInt64.size) (hx : x.Numbered (start + .ofNat i)) (hy : y.Numbered (start + .ofNat j)) :
    x.transaction ≠ y.transaction := by
  intro hsame
  obtain ⟨milliseconds, hxid⟩ := hx.transaction
  obtain ⟨milliseconds', hyid⟩ := hy.transaction
  rw [hxid, hyid] at hsame
  have hcount := (UInt64.add_right_inj start).1 (eq_of_transactionId hsame).2
  have hnumbers := congrArg UInt64.toNat hcount
  rw [UInt64.toNat_ofNat_of_lt' (by omega), UInt64.toNat_ofNat_of_lt' hj] at hnumbers
  omega

/-- Requests to one path are of one transaction. -/
theorem eq_of_path {x y : Sending} {count count' : UInt64} (hx : x.Numbered count)
    (hy : y.Numbered count') {r r' : Request} (hr : x.request = some r) (hr' : y.request = some r')
    (h : r.path.chars = r'.path.chars) : x.transaction = y.transaction := by
  obtain ⟨before, hpath⟩ := hx.path r hr
  obtain ⟨before', hpath'⟩ := hy.path r' hr'
  obtain ⟨milliseconds, hxid⟩ := hx.transaction
  obtain ⟨milliseconds', hyid⟩ := hy.transaction
  have hplain := Path.slash_not_mem (Path.plain_transactionId milliseconds count)
  have hplain' := Path.slash_not_mem (Path.plain_transactionId milliseconds' count')
  rw [← hxid] at hplain
  rw [← hyid] at hplain'
  rw [hpath, hpath'] at h
  exact String.toList_injective (Path.last_of_chars hplain hplain' h)

/-- Of the texts that a client sends, up to as many as there are counts, no two share an id, and no
two requests for them have the same path: whatever the wall clock shows at each of them, stalled or
set back, whatever comes back for it, and whatever other calls are made in between. -/
theorem no_two_texts_share_an_id_or_a_path (calls : List (Network ν × Call)) (c : Client) (n : ν)
    (hcount : calls.countP (·.2.kind = .sendText) ≤ UInt64.size) :
    (sendings calls (c, n)).length = calls.countP (·.2.kind = .sendText) ∧
      (sendings calls (c, n)).Pairwise fun x y =>
        x.transaction ≠ y.transaction ∧
          ∀ r r', x.request = some r → y.request = some r' → r.path.chars ≠ r'.path.chars := by
  have hlength := length_sendings calls (c, n)
  refine ⟨hlength, List.pairwise_iff_getElem.2 fun i j hi hj hij => ?_⟩
  have hx := numbered_sendings calls (c, n) i hi
  have hy := numbered_sendings calls (c, n) j hj
  have hne := ne_of_numbered hij (by omega) hx hy
  exact ⟨hne, fun r r' hr hr' hsame => hne (eq_of_path hx hy hr hr' hsame)⟩

/-- A network that drops all requests, and what the clock shows. -/
def lostNetwork (milliseconds : Nat) : Network Unit where
  deliver _ s := (.dropped, s)
  milliseconds _ := milliseconds

/-- A text twice to one room, and between that one whose request cannot be made. The clock is set
back, and then stands still. -/
def lostTexts : List (Network Unit × Call) := [
  (lostNetwork 5, .sendText ⟨"token"⟩ ⟨"!r:hs"⟩ "Hello"),
  (lostNetwork 0, .sendText ⟨"\n"⟩ ⟨"!r:hs"⟩ "Hello"),
  (lostNetwork 0, .sendText ⟨"token"⟩ ⟨"!r:hs"⟩ "Hello")]

theorem lost_texts_have_ids_and_paths_of_their_own :
    lostTexts.countP (·.2.kind = .sendText) ≤ UInt64.size ∧
      (sendings lostTexts (localClient, ())).map Sending.transaction =
        ["mxbot_5_0", "mxbot_0_1", "mxbot_0_2"] ∧
      (sendings lostTexts (localClient, ())).map (·.request.isSome) = [true, false, true] ∧
      (sendings lostTexts (localClient, ())).length =
        lostTexts.countP (·.2.kind = .sendText) ∧
      (sendings lostTexts (localClient, ())).Pairwise fun x y =>
        x.transaction ≠ y.transaction ∧
          ∀ r r', x.request = some r → y.request = some r' → r.path.chars ≠ r'.path.chars :=
  ⟨by decide, by decide +kernel, by decide +kernel,
    no_two_texts_share_an_id_or_a_path lostTexts localClient () (by decide)⟩

end Client

end ChatBot.Web
