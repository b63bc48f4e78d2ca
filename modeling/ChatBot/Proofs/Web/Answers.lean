-- What the answers of a homeserver come to, call by call: every call goes by the
-- status first and by the shape of the body then. What a refused registration
-- comes to decides whether the bot logs in.
import ChatBot.Proofs.Chat.Shapes
import ChatBot.Proofs.Loop.Opening
import ChatBot.Proofs.Web.Requests

namespace ChatBot.Web

open Json (Tree Field)
open Json.Tree (Lays Part IsText IsTextOrNull)
open Chat (RoomId Auth Batch AccessToken UserId IsAuth IsBatch)
open Service (Call Credentials Homeserver Poll World Answer)

/-! ## The shapes of the answers -/

def refusalFields : List Field := [⟨"errcode", .optional⟩, ⟨"error", .optional⟩]

/-- The document of a refusal: a code and a message, which may be missing or null. -/
def IsRefusal (t : Tree) (r : Refusal) : Prop :=
  ∃ errcode error, Lays refusalFields t [errcode, error] ∧
    Part none IsTextOrNull errcode r.errcode ∧ Part none IsTextOrNull error r.error

/-- Any document that has a value. -/
def IsAnything (t : Tree) (_ : Unit) : Prop := Tree.Fits Chat.documentLevels t

def IsCreatedRoom (t : Tree) (room : RoomId) : Prop :=
  ∃ id, Lays [⟨"room_id", .required⟩] t [some id] ∧ IsText id room.text

/-- The id of the event that was sent may be missing or null. -/
def IsSent (t : Tree) (_ : Unit) : Prop :=
  ∃ eventId s, Lays [⟨"event_id", .defaulted⟩] t [eventId] ∧ Part none IsTextOrNull eventId s

theorem refusal_eq_some_iff (t : Tree) (r : Refusal) :
    Refusal.ofTree? t = some r ↔ IsRefusal t r := by
  unfold Refusal.ofTree? IsRefusal
  constructor
  · intro h
    split at h
    · rename_i errcode error hfields
      obtain ⟨code, hcode, h⟩ := Option.bind_eq_some_iff.1 h
      obtain ⟨message, hmessage, h⟩ := Option.bind_eq_some_iff.1 h
      cases h
      exact ⟨errcode, error, Tree.fields?_eq_some_iff.1 hfields,
        Tree.textOrNull?_eq_some_iff.1 hcode, Tree.textOrNull?_eq_some_iff.1 hmessage⟩
    · cases h
  · rintro ⟨errcode, error, hlays, hcode, hmessage⟩
    have hfields := Tree.fields?_eq_some_iff.2 hlays
    unfold refusalFields at hfields
    rw [hfields]
    dsimp only
    rw [Tree.textOrNull?_eq_some_iff.2 hcode, Tree.textOrNull?_eq_some_iff.2 hmessage]
    rfl

theorem anything_eq_some_iff (t : Tree) (u : Unit) : anything? t = some u ↔ IsAnything t u := by
  unfold anything? IsAnything
  rw [← Tree.isSome_value?_iff]
  cases t.value? Chat.documentLevels <;> simp

theorem createdRoom_eq_some_iff (t : Tree) (room : RoomId) :
    createdRoom? t = some room ↔ IsCreatedRoom t room := by
  unfold createdRoom? IsCreatedRoom
  constructor
  · intro h
    split at h
    · rename_i id hfields
      obtain ⟨s, hs, rfl⟩ := Option.map_eq_some_iff.1 h
      exact ⟨id, Tree.fields?_eq_some_iff.1 hfields, Tree.text?_eq_some_iff.1 hs⟩
    · cases h
  · rintro ⟨id, hlays, hid⟩
    rw [Tree.fields?_eq_some_iff.2 hlays]
    dsimp only
    rw [Tree.text?_eq_some_iff.2 hid]
    rfl

theorem sent_eq_some_iff (t : Tree) (u : Unit) : sent? t = some u ↔ IsSent t u := by
  unfold sent? IsSent
  constructor
  · intro h
    split at h
    · rename_i eventId hfields
      obtain ⟨s, hs, -⟩ := Option.map_eq_some_iff.1 h
      exact ⟨eventId, s, Tree.fields?_eq_some_iff.1 hfields, Tree.textOrNull?_eq_some_iff.1 hs⟩
    · cases h
  · rintro ⟨eventId, s, hlays, hs⟩
    rw [Tree.fields?_eq_some_iff.2 hlays]
    dsimp only
    rw [Tree.textOrNull?_eq_some_iff.2 hs]
    rfl

/-! ## What an answer comes to -/

/-- A body, as it is looked at when the homeserver refuses: without a mark of the byte order. -/
def refusalText (body : String) : String := String.ofList (Text.withoutByteOrderMark body.toList)

/-- The body says why the homeserver refuses. -/
def Explains (body : String) (r : Refusal) : Prop :=
  ∃ t, Tree.ofText? (refusalText body) = some t ∧ IsRefusal t r

/-- The body is a document that stands for something. -/
def Holds {α : Type} (Is : Tree → α → Prop) (body : String) (a : α) : Prop :=
  ∃ t, Tree.ofText? body = some t ∧ Is t a

/-- What an answer with a given status and body comes to. -/
inductive ComesTo {α : Type} (Is : Tree → α → Prop) (status : Nat) (body : String) :
    Except Fault α → Prop
  | accepted {a : α} : 200 ≤ status ∧ status ≤ 299 → Holds Is body a →
      ComesTo Is status body (.ok a)
  | senseless : 200 ≤ status ∧ status ≤ 299 → (¬ ∃ a, Holds Is body a) →
      ComesTo Is status body (.error (.protocol "unexpected response body"))
  | refused {r : Refusal} : ¬ (200 ≤ status ∧ status ≤ 299) → Explains body r →
      ComesTo Is status body (.error (.remote status r.errcode (r.error.getD "")))
  | unexplained : ¬ (200 ≤ status ∧ status ≤ 299) → (¬ ∃ r, Explains body r) →
      ComesTo Is status body
        (.error (.remote status none (String.ofList ((refusalText body).toList.take 200))))

/-- What the HTTP stack hands over: a body that broke off counts as empty. -/
inductive HandsOver : Delivery → (status : Nat) → (body : String) → Prop
  | whole {status : Nat} {body : String} : HandsOver (.response status body true) status body
  | brokenOff {status : Nat} {body : String} : HandsOver (.response status body false) status ""

theorem isSuccess_iff (status : Nat) : isSuccess status = true ↔ 200 ≤ status ∧ status ≤ 299 := by
  unfold isSuccess
  rw [Bool.and_eq_true, decide_eq_true_iff, decide_eq_true_iff]

theorem explains_iff (body : String) (r : Refusal) :
    (Tree.ofText? (refusalText body)).bind Refusal.ofTree? = some r ↔ Explains body r := by
  unfold Explains
  rw [Option.bind_eq_some_iff]
  simp only [refusal_eq_some_iff]

theorem holds_iff {α : Type} {read : Tree → Option α} {Is : Tree → α → Prop}
    (h : ∀ t a, read t = some a ↔ Is t a) (body : String) (a : α) :
    (Tree.ofText? body).bind read = some a ↔ Holds Is body a := by
  unfold Holds
  rw [Option.bind_eq_some_iff]
  simp only [h]

theorem Explains.unique {body : String} {r r' : Refusal} (h : Explains body r)
    (h' : Explains body r') : r = r' := by
  rw [← explains_iff] at h h'
  exact Option.some.inj (h.symm.trans h')

theorem Holds.unique {α : Type} {read : Tree → Option α} {Is : Tree → α → Prop} {body : String}
    {a b : α} (ha : Holds Is body a) (h : ∀ t a, read t = some a ↔ Is t a) (hb : Holds Is body b) :
    a = b := by
  rw [← holds_iff h] at ha hb
  exact Option.some.inj (ha.symm.trans hb)

theorem comesTo_refusal {α : Type} (Is : Tree → α → Prop) {status : Nat}
    (h : ¬ (200 ≤ status ∧ status ≤ 299)) (body : String) :
    ComesTo Is status body (.error (refusal status body)) := by
  unfold refusal
  dsimp only
  split
  · rename_i r hr
    exact .refused h ((explains_iff body r).1 hr)
  · rename_i hnone
    apply ComesTo.unexplained h
    rintro ⟨r, hr⟩
    rw [← explains_iff, refusalText, hnone] at hr
    cases hr

/-- A body that broke off is as good as an empty one, which is no document. -/
theorem result_of_handsOver {α : Type} (read : Tree → Option α) {d : Delivery} {status : Nat}
    {body : String} (hd : HandsOver d status body) :
    d.result read =
      if isSuccess status then
        match (Tree.ofText? body).bind read with
        | some a => .ok a
        | none => .error (.protocol "unexpected response body")
      else .error (refusal status body) := by
  cases hd with
  | whole => rfl
  | brokenOff => rfl

theorem comesTo_result {α : Type} {read : Tree → Option α} {Is : Tree → α → Prop}
    (h : ∀ t a, read t = some a ↔ Is t a) {d : Delivery} {status : Nat} {body : String}
    (hd : HandsOver d status body) : ComesTo Is status body (d.result read) := by
  rw [result_of_handsOver read hd]
  split
  · rename_i hsuccess
    split
    · rename_i a ha
      exact .accepted ((isSuccess_iff status).1 hsuccess) ((holds_iff h body a).1 ha)
    · rename_i hnone
      apply ComesTo.senseless ((isSuccess_iff status).1 hsuccess)
      rintro ⟨a, ha⟩
      rw [← holds_iff h, hnone] at ha
      cases ha
  · rename_i hfailure
    exact comesTo_refusal Is (mt (isSuccess_iff status).2 hfailure) body

/-- An answer comes to one thing. -/
theorem ComesTo.unique {α : Type} {read : Tree → Option α} {Is : Tree → α → Prop}
    (h : ∀ t a, read t = some a ↔ Is t a) {status : Nat} {body : String} {x y : Except Fault α}
    (hx : ComesTo Is status body x) (hy : ComesTo Is status body y) : x = y := by
  cases hx with
  | accepted hsuccess ha =>
    cases hy with
    | accepted _ hb => rw [ha.unique h hb]
    | senseless _ hnone => exact absurd ⟨_, ha⟩ hnone
    | refused hfailure | unexplained hfailure => exact absurd hsuccess hfailure
  | senseless hsuccess hnone =>
    cases hy with
    | accepted _ hb => exact absurd ⟨_, hb⟩ hnone
    | senseless => rfl
    | refused hfailure | unexplained hfailure => exact absurd hsuccess hfailure
  | refused hfailure hr =>
    cases hy with
    | accepted hsuccess | senseless hsuccess => exact absurd hsuccess hfailure
    | refused _ hr' => rw [hr.unique hr']
    | unexplained _ hnone => exact absurd ⟨_, hr⟩ hnone
  | unexplained hfailure hnone =>
    cases hy with
    | accepted hsuccess | senseless hsuccess => exact absurd hsuccess hfailure
    | refused _ hr' => exact absurd ⟨_, hr'⟩ hnone
    | unexplained => rfl

/-! ## The calls -/

variable {ν : Type}

/-- A call goes out, and the HTTP stack hands over an answer. -/
def Answered (network : Network ν) (s : Client × ν) (call : Call) (status : Nat) (body : String) :
    Prop :=
  ∃ request client, s.1.request (network.milliseconds s.2) call = (some request, client) ∧
    HandsOver (network.deliver request s.2).1 status body

theorem call_eq_iff {α : Type} {read : Tree → Option α} {Is : Tree → α → Prop}
    (h : ∀ t a, read t = some a ↔ Is t a) {network : Network ν} {s : Client × ν} {call : Call}
    {status : Nat} {body : String} (hanswered : Answered network s call status body)
    (result : Except Fault α) :
    (Client.call network read call s).1 = result ↔ ComesTo Is status body result := by
  obtain ⟨request, client, hrequest, hd⟩ := hanswered
  have hresult : (Client.call network read call s).1 = (network.deliver request s.2).1.result read := by
    unfold Client.call
    rw [hrequest]
  have hcomes := comesTo_result h hd
  rw [hresult]
  constructor
  · rintro rfl
    exact hcomes
  · exact hcomes.unique h

/-! ## Logging in -/

/-- The answer refuses because the user name is taken. -/
def SaysTaken (status : Nat) (body : String) : Prop :=
  ¬ (200 ≤ status ∧ status ≤ 299) ∧ ∃ r, Explains body r ∧ r.errcode = some "M_USER_IN_USE"

/-- A fault says that the name is taken if the answer did, whatever the status is. -/
theorem nameTaken_iff {α : Type} {Is : Tree → α → Prop} {status : Nat} {body : String} {f : Fault}
    (h : ComesTo Is status body (.error f)) : Loop.NameTaken f ↔ SaysTaken status body := by
  rw [← Loop.errcode?_eq_userInUse]
  cases h with
  | senseless hsuccess => exact ⟨fun hcode => (nomatch hcode), fun h => absurd hsuccess h.1⟩
  | @refused r hfailure hr =>
    constructor
    · exact fun hcode => ⟨hfailure, r, hr, hcode⟩
    · rintro ⟨-, r', hr', hcode⟩
      rw [← hr.unique hr'] at hcode
      exact hcode
  | unexplained hfailure hnone =>
    exact ⟨fun hcode => (nomatch hcode), fun ⟨_, r, hr, _⟩ => absurd ⟨r, hr⟩ hnone⟩

/-- A network that keeps all requests that were sent. -/
def Network.recorded (network : Network ν) : Network (List Request × ν) where
  deliver request s :=
    ((network.deliver request s.2).1, s.1 ++ [request], (network.deliver request s.2).2)
  milliseconds s := network.milliseconds s.2

theorem call_recorded {α : Type} (network : Network ν) (read : Tree → Option α) {call : Call}
    {s : Client × List Request × ν} {request : Request} {client : Client}
    (h : s.1.request (network.milliseconds s.2.2) call = (some request, client)) :
    (Client.call network.recorded read call s).2 =
      (client, s.2.1 ++ [request], (network.deliver request s.2.2).2) := by
  unfold Client.call
  rw [show s.1.request (network.recorded.milliseconds s.2) call = _ from h]
  rfl

/-- Where a registration can be sent, a login can be, too. -/
theorem exists_login {base : Url} {c : Credentials} {register : Request}
    (h : Request.ofCall? base "" (.register c) = some register) :
    ∃ login, Request.ofCall? base "" (.login c) = some login := by
  unfold Request.ofCall? at h ⊢
  split at h
  · cases h
  · exact ⟨_, if_pos rfl⟩

/-- A registration and then a login are two requests. -/
theorem sent_by_both {network : Network ν} {c : Credentials} {s : Client × List Request × ν}
    {register login : Request}
    (hregister : s.1.request (network.milliseconds s.2.2) (.register c) = (some register, s.1))
    (hlogin : Request.ofCall? s.1.base "" (.login c) = some login) :
    ((Client.homeserver network.recorded).login c
      ((Client.homeserver network.recorded).register c s).2).2.2.1 = s.2.1 ++ [register, login] := by
  change (Client.call network.recorded Auth.ofTree? (.login c)
    (Client.call network.recorded Auth.ofTree? (.register c) s).2).2.2.1 = _
  have hrequest : ∀ milliseconds, s.1.request milliseconds (.login c) = (some login, s.1) :=
    fun _ => congrArg (·, s.1) hlogin
  rw [call_recorded network Auth.ofTree? hregister, call_recorded network Auth.ofTree?
    (s := (s.1, s.2.1 ++ [register], (network.deliver register s.2.2).2)) (hrequest _),
    List.append_assoc]
  rfl

/-- The requests with which an account is set up: that of the login is sent if the name is taken,
and only then. -/
theorem sent_by_establish (network : Network ν) (clock : Nat → State.Moment) (c : Credentials)
    (w : World (Client × List Request × ν)) {status : Nat} {body : String}
    (h : Answered network.recorded w.server (.register c) status body) :
    ∃ register login, Request.ofCall? w.server.1.base "" (.register c) = some register ∧
      Request.ofCall? w.server.1.base "" (.login c) = some login ∧
      (SaysTaken status body →
        (Loop.establish ⟨Client.homeserver network.recorded, clock⟩ c w).2.server.2.1 =
          w.server.2.1 ++ [register, login]) ∧
      (¬ SaysTaken status body →
        (Loop.establish ⟨Client.homeserver network.recorded, clock⟩ c w).2.server.2.1 =
          w.server.2.1 ++ [register]) := by
  have hresult := call_eq_iff Chat.auth_eq_some_iff h
  obtain ⟨register, client, hregister, -⟩ := h
  obtain ⟨hmade, rfl⟩ := Prod.mk.inj hregister
  obtain ⟨login, hlogin⟩ := exists_login hmade
  have honce := congrArg (·.2.1) (call_recorded network Auth.ofTree? hregister)
  have hboth := sent_by_both hregister hlogin
  obtain ⟨made, result, hsigns, -, -⟩ :=
    Loop.signsIn_establish ⟨Client.homeserver network.recorded, clock⟩ c w
  generalize (Loop.establish ⟨Client.homeserver network.recorded, clock⟩ c w).2.server = server
    at hsigns
  have hsent : (SaysTaken status body ∧ server.2.1 = w.server.2.1 ++ [register, login]) ∨
      (¬ SaysTaken status body ∧ server.2.1 = w.server.2.1 ++ [register]) := by
    cases hsigns with
    | @registered a ha =>
      refine .inr ⟨fun htaken => ?_, honce⟩
      cases (hresult (.ok a)).1 ha with
      | accepted hsuccess => exact htaken.1 hsuccess
    | @refused f hf hother =>
      exact .inr ⟨mt (nameTaken_iff ((hresult (.error f)).1 hf)).2 hother, honce⟩
    | @loggedIn f _ hf htaken | @lockedOut f _ hf htaken =>
      exact .inl ⟨(nameTaken_iff ((hresult (.error f)).1 hf)).1 htaken, hboth⟩
  refine ⟨register, login, hmade, hlogin, ?_, ?_⟩
  · intro htaken
    exact (hsent.resolve_right fun h => h.1 htaken).2
  · intro hother
    exact (hsent.resolve_left fun h => hother h.1).2

/-- All calls go by their answers alike. A status outside of 200 to 299 is a refusal, with the code
and the message that the body explains it with, or else with the beginning of the body; any other
status is a success just if the body is a document of the call. So the name of a registration is
taken, and the bot logs in, just if the registration is refused with a body that says so. -/
theorem an_answer_comes_to_what_its_status_and_its_body_say (network : Network ν)
    (status : Nat) (body : String) :
    (∀ s c, Answered network s (.register c) status body → ∀ result,
      ((Client.homeserver network).register c s).1.result = result ↔
        ComesTo IsAuth status body result) ∧
    (∀ s c, Answered network s (.login c) status body → ∀ result,
      ((Client.homeserver network).login c s).1.result = result ↔
        ComesTo IsAuth status body result) ∧
    (∀ s token user name, Answered network s (.setDisplayName token user name) status body →
      ∀ result, ((Client.homeserver network).setDisplayName token user name s).1.result = result ↔
        ComesTo IsAnything status body result) ∧
    (∀ s token name topic, Answered network s (.createRoom token name topic) status body →
      ∀ result, ((Client.homeserver network).createRoom token name topic s).1.result = result ↔
        ComesTo IsCreatedRoom status body result) ∧
    (∀ s token room text, Answered network s (.sendText token room text) status body →
      ∀ result, ((Client.homeserver network).sendText token room text s).1.result = result ↔
        ComesTo IsSent status body result) ∧
    (∀ s token poll, Answered network s (.sync token poll) status body → ∀ result,
      ((Client.homeserver network).sync token poll s).1.result = result ↔
        ComesTo IsBatch status body result) ∧
    (∀ clock c (w : World (Client × List Request × ν)),
      Answered network.recorded w.server (.register c) status body →
        ∃ register login, Request.ofCall? w.server.1.base "" (.register c) = some register ∧
          Request.ofCall? w.server.1.base "" (.login c) = some login ∧
          (SaysTaken status body →
            (Loop.establish ⟨Client.homeserver network.recorded, clock⟩ c w).2.server.2.1 =
              w.server.2.1 ++ [register, login]) ∧
          (¬ SaysTaken status body →
            (Loop.establish ⟨Client.homeserver network.recorded, clock⟩ c w).2.server.2.1 =
              w.server.2.1 ++ [register])) :=
  ⟨fun _ _ => call_eq_iff Chat.auth_eq_some_iff, fun _ _ => call_eq_iff Chat.auth_eq_some_iff,
    fun _ _ _ _ => call_eq_iff anything_eq_some_iff,
    fun _ _ _ _ => call_eq_iff createdRoom_eq_some_iff,
    fun _ _ _ _ => call_eq_iff sent_eq_some_iff, fun _ _ _ => call_eq_iff Chat.batch_eq_some_iff,
    fun clock c w => sent_by_establish network clock c w⟩

/-- The body of a refusal because of the user name. -/
def takenBody : String := (Request.texts [("errcode", "M_USER_IN_USE")]).render

/-- A network in which every user name is taken. -/
def crowdedNetwork : Network (List Request × Unit) :=
  Network.recorded { deliver := fun _ s => (.response 400 takenBody true, s), milliseconds := fun _ => 0 }

def crowdedWorld : World (Client × List Request × Unit) :=
  .start (Client.localClient, [], ()) .never

theorem explains_takenBody : Explains takenBody ⟨some "M_USER_IN_USE", none⟩ := by
  have hmark : refusalText takenBody = takenBody := by
    unfold refusalText takenBody Json.Value.render
    rw [String.toList_ofList]
    rfl
  refine ⟨.object [(some "errcode", .text (some "M_USER_IN_USE"))], ?_,
    (refusal_eq_some_iff _ _).1 rfl⟩
  rw [hmark, takenBody, (wordy_texts _).ofText?_render]
  rfl

theorem saysTaken_takenBody : SaysTaken 400 takenBody :=
  ⟨by decide, _, explains_takenBody, rfl⟩

/-- Where every name is taken, the bot logs in. -/
theorem a_registration_in_a_crowd_comes_to_a_login :
    Answered crowdedNetwork crowdedWorld.server (.register ⟨"bot", "secret"⟩) 400 takenBody ∧
    SaysTaken 400 takenBody ∧
    ((Client.homeserver crowdedNetwork).register ⟨"bot", "secret"⟩ crowdedWorld.server).1.result =
      .error (.remote 400 (some "M_USER_IN_USE") "") ∧
    ∃ register login, (Loop.establish ⟨Client.homeserver crowdedNetwork, fun _ => default⟩
      ⟨"bot", "secret"⟩ crowdedWorld).2.server.2.1 = [register, login] := by
  have hanswered :
      Answered crowdedNetwork crowdedWorld.server (.register ⟨"bot", "secret"⟩) 400 takenBody :=
    ⟨_, _, rfl, .whole⟩
  have hcomes := (an_answer_comes_to_what_its_status_and_its_body_say crowdedNetwork 400
    takenBody).1 _ _ hanswered
  have hsent := (an_answer_comes_to_what_its_status_and_its_body_say (ν := Unit) _ 400
    takenBody).2.2.2.2.2.2 (fun _ => default) _ _ hanswered
  obtain ⟨register, login, -, -, hboth, -⟩ := hsent
  exact ⟨hanswered, saysTaken_takenBody,
    (hcomes _).2 (.refused (by decide) explains_takenBody), register, login,
    hboth saysTaken_takenBody⟩

end ChatBot.Web
