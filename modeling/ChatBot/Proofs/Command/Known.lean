-- The commands that the bot knows: a token calls one up to the case of its ASCII
-- letters, and is counted before it is answered.
import ChatBot.Command.Dispatch

namespace ChatBot

namespace Command

open State (BotState Moment RoomTable)

/-! ## Tokens -/

/-- Whether a token calls a command, in capitals or small letters. -/
def isKnown (token : String) : Bool := registry.any fun spec => sameToken spec.token token

theorem isSome_lookup (token : String) : (lookup token).isSome = isKnown token :=
  List.isSome_find?

/-- Tokens that differ in nothing but the case of ASCII letters call the same. -/
theorem lookup_eq_of_sameToken {a b : String} (h : sameToken a b = true) : lookup b = lookup a := by
  have hlower : asciiLower a = asciiLower b := eq_of_beq h
  unfold lookup sameToken
  rw [hlower]

theorem lookup_eq_some {token : String} {spec : Spec} (h : lookup token = some spec) :
    spec ∈ registry ∧ sameToken spec.token token = true := by
  unfold lookup at h
  have hsame := List.find?_some h
  exact ⟨List.mem_of_find?_eq_some h, hsame⟩

/-! ## Replies -/

/-- The state is what it was, with a known command counted. -/
theorem dispatch_state (c : Chat.Command) (state : BotState) (now : Moment) (draws : Draws) :
    (dispatch c state now draws).2.1 = if isKnown c.token then state.countCommand else state := by
  rw [← isSome_lookup]
  unfold dispatch
  cases lookup c.token with
  | none => rfl
  | some spec => rfl

/-- A known command is answered when it is counted. -/
theorem dispatch_reply {c : Chat.Command} {spec : Spec} (h : lookup c.token = some spec)
    (state : BotState) (now : Moment) (draws : Draws) :
    (dispatch c state now draws).1 =
      (reply spec.kind c.args c.sender state.countCommand now draws).1 := by
  unfold dispatch
  rw [h]

/-! ## Draws -/

theorem used_lt_belowFrom {n : Nat} (h : 0 < n) (ahead : List UInt32) (used : Nat) :
    used < (Draws.belowFrom h ahead used).2.used := by
  induction ahead generalizing used with
  | nil => exact Nat.lt_succ_self used
  | cons v ahead ih =>
    unfold Draws.belowFrom
    split
    · exact Nat.lt_succ_self used
    · exact Nat.lt_of_succ_lt (ih (used + 1))

/-- To pick is to draw. -/
theorem draws_pick_ne {α : Type} (items : List α) (h : items ≠ []) (draws : Draws) :
    (draws.pick items h).2 ≠ draws := by
  intro hsame
  have hused := used_lt_belowFrom (List.length_pos_iff.2 h) draws.ahead draws.used
  have hpick : (draws.pick items h).2 =
      (Draws.belowFrom (List.length_pos_iff.2 h) draws.ahead draws.used).2 := rfl
  rw [← hpick, hsame] at hused
  exact Nat.lt_irrefl _ hused

/-- Only jokes and quotes draw. -/
theorem draws_reply_eq_iff (kind : Kind) (args : String) (sender : Chat.UserId) (state : BotState)
    (now : Moment) (draws : Draws) :
    (reply kind args sender state now draws).2 = draws ↔ kind ≠ .joke ∧ kind ≠ .quote := by
  cases kind with
  | joke =>
    unfold reply
    exact iff_of_false (draws_pick_ne jokes jokes_ne_nil draws) (by simp)
  | quote =>
    unfold reply
    exact iff_of_false (draws_pick_ne quotes quotes_ne_nil draws) (by simp)
  | _ => exact iff_of_true rfl (by decide)

/-- A command is known by its kind. -/
theorem eq_of_kind : ∀ a ∈ registry, ∀ b ∈ registry, a.kind = b.kind → a = b := by decide

theorem lookup_own_token : ∀ spec ∈ registry, lookup spec.token = some spec := by decide

/-- A token calls the command of a kind just if it is the token of that command. -/
theorem kind_eq_iff {token : String} {spec known : Spec} (hknown : known ∈ registry)
    (h : lookup token = some spec) :
    spec.kind = known.kind ↔ sameToken known.token token = true := by
  obtain ⟨hmem, hsame⟩ := lookup_eq_some h
  constructor
  · intro hkind
    rwa [eq_of_kind spec hmem known hknown hkind] at hsame
  · intro htoken
    have hown := lookup_eq_of_sameToken htoken
    rw [h, lookup_own_token known hknown] at hown
    cases hown
    rfl

/-- A command draws just if it is the one for jokes or the one for quotes. -/
theorem dispatch_draws_eq_iff (c : Chat.Command) (state : BotState) (now : Moment) (draws : Draws) :
    (dispatch c state now draws).2.2 = draws ↔
      sameToken "!joke" c.token = false ∧ sameToken "!quote" c.token = false := by
  unfold dispatch
  cases h : lookup c.token with
  | none =>
    have hunknown : ∀ name, (lookup name).isSome = true → sameToken name c.token = false := by
      intro name hname
      cases hsame : sameToken name c.token with
      | false => rfl
      | true =>
        rw [← lookup_eq_of_sameToken hsame, h] at hname
        cases hname
    simp [hunknown "!joke" (by decide), hunknown "!quote" (by decide)]
  | some spec =>
    have hjokes : (⟨"!joke", .joke, "Tell a random joke"⟩ : Spec) ∈ registry := by decide
    have hquotes : (⟨"!quote", .quote, "Inspirational quote"⟩ : Spec) ∈ registry := by decide
    have hjoke := kind_eq_iff hjokes h
    have hquote := kind_eq_iff hquotes h
    dsimp only at hjoke hquote ⊢
    rw [draws_reply_eq_iff, ne_eq, ne_eq, hjoke, hquote, Bool.not_eq_true, Bool.not_eq_true]

/-! ## Lists of rooms -/

theorem foldl_append_eq_join {α : Type} (f : α → String) (start : String) (as : List α) :
    as.foldl (fun out a => out ++ f a) start = start ++ String.join (as.map f) := by
  induction as generalizing start with
  | nil => simp
  | cons a more ih => rw [List.foldl_cons, ih, List.map_cons, String.join_cons, String.append_assoc]

/-- A table that is not empty is listed row by row. -/
theorem roomsReply_eq {table : RoomTable} (h : table.rows ≠ []) :
    roomsReply table = "📋 **Rooms I'm in:**\n\n" ++
      String.join (table.rows.map fun row => roomLines row.1 row.2) := by
  have hempty : table.isEmpty = false := by simpa [Chat.ByRoom.isEmpty] using h
  unfold roomsReply
  rw [hempty, if_neg Bool.false_ne_true, foldl_append_eq_join]

end Command

end ChatBot
