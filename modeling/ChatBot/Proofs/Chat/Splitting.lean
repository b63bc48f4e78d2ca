-- How a message is split into a command and its arguments. The word in front is as long as
-- it can be, and the arguments are what stands behind it, without white space at the ends.
-- So a command may be written in many ways.
import ChatBot.Chat.Message
import ChatBot.Proofs.Text.Stripping

namespace ChatBot.Chat

open Text (Stripped isBlank)

/-! ## Words -/

/-- A text starts with a word, which goes on as long as no white space comes. Behind it stand the
arguments, between white space. -/
structure Splits (body token args : List Char) : Prop where
  word : ∀ c ∈ token, isBlank c = false
  longest : ∀ front, front <+: body → (∀ c ∈ front, isBlank c = false) → front <+: token
  behind : ∃ rest, body = token ++ rest ∧ Stripped rest args

variable {body token args rest : List Char}

/-- A word ends where white space comes, or nothing. -/
theorem longest_iff (hword : ∀ c ∈ token, isBlank c = false) :
    (∀ front, front <+: token ++ rest → (∀ c ∈ front, isBlank c = false) → front <+: token) ↔
      ∀ c, rest.head? = some c → isBlank c = true := by
  constructor
  · intro hlongest c hc
    obtain ⟨more, rfl⟩ := List.head?_eq_some_iff.1 hc
    by_contra hblank
    have hfront : token ++ [c] <+: token := by
      apply hlongest
      · exact ⟨more, by simp⟩
      · exact List.forall_mem_append.2 ⟨hword, by simpa using hblank⟩
    have hlength := hfront.length_le
    rw [List.length_append, List.length_singleton] at hlength
    omega
  · intro hrest front hfront hblank
    rcases List.prefix_or_prefix_of_prefix hfront (List.prefix_append token rest) with
      h | ⟨more, rfl⟩
    · exact h
    · cases more with
      | nil => exact ⟨[], by simp⟩
      | cons c more =>
        obtain ⟨after, rfl⟩ := (List.prefix_append_right_inj token).1 hfront
        have hc := hblank c (by simp)
        rw [hrest c rfl] at hc
        cases hc

theorem splitToken_append (hword : ∀ c ∈ token, isBlank c = false)
    (hrest : ∀ c, rest.head? = some c → isBlank c = true) :
    splitToken (token ++ rest) = (token, Text.trim rest) := by
  have hword' : ∀ c ∈ token, (!isBlank c) = true := fun c hc => by rw [hword c hc]; rfl
  have hrest' : ∀ c, rest.head? = some c → (!isBlank c) = false := fun c hc => by
    rw [hrest c hc]; rfl
  obtain ⟨htake, hdrop⟩ := Text.span_append hword' hrest'
  unfold splitToken
  dsimp only
  rw [htake, hdrop]

theorem splits_iff : Splits body token args ↔ splitToken body = (token, args) := by
  constructor
  · rintro ⟨hword, hlongest, rest, rfl, hargs⟩
    rw [splitToken_append hword ((longest_iff hword).1 hlongest), hargs.trim_eq]
  · intro h
    obtain ⟨htoken, hargs⟩ := Prod.mk.inj h
    have hbody : token ++ body.dropWhile (!isBlank ·) = body := by
      rw [← htoken]
      exact List.takeWhile_append_dropWhile
    have hword : ∀ c ∈ token, isBlank c = false := by
      intro c hc
      rw [← htoken] at hc
      simpa using List.mem_takeWhile_imp hc
    refine ⟨hword, ?_, _, hbody.symm, Text.stripped_iff.2 hargs⟩
    rw [← hbody]
    refine (longest_iff hword).2 fun c hc => ?_
    simpa using Text.of_head?_dropWhile hc

/-! ## Messages -/

variable {m : Inbound} {c : Command}

/-- What a message says as a command. -/
structure Commands (m : Inbound) (c : Command) : Prop where
  splits : Splits m.body.toList c.token.toList c.args.toList
  sender : c.sender = m.sender
  room : c.room = m.room

theorem classify_eq_command_iff :
    classify m = .command c ↔ m.body.toList.head? = some commandMark ∧ Commands m c := by
  obtain ⟨token, args, sender, room⟩ := c
  unfold classify
  constructor
  · intro h
    split at h
    · rename_i hmark
      cases h
      refine ⟨hmark, splits_iff.2 ?_, rfl, rfl⟩
      rw [String.toList_ofList, String.toList_ofList]
      rfl
    · cases h
  · rintro ⟨hmark, hsplits, rfl, rfl⟩
    rw [if_pos hmark, splits_iff.1 hsplits]
    dsimp only
    rw [String.ofList_toList, String.ofList_toList]

theorem classify_of_no_mark (h : m.body.toList.head? ≠ some commandMark) :
    classify m = .freeText ⟨m.body, m.sender, m.room⟩ := if_neg h

theorem exists_command (h : m.body.toList.head? = some commandMark) :
    ∃ c, classify m = .command c := by
  unfold classify
  rw [if_pos h]
  exact ⟨_, rfl⟩

/-- The mark is no white space, so it belongs to the word. -/
theorem Splits.head? (h : Splits body token args) (hmark : body.head? = some commandMark) :
    token.head? = some commandMark := by
  obtain ⟨more, rfl⟩ := List.head?_eq_some_iff.1 hmark
  have hfront : [commandMark] <+: token := by
    apply h.longest [commandMark] ⟨more, rfl⟩
    intro c hc
    rw [List.mem_singleton.1 hc]
    decide
  obtain ⟨rest, rfl⟩ := hfront
  rfl

/-- A command with some white space between its word and its arguments, and some behind. -/
def Command.written (c : Command) (space behind : List Char) : String :=
  String.ofList (c.token.toList ++ (space ++ (c.args.toList ++ behind)))

theorem Splits.written (h : Splits body token args) {space behind : List Char}
    (hne : space ≠ []) (hspace : ∀ c ∈ space, isBlank c = true)
    (hbehind : ∀ c ∈ behind, isBlank c = true) :
    Splits (token ++ (space ++ (args ++ behind))) token args := by
  obtain ⟨rest, -, hargs⟩ := h.behind
  refine ⟨h.word, (longest_iff h.word).2 fun c hc => ?_, _, rfl, ?_⟩
  · obtain ⟨first, more, rfl⟩ := List.exists_cons_of_ne_nil hne
    cases hc
    exact hspace c List.mem_cons_self
  · exact ⟨⟨space, behind, rfl, hspace, hbehind⟩, hargs.first, hargs.last⟩

theorem classify_written (h : classify m = .command c) {space behind : List Char}
    (hne : space ≠ []) (hspace : ∀ x ∈ space, isBlank x = true)
    (hbehind : ∀ x ∈ behind, isBlank x = true) (position : Nat) :
    classify ⟨c.room, c.sender, c.written space behind, position⟩ = .command c := by
  obtain ⟨hmark, hcommands⟩ := classify_eq_command_iff.1 h
  have hsplits := hcommands.splits.written hne hspace hbehind
  have htoken := hcommands.splits.head? hmark
  refine classify_eq_command_iff.2 ⟨?_, ?_, rfl, rfl⟩
  · dsimp only [Command.written]
    rw [String.toList_ofList, List.head?_append, htoken]
    rfl
  · dsimp only [Command.written]
    rw [String.toList_ofList]
    exact hsplits

/-- A message without the mark in front is free text as it is. One with the mark is a command: its
word is the longest piece in front without white space, and its arguments are the rest without the
white space at the ends. Written again with any white space between the two, and any behind, it is
the same command. -/
theorem a_command_may_be_written_with_any_white_space (m : Inbound) :
    (m.body.toList.head? ≠ some '!' → classify m = .freeText ⟨m.body, m.sender, m.room⟩) ∧
    (m.body.toList.head? = some '!' →
      ∃ c, classify m = .command c ∧ c.token.toList.head? = some '!' ∧ Commands m c) ∧
    ∀ c, classify m = .command c → ∀ space behind position, space ≠ [] →
      (∀ x ∈ space, isBlank x = true) → (∀ x ∈ behind, isBlank x = true) →
        classify ⟨c.room, c.sender, c.written space behind, position⟩ = .command c := by
  refine ⟨classify_of_no_mark, fun hmark => ?_, ?_⟩
  · obtain ⟨c, hc⟩ := exists_command hmark
    obtain ⟨-, hcommands⟩ := classify_eq_command_iff.1 hc
    exact ⟨c, hc, hcommands.splits.head? hmark, hcommands⟩
  · intro c hc space behind position hne hspace hbehind
    exact classify_written hc hne hspace hbehind position

end ChatBot.Chat
