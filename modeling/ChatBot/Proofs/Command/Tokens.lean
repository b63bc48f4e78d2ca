-- Tokens and their lower case. Commands are looked up by the case of ASCII letters, and
-- unknown tokens are shown back in the lower case of all of Unicode. The two agree on
-- every token but one: a joke asked for with the sign for kelvin.
import ChatBot.Proofs.Command.Known
import ChatBot.Proofs.Text.Lowering

namespace ChatBot.Command

open Text (kelvinSign plainLower)

/-! ## Names -/

/-- The name of the jokes, with the sign for kelvin in it. -/
def kelvinJoke : List Char := ['!', 'j', 'o', kelvinSign, 'e']

/-- A token is shown back as the name of a command. -/
def ShownAsKnown (token : String) : Prop :=
  ∃ spec ∈ registry, unknownReply token =
    "🤔 Unknown command: " ++ spec.token ++ "\nType !help for available commands."

theorem asciiLower_name : ∀ spec ∈ registry, asciiLower spec.token = spec.token.toList := by
  decide

theorem ascii_name : ∀ spec ∈ registry, ∀ d ∈ spec.token.toList, d.toNat < 128 := by
  -- one check for each row, as all characters are too many to go through
  have hall : ∀ spec ∈ registry, spec.token.toList.all (·.toNat < 128) = true := by decide
  intro spec hspec d hd
  exact of_decide_eq_true (List.all_eq_true.1 (hall spec hspec) d hd)

/-- Only one name has a k in it. -/
theorem name_with_k : ∀ spec ∈ registry, 'k' ∈ spec.token.toList →
    spec.token.toList = ['!', 'j', 'o', 'k', 'e'] := by
  decide

theorem exists_joke : ∃ spec ∈ registry, spec.token.toList = ['!', 'j', 'o', 'k', 'e'] := by
  decide

theorem map_plainLower_name : ∀ spec ∈ registry,
    spec.token.toList.map plainLower = spec.token.toList := by
  decide

theorem sameToken_iff {spec : Spec} (h : spec ∈ registry) (token : String) :
    sameToken spec.token token = true ↔ asciiLower token = spec.token.toList := by
  unfold sameToken
  rw [asciiLower_name spec h, beq_iff_eq, eq_comm]

/-! ## The lower case of a token -/

theorem asciiLower_lowercase (token : String) :
    asciiLower (Text.lowercase token) = (Text.lowercase token).toList := by
  unfold asciiLower Text.lowercase
  rw [String.toList_ofList, Text.map_toLower_lowerFrom]

theorem map_plainLower_asciiLower (token : String) :
    (asciiLower token).map plainLower = token.toList.map plainLower := by
  unfold asciiLower
  rw [List.map_map]
  exact List.map_congr_left fun c _ => Text.plainLower_toLower c

theorem toLower_of_mem_asciiLower {token : String} {c : Char} (h : c ∈ asciiLower token) :
    c.toLower = c := by
  obtain ⟨d, -, rfl⟩ := List.mem_map.1 h
  exact Text.toLower_toLower d

/-- Without the sign for kelvin, there is nothing left to be made small. -/
theorem plainLower_of_mem_asciiLower {token : String} (hsign : kelvinSign ∉ asciiLower token)
    {c : Char} (h : c ∈ asciiLower token) : plainLower c = c := by
  have hc : c ≠ kelvinSign := fun heq => hsign (heq ▸ h)
  unfold plainLower
  rw [if_neg hc, toLower_of_mem_asciiLower h]

theorem eq_kelvinJoke {row : List Char} (hsmall : ∀ c ∈ row, c.toLower = c)
    (h : row.map plainLower = ['!', 'j', 'o', 'k', 'e']) (hsign : kelvinSign ∈ row) :
    row = kelvinJoke := by
  obtain ⟨a, row, rfl, ha, h⟩ := List.map_eq_cons_iff.1 h
  obtain ⟨b, row, rfl, hb, h⟩ := List.map_eq_cons_iff.1 h
  obtain ⟨c, row, rfl, hc, h⟩ := List.map_eq_cons_iff.1 h
  obtain ⟨d, row, rfl, hd, h⟩ := List.map_eq_cons_iff.1 h
  obtain ⟨e, row, rfl, he, h⟩ := List.map_eq_cons_iff.1 h
  obtain rfl := List.map_eq_nil_iff.1 h
  obtain rfl : a = '!' := by simpa using Text.eq_or_kelvin_of_plainLower (hsmall a (by simp)) ha
  obtain rfl : b = 'j' := by simpa using Text.eq_or_kelvin_of_plainLower (hsmall b (by simp)) hb
  obtain rfl : c = 'o' := by simpa using Text.eq_or_kelvin_of_plainLower (hsmall c (by simp)) hc
  obtain rfl : e = 'e' := by simpa using Text.eq_or_kelvin_of_plainLower (hsmall e (by simp)) he
  rcases Text.eq_or_kelvin_of_plainLower (hsmall d (by simp)) hd with rfl | ⟨rfl, -⟩
  · exact absurd hsign (by decide)
  · rfl

/-- The lower case of a token is the name of a command if its ASCII lower case is, or if the token
is the joke with the sign for kelvin. -/
theorem lowercase_eq_name_iff {spec : Spec} (h : spec ∈ registry) (token : String) :
    (Text.lowercase token).toList = spec.token.toList ↔
      asciiLower token = spec.token.toList ∨
        (spec.token.toList = ['!', 'j', 'o', 'k', 'e'] ∧ asciiLower token = kelvinJoke) := by
  have hlower : (Text.lowercase token).toList = spec.token.toList ↔
      (asciiLower token).map plainLower = spec.token.toList := by
    unfold Text.lowercase
    rw [String.toList_ofList, Text.lowerFrom_eq_iff (ascii_name spec h), map_plainLower_asciiLower]
  rw [hlower]
  constructor
  · intro hname
    by_cases hsign : kelvinSign ∈ asciiLower token
    · have hk : 'k' ∈ spec.token.toList := by
        rw [← hname]
        exact List.mem_map_of_mem hsign
      have hjoke := name_with_k spec h hk
      have hsmall : ∀ c ∈ asciiLower token, c.toLower = c := fun c => toLower_of_mem_asciiLower
      exact .inr ⟨hjoke, eq_kelvinJoke hsmall (hname.trans hjoke) hsign⟩
    · left
      rw [← hname]
      calc asciiLower token
          = (asciiLower token).map id := (List.map_id _).symm
        _ = (asciiLower token).map plainLower :=
          (List.map_congr_left fun c hc => plainLower_of_mem_asciiLower hsign hc).symm
  · rintro (hname | ⟨hjoke, hkelvin⟩)
    · rw [hname, map_plainLower_name spec h]
    · rw [hkelvin, hjoke]
      rfl

/-! ## The law of the lower case -/

theorem lookup_of_kelvinJoke {token : String} (h : asciiLower token = kelvinJoke) :
    lookup token = none := by
  have hsame : sameToken "!jo\u212ae" token = true := by
    unfold sameToken
    rw [h]
    decide
  rw [lookup_eq_of_sameToken hsame]
  decide

theorem lookup_eq_none_iff (token : String) :
    lookup token = none ↔ ∀ spec ∈ registry, asciiLower token ≠ spec.token.toList := by
  unfold lookup
  rw [List.find?_eq_none]
  constructor
  · intro h spec hspec hname
    exact h spec hspec ((sameToken_iff hspec token).2 hname)
  · intro h spec hspec hsame
    exact h spec hspec ((sameToken_iff hspec token).1 hsame)

theorem lookup_lowercase {token : String} (h : asciiLower token ≠ kelvinJoke) :
    lookup (Text.lowercase token) = lookup token := by
  unfold lookup
  rw [← List.head?_filter, ← List.head?_filter]
  congr 1
  apply List.filter_congr
  intro spec hspec
  rw [Bool.eq_iff_iff, sameToken_iff hspec, sameToken_iff hspec, asciiLower_lowercase,
    lowercase_eq_name_iff hspec]
  simp [h]

theorem shownAsKnown_iff (token : String) :
    ShownAsKnown token ↔ ∃ spec ∈ registry, (Text.lowercase token).toList = spec.token.toList := by
  unfold ShownAsKnown unknownReply
  simp only [String.append_left_inj, String.append_right_inj, String.toList_inj]

/-- A token calls what its lower case calls, and is shown back as the name of a command only if it
calls one; but for the joke with the sign for kelvin, which calls nothing and is shown back as the
name of the jokes. -/
theorem a_token_calls_what_its_lower_case_calls_but_for_kelvin (token : String) :
    (lookup (Text.lowercase token) = lookup token ↔ asciiLower token ≠ kelvinJoke) ∧
      (lookup token = none ∧ ShownAsKnown token ↔ asciiLower token = kelvinJoke) := by
  constructor
  · constructor
    · intro hsame hkelvin
      rw [lookup_of_kelvinJoke hkelvin, lookup_eq_none_iff, asciiLower_lowercase] at hsame
      obtain ⟨spec, hspec, hjoke⟩ := exists_joke
      exact hsame spec hspec ((lowercase_eq_name_iff hspec token).2 (.inr ⟨hjoke, hkelvin⟩))
    · exact lookup_lowercase
  · rw [shownAsKnown_iff]
    constructor
    · rintro ⟨hunknown, spec, hspec, hshown⟩
      rcases (lowercase_eq_name_iff hspec token).1 hshown with hname | ⟨-, hkelvin⟩
      · exact absurd hname ((lookup_eq_none_iff token).1 hunknown spec hspec)
      · exact hkelvin
    · intro hkelvin
      obtain ⟨spec, hspec, hjoke⟩ := exists_joke
      exact ⟨lookup_of_kelvinJoke hkelvin, spec, hspec,
        (lowercase_eq_name_iff hspec token).2 (.inr ⟨hjoke, hkelvin⟩)⟩

/-- A joke that is asked for with the sign for kelvin is unknown, and is shown back as the name of
the jokes. -/
theorem a_joke_with_the_sign_for_kelvin_is_unknown :
    lookup "!jo\u212ae" = none ∧ (lookup (Text.lowercase "!jo\u212ae")).isSome = true ∧
      unknownReply "!jo\u212ae" =
        "🤔 Unknown command: !joke\nType !help for available commands." := by
  refine ⟨by decide, by decide +kernel, by decide +kernel⟩

end ChatBot.Command
