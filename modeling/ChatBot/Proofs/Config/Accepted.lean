-- What can be relied on once settings are accepted: no text is blank, and polls are waited
-- for longer than they may be held back. The address is the exception. It is looked at for
-- white space before its slashes are taken off, and only for being empty afterwards, so
-- white space with slashes behind it passes both times.
import ChatBot.Proofs.Config.Settings

namespace ChatBot.Config

open Text (isBlank)

/-- A text with more in it than white space. -/
def Worded (s : String) : Prop := ∃ c ∈ s.toList, isBlank c = false

/-- What holds of all settings that are accepted. -/
structure Sound (s : Settings) : Prop where
  username : Worded s.username
  password : Worded s.password
  displayName : Worded s.displayName
  demoRoomName : Worded s.demoRoomName
  demoRoomTopic : Worded s.demoRoomTopic
  nonempty : s.homeserverUrl ≠ ""
  unslashed : s.homeserverUrl.toList.getLast? ≠ some '/'
  timeouts : s.timings.syncTimeout < s.timings.requestTimeout

/-- The address is set to white space with slashes behind it, and to nothing else. -/
def SlashesBehindBlanks (lookup : Lookup) (blanks : List Char) : Prop :=
  ∃ v slashes, lookup "MXBOT_HOMESERVER_URL" = some v ∧ v.toList = blanks ++ slashes ∧
    blanks ≠ [] ∧ slashes ≠ [] ∧ (∀ c ∈ blanks, isBlank c = true) ∧ ∀ c ∈ slashes, c = '/'

variable {lookup : Lookup} {s : Settings} {url : String} {blanks : List Char}

/-! ## Texts -/

theorem worded_missing : ∀ x ∈ textVariables, Worded x.missing := by
  -- one check for each row, as all characters are too many to go through
  have hall : ∀ x ∈ textVariables, x.missing.toList.any (!isBlank ·) = true := by decide
  intro x hx
  simpa [Worded] using List.any_eq_true.1 (hall x hx)

/-- A blank value does not count, so what a variable of a text gives is not blank. -/
theorem worded_of_gives {x : Variable (@Eq String)} (hx : x ∈ textVariables) {v : String}
    (h : x.Gives lookup v) : Worded v := by
  cases h with
  | missing _ => exact worded_missing x hx
  | set hset heq => exact heq ▸ hset.2

/-! ## The address -/

theorem slash_not_blank : isBlank '/' = false := by decide

theorem slashesBehindBlanks_set {v : String} (hset : IsSet lookup "MXBOT_HOMESERVER_URL" v)
    (hurl : Unslashed v url) (hne : url ≠ "") (hblank : ¬ Worded url) :
    SlashesBehindBlanks lookup url.toList := by
  obtain ⟨⟨slashes, hv, hslashes⟩, -⟩ := hurl
  have hblanks : ∀ c ∈ url.toList, isBlank c = true := by
    intro c hc
    by_contra hword
    exact hblank ⟨c, hc, by simpa using hword⟩
  refine ⟨v, slashes, hset.1, hv, ?_, ?_, hblanks, hslashes⟩
  · exact fun hnil => hne (String.toList_eq_nil_iff.1 hnil)
  · -- without slashes, the value itself would be blank
    rintro rfl
    rw [List.append_nil] at hv
    obtain ⟨c, hc, hword⟩ := hset.2
    exact hblank ⟨c, hv ▸ hc, hword⟩

theorem SlashesBehindBlanks.gives (h : SlashesBehindBlanks lookup blanks) :
    addressVariable.Gives lookup (String.ofList blanks) := by
  obtain ⟨v, slashes, hv, hcut, -, hslashes, hblanks, hall⟩ := h
  have hset : IsSet lookup addressVariable.key v := by
    obtain ⟨c, hc⟩ := List.exists_mem_of_ne_nil slashes hslashes
    refine ⟨hv, c, ?_, ?_⟩
    · rw [hcut]
      exact List.mem_append_right blanks hc
    · rw [hall c hc]
      exact slash_not_blank
  refine .set hset ⟨⟨slashes, ?_, hall⟩, ?_⟩
  · rw [hcut, String.toList_ofList]
  · intro c hc
    rw [String.toList_ofList] at hc
    rintro rfl
    have hblank := hblanks '/' (List.mem_of_getLast? hc)
    rw [slash_not_blank] at hblank
    cases hblank

/-- What is left of an address is blank just if white space stood before its slashes. -/
theorem blank_iff_slashesBehindBlanks (h : addressVariable.Gives lookup url) (hne : url ≠ "") :
    ¬ Worded url ↔ SlashesBehindBlanks lookup url.toList := by
  constructor
  · intro hblank
    cases h with
    | missing _ => exact absurd ⟨'h', by decide, by decide⟩ hblank
    | set hset hurl => exact slashesBehindBlanks_set hset hurl hne hblank
  · rintro ⟨-, -, -, -, -, -, hblanks, -⟩ ⟨c, hc, hword⟩
    rw [hblanks c hc] at hword
    cases hword

theorem unslashed_of_gives (h : addressVariable.Gives lookup url) :
    url.toList.getLast? ≠ some '/' := by
  intro hlast
  cases h with
  | missing _ => exact absurd hlast (by decide)
  | set _ hurl => exact hurl.2 '/' hlast rfl

/-! ## The settings -/

theorem sound_of_makes (hacceptable : Acceptable lookup) (hmakes : Makes lookup s) : Sound s := by
  obtain ⟨-, ⟨url, hurl, hne⟩, sync, request, hsync, hrequest, hlt⟩ := hacceptable
  have htexts : ∀ x ∈ textVariables, Worded (x.field s) := fun x hx =>
    worded_of_gives hx (hmakes.texts x hx)
  have htimes := hmakes.times
  simp only [textVariables, List.forall_mem_cons] at htexts
  simp only [timeVariables, List.forall_mem_cons] at htimes
  obtain ⟨hname, hpassword, hdisplay, htitle, htopic, -⟩ := htexts
  obtain ⟨hsync', hrequest', -⟩ := htimes
  refine ⟨hname, hpassword, hdisplay, htitle, htopic, ?_, unslashed_of_gives hmakes.address, ?_⟩
  · rwa [hmakes.address.unique unslashed_rightUnique hurl]
  · have hsame := hsync'.unique milliseconds_rightUnique hsync
    have hsame' := hrequest'.unique milliseconds_rightUnique hrequest
    dsimp only [syncTimeout, requestTimeout] at hsame hsame'
    rwa [hsame, hsame']

/-- Accepted settings have no blank text, no slash at the end of the address, and a poll that is
waited for longer than it may be held back. The address is more than white space, too, unless it
was set to white space with slashes behind it: then the white space is what is left. -/
theorem accepted_settings_are_sound_but_for_blanks_before_slashes (lookup : Lookup) (s : Settings)
    (h : Settings.ofLookup lookup = .ok s) :
    Sound s ∧
      (Worded s.homeserverUrl ↔ ¬ ∃ blanks, SlashesBehindBlanks lookup blanks) ∧
      ∀ blanks, SlashesBehindBlanks lookup blanks → s.homeserverUrl = String.ofList blanks := by
  obtain ⟨hacceptable, hmakes⟩ := ofLookup_eq_ok_iff.1 h
  have hsound := sound_of_makes hacceptable hmakes
  have hblank := blank_iff_slashesBehindBlanks hmakes.address hsound.nonempty
  have hleft : ∀ blanks, SlashesBehindBlanks lookup blanks →
      s.homeserverUrl = String.ofList blanks := fun blanks hbehind =>
    hmakes.address.unique unslashed_rightUnique hbehind.gives
  refine ⟨hsound, ⟨?_, fun hnone => ?_⟩, hleft⟩
  · rintro hworded ⟨blanks, hbehind⟩
    refine hblank.2 ?_ hworded
    rwa [hleft blanks hbehind, String.toList_ofList]
  · by_contra hworded
    exact hnone ⟨_, hblank.1 hworded⟩

/-- An environment with an address and nothing else. -/
def onlyAddress (url : String) : Lookup := fun key =>
  if key = "MXBOT_HOMESERVER_URL" then some url else none

/-- White space between slashes is not blank. -/
theorem a_slash_before_the_blanks_is_left :
    ∃ s, Settings.ofLookup (onlyAddress "/ //") = .ok s ∧ s.homeserverUrl = "/ " ∧ Sound s ∧
      (Worded s.homeserverUrl ↔ ¬ ∃ blanks, SlashesBehindBlanks (onlyAddress "/ //") blanks) ∧
      ∀ blanks, SlashesBehindBlanks (onlyAddress "/ //") blanks →
        s.homeserverUrl = String.ofList blanks :=
  ⟨_, rfl, by decide +kernel, accepted_settings_are_sound_but_for_blanks_before_slashes _ _ rfl⟩

/-- A space and a slash are accepted as an address, and a space is left. -/
theorem a_blank_address_is_accepted :
    ∃ s, Settings.ofLookup (onlyAddress " /") = .ok s ∧ s.homeserverUrl = " " ∧
      ¬ Worded s.homeserverUrl := by
  have hurl : withoutTrailingSlashes " /" = " " := by decide +kernel
  refine ⟨_, rfl, hurl, ?_⟩
  change ¬ Worded (withoutTrailingSlashes " /")
  rw [hurl]
  rintro ⟨c, hc, hword⟩
  obtain rfl : c = ' ' := List.mem_singleton.1 hc
  exact absurd hword (by decide)

end ChatBot.Config
