-- What a file of settings adds to the environment. It fills gaps and does nothing more: what
-- is set already stays, and of several values for one key the first counts. A file with a bad
-- line is refused as a whole.
import ChatBot.Proofs.Config.Settings
import ChatBot.Proofs.Config.Written

namespace ChatBot.Config

open EnvFile (Pairs withPairs)

/-! ## Filling gaps -/

section Filling

variable {environment lookup other : Lookup} {pairs before after : Pairs} {key v : String}
  {p : String × String}

/-- The first value that the pairs have for a key. -/
def IsFirst (pairs : Pairs) (key v : String) : Prop :=
  ∃ before after, pairs = before ++ (key, v) :: after ∧ ∀ p ∈ before, p.1 ≠ key

/-- A key has its value of the environment, be it empty, and only if there is none the first
value that the pairs have for it. -/
def Fills (environment : Lookup) (pairs : Pairs) (lookup : Lookup) : Prop :=
  ∀ key v, lookup key = some v ↔
    environment key = some v ∨ environment key = none ∧ IsFirst pairs key v

theorem find?_eq_some_iff : pairs.find? key = some v ↔ IsFirst pairs key v := by
  unfold Pairs.find? IsFirst
  rw [Option.map_eq_some_iff]
  constructor
  · rintro ⟨⟨key', v'⟩, hfind, rfl⟩
    obtain ⟨hkey, before, after, hpairs, hbefore⟩ := List.find?_eq_some_iff_append.1 hfind
    obtain rfl : key' = key := by simpa using hkey
    exact ⟨before, after, hpairs, by simpa using hbefore⟩
  · rintro ⟨before, after, hpairs, hbefore⟩
    refine ⟨(key, v), List.find?_eq_some_iff_append.2 ⟨by simp, before, after, hpairs, ?_⟩, rfl⟩
    simpa using hbefore

theorem fills_withPairs (environment : Lookup) (pairs : Pairs) :
    Fills environment pairs (withPairs environment pairs) := by
  intro key v
  rw [← find?_eq_some_iff]
  unfold withPairs
  cases environment key <;> simp

theorem Fills.unique (h : Fills environment pairs lookup) (h' : Fills environment pairs other) :
    lookup = other := by
  funext key
  apply Option.ext
  intro v
  rw [h, h']

/-! ## What is looked at -/

/-- The keys that the settings are made from. -/
def variableKeys : List String :=
  timeVariables.map (·.key) ++ textVariables.map (·.key) ++
    [addressVariable.key, demoRoomVariable.key]

/-- Other keys do not matter. -/
theorem ofLookup_congr (h : ∀ key ∈ variableKeys, lookup key = other key) :
    Settings.ofLookup lookup = Settings.ofLookup other := by
  have hget : ∀ key ∈ variableKeys, lookup.get key = other.get key := by
    intro key hkey
    rw [Lookup.get, h key hkey, Lookup.get]
  simp only [variableKeys, timeVariables, textVariables, syncTimeout, requestTimeout,
    addressVariable, demoRoomVariable, List.map_cons, List.map_nil, List.cons_append,
    List.nil_append, List.forall_mem_cons] at hget
  obtain ⟨hsync, hrequest, hcooldown, hidle, hreply, hname, hpassword, hdisplay, htitle, htopic,
    haddress, hroom, -⟩ := hget
  unfold Settings.ofLookup milliseconds
  simp only [hsync, hrequest, hcooldown, hidle, hreply, hname, hpassword, hdisplay, htitle,
    htopic, haddress, hroom]

theorem prefix_of_mem_variableKeys (h : key ∈ variableKeys) : "MXBOT_".toList <+: key.toList := by
  have hall : ∀ key ∈ variableKeys, "MXBOT_".toList <+: key.toList := by decide
  exact hall key h

/-- A pair that adds nothing to the pairs before it: its key is set in the environment, or by one
of them, or no setting is made from it. -/
def Idle (environment : Lookup) (before : Pairs) (p : String × String) : Prop :=
  (∃ v, environment p.1 = some v) ∨ (∃ q ∈ before, q.1 = p.1) ∨ p.1 ∉ variableKeys

theorem withPairs_of_idle (h : Idle environment before p) (hkey : key ∈ variableKeys) :
    withPairs environment (before ++ p :: after) key =
      withPairs environment (before ++ after) key := by
  unfold withPairs Pairs.find?
  cases henvironment : environment key with
  | some v => rfl
  | none =>
    rw [List.find?_append, List.find?_append]
    cases hbefore : List.find? (fun q => q.1 == key) before with
    | some q => rfl
    | none =>
      have hne : p.1 ≠ key := by
        rintro rfl
        rcases h with ⟨v, hv⟩ | ⟨q, hq, heq⟩ | hforeign
        · rw [henvironment] at hv
          cases hv
        · exact List.find?_eq_none.1 hbefore q hq (by simpa using heq)
        · exact hforeign hkey
      rw [List.find?_cons_of_neg (by simpa using hne)]

theorem ofLookup_of_idle (h : Idle environment before p)
    (hlookup : Fills environment (before ++ p :: after) lookup)
    (hother : Fills environment (before ++ after) other) :
    Settings.ofLookup lookup = Settings.ofLookup other := by
  rw [hlookup.unique (fills_withPairs _ _), hother.unique (fills_withPairs _ _)]
  exact ofLookup_congr fun key hkey => withPairs_of_idle h hkey

end Filling

/-! ## Loading -/

section Loading

variable {environment lookup : Lookup} {file : String} {pairs : Pairs}
  {before bad after : List Char}

theorem load_eq_ofLookup (hread : EnvFile.read environment file = .ok pairs)
    (h : Fills environment pairs lookup) :
    Settings.load environment (some file) = Settings.ofLookup lookup := by
  rw [Settings.load, hread, h.unique (fills_withPairs environment pairs)]

/-- Without variables of the bot in the environment, a plain file makes the settings by itself. -/
theorem load_plain (hnone : ∀ key, "MXBOT_".toList <+: key.toList → environment key = none)
    (hfile : EnvFile.Plain file.toList pairs) (h : Fills (fun _ => none) pairs lookup) :
    Settings.load environment (some file) = Settings.ofLookup lookup := by
  rw [load_eq_ofLookup (hfile.read environment) (fills_withPairs environment pairs),
    h.unique (fills_withPairs _ pairs)]
  refine ofLookup_congr fun key hkey => ?_
  unfold withPairs
  rw [hnone key (prefix_of_mem_variableKeys hkey)]

/-- A text has a line that cannot be read. -/
def HasBadLine (cs : List Char) : Prop := ∃ row ∈ EnvFile.linesOf cs, EnvFile.IsBad row

/-- The text of a file, behind the mark that may stand in front. -/
abbrev textOf (file : String) : List Char := Text.withoutByteOrderMark file.toList

theorem hasBadLine_append (hbefore : EnvFile.Whole before) (hbad : HasBadLine bad)
    (h : EnvFile.Whole bad ∨ after = []) : HasBadLine (before ++ (bad ++ after)) := by
  obtain ⟨row, hrow, hrowbad⟩ := hbad
  refine ⟨row, ?_, hrowbad⟩
  rw [hbefore.linesOf_append]
  refine List.mem_append_right _ ?_
  rcases h with hwhole | rfl
  · rw [hwhole.linesOf_append]
    exact List.mem_append_left _ hrow
  · rwa [List.append_nil]

theorem load_of_hasBadLine (h : HasBadLine (textOf file)) :
    ∃ f : EnvFile.LineFault, ∀ environment, Settings.load environment (some file) =
      .error (.config ("failed to load .env: " ++ f.message)) := by
  obtain ⟨f, hf⟩ := EnvFile.readLines_of_bad h
  refine ⟨f, fun environment => ?_⟩
  have hread : EnvFile.read environment file = .error f := hf environment []
  rw [Settings.load, hread]

theorem exists_read_iff : (∃ pairs, EnvFile.read environment file = .ok pairs) ↔
    ¬ HasBadLine (textOf file) := by
  constructor
  · rintro ⟨pairs, hread⟩ hbad
    obtain ⟨f, hf⟩ := EnvFile.readLines_of_bad hbad
    have herror : EnvFile.read environment file = .error f := hf environment []
    rw [herror] at hread
    cases hread
  · intro hgood
    refine EnvFile.readLines_of_good (fun row hrow hbad => ?_) environment []
    exact hgood ⟨row, hrow, hbad⟩

end Loading

/-- A file of settings only fills gaps. There is one way to fill them: a key that is set stays as
it is, and any other gets the first value that the file has for it. The settings are made from
that, so that a pair whose key is set, named before or foreign makes no difference. A plain file
gives each value as it stands between its quotes. A file is refused if and only if it has a bad
line, with one fault in every environment, whatever whole lines come before that line and
whatever comes behind it. -/
theorem a_file_of_settings_only_fills_gaps :
    (∀ environment pairs, ∃! lookup, Fills environment pairs lookup) ∧
    (∀ environment file pairs lookup, EnvFile.read environment file = .ok pairs →
      Fills environment pairs lookup →
        Settings.load environment (some file) = Settings.ofLookup lookup) ∧
    (∀ environment before p after lookup other, Idle environment before p →
      Fills environment (before ++ p :: after) lookup → Fills environment (before ++ after) other →
        Settings.ofLookup lookup = Settings.ofLookup other) ∧
    (∀ environment file pairs lookup,
      (∀ key, "MXBOT_".toList <+: key.toList → environment key = none) →
      EnvFile.Plain file.toList pairs → Fills (fun _ => none) pairs lookup →
        Settings.load environment (some file) = Settings.ofLookup lookup) ∧
    (∀ environment file, (∃ pairs, EnvFile.read environment file = .ok pairs) ↔
      ¬ HasBadLine (textOf file)) ∧
    ∀ file before bad after, textOf file = before ++ (bad ++ after) → EnvFile.Whole before →
      HasBadLine bad → EnvFile.Whole bad ∨ after = [] →
        ∃ f : EnvFile.LineFault, ∀ environment, Settings.load environment (some file) =
          .error (.config ("failed to load .env: " ++ f.message)) := by
  refine ⟨fun environment pairs => ?_, fun _ _ _ _ => load_eq_ofLookup,
    fun _ _ _ _ _ _ => ofLookup_of_idle, fun _ _ _ _ => load_plain,
    fun _ _ => exists_read_iff, fun file before bad after htext hbefore hbad h => ?_⟩
  · exact ⟨_, fills_withPairs environment pairs, fun other h => h.unique (fills_withPairs _ _)⟩
  · apply load_of_hasBadLine
    rw [htext]
    exact hasBadLine_append hbefore hbad h

/-- Of two values the first counts, with what looks like a comment in it. A line that cannot be
read spoils the lines behind it. -/
theorem two_values_are_loaded_and_a_bad_line_is_not :
    (Settings.load (fun _ => none) (some
      "# names\nexport MXBOT_USERNAME='ann # \"$x\"'\n \nMXBOT_USERNAME='bob'")).map
        (·.username) = .ok "ann # \"$x\"" ∧
    ∃ f : EnvFile.LineFault, ∀ environment, Settings.load environment (some
      "MXBOT_PASSWORD=a b\nMXBOT_USERNAME='bob'\n") =
        .error (.config ("failed to load .env: " ++ f.message)) := by
  constructor
  · have hkey : EnvFile.IsBotKey "MXBOT_USERNAME" :=
      ⟨"USERNAME".toList, by decide, by simp⟩
    have hplain : EnvFile.Plain
        ([] ++ '#' :: " names".toList ++ '\n' ::
          (EnvFile.pairLine "export " "MXBOT_USERNAME" "ann # \"$x\"" ++ '\n' ::
            ([' '] ++ '\n' :: EnvFile.pairLine "" "MXBOT_USERNAME" "bob")))
        [("MXBOT_USERNAME", "ann # \"$x\""), ("MXBOT_USERNAME", "bob")] :=
      .line (.comment (by simp [EnvFile.IsSpace]) (by decide)) <|
      .line (.pair ⟨.inr rfl, hkey, by simp [EnvFile.IsQuotable]⟩) <|
      .line (.blank (by simp [EnvFile.IsSpace, Text.isBlank])) <|
      .last (.pair ⟨.inl rfl, hkey, by simp [EnvFile.IsQuotable]⟩)
        (fun hspace => absurd (hspace 'M' (by decide)).1 (by decide))
    have hfile : EnvFile.Plain
        "# names\nexport MXBOT_USERNAME='ann # \"$x\"'\n \nMXBOT_USERNAME='bob'".toList
        [("MXBOT_USERNAME", "ann # \"$x\""), ("MXBOT_USERNAME", "bob")] := by
      convert hplain using 1
      decide +kernel
    rw [a_file_of_settings_only_fills_gaps.2.2.2.1 _ _ _ _ (fun _ _ => rfl) hfile
      (fills_withPairs _ _)]
    decide +kernel
  · have hlines : EnvFile.linesOf "MXBOT_PASSWORD=a b\n".toList =
        [.ok "MXBOT_PASSWORD=a b".toList] := by decide +kernel
    have hbad : EnvFile.IsBad (.ok "MXBOT_PASSWORD=a b".toList) :=
      ⟨fun _ => none, ⟨"a b".toList, 2⟩, by decide +kernel⟩
    refine a_file_of_settings_only_fills_gaps.2.2.2.2.2 _ [] "MXBOT_PASSWORD=a b\n".toList
      "MXBOT_USERNAME='bob'\n".toList (by decide +kernel) ⟨.inl rfl, ?_⟩ ⟨_, ?_, hbad⟩
      (.inl ⟨.inr ?_, ?_⟩)
    · exact fun row hrow => absurd hrow List.not_mem_nil
    · rw [hlines]
      exact List.mem_singleton_self _
    · decide
    · rw [hlines]
      exact fun row hrow => ⟨_, List.mem_singleton.1 hrow⟩

-- An empty variable hides the value in the file, and is then replaced by the default.
example : (Settings.load (fun key => if key = "MXBOT_USERNAME" then some "" else none)
    (some "MXBOT_USERNAME=ann")).map (·.username) = .ok "demo_ai_bot" := by
  decide +kernel

end ChatBot.Config
