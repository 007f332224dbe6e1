/-
  CallTracing/Proofs/Settings/Variables.lean
  ==========================================
  **Ten settings, each with a variable of its own.**

  A setting is a place in the record of all settings (`value`, `put`), with the variable that stands for
  it and the reading of its text.  Both tables of the environment, of what variables do and of what goes
  over to other settings, are these ten places (`overrides_eq`, `takeovers_eq`): no variable is in one
  of them with another place than in the other.

  Hence what a run through a table leaves is known place by place.  Reading comes to an end if every
  text that is set is understood, and then each place has what its variable says (`foldlM_applyOne`);
  taking over changes just the places whose variables are set (`value_foldl_takeOne`).
-/
import CallTracing.Settings.Environment

namespace CallTracing

/-- A setting. -/
inductive Setting where
  | enabled
  | serviceName
  | strategy
  | claimedKeys
  | genAi
  | awsSdk
  | rpc
  | fieldMappings
  | propagators
  | injectHeaders
deriving DecidableEq, Repr

namespace Setting

/-- All settings, in the order in which their variables are looked at. -/
def all : List Setting :=
  [.enabled, .serviceName, .strategy, .claimedKeys, .genAi, .awsSdk, .rpc, .fieldMappings,
    .propagators, .injectHeaders]

/-- The variable that stands for a setting. -/
def variableName : Setting → String
  | .enabled => "CORRELATE_ENABLED"
  | .serviceName => "OTEL_SERVICE_NAME"
  | .strategy => "CORRELATE_SUPPRESSION_STRATEGY"
  | .claimedKeys => "CORRELATE_CLAIMED_SPAN_KEYS"
  | .genAi => "CORRELATE_CAPTURE_GEN_AI"
  | .awsSdk => "CORRELATE_CAPTURE_AWS_SDK"
  | .rpc => "CORRELATE_CAPTURE_RPC"
  | .fieldMappings => "CORRELATE_CAPTURE_FIELD_MAPPINGS"
  | .propagators => "OTEL_PROPAGATORS"
  | .injectHeaders => "CORRELATE_INJECT_HEADERS"

/-- The values of a setting. -/
abbrev Value : Setting → Type
  | .serviceName => String
  | .strategy => SuppressionStrategy
  | .claimedKeys => List SpanKey
  | .propagators => List String
  | .enabled | .genAi | .awsSdk | .rpc | .fieldMappings | .injectHeaders => Bool

def value : (setting : Setting) → Settings → setting.Value
  | .enabled, s => s.instrumentation.enabled
  | .serviceName, s => s.instrumentation.serviceName
  | .strategy, s => s.suppression.strategy
  | .claimedKeys, s => s.suppression.claimedKeys
  | .genAi, s => s.capture.genAi
  | .awsSdk, s => s.capture.awsSdk
  | .rpc, s => s.capture.rpc
  | .fieldMappings, s => s.capture.fieldMappings
  | .propagators, s => s.propagation.propagators
  | .injectHeaders, s => s.propagation.injectHeaders

def put : (setting : Setting) → setting.Value → Settings → Settings
  | .enabled, v, s => { s with instrumentation := { s.instrumentation with enabled := v } }
  | .serviceName, v, s => { s with instrumentation := { s.instrumentation with serviceName := v } }
  | .strategy, v, s => { s with suppression := { s.suppression with strategy := v } }
  | .claimedKeys, v, s => { s with suppression := { s.suppression with claimedKeys := v } }
  | .genAi, v, s => { s with capture := { s.capture with genAi := v } }
  | .awsSdk, v, s => { s with capture := { s.capture with awsSdk := v } }
  | .rpc, v, s => { s with capture := { s.capture with rpc := v } }
  | .fieldMappings, v, s => { s with capture := { s.capture with fieldMappings := v } }
  | .propagators, v, s => { s with propagation := { s.propagation with propagators := v } }
  | .injectHeaders, v, s => { s with propagation := { s.propagation with injectHeaders := v } }

/-- The value that a text means. -/
def read : (setting : Setting) → String → Except SettingsError setting.Value
  | .serviceName, text => .ok text
  | .strategy, text => Environment.strategyOf (variableName .strategy) text
  | .claimedKeys, text =>
    (Environment.listOf text).mapM (Environment.spanKeyOf (variableName .claimedKeys))
  | .propagators, text => .ok (Environment.listOf text)
  | .enabled, text => Environment.switchOf (variableName .enabled) text
  | .genAi, text => Environment.switchOf (variableName .genAi) text
  | .awsSdk, text => Environment.switchOf (variableName .awsSdk) text
  | .rpc, text => Environment.switchOf (variableName .rpc) text
  | .fieldMappings, text => Environment.switchOf (variableName .fieldMappings) text
  | .injectHeaders, text => Environment.switchOf (variableName .injectHeaders) text

/-! ### Places -/

@[simp] theorem mem_all (setting : Setting) : setting ∈ all := by cases setting <;> decide

theorem nodup_all : all.Nodup := by decide

@[simp] theorem value_put (setting : Setting) (v : setting.Value) (s : Settings) :
    setting.value (setting.put v s) = v := by cases setting <;> rfl

theorem value_put_of_ne {setting other : Setting} (h : other ≠ setting) (v : setting.Value)
    (s : Settings) : other.value (setting.put v s) = other.value s := by
  cases setting <;> cases other <;> first | rfl | exact absurd rfl h

@[simp] theorem put_value (setting : Setting) (s : Settings) : setting.put (setting.value s) s = s := by
  cases setting <;> rfl

theorem ext_value {a b : Settings} (h : ∀ setting : Setting, setting.value a = setting.value b) :
    a = b := by
  obtain ⟨⟨_, _⟩, ⟨_, _⟩, ⟨_, _, _, _⟩, ⟨_, _⟩⟩ := a
  obtain ⟨⟨_, _⟩, ⟨_, _⟩, ⟨_, _, _, _⟩, ⟨_, _⟩⟩ := b
  obtain rfl := h .enabled
  obtain rfl := h .serviceName
  obtain rfl := h .strategy
  obtain rfl := h .claimedKeys
  obtain rfl := h .genAi
  obtain rfl := h .awsSdk
  obtain rfl := h .rpc
  obtain rfl := h .fieldMappings
  obtain rfl := h .propagators
  obtain rfl := h .injectHeaders
  rfl

/-! ### The tables -/

/-- What the variable of a setting does. -/
def override (setting : Setting) : Environment.Override :=
  ⟨setting.variableName, fun text s => (setting.read text).map (setting.put · s)⟩

/-- How a setting goes over. -/
def takeover (setting : Setting) : Environment.Takeover :=
  ⟨setting.variableName, fun read s => setting.put (setting.value read) s⟩

theorem overrides_eq : Environment.overrides = all.map override := by
  simp only [Environment.overrides, Environment.switch, bind_pure_comp]
  rfl

theorem takeovers_eq : Environment.takeovers = all.map takeover := rfl

/-! ### Reading -/

variable {environment : Environment}

/-- The value that a variable gives to its setting; without it the setting stays. -/
def fetched (setting : Setting) (environment : Environment) (settings : Settings) :
    Except SettingsError setting.Value :=
  match environment.text? setting.variableName with
  | some text => setting.read text
  | none => .ok (setting.value settings)

theorem applyOne_eq (setting : Setting) (settings : Settings) :
    Environment.applyOne environment settings setting.override =
      (setting.fetched environment settings).map (setting.put · settings) := by
  have hname : setting.override.name = setting.variableName := rfl
  unfold Environment.applyOne fetched
  rw [hname]
  cases environment.text? setting.variableName with
  | some text => rfl
  | none => simp only [Except.map, put_value]

theorem fetched_put {setting other : Setting} (h : other ≠ setting) (v : setting.Value)
    (settings : Settings) :
    other.fetched environment (setting.put v settings) = other.fetched environment settings := by
  unfold fetched
  rw [value_put_of_ne h]

/-- A run through the table gives each setting in it what its variable says, and leaves the others. -/
theorem foldlM_applyOne {list : List Setting} (hnodup : list.Nodup) (settings result : Settings) :
    (list.map override).foldlM (Environment.applyOne environment) settings = .ok result ↔
      (∀ setting ∈ list, setting.fetched environment settings = .ok (setting.value result)) ∧
        ∀ setting ∉ list, setting.value result = setting.value settings := by
  induction list generalizing settings with
  | nil =>
    rw [List.map_nil, List.foldlM_nil]
    constructor
    · intro h
      obtain rfl := Except.ok.inj h
      simp
    · rintro ⟨-, hsame⟩
      exact congrArg Except.ok (ext_value fun setting => hsame setting List.not_mem_nil).symm
  | cons first list ih =>
    obtain ⟨hfirst, hrest⟩ := List.nodup_cons.mp hnodup
    have hne : ∀ setting ∈ list, setting ≠ first := by
      rintro setting hmem rfl
      exact hfirst hmem
    rw [List.map_cons, List.foldlM_cons, applyOne_eq]
    cases hfetched : first.fetched environment settings with
    | error error =>
      -- The run stops here, and no settings have a value for a text that is not understood.
      apply iff_of_false
      · intro h
        cases h
      · rintro ⟨hread, -⟩
        rw [hread first List.mem_cons_self] at hfetched
        cases hfetched
    | ok v =>
      -- The rest of the run starts with the first setting in place, which is not among the others.
      refine (ih hrest (first.put v settings)).trans ?_
      constructor
      · rintro ⟨hread, hsame⟩
        constructor
        · intro setting hmem
          rcases List.mem_cons.mp hmem with rfl | hlist
          · rw [hfetched, hsame setting hfirst, value_put]
          · rw [← hread setting hlist, fetched_put (hne setting hlist)]
        · intro setting hmem
          rw [hsame setting (List.not_mem_of_not_mem_cons hmem),
            value_put_of_ne (List.ne_of_not_mem_cons hmem)]
      · rintro ⟨hread, hsame⟩
        constructor
        · intro setting hlist
          rw [fetched_put (hne setting hlist), hread setting (List.mem_cons_of_mem _ hlist)]
        · intro setting hlist
          by_cases hother : setting = first
          · subst hother
            have hvalue := hread setting List.mem_cons_self
            rw [hfetched] at hvalue
            rw [value_put]
            exact (Except.ok.inj hvalue).symm
          · rw [value_put_of_ne hother, hsame setting (by simp [hother, hlist])]

/-- The settings of an environment, place by place. -/
theorem ofEnvironment_eq_ok_iff {read : Settings} : Settings.ofEnvironment environment = .ok read ↔
    ∀ setting : Setting, setting.fetched environment {} = .ok (setting.value read) := by
  unfold Settings.ofEnvironment
  rw [overrides_eq, foldlM_applyOne nodup_all]
  constructor
  · rintro ⟨hread, -⟩ setting
    exact hread setting setting.mem_all
  · intro hread
    exact ⟨fun setting _ => hread setting, fun setting hmem => absurd setting.mem_all hmem⟩

/-! ### Taking over -/

theorem value_takeOne (setting other : Setting) (read settings : Settings) :
    other.value (Environment.takeOne environment read settings setting.takeover) =
      if other = setting ∧ (environment.text? other.variableName).isSome then other.value read
      else other.value settings := by
  have hname : setting.takeover.name = setting.variableName := rfl
  unfold Environment.takeOne
  rw [hname]
  by_cases hother : other = setting
  · subst hother
    by_cases hset : (environment.text? other.variableName).isSome
    · rw [if_pos hset, if_pos ⟨rfl, hset⟩]
      exact other.value_put _ settings
    · simp [hset]
  · simp only [hother, false_and, if_false]
    split
    · exact value_put_of_ne hother _ settings
    · rfl

theorem value_foldl_takeOne (list : List Setting) (other : Setting) (read settings : Settings) :
    other.value ((list.map takeover).foldl (Environment.takeOne environment read) settings) =
      if other ∈ list ∧ (environment.text? other.variableName).isSome then other.value read
      else other.value settings := by
  induction list generalizing settings with
  | nil => simp
  | cons first list ih =>
    -- Taking a setting over again gives the same value.
    rw [List.map_cons, List.foldl_cons, ih, value_takeOne]
    by_cases hset : (environment.text? other.variableName).isSome
    · by_cases hlist : other ∈ list <;> simp [hset, hlist]
    · simp [hset]

end Setting

end CallTracing
