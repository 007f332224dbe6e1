/-
  CallTracing/Proofs/Settings/Merging.lean
  ========================================
  **The environment laid over settings.**

  The environment is read in full before anything goes over, so merging fails where reading it fails and
  with the same error, whatever the settings are.  Otherwise each setting is what the environment says if
  its own variable is set to a text, and stays if it is not (`mergedWith_of_ok`).

  Read settings are the defaults wherever a variable is not set.  So nothing is lost when the defaults
  are merged, and a second merge finds everything in place (`merging_laws`).
-/
import CallTracing.Proofs.Settings.Variables

namespace CallTracing

namespace Settings

variable {environment : Environment} {settings read : Settings}

/-- What goes over to settings once an environment was read. -/
theorem mergedWith_of_ok (settings : Settings) (h : ofEnvironment environment = .ok read) :
    ∃ merged, settings.mergedWith environment = .ok merged ∧ ∀ setting : Setting,
      setting.value merged = if (environment.text? setting.variableName).isSome
        then setting.value read else setting.value settings := by
  refine ⟨Environment.takeovers.foldl (Environment.takeOne environment read) settings, ?_, ?_⟩
  · unfold mergedWith
    rw [h]
    rfl
  · intro setting
    rw [Setting.takeovers_eq, Setting.value_foldl_takeOne]
    simp only [setting.mem_all, true_and]

theorem mergedWith_of_error {error : SettingsError} (settings : Settings)
    (h : ofEnvironment environment = .error error) :
    settings.mergedWith environment = .error error := by
  unfold mergedWith
  rw [h]
  rfl

theorem mergedWith_eq_error_iff (settings : Settings) (error : SettingsError) :
    settings.mergedWith environment = .error error ↔ ofEnvironment environment = .error error := by
  constructor
  · intro h
    cases hread : ofEnvironment environment with
    | error other =>
      rw [mergedWith_of_error settings hread] at h
      exact h
    | ok read =>
      obtain ⟨merged, hmerged, -⟩ := mergedWith_of_ok settings hread
      rw [hmerged] at h
      cases h
  · exact mergedWith_of_error settings

/-- Without its variable, a setting that was read is the default. -/
theorem value_of_unset (h : ofEnvironment environment = .ok read) {setting : Setting}
    (hunset : environment.text? setting.variableName = none) :
    setting.value read = setting.value {} := by
  have hfetched := Setting.ofEnvironment_eq_ok_iff.mp h setting
  unfold Setting.fetched at hfetched
  rw [hunset] at hfetched
  exact (Except.ok.inj hfetched).symm

/-- Settings that are, place by place, what goes over or what was there, are the merged ones. -/
theorem mergedWith_eq_of_agrees (h : ofEnvironment environment = .ok read) {result : Settings}
    (hagrees : ∀ setting : Setting, setting.value result =
      if (environment.text? setting.variableName).isSome
        then setting.value read else setting.value settings) :
    settings.mergedWith environment = .ok result := by
  obtain ⟨merged, hmerged, hvalues⟩ := mergedWith_of_ok settings h
  rw [hmerged]
  exact congrArg Except.ok
    (Setting.ext_value fun setting => (hvalues setting).trans (hagrees setting).symm)

theorem mergedWith_default (environment : Environment) :
    ({} : Settings).mergedWith environment = ofEnvironment environment := by
  cases hread : ofEnvironment environment with
  | error error => exact mergedWith_of_error {} hread
  | ok read =>
    apply mergedWith_eq_of_agrees hread
    intro setting
    split
    · rfl
    · next hunset => exact value_of_unset hread (by simpa using hunset)

theorem mergedWith_mergedWith (environment : Environment) (settings : Settings) :
    (settings.mergedWith environment).bind (·.mergedWith environment) =
      settings.mergedWith environment := by
  cases hread : ofEnvironment environment with
  | error error =>
    rw [mergedWith_of_error settings hread]
    rfl
  | ok read =>
    obtain ⟨merged, hmerged, hvalues⟩ := mergedWith_of_ok settings hread
    rw [hmerged]
    show merged.mergedWith environment = .ok merged
    apply mergedWith_eq_of_agrees hread
    intro setting
    rw [hvalues]
    split <;> rfl

end Settings

/-- Merging fails as reading the environment fails, and otherwise takes each setting from it whose
variable is set to a text. -/
theorem merging_laws (environment : Environment) (settings : Settings) :
    (∀ error, settings.mergedWith environment = .error error ↔
      Settings.ofEnvironment environment = .error error) ∧
    (∀ read, Settings.ofEnvironment environment = .ok read →
      ∃ merged, settings.mergedWith environment = .ok merged ∧ ∀ setting : Setting,
        setting.value merged = if (environment.text? setting.variableName).isSome
          then setting.value read else setting.value settings) ∧
    ({} : Settings).mergedWith environment = Settings.ofEnvironment environment ∧
    (settings.mergedWith environment).bind (·.mergedWith environment) =
      settings.mergedWith environment := by
  refine ⟨?_, ?_, ?_, ?_⟩
  · intro error
    exact Settings.mergedWith_eq_error_iff settings error
  · intro read hread
    exact Settings.mergedWith_of_ok settings hread
  · exact Settings.mergedWith_default environment
  · exact Settings.mergedWith_mergedWith environment settings

/-- Variables of three kinds: understood, not Unicode, and not looked at. -/
def ordersEnvironment : Environment :=
  [("CORRELATE_CAPTURE_RPC", " False\n"), ("OTEL_SERVICE_NAME", .notUnicode), ("HOME", "/root"),
    ("CORRELATE_CLAIMED_SPAN_KEYS", "Producer,, http_server ")]

/-- Settings that differ from the defaults where the variables are set, and elsewhere. -/
def ordersSettings : Settings where
  instrumentation := { serviceName := "orders" }
  suppression := { claimedKeys := [.consumer] }
  propagation := { propagators := ["baggage"], injectHeaders := false }

theorem ordersSettings_merged :
    (∃ read, Settings.ofEnvironment ordersEnvironment = .ok read ∧
      ∃ merged, ordersSettings.mergedWith ordersEnvironment = .ok merged ∧
        ∀ setting : Setting, setting.value merged =
          if (ordersEnvironment.text? setting.variableName).isSome
            then setting.value read else setting.value ordersSettings) := by
  have hread : Settings.ofEnvironment ordersEnvironment = .ok
      { suppression := { claimedKeys := [.producer, .httpServer] }, capture := { rpc := false } } :=
    rfl
  exact ⟨_, hread, (merging_laws ordersEnvironment ordersSettings).2.1 _ hread⟩

/-- The service name stays, since its variable counts as not set. -/
example : ordersSettings.mergedWith ordersEnvironment = .ok
    { ordersSettings with
      suppression := { claimedKeys := [.producer, .httpServer] }, capture := { rpc := false } } :=
  rfl

end CallTracing
