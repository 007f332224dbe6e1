/-
  CallTracing/Proofs/Settings/Documents.lean
  ==========================================
  **Documents that hold some of the settings.**

  Settings are written as an object of sections, each an object of settings (`Json.ofSettings`).  A
  document may hold less of this and more: sections and settings are left out, the order is another
  one, and members stand between whose names mean nothing (`AbridgedDocument`).

  Sections and settings are objects of the same kind, and what is read of a field of such an object is
  said once for both: the member of its name if it is kept, and the default if not (`Abridged.field`).
  So each setting that is reached is read back, and each other one is its default, whether it is left
  out by itself or with its section (`settings_abridged`).
-/
import CallTracing.Json.Document
import CallTracing.Json.Settings
import CallTracing.Proofs.Settings.Variables

namespace CallTracing

/-! ### Objects of which members are left out -/

section Abridged

variable {ι α : Type} {items : List ι} {member : ι → String × Json} {kept : ι → Bool}
  {members : List (String × Json)} {item : ι}

/-- The members of those items that are kept, in any order, and others that have the name of none. -/
def Abridged (items : List ι) (member : ι → String × Json) (kept : ι → Bool)
    (members : List (String × Json)) : Prop :=
  ∃ others, (∀ other ∈ others, ∀ item ∈ items, other.1 ≠ (member item).1) ∧
    members.Perm ((items.filter kept).map member ++ others)

theorem filter_members (hnodup : (items.map fun item => (member item).1).Nodup)
    (hitem : item ∈ items) :
    ((items.filter kept).map member).filter (·.1 = (member item).1) =
      if kept item then [member item] else [] := by
  induction items with
  | nil => exact absurd hitem List.not_mem_nil
  | cons first rest ih =>
    rw [List.map_cons, List.nodup_cons] at hnodup
    obtain ⟨hfirst, hrest⟩ := hnodup
    rcases List.mem_cons.mp hitem with rfl | hlater
    · -- no later item has the name of this one
      have hnone : ((rest.filter kept).map member).filter (·.1 = (member item).1) = [] := by
        rw [List.filter_eq_nil_iff]
        intro entry hentry
        obtain ⟨other, hother, rfl⟩ := List.mem_map.mp hentry
        rw [decide_eq_true_eq]
        intro heq
        exact hfirst (List.mem_map.mpr ⟨other, (List.mem_filter.mp hother).1, heq⟩)
      by_cases hkept : kept item <;> simp [hkept, hnone]
    · have hne : ¬(member first).1 = (member item).1 := fun heq =>
        hfirst (List.mem_map.mpr ⟨item, hlater, heq.symm⟩)
      by_cases hkept : kept first <;> simp [hkept, hne, ih hrest hlater]

theorem Abridged.field (h : Abridged items member kept members)
    (hnodup : (items.map fun item => (member item).1).Nodup) (hitem : item ∈ items)
    (position : Nat) (default : α) (decode : Json → Option α) :
    (DocumentRecord.named members).field (member item).1 position default decode =
      if kept item then decode (member item).2 else some default := by
  obtain ⟨others, hothers, hperm⟩ := h
  have hnone : others.filter (·.1 = (member item).1) = [] := by
    rw [List.filter_eq_nil_iff]
    intro other hother
    rw [decide_eq_true_eq]
    exact hothers other hother item hitem
  -- of the members in their order, those with the name are one or none, so the order is nothing
  have hfound := hperm.filter (·.1 = (member item).1)
  rw [List.filter_append, hnone, List.append_nil, filter_members hnodup hitem] at hfound
  by_cases hkept : kept item
  · rw [if_pos hkept] at hfound ⊢
    simp only [DocumentRecord.field, List.perm_singleton.mp hfound]
  · rw [if_neg hkept] at hfound ⊢
    simp only [DocumentRecord.field, List.perm_nil.mp hfound]

theorem abridged_map (items : List ι) (member : ι → String × Json) :
    Abridged items member (fun _ => true) (items.map member) :=
  ⟨[], List.forall_mem_nil _, by
    rw [List.filter_eq_self.mpr fun _ _ => rfl, List.append_nil]⟩

end Abridged

/-! ### Sections and settings -/

/-- A section of the settings. -/
inductive SettingsSection where
  | instrumentation
  | suppression
  | capture
  | propagation
deriving DecidableEq, Repr

namespace SettingsSection

def all : List SettingsSection := [.instrumentation, .suppression, .capture, .propagation]

def name : SettingsSection → String
  | .instrumentation => "instrumentation"
  | .suppression => "suppression"
  | .capture => "capture"
  | .propagation => "propagation"

/-- The settings of a section, in the order in which they are written. -/
def settings : SettingsSection → List Setting
  | .instrumentation => [.enabled, .serviceName]
  | .suppression => [.strategy, .claimedKeys]
  | .capture => [.awsSdk, .fieldMappings, .genAi, .rpc]
  | .propagation => [.propagators, .injectHeaders]

abbrev Value : SettingsSection → Type
  | .instrumentation => InstrumentationSettings
  | .suppression => SuppressionSettings
  | .capture => CaptureSettings
  | .propagation => PropagationSettings

def value : (part : SettingsSection) → Settings → part.Value
  | .instrumentation, s => s.instrumentation
  | .suppression, s => s.suppression
  | .capture, s => s.capture
  | .propagation, s => s.propagation

def decode : (part : SettingsSection) → Json → Option part.Value
  | .instrumentation => Json.documentView.instrumentation
  | .suppression => Json.documentView.suppression
  | .capture => Json.documentView.capture
  | .propagation => Json.documentView.propagation

end SettingsSection

namespace Setting

/-- The section that a setting stands in. -/
def home : Setting → SettingsSection
  | .enabled | .serviceName => .instrumentation
  | .strategy | .claimedKeys => .suppression
  | .awsSdk | .fieldMappings | .genAi | .rpc => .capture
  | .propagators | .injectHeaders => .propagation

def key : Setting → String
  | .enabled => "enabled"
  | .serviceName => "service_name"
  | .strategy => "strategy"
  | .claimedKeys => "claimed_keys"
  | .awsSdk => "aws_sdk"
  | .fieldMappings => "field_mappings"
  | .genAi => "gen_ai"
  | .rpc => "rpc"
  | .propagators => "propagators"
  | .injectHeaders => "inject_headers"

/-- The value of a setting as it is written. -/
def encoded : (setting : Setting) → setting.Value → Json
  | .serviceName, v => .string v
  | .strategy, v => .string v.name
  | .claimedKeys, v => Json.ofTexts (v.map SpanKey.name)
  | .propagators, v => Json.ofTexts v
  | .enabled, v | .genAi, v | .awsSdk, v | .rpc, v | .fieldMappings, v | .injectHeaders, v => .bool v

def decode : (setting : Setting) → Json → Option setting.Value
  | .serviceName => Json.documentView.text?
  | .strategy => Json.documentView.strategy
  | .claimedKeys => Json.documentView.listOf Json.documentView.spanKey
  | .propagators => Json.documentView.listOf Json.documentView.text?
  | .enabled | .genAi | .awsSdk | .rpc | .fieldMappings | .injectHeaders => Json.documentView.switch?

def member (settings : Settings) (setting : Setting) : String × Json :=
  (setting.key, setting.encoded (setting.value settings))

end Setting

theorem SettingsSection.nodup_keys (part : SettingsSection) :
    (part.settings.map Setting.key).Nodup := by
  cases part <;> decide

theorem SettingsSection.mem_all (part : SettingsSection) : part ∈ all := by cases part <;> decide

theorem SettingsSection.nodup_names : (all.map name).Nodup := by decide

theorem Json.ofSettings_eq (settings : Settings) :
    ofSettings settings = .object (SettingsSection.all.map fun part =>
      (part.name, .object (part.settings.map (Setting.member settings)))) := rfl

theorem Json.listOf_ofTexts {α : Type} (name : α → String) {decode : Json → Option α}
    (h : ∀ a, decode (.string (name a)) = some a) (list : List α) :
    documentView.listOf decode (ofTexts (list.map name)) = some list := by
  show ((list.map name).map Json.string).mapM decode = some list
  induction list with
  | nil => rfl
  | cons a rest ih =>
    rw [List.map_cons, List.map_cons, List.mapM_cons, h, ih]
    rfl

theorem Setting.decode_encoded (setting : Setting) (v : setting.Value) :
    setting.decode (setting.encoded v) = some v := by
  cases setting with
  | strategy => exact SuppressionStrategy.ofName?_name v
  | claimedKeys => exact Json.listOf_ofTexts SpanKey.name SpanKey.ofName?_name v
  | propagators =>
    have hread : Setting.propagators.decode (Json.ofTexts (v.map id)) = some v :=
      Json.listOf_ofTexts id (fun _ => rfl) v
    rwa [List.map_id] at hread
  | _ => rfl

/-! ### Documents -/

/-- A document with the settings that are kept, in the sections that are kept. -/
inductive AbridgedDocument (settings : Settings) (sections : SettingsSection → Bool)
    (kept : Setting → Bool) : Json → Prop where
  | intro (contents : SettingsSection → List (String × Json)) (members : List (String × Json))
      (hcontents : ∀ part : SettingsSection,
        Abridged part.settings (Setting.member settings) kept (contents part))
      (hmembers : Abridged SettingsSection.all (fun part => (part.name, .object (contents part)))
        sections members) :
      AbridgedDocument settings sections kept (.object members)

/-- The settings with only those kept that are, and the defaults for the others. -/
def Settings.keeping (settings : Settings) (kept : Setting → Bool) : Settings :=
  let pick (setting : Setting) : setting.Value :=
    if kept setting then setting.value settings else setting.value {}
  ⟨⟨pick .enabled, pick .serviceName⟩, ⟨pick .strategy, pick .claimedKeys⟩,
    ⟨pick .awsSdk, pick .fieldMappings, pick .genAi, pick .rpc⟩,
    ⟨pick .propagators, pick .injectHeaders⟩⟩

theorem Settings.value_keeping (settings : Settings) (kept : Setting → Bool) (setting : Setting) :
    setting.value (settings.keeping kept) =
      if kept setting then setting.value settings else setting.value {} := by
  cases setting <;> rfl

section Reading

variable {settings : Settings} {kept : Setting → Bool} {contents : List (String × Json)}

theorem Abridged.field_setting {part : SettingsSection}
    (h : Abridged part.settings (Setting.member settings) kept contents) (setting : Setting)
    (hhome : setting ∈ part.settings) (position : Nat) :
    (DocumentRecord.named contents).field setting.key position (setting.value {}) setting.decode =
      some (setting.value (settings.keeping kept)) := by
  have hfield := h.field part.nodup_keys hhome position (setting.value {}) setting.decode
  rw [settings.value_keeping, apply_ite some, ← setting.decode_encoded]
  exact hfield

theorem SettingsSection.decode_abridged (part : SettingsSection)
    (h : Abridged part.settings (Setting.member settings) kept contents) :
    part.decode (.object contents) = some (part.value (settings.keeping kept)) := by
  cases part with
  | instrumentation =>
    have henabled := h.field_setting .enabled (by decide) 0
    have hname := h.field_setting .serviceName (by decide) 1
    exact Option.bind_eq_some_iff.mpr ⟨_, henabled, Option.bind_eq_some_iff.mpr ⟨_, hname, rfl⟩⟩
  | suppression =>
    have hstrategy := h.field_setting .strategy (by decide) 0
    have hkeys := h.field_setting .claimedKeys (by decide) 1
    exact Option.bind_eq_some_iff.mpr ⟨_, hstrategy, Option.bind_eq_some_iff.mpr ⟨_, hkeys, rfl⟩⟩
  | capture =>
    have hsdk := h.field_setting .awsSdk (by decide) 0
    have hmappings := h.field_setting .fieldMappings (by decide) 1
    have hgenAi := h.field_setting .genAi (by decide) 2
    have hrpc := h.field_setting .rpc (by decide) 3
    exact Option.bind_eq_some_iff.mpr ⟨_, hsdk, Option.bind_eq_some_iff.mpr ⟨_, hmappings,
      Option.bind_eq_some_iff.mpr ⟨_, hgenAi, Option.bind_eq_some_iff.mpr ⟨_, hrpc, rfl⟩⟩⟩⟩
  | propagation =>
    have hpropagators := h.field_setting .propagators (by decide) 0
    have hinject := h.field_setting .injectHeaders (by decide) 1
    exact Option.bind_eq_some_iff.mpr
      ⟨_, hpropagators, Option.bind_eq_some_iff.mpr ⟨_, hinject, rfl⟩⟩

/-- A section has what is kept of it, or as a whole its defaults. -/
theorem SettingsSection.value_keeping (part : SettingsSection) (settings : Settings)
    (sections : SettingsSection → Bool) (kept : Setting → Bool) :
    part.value (settings.keeping fun setting => sections setting.home && kept setting) =
      if sections part then part.value (settings.keeping kept) else part.value {} := by
  by_cases hpart : sections part
  · rw [if_pos hpart]
    cases part <;> simp only [value, Settings.keeping, Setting.home, hpart, Bool.true_and]
  · -- without its section no setting is kept, and the defaults of all are those of the section
    rw [if_neg hpart]
    rw [Bool.not_eq_true] at hpart
    cases part <;>
      simp only [value, Settings.keeping, Setting.home, hpart, Bool.false_and, Bool.false_eq_true,
        if_false] <;> rfl

theorem Abridged.field_section {sections : SettingsSection → Bool}
    {contents : SettingsSection → List (String × Json)} {members : List (String × Json)}
    (hmembers : Abridged SettingsSection.all (fun part => (part.name, .object (contents part)))
      sections members)
    (hcontents : ∀ part : SettingsSection,
      Abridged part.settings (Setting.member settings) kept (contents part))
    (part : SettingsSection) (position : Nat) :
    (DocumentRecord.named members).field part.name position (part.value {}) part.decode =
      some (part.value (settings.keeping fun setting =>
        sections setting.home && kept setting)) := by
  have hfield := hmembers.field SettingsSection.nodup_names part.mem_all position
    (part.value {}) part.decode
  rw [part.value_keeping, apply_ite some, ← part.decode_abridged (hcontents part)]
  exact hfield

end Reading

theorem AbridgedDocument.read {settings : Settings} {sections : SettingsSection → Bool}
    {kept : Setting → Bool} {document : Json}
    (h : AbridgedDocument settings sections kept document) :
    Json.documentView.settings document =
      some (settings.keeping fun setting => sections setting.home && kept setting) := by
  obtain ⟨contents, members, hcontents, hmembers⟩ := h
  have hfield := hmembers.field_section hcontents
  exact Option.bind_eq_some_iff.mpr ⟨_, hfield .instrumentation 0,
    Option.bind_eq_some_iff.mpr ⟨_, hfield .suppression 1,
      Option.bind_eq_some_iff.mpr ⟨_, hfield .capture 2,
        Option.bind_eq_some_iff.mpr ⟨_, hfield .propagation 3, rfl⟩⟩⟩⟩

theorem Json.abridged_ofSettings (settings : Settings) :
    AbridgedDocument settings (fun _ => true) (fun _ => true) (ofSettings settings) := by
  rw [ofSettings_eq]
  exact .intro _ _ (fun part => abridged_map part.settings (Setting.member settings))
    (abridged_map SettingsSection.all _)

/-- **What a document does not hold is as by default.**  What is written for settings is a document
from which nothing is left out, and it is read as these settings.  If sections and settings are left
out of it, the order changes and members under other names come in, then it is still read: each
setting that is left has its value, each other one its default, and if none is left out these are
the settings. -/
theorem settings_abridged (settings : Settings) :
    AbridgedDocument settings (fun _ => true) (fun _ => true) (Json.ofSettings settings) ∧
    Json.documentView.settings (Json.ofSettings settings) = some settings ∧
    ∀ (sections : SettingsSection → Bool) (kept : Setting → Bool) (document : Json),
      AbridgedDocument settings sections kept document →
      ∃ read, Json.documentView.settings document = some read ∧
        (∀ setting : Setting, setting.value read =
          if sections setting.home && kept setting then setting.value settings
          else setting.value {}) ∧
        ((∀ setting, (sections setting.home && kept setting) = true) → read = settings) := by
  -- the case of nothing left out is where the reading of what is written comes from
  have hwhole := Json.abridged_ofSettings settings
  refine ⟨hwhole, hwhole.read, fun sections kept document hdocument => ?_⟩
  refine ⟨_, hdocument.read, settings.value_keeping _, fun hall => Setting.ext_value fun setting => ?_⟩
  rw [settings.value_keeping, if_pos (hall setting)]

/-- Settings that differ from the defaults in every section. -/
def depotSettings : Settings where
  instrumentation := ⟨false, "depot"⟩
  suppression := ⟨.off, [.rpcClient, .producer]⟩
  capture := ⟨false, true, false, false⟩
  propagation := ⟨["b3"], false⟩

/-- Less of what stands in the sections, in another order, and more. -/
def depotContents : SettingsSection → List (String × Json)
  | .instrumentation => [("owner", .array []), ("enabled", .bool false)]
  | .suppression => [("claimed_keys", .array [.string "rpc_client", .string "producer"])]
  | .capture => []
  | .propagation =>
    [("note", .bool true), ("inject_headers", .bool false), ("propagators", .array [.string "b3"])]

/-- The members of a document with three of the sections, last section first. -/
def depotMembers : List (String × Json) :=
  [("Capture", .null),
    ("propagation", .object (depotContents .propagation)),
    ("suppression", .object (depotContents .suppression)),
    ("instrumentation", .object (depotContents .instrumentation))]

theorem depotMembers_read :
    ∃ read, Json.documentView.settings (.object depotMembers) = some read ∧
      read.instrumentation.enabled = false ∧ read.instrumentation.serviceName = "otel-correlate" ∧
      read.suppression.strategy = .spanKey ∧
      read.suppression.claimedKeys = [.rpcClient, .producer] ∧ read.capture.rpc = true ∧
      read.propagation.propagators = ["b3"] ∧ read.propagation.injectHeaders = false := by
  have hcontents (part : SettingsSection) : Abridged part.settings (Setting.member depotSettings)
      (fun setting => setting ∈ [.enabled, .claimedKeys, .propagators, .injectHeaders])
      (depotContents part) := by
    cases part with
    | instrumentation =>
      exact ⟨[("owner", .array [])], by decide, (depotContents .instrumentation).reverse_perm.symm⟩
    | suppression => exact ⟨[], by decide, .refl _⟩
    | capture => exact ⟨[], by decide, .refl _⟩
    | propagation =>
      exact ⟨[("note", .bool true)], by decide, (depotContents .propagation).reverse_perm.symm⟩
  have hmembers : Abridged SettingsSection.all
      (fun part => (part.name, .object (depotContents part))) (· ≠ .capture) depotMembers :=
    ⟨[("Capture", .null)], by decide, depotMembers.reverse_perm.symm⟩
  obtain ⟨read, hread, hvalue, -⟩ :=
    (settings_abridged depotSettings).2.2 _ _ _ (.intro _ _ hcontents hmembers)
  exact ⟨read, hread, hvalue .enabled, hvalue .serviceName, hvalue .strategy, hvalue .claimedKeys,
    hvalue .rpc, hvalue .propagators, hvalue .injectHeaders⟩

end CallTracing
