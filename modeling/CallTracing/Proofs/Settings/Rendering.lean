/-
  CallTracing/Proofs/Settings/Rendering.lean
  ==========================================
  **Settings written into the environment are read back.**

  Each setting may be written in many ways (`Setting.Spelling`): switches and names in any case, with
  blanks around them; lists joined by commas, with blank entries between the items.  Whichever is
  chosen, reading undoes it (`Setting.read_spelling`).  For a list this is an induction along its
  entries: a blank entry is passed over, any other gives the next item (`Entries.forall₂_words`).

  An environment that writes every setting of a record therefore is read as that record, and what it is
  merged with leaves no trace (`ofEnvironment_renders`).
-/
import CallTracing.Proofs.Settings.Merging
import CallTracing.Proofs.Text.Letters
import Mathlib.Data.List.Forall2

namespace CallTracing

/-! ### Lists -/

variable {α : Type}

/-- The entries of a written list: items in order, and between them entries of blanks. -/
inductive Entries (spells : α → List Char → Prop) : List α → List (List Char) → Prop where
  | nil : Entries spells [] []
  | blank {items : List α} {entries : List (List Char)} (entry : List Char)
      (h : ∀ c ∈ entry, Text.isBlank c = true) (rest : Entries spells items entries) :
      Entries spells items (entry :: entries)
  | item {items : List α} {entries : List (List Char)} (a : α) (entry : List Char)
      (h : spells a entry) (rest : Entries spells items entries) :
      Entries spells (a :: items) (entry :: entries)

/-- A list written with commas between its entries. -/
def SpellsList (spells : α → List Char → Prop) (items : List α) (text : String) : Prop :=
  ∃ entries, Entries spells items entries ∧ text.toList = [','].intercalate entries

/-- The words that are left of a list, once its entries are trimmed and blank ones passed over. -/
def wordsOf (entries : List (List Char)) : List String :=
  ((entries.map Text.trimmed).filter (!·.isEmpty)).map String.ofList

theorem wordsOf_of_blank {entry : List Char} (h : ∀ c ∈ entry, Text.isBlank c = true)
    (entries : List (List Char)) : wordsOf (entry :: entries) = wordsOf entries := by
  simp [wordsOf, Text.trimmed_of_blank h]

theorem wordsOf_of_ne {entry : List Char} (h : Text.trimmed entry ≠ [])
    (entries : List (List Char)) :
    wordsOf (entry :: entries) = String.ofList (Text.trimmed entry) :: wordsOf entries := by
  simp [wordsOf, h]

theorem listOf_intercalate {entries : List (List Char)} (h : ∀ entry ∈ entries, ',' ∉ entry)
    {text : String} (htext : text.toList = [','].intercalate entries) :
    Environment.listOf text = wordsOf entries := by
  unfold Environment.listOf
  rw [htext]
  by_cases hnil : entries = []
  · subst hnil
    rfl
  · rw [List.splitOn_intercalate ',' h hnil]
    rfl

namespace Entries

variable {spells : α → List Char → Prop} {items : List α} {entries : List (List Char)}

theorem not_mem_comma (h : Entries spells items entries)
    (hspells : ∀ a ∈ items, ∀ entry, spells a entry → ',' ∉ entry) :
    ∀ entry ∈ entries, ',' ∉ entry := by
  induction h with
  | nil => simp
  | blank entry hblank rest ih =>
    refine List.forall_mem_cons.mpr ⟨?_, ih hspells⟩
    intro hmem
    exact absurd (hblank ',' hmem) (by decide)
  | item a entry hentry rest ih =>
    obtain ⟨hfirst, hrest⟩ := List.forall_mem_cons.mp hspells
    exact List.forall_mem_cons.mpr ⟨hfirst entry hentry, ih hrest⟩

/-- What holds of an item and each of its trimmed spellings holds of the items and the words. -/
theorem forall₂_words {holds : α → String → Prop} (h : Entries spells items entries)
    (hspells : ∀ a ∈ items, ∀ entry, spells a entry →
      Text.trimmed entry ≠ [] ∧ holds a (String.ofList (Text.trimmed entry))) :
    List.Forall₂ holds items (wordsOf entries) := by
  induction h with
  | nil => exact List.Forall₂.nil
  | blank entry hblank rest ih =>
    rw [wordsOf_of_blank hblank]
    exact ih hspells
  | item a entry hentry rest ih =>
    obtain ⟨hfirst, hrest⟩ := List.forall_mem_cons.mp hspells
    obtain ⟨hne, hholds⟩ := hfirst entry hentry
    rw [wordsOf_of_ne hne]
    exact List.Forall₂.cons hholds (ih hrest)

end Entries

/-- A written list is read as its words, which are to its items as their spellings are. -/
theorem forall₂_listOf {spells : α → List Char → Prop} {holds : α → String → Prop} {items : List α}
    {text : String} (h : SpellsList spells items text)
    (hspells : ∀ a ∈ items, ∀ entry, spells a entry → ',' ∉ entry ∧ Text.trimmed entry ≠ [] ∧
      holds a (String.ofList (Text.trimmed entry))) :
    List.Forall₂ holds items (Environment.listOf text) := by
  obtain ⟨entries, hentries, htext⟩ := h
  rw [listOf_intercalate (hentries.not_mem_comma fun a ha entry hentry =>
    (hspells a ha entry hentry).1) htext]
  exact hentries.forall₂_words fun a ha entry hentry => (hspells a ha entry hentry).2

theorem mapM_of_forall₂ {read : String → Except SettingsError α} {items : List α}
    {words : List String} (h : List.Forall₂ (fun a word => read word = .ok a) items words) :
    words.mapM read = .ok items := by
  induction h with
  | nil => rfl
  | cons hfirst hrest ih =>
    rw [List.mapM_cons, hfirst, ih]
    rfl

/-! ### Names -/

/-- The word for a switch. -/
def switchWord (on : Bool) : String := if on then "true" else "false"

theorem isName_switchWord (on : Bool) : Text.IsName (switchWord on).toList := by
  cases on <;> decide

theorem isName_strategy (strategy : SuppressionStrategy) : Text.IsName strategy.name.toList := by
  cases strategy <;> decide

theorem isName_spanKey (key : SpanKey) : Text.IsName key.name.toList := by
  cases key <;> decide

theorem lower_trim_of_spells {name text : String} (hname : Text.IsName name.toList)
    (h : Text.Spells name.toList text.toList) : Text.lower (Text.trim text) = name := by
  unfold Text.lower Text.trim
  rw [String.toList_ofList, h.lowerFrom_trimmed hname, String.ofList_toList]

theorem switchOf_of_spells {on : Bool} {text : String} (name : String)
    (h : Text.Spells (switchWord on).toList text.toList) :
    Environment.switchOf name text = .ok on := by
  unfold Environment.switchOf
  rw [lower_trim_of_spells (isName_switchWord on) h]
  cases on <;> rfl

theorem strategyOf_of_spells {strategy : SuppressionStrategy} {text : String} (name : String)
    (h : Text.Spells strategy.name.toList text.toList) :
    Environment.strategyOf name text = .ok strategy := by
  unfold Environment.strategyOf SuppressionStrategy.parse
  rw [lower_trim_of_spells (isName_strategy strategy) h]
  cases strategy <;> rfl

theorem spanKeyOf_of_spells {key : SpanKey} {text : String} (name : String)
    (h : Text.Spells key.name.toList text.toList) : Environment.spanKeyOf name text = .ok key := by
  unfold Environment.spanKeyOf SpanKey.parse
  rw [lower_trim_of_spells (isName_spanKey key) h]
  cases key <;> rfl

theorem SpanKey.of_spells {key : SpanKey} {entry : List Char} (name : String)
    (h : Text.Spells key.name.toList entry) : ',' ∉ entry ∧ Text.trimmed entry ≠ [] ∧
      Environment.spanKeyOf name (String.ofList (Text.trimmed entry)) = .ok key := by
  have htrimmed := h.map_trimmed (isName_spanKey key)
  refine ⟨h.not_mem_comma (isName_spanKey key), ?_, ?_⟩
  · intro hnil
    rw [hnil] at htrimmed
    revert htrimmed
    cases key <;> decide
  · refine spanKeyOf_of_spells name ⟨Text.trimmed entry, ?_, htrimmed⟩
    rw [String.toList_ofList]
    exact Text.Padded.refl _

/-- A text that can be an item of a list. -/
structure ListItem (name : String) : Prop where
  ne : name ≠ ""
  trimmed : Text.trim name = name
  plain : ',' ∉ name.toList

theorem ListItem.of_padded {name : String} (hname : ListItem name) {entry : List Char}
    (h : Text.Padded name.toList entry) :
    ',' ∉ entry ∧ Text.trimmed entry ≠ [] ∧ name = String.ofList (Text.trimmed entry) := by
  have htrimmed : Text.trimmed entry = name.toList := by
    have hself := congrArg String.toList hname.trimmed
    rw [Text.trim, String.toList_ofList] at hself
    rw [Text.trimmed_padded h, hself]
  refine ⟨h.not_mem (by decide) hname.plain, ?_, ?_⟩
  · rw [htrimmed]
    intro hnil
    exact hname.ne (String.toList_eq_nil_iff.mp hnil)
  · rw [htrimmed, String.ofList_toList]

/-! ### Settings -/

namespace Setting

/-- The ways to write a value of a setting. -/
def Spelling : (setting : Setting) → setting.Value → String → Prop
  | .serviceName, v, text => text = v
  | .strategy, v, text => Text.Spells v.name.toList text.toList
  | .claimedKeys, v, text => SpellsList (fun key => Text.Spells key.name.toList) v text
  | .propagators, v, text => SpellsList (fun name => Text.Padded name.toList) v text
  | .enabled, v, text => Text.Spells (switchWord v).toList text.toList
  | .genAi, v, text => Text.Spells (switchWord v).toList text.toList
  | .awsSdk, v, text => Text.Spells (switchWord v).toList text.toList
  | .rpc, v, text => Text.Spells (switchWord v).toList text.toList
  | .fieldMappings, v, text => Text.Spells (switchWord v).toList text.toList
  | .injectHeaders, v, text => Text.Spells (switchWord v).toList text.toList

/-- Whichever way a setting is written, it is read back. -/
theorem read_of_spelling {settings : Settings}
    (hnames : ∀ name ∈ settings.propagation.propagators, ListItem name) (setting : Setting)
    {text : String} (h : setting.Spelling (setting.value settings) text) :
    setting.read text = .ok (setting.value settings) := by
  cases setting <;> simp only [read, value, Spelling] at h ⊢
  case serviceName => rw [h]
  case strategy => exact strategyOf_of_spells _ h
  case claimedKeys =>
    exact mapM_of_forall₂ (forall₂_listOf h fun key _ entry hentry => SpanKey.of_spells _ hentry)
  case propagators =>
    have hwords : List.Forall₂ (· = ·) settings.propagation.propagators
        (Environment.listOf text) :=
      forall₂_listOf h fun name hname entry hentry => (hnames name hname).of_padded hentry
    rw [List.forall₂_eq_eq_eq] at hwords
    rw [hwords]
  all_goals exact switchOf_of_spells _ h

end Setting

/-- Whether an environment writes all of some settings. -/
def Environment.Renders (environment : Environment) (settings : Settings) : Prop :=
  ∀ setting : Setting, ∃ text, environment.text? setting.variableName = some text ∧
    setting.Spelling (setting.value settings) text

/-- Settings that are written into the environment are read back, and replace all others. -/
theorem ofEnvironment_renders {environment : Environment} {settings : Settings}
    (hnames : ∀ name ∈ settings.propagation.propagators, ListItem name)
    (h : environment.Renders settings) :
    Settings.ofEnvironment environment = .ok settings ∧
      ∀ other : Settings, other.mergedWith environment = .ok settings := by
  have hread : Settings.ofEnvironment environment = .ok settings := by
    refine Setting.ofEnvironment_eq_ok_iff.mpr fun setting => ?_
    obtain ⟨text, htext, hspelling⟩ := h setting
    unfold Setting.fetched
    rw [htext]
    exact setting.read_of_spelling hnames hspelling
  refine ⟨hread, ?_⟩
  intro other
  apply Settings.mergedWith_eq_of_agrees hread
  intro setting
  -- Every variable is set, so nothing of the other settings is left.
  obtain ⟨text, htext, -⟩ := h setting
  simp [htext]

/-- Settings with a name that holds a comma, and with a key twice. -/
def courierSettings : Settings where
  instrumentation := { enabled := false, serviceName := " courier, north " }
  suppression := { strategy := .off, claimedKeys := [.producer, .httpClient, .producer] }
  capture := { fieldMappings := false, rpc := false }
  propagation := { propagators := ["trace context", "baggage"] }

/-- The settings written with blanks, blank entries and letters of both cases. -/
def courierEnvironment : Environment :=
  [("CORRELATE_ENABLED", "\u2003FaLSe\n"), ("OTEL_SERVICE_NAME", " courier, north "),
    ("CORRELATE_SUPPRESSION_STRATEGY", "NONE"),
    ("CORRELATE_CLAIMED_SPAN_KEYS", ",PRODUCER , ,http_Client\t,producer"),
    ("CORRELATE_CAPTURE_GEN_AI", "true"), ("CORRELATE_CAPTURE_AWS_SDK", " True"),
    ("CORRELATE_CAPTURE_RPC", "FALSE"), ("CORRELATE_CAPTURE_FIELD_MAPPINGS", "false "),
    ("OTEL_PROPAGATORS", " ,trace context,\tbaggage ,"), ("CORRELATE_INJECT_HEADERS", "TRUE")]

theorem listItem_courierSettings : ∀ name ∈ courierSettings.propagation.propagators,
    ListItem name := by
  have hall : ∀ name ∈ ["trace context", "baggage"],
      name ≠ "" ∧ Text.trim name = name ∧ ',' ∉ name.toList := by decide
  intro name hname
  obtain ⟨hne, htrimmed, hplain⟩ := hall name hname
  exact ⟨hne, htrimmed, hplain⟩

theorem renders_courierEnvironment : courierEnvironment.Renders courierSettings := by
  intro setting
  cases setting with
  | serviceName => exact ⟨_, rfl, rfl⟩
  | claimedKeys =>
    refine ⟨_, rfl, [[], "PRODUCER ".toList, [' '], "http_Client\t".toList, "producer".toList], ?_,
      by decide⟩
    refine .blank _ (List.all_eq_true.mp (by decide)) ?_
    refine .item _ _ (.of_map_trimmed (by decide)) ?_
    refine .blank _ (List.all_eq_true.mp (by decide)) ?_
    refine .item _ _ (.of_map_trimmed (by decide)) ?_
    exact .item _ _ (.of_map_trimmed (by decide)) .nil
  | propagators =>
    refine ⟨_, rfl, [[' '], "trace context".toList, "\tbaggage ".toList, []], ?_, by decide⟩
    refine .blank _ (List.all_eq_true.mp (by decide)) ?_
    refine .item _ _ (Text.Padded.refl _) ?_
    refine .item _ _ (Text.trimmed_spec "\tbaggage ".toList) ?_
    exact .blank _ (List.all_eq_true.mp (by decide)) .nil
  | strategy => exact ⟨_, rfl, .of_map_trimmed (by decide)⟩
  | enabled => exact ⟨_, rfl, .of_map_trimmed (by decide)⟩
  | genAi => exact ⟨_, rfl, .of_map_trimmed (by decide)⟩
  | awsSdk => exact ⟨_, rfl, .of_map_trimmed (by decide)⟩
  | rpc => exact ⟨_, rfl, .of_map_trimmed (by decide)⟩
  | fieldMappings => exact ⟨_, rfl, .of_map_trimmed (by decide)⟩
  | injectHeaders => exact ⟨_, rfl, .of_map_trimmed (by decide)⟩

theorem courierEnvironment_read :
    (∀ name ∈ courierSettings.propagation.propagators, ListItem name) ∧
      courierEnvironment.Renders courierSettings ∧
        Settings.ofEnvironment courierEnvironment = .ok courierSettings ∧
          ∀ other : Settings, other.mergedWith courierEnvironment = .ok courierSettings :=
  ⟨listItem_courierSettings, renders_courierEnvironment,
    ofEnvironment_renders listItem_courierSettings renders_courierEnvironment⟩

end CallTracing
