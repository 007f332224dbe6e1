/-
  CallTracing/Proofs/Payload/AssembledKey.lean
  ============================================
  **When two assembled payloads stand in each other's way.**

  A payload is disturbed by another one if a field looked up on it gives something else once the
  same field was looked up on the other one.  For payloads with repeatable answers this happens just
  where both have one profile key and would not find the same accessor (`undisturbed_iff`).

  The profile key of an assembled payload joins its accessor names with commas behind a bracket.
  Where no name holds a comma or an opening bracket, the key tells the type name and the names
  (`names_of_profileKey_eq`), and no such payload disturbs another.  Other names can make one key of
  different payloads: `a,getTopicArn` is one name or two.
-/
import CallTracing.Payload.Assembled
import CallTracing.Proofs.Payload.Cache

namespace CallTracing

/-! ### Lookups on two payloads -/

/-- The value that an answer gives. -/
def Answer.given? : Answer → Option FieldValue
  | .value given => some given
  | _ => none

/-- Whether a field looked up on `q` gives the same accessor and the same value after it was looked
up on `p` as it does with a fresh cache. -/
def Payload.Undisturbed (p q : Payload) (name : String) : Prop :=
  let after := ((Session.read p name).run {}).2
  ((Session.accessor? q name).run after).1 = ((Session.accessor? q name).run {}).1 ∧
    ((Session.read q name).run after).1 = ((Session.read q name).run {}).1

namespace Session

theorem cache_read (payload : Payload) (name : String) (session : Session) :
    ((read payload name).run session).2.cache = (session.cache.accessor? payload name).2 := by
  obtain ⟨-, hcache⟩ := run_accessor? session payload name
  rw [run_read, ← hcache]
  cases ((accessor? payload name).run session).1 with
  | none => rfl
  | some accessor => exact cache_invoke _ payload accessor

/-- A field of a payload with repeatable answers is what its accessor answers. -/
theorem value_read {payload : Payload}
    (hrepeat : ∀ accessor n m, payload.answer accessor n = payload.answer accessor m)
    (name : String) (session : Session) :
    ((read payload name).run session).1 =
      ((accessor? payload name).run session).1.bind fun accessor =>
        (payload.answer accessor 0).given? := by
  rw [run_read]
  cases ((accessor? payload name).run session).1 with
  | none => rfl
  | some accessor =>
    show ((invoke payload accessor).run _).1 = (payload.answer accessor 0).given?
    rw [run_invoke, hrepeat accessor _ 0]
    cases payload.answer accessor 0 <;> rfl

end Session

theorem Payload.undisturbed_iff_firstExposed {p q : Payload}
    (hrepeat : ∀ accessor n m, q.answer accessor n = q.answer accessor m) (name : String) :
    p.Undisturbed q name ↔
      (p.profileKey = q.profileKey →
        p.firstExposed (candidates name) = q.firstExposed (candidates name)) := by
  have hafter : ((Session.accessor? q name).run ((Session.read p name).run {}).2).1 =
      (if p.profileKey = q.profileKey then p else q).firstExposed (candidates name) := by
    obtain ⟨hfound, -⟩ := Session.run_accessor? ((Session.read p name).run {}).2 q name
    rw [hfound, Session.cache_read, AccessorCache.accessor?_after]
  have hfresh : ((Session.accessor? q name).run {}).1 = q.firstExposed (candidates name) := by
    obtain ⟨hfound, -⟩ := Session.run_accessor? {} q name
    rw [hfound, AccessorCache.accessor?_fresh]
  rw [Undisturbed, Session.value_read hrepeat, Session.value_read hrepeat, hafter, hfresh]
  by_cases hkey : p.profileKey = q.profileKey
  · rw [if_pos hkey]
    constructor
    · rintro ⟨hfirst, -⟩ _
      exact hfirst
    · intro hfirst
      rw [hfirst hkey]
      exact ⟨rfl, rfl⟩
  · rw [if_neg hkey]
    constructor
    · intro _ hsame
      exact absurd hsame hkey
    · intro _
      exact ⟨rfl, rfl⟩

/-! ### The profile key as text -/

theorem not_mem_intercalate {c separator : Char} (hne : c ≠ separator) {parts : List (List Char)}
    (hparts : ∀ part ∈ parts, c ∉ part) : c ∉ [separator].intercalate parts := by
  induction parts with
  | nil => simp
  | cons part rest ih =>
    have hpart := hparts part (by simp)
    have hrest := ih fun other hother => hparts other (by simp [hother])
    cases rest with
    | nil => simpa using hpart
    | cons next rest =>
      rw [List.intercalate_cons_cons]
      simp only [List.mem_append, List.mem_singleton, not_or]
      exact ⟨⟨hpart, hne⟩, hrest⟩

/-- A joined text tells its parts, but for empty ones. -/
theorem filter_splitOn_intercalate {separator : Char} {parts : List (List Char)}
    (hparts : ∀ part ∈ parts, separator ∉ part) :
    (([separator].intercalate parts).splitOn separator).filter (· ≠ []) =
      parts.filter (· ≠ []) := by
  by_cases hnil : parts = []
  · subst hnil
    rfl
  · rw [List.splitOn_intercalate separator hparts hnil]

namespace AssembledPayload

variable (payload : AssembledPayload)

/-- Whether no accessor has a comma or an opening bracket in its name. -/
def Plain : Prop := ∀ name ∈ payload.names, ',' ∉ name.toList ∧ '[' ∉ name.toList

/-- Whether every accessor gives the same each time that it is invoked. -/
def Repeatable : Prop := ∀ name n m, payload.answer name n = payload.answer name m

theorem exposes_toPayload (identity : Nat) (name : String) :
    (payload.toPayload identity).exposes name = true ↔ name ∈ payload.names := by
  have hnames : name ∈ payload.names ↔ name ∈ payload.accessors.map (·.1) := List.mem_mergeSort
  have hexposes : (payload.toPayload identity).exposes name =
      (payload.accessors.lookup name).isSome := by
    show ((if (payload.accessors.lookup name).isSome then Probe.present else .absent) ==
      .present) = _
    cases payload.accessors.lookup name <;> rfl
  rw [hexposes, hnames, List.lookup_isSome_iff, List.mem_map]
  constructor
  · rintro ⟨entry, hentry, heq⟩
    exact ⟨entry, hentry, (beq_iff_eq.mp heq).symm⟩
  · rintro ⟨entry, hentry, rfl⟩
    exact ⟨entry, hentry, beq_self_eq_true _⟩

theorem toList_profileKey : payload.profileKey.toList =
    payload.typeName.toList ++
      '[' :: (List.intercalate [','] (payload.names.map String.toList) ++ [']']) := by
  simp [profileKey, String.toList_intercalate]

theorem mem_names_iff {name : String} (hname : name ≠ "") :
    name ∈ payload.names ↔
      name.toList ∈ (payload.names.map String.toList).filter (· ≠ []) := by
  have hnonempty : name.toList ≠ [] := by simpa using hname
  rw [List.mem_filter, List.mem_map]
  constructor
  · intro hmem
    exact ⟨⟨name, hmem, rfl⟩, by simpa using hnonempty⟩
  · rintro ⟨⟨other, hmem, heq⟩, -⟩
    rwa [← String.toList_inj.mp heq]

variable {p q : AssembledPayload}

/-- The key of a plain payload tells its type name and its accessor names.  Only an empty name may
escape it, which no field is looked for under. -/
theorem names_of_profileKey_eq (hp : p.Plain) (hq : q.Plain)
    (hkey : p.profileKey = q.profileKey) :
    p.typeName = q.typeName ∧ ∀ name, name ≠ "" → (name ∈ p.names ↔ name ∈ q.names) := by
  have htext := congrArg String.toList hkey
  rw [toList_profileKey, toList_profileKey] at htext
  have hbracket : ∀ payload : AssembledPayload, payload.Plain →
      '[' ∉ [','].intercalate (payload.names.map String.toList) ++ [']'] := by
    intro payload hplain
    rw [List.mem_append, not_or]
    refine ⟨not_mem_intercalate (by decide) ?_, by decide⟩
    rintro _ hpart
    obtain ⟨name, hname, rfl⟩ := List.mem_map.mp hpart
    exact (hplain name hname).2
  have hcomma : ∀ payload : AssembledPayload, payload.Plain →
      ∀ part ∈ payload.names.map String.toList, ',' ∉ part := by
    rintro payload hplain _ hpart
    obtain ⟨name, hname, rfl⟩ := List.mem_map.mp hpart
    exact (hplain name hname).1
  obtain ⟨htype, hrest⟩ := append_separator_inj (hbracket p hp) (hbracket q hq) htext
  have hjoined := List.append_cancel_right hrest
  refine ⟨String.toList_inj.mp htype, fun name hname => ?_⟩
  rw [p.mem_names_iff hname, q.mem_names_iff hname, ← filter_splitOn_intercalate (hcomma p hp),
    ← filter_splitOn_intercalate (hcomma q hq), hjoined]

end AssembledPayload

/-! ### When a cache is in the way -/

/-- No field is looked for under an empty name. -/
theorem ne_empty_of_mem_candidates {name accessor : String} (h : accessor ∈ candidates name) :
    accessor ≠ "" := by
  cases hlookup : canonicalFields.lookup name with
  | some accessors =>
    rw [candidates_of_canonical hlookup] at h
    obtain ⟨before, after, hsplit, -⟩ := List.lookup_eq_some_iff.mp hlookup
    have hcanonical : ∀ field ∈ canonicalFields, ∀ accessor ∈ field.2, accessor ≠ "" := by decide
    exact hcanonical (name, accessors) (by rw [hsplit]; simp) accessor h
  | none =>
    rw [candidates_of_other hlookup, derivedCandidates] at h
    cases hname : name.toList with
    | nil =>
      rw [hname] at h
      cases h
    | cons first rest =>
      rw [hname] at h
      simp only [List.mem_cons, List.not_mem_nil, or_false] at h
      rcases h with rfl | rfl
      · rintro rfl
        cases hname
      · intro hempty
        have hlength := congrArg String.length hempty
        simp at hlength

namespace AssembledPayload

/-- The accessor under which a field is found on a payload. -/
def found? (payload : AssembledPayload) (name : String) : Option String :=
  (candidates name).find? fun accessor => decide (accessor ∈ payload.names)

theorem firstExposed_toPayload (payload : AssembledPayload) (identity : Nat) (name : String) :
    (payload.toPayload identity).firstExposed (candidates name) = payload.found? name := by
  have hexposes : (payload.toPayload identity).exposes =
      fun accessor => decide (accessor ∈ payload.names) := by
    funext accessor
    rw [Bool.eq_iff_iff, exposes_toPayload, decide_eq_true_iff]
  rw [Payload.firstExposed, hexposes, found?]

theorem found?_congr {p q : AssembledPayload}
    (hnames : ∀ name, name ≠ "" → (name ∈ p.names ↔ name ∈ q.names)) (name : String) :
    p.found? name = q.found? name := by
  have hfind : ∀ accessors : List String, (∀ accessor ∈ accessors, accessor ≠ "") →
      accessors.find? (fun accessor => decide (accessor ∈ p.names)) =
        accessors.find? fun accessor => decide (accessor ∈ q.names) := by
    intro accessors hne
    induction accessors with
    | nil => rfl
    | cons accessor rest ih =>
      rw [List.find?_cons, List.find?_cons, ih fun other hother => hne other (by simp [hother]),
        decide_eq_decide.mpr (hnames accessor (hne accessor (by simp)))]
  exact hfind _ fun accessor => ne_empty_of_mem_candidates

/-- **One assembled payload disturbs another only through a common key.**  It does so for a field
just where the keys are the same and the field is found under another accessor; and payloads whose
accessor names hold no comma and no opening bracket never do. -/
theorem undisturbed_iff (p q : AssembledPayload) (i j : Nat) (name : String)
    (hrepeat : q.Repeatable) :
    ((p.toPayload i).Undisturbed (q.toPayload j) name ↔
        (p.profileKey = q.profileKey → p.found? name = q.found? name)) ∧
      (p.Plain → q.Plain → (p.toPayload i).Undisturbed (q.toPayload j) name) := by
  have hiff : (p.toPayload i).Undisturbed (q.toPayload j) name ↔
      (p.profileKey = q.profileKey → p.found? name = q.found? name) := by
    have hanswers : ∀ accessor n m,
        (q.toPayload j).answer accessor n = (q.toPayload j).answer accessor m := hrepeat
    have hexposed : (p.toPayload i).Undisturbed (q.toPayload j) name ↔
        ((p.toPayload i).profileKey = (q.toPayload j).profileKey →
          (p.toPayload i).firstExposed (candidates name) =
            (q.toPayload j).firstExposed (candidates name)) :=
      Payload.undisturbed_iff_firstExposed hanswers name
    rwa [firstExposed_toPayload, firstExposed_toPayload] at hexposed
  refine ⟨hiff, fun hp hq => hiff.mpr fun hkey => ?_⟩
  obtain ⟨-, hnames⟩ := names_of_profileKey_eq hp hq hkey
  exact found?_congr hnames name

/-- A payload with one accessor, whose name holds a comma. -/
def commaNamed : AssembledPayload where
  typeName := "T"
  accessors := [("a,getTopicArn", fun _ => .value (.text "x"))]

/-- A payload with two accessors. -/
def topic : AssembledPayload where
  typeName := "T"
  accessors := [("a", fun _ => .value (.text "y")), ("getTopicArn", fun _ => .value (.text "z"))]

theorem names_commaNamed : commaNamed.names = ["a,getTopicArn"] :=
  List.mergeSort_of_pairwise (by decide)

theorem names_topic : topic.names = ["a", "getTopicArn"] :=
  List.mergeSort_of_pairwise (by decide)

/-- Behind `commaNamed`, the topic of `topic` is lost; behind another `topic` it is not. -/
theorem commaNamed_disturbs_topic :
    topic.Repeatable ∧ ¬(commaNamed.toPayload 0).Undisturbed (topic.toPayload 1) "topicArn" ∧
      (topic.toPayload 0).Undisturbed (topic.toPayload 1) "topicArn" := by
  have hrepeat : topic.Repeatable := by
    intro name n m
    by_cases ha : name = "a"
    · subst ha
      rfl
    · by_cases htopic : name = "getTopicArn"
      · subst htopic
        rfl
      · have hlookup : topic.accessors.lookup name = none := by
          simp [topic, ha, htopic]
        rw [answer, answer, hlookup]
  have hplain : topic.Plain := by
    rw [Plain, names_topic]
    decide
  have hkey : commaNamed.profileKey = topic.profileKey := by
    rw [profileKey, profileKey, names_commaNamed, names_topic]
    decide
  have hfound : commaNamed.found? "topicArn" ≠ topic.found? "topicArn" := by
    rw [found?, found?, names_commaNamed, names_topic]
    decide
  have hclash := (undisturbed_iff commaNamed topic 0 1 "topicArn" hrepeat).1
  have hsame := (undisturbed_iff topic topic 0 1 "topicArn" hrepeat).2 hplain hplain
  exact ⟨hrepeat, fun h => hfound (hclash.mp h hkey), hsame⟩

end AssembledPayload

end CallTracing
