/-
  CallTracing/Proofs/Extract/Isolation.lean
  =========================================
  **Extractors do not disturb each other.**

  What an extractor does at one point of a call is a `Behaviour`: it writes attributes one after the
  other, and then is done, reports an error, or panics.  An extractor is steady if its behaviour
  depends on the call alone, and not on what was read before it.

  A chain of steady extractors is a fold (`value_run`): each set goes over the ones before it, and
  that of an extractor which panicked goes nowhere.  Hence, for every name, the last extractor that
  wrote it and did not panic decides (`get?_mergedInto`), and an extractor that panics can stand
  anywhere in the chain and changes nothing (`mergedInto_insert`).
-/
import CallTracing.Extract.Extractor
import CallTracing.Proofs.Attribute.Writes

namespace CallTracing

open AttributeSet

/-! ### Attributes written one after the other -/

namespace AttributeSet

/-- Of several writes of one name, the last counts. -/
theorem get?_extend_entries (set : AttributeSet) (writes : List (String × AttributeValue))
    (name : String) :
    (set.extend ⟨writes⟩).get? name = (writes.reverse.lookup name).or (set.get? name) := by
  induction writes generalizing set with
  | nil => rfl
  | cons write rest ih =>
    obtain ⟨key, value⟩ := write
    have hextend : set.extend ⟨(key, value) :: rest⟩ = (set.put key value).extend ⟨rest⟩ := rfl
    rw [hextend, ih, List.reverse_cons, List.lookup_append, get?_put]
    cases hlater : rest.reverse.lookup name with
    | some later => simp
    | none =>
      by_cases hkey : key = name
      · simp [hkey]
      · have hne : (name == key) = false := by simpa using Ne.symm hkey
        simp [hkey, List.lookup_cons, hne]

theorem get?_ofList (writes : List (String × AttributeValue)) (name : String) :
    (ofList writes).get? name = writes.reverse.lookup name := by
  rw [ofList, get?_extend_entries, get?_empty, Option.or_none]

theorem nodup_ofList (writes : List (String × AttributeValue)) :
    ((ofList writes).entries.map (·.1)).Nodup := by
  have hempty : (AttributeSet.empty.entries.map (·.1)).Nodup := List.nodup_nil
  exact nodup_extend hempty ⟨writes⟩

end AttributeSet

/-! ### Behaviours -/

/-- What an extractor does at one point of a call. -/
structure Behaviour where
  writes : List (String × AttributeValue)
  ending : Ending := .done

namespace Behaviour

def extraction (behaviour : Behaviour) : Extraction :=
  { attributes := .ofList behaviour.writes
    ending := behaviour.ending }

/-- The value that an attribute is left with: an error loses nothing, and a panic everything. -/
def left? (behaviour : Behaviour) (name : String) : Option AttributeValue :=
  if behaviour.ending = .panicked then none else behaviour.writes.reverse.lookup name

/-- A set with what an extractor leaves merged into it. -/
def mergedInto (behaviour : Behaviour) (before : AttributeSet) : AttributeSet :=
  if behaviour.ending = .panicked then before else before.extend (.ofList behaviour.writes)

theorem get?_mergedInto (behaviour : Behaviour) (before : AttributeSet) (name : String) :
    (behaviour.mergedInto before).get? name =
      (behaviour.left? name).or (before.get? name) := by
  unfold mergedInto left?
  by_cases hpanicked : behaviour.ending = .panicked
  · rw [if_pos hpanicked, if_pos hpanicked, Option.none_or]
  · rw [if_neg hpanicked, if_neg hpanicked, get?_extend _ (nodup_ofList _), get?_ofList]

theorem nodup_mergedInto (behaviour : Behaviour) {before : AttributeSet}
    (h : (before.entries.map (·.1)).Nodup) :
    ((behaviour.mergedInto before).entries.map (·.1)).Nodup := by
  unfold mergedInto
  split
  · exact h
  · exact nodup_extend h _

end Behaviour

/-! ### Chains of steady extractors -/

/-- An extractor whose behaviour depends on the call alone. -/
structure SteadyExtractor extends Extractor where
  atStart : Request → Behaviour
  atEnd : Request → Outcome → Behaviour
  run_onStart : ∀ request session,
    ((onStart request).run session).1 = (atStart request).extraction
  run_onEnd : ∀ request outcome session,
    ((onEnd request outcome).run session).1 = (atEnd request outcome).extraction

def SteadyExtractor.ofBehaviour (name : String) (behaviour : Behaviour) : SteadyExtractor where
  name := name
  onStart := fun _ => pure behaviour.extraction
  onEnd := fun _ _ => pure behaviour.extraction
  atStart := fun _ => behaviour
  atEnd := fun _ _ => behaviour
  run_onStart := fun _ _ => rfl
  run_onEnd := fun _ _ _ => rfl

namespace ExtractorChain

/-- What the behaviours of a chain leave, one after the other. -/
def mergedBehaviours (before : AttributeSet) (behaviours : List Behaviour) : AttributeSet :=
  behaviours.foldl (fun set behaviour => behaviour.mergedInto set) before

theorem value_merge (name : String) (before : AttributeSet) (behaviour : Behaviour)
    (session : Session) :
    ((merge name before behaviour.extraction).run session).1 = behaviour.mergedInto before := by
  obtain ⟨writes, ending⟩ := behaviour
  cases ending with
  | done => rfl
  | failed error => rfl
  | panicked => rfl

/-- The sessions that extractors leave behind to the next ones make no difference. -/
theorem value_run {α : Type} {phase : Extractor → Reading Extraction} {extractor : α → Extractor}
    {behaviour : α → Behaviour} (chain : List α)
    (hphase : ∀ item ∈ chain, ∀ session,
      ((phase (extractor item)).run session).1 = (behaviour item).extraction)
    (before : AttributeSet) (session : Session) :
    ((run phase before (chain.map extractor)).run session).1 =
      mergedBehaviours before (chain.map behaviour) := by
  induction chain generalizing before session with
  | nil => rfl
  | cons item rest ih =>
    have hrest := ih fun later hlater => hphase later (List.mem_cons_of_mem _ hlater)
    have hrun : ((run phase before ((item :: rest).map extractor)).run session).1 =
        ((run phase
          ((merge (extractor item).name before ((phase (extractor item)).run session).1).run
            ((phase (extractor item)).run session).2).1 (rest.map extractor)).run
          ((merge (extractor item).name before ((phase (extractor item)).run session).1).run
            ((phase (extractor item)).run session).2).2).1 := rfl
    rw [hrun, hrest, hphase item List.mem_cons_self, value_merge]
    rfl

theorem get?_mergedBehaviours (behaviours : List Behaviour) (before : AttributeSet)
    (name : String) :
    (mergedBehaviours before behaviours).get? name =
      (behaviours.reverse.findSome? (·.left? name)).or (before.get? name) := by
  induction behaviours generalizing before with
  | nil => rfl
  | cons behaviour rest ih =>
    have hfold : mergedBehaviours before (behaviour :: rest) =
        mergedBehaviours (behaviour.mergedInto before) rest := rfl
    rw [hfold, ih, behaviour.get?_mergedInto, List.reverse_cons, List.findSome?_append,
      List.findSome?_singleton, Option.or_assoc]

theorem nodup_mergedBehaviours (behaviours : List Behaviour) {before : AttributeSet}
    (h : (before.entries.map (·.1)).Nodup) :
    ((mergedBehaviours before behaviours).entries.map (·.1)).Nodup := by
  induction behaviours generalizing before with
  | nil => exact h
  | cons behaviour rest ih => exact ih (behaviour.nodup_mergedInto h)

theorem mergedBehaviours_insert (front back : List Behaviour) {panicking : Behaviour}
    (h : panicking.ending = .panicked) (before : AttributeSet) :
    mergedBehaviours before (front ++ panicking :: back) =
      mergedBehaviours before (front ++ back) := by
  have hnothing : ∀ set, panicking.mergedInto set = set := fun set => if_pos h
  unfold mergedBehaviours
  rw [List.foldl_append, List.foldl_append, List.foldl_cons, hnothing]

/-- The attributes of a chain in which every extractor is on its own: `result` is what a chain gives
at one point of a call. -/
structure Isolated (result : ExtractorChain → AttributeSet) (behaviour : SteadyExtractor → Behaviour)
    (chain : List SteadyExtractor) : Prop where
  /-- The last extractor that wrote a name, and did not panic, decides. -/
  last_decides : ∀ name, (result (chain.map (·.toExtractor))).get? name =
    chain.reverse.findSome? fun extractor => (behaviour extractor).left? name
  nodup : ((result (chain.map (·.toExtractor))).entries.map (·.1)).Nodup
  /-- One that panics changes nothing, wherever it stands. -/
  insert : ∀ front back panicking, chain = front ++ back →
    (behaviour panicking).ending = .panicked →
    result ((front ++ panicking :: back).map (·.toExtractor)) =
      result (chain.map (·.toExtractor))

theorem isolated_of_value {result : ExtractorChain → AttributeSet}
    {behaviour : SteadyExtractor → Behaviour} (chain : List SteadyExtractor)
    (hresult : ∀ chain : List SteadyExtractor, result (chain.map (·.toExtractor)) =
      mergedBehaviours .empty (chain.map behaviour)) : Isolated result behaviour chain where
  last_decides := by
    intro name
    rw [hresult, get?_mergedBehaviours, get?_empty, Option.or_none, ← List.map_reverse,
      List.findSome?_map]
    rfl
  nodup := by
    rw [hresult]
    exact nodup_mergedBehaviours _ List.nodup_nil
  insert := by
    rintro front back panicking rfl hpanicking
    rw [hresult, hresult, List.map_append, List.map_cons, List.map_append]
    exact mergedBehaviours_insert _ _ hpanicking .empty

/-- **Extractors do not disturb each other**, before the call or after it. -/
theorem isolated_chain (chain : List SteadyExtractor) (request : Request) (outcome : Outcome)
    (session : Session) :
    Isolated (fun chain => ((chain.onStart request).run session).1) (·.atStart request) chain ∧
      Isolated (fun chain => ((chain.onEnd request outcome).run session).1)
        (·.atEnd request outcome) chain := by
  constructor
  · refine isolated_of_value chain fun chain => ?_
    exact value_run chain (fun extractor _ => extractor.run_onStart request) .empty session
  · refine isolated_of_value chain fun chain => ?_
    exact value_run chain (fun extractor _ => extractor.run_onEnd request outcome) .empty session

/-- What was written before an error is kept, and what was written before a panic is not. -/
example (request : Request) :
    let chain := [SteadyExtractor.ofBehaviour "first" ⟨[("a", .int 1), ("b", .int 1)], .done⟩,
      .ofBehaviour "second" ⟨[("a", .int 2)], .failed ⟨.decode, "bad body"⟩⟩,
      .ofBehaviour "third" ⟨[("b", .int 3)], .panicked⟩]
    let set := ((onStart (chain.map (·.toExtractor)) request).run {}).1
    set.get? "a" = some (.int 2) ∧ set.get? "b" = some (.int 1) := ⟨rfl, rfl⟩

end ExtractorChain

end CallTracing
