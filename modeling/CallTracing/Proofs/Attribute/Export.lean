/-
  CallTracing/Proofs/Attribute/Export.lean
  ========================================
  **A set is exported by its last writes alone.**

  A set comes about by steps: an attribute is written, or a text attribute if its text is not empty,
  or all attributes of another set that came about by steps of its own.  A step may write a name that
  steps before it wrote; what counts is the last one that does (`lastValue?`).

  Nothing says in which order a set enumerates its entries.  `WrittenBy` therefore lets them be put
  into any order after every step, in the set that is written and in those that are merged into it.
  A step changes what is found under its names and nothing else, and the order changes nothing of it
  (`WrittenBy.get?`); and a list in strictly ascending order of names is determined by its entries
  (`eq_of_ascending`).
-/
import CallTracing.Proofs.Attribute.Writes
import CallTracing.Proofs.Text.ByteOrder

namespace CallTracing.AttributeSet

/-! ### Steps -/

/-- A step in which a set is written. -/
inductive Write where
  | put (name : String) (value : AttributeValue)
  | putNonEmpty (name value : String)
  /-- The attributes of another set, which the steps write. -/
  | extend (steps : List Write)

mutual

/-- What a step leaves under a name, if it writes the name. -/
def Write.value? (name : String) : Write → Option AttributeValue
  | .put key value => if key = name then some value else none
  | .putNonEmpty key value => if key = name ∧ value ≠ "" then some (.text value) else none
  | .extend steps => lastValue? name steps

/-- What the last of the steps that write a name leaves there. -/
def lastValue? (name : String) : List Write → Option AttributeValue
  | [] => none
  | step :: rest => (lastValue? name rest).or (step.value? name)

end

mutual

/-- The set after a step. -/
def Write.run (set : AttributeSet) : Write → AttributeSet
  | .put name value => set.put name value
  | .putNonEmpty name value => set.putNonEmpty name value
  | .extend steps => set.extend (runAll .empty steps)

/-- The set after steps. -/
def runAll (set : AttributeSet) : List Write → AttributeSet
  | [] => set
  | step :: rest => runAll (step.run set) rest

end

/-- A set that steps have written, from an empty one on, whatever the order in which the entries of
a set were enumerated at any time. -/
inductive WrittenBy : List Write → AttributeSet → Prop where
  | start : WrittenBy [] .empty
  | put {steps : List Write} {set : AttributeSet} (h : WrittenBy steps set) (name : String)
      (value : AttributeValue) : WrittenBy (steps ++ [.put name value]) (set.put name value)
  | putNonEmpty {steps : List Write} {set : AttributeSet} (h : WrittenBy steps set)
      (name value : String) :
      WrittenBy (steps ++ [.putNonEmpty name value]) (set.putNonEmpty name value)
  | extend {steps others : List Write} {set other : AttributeSet} (h : WrittenBy steps set)
      (hother : WrittenBy others other) :
      WrittenBy (steps ++ [.extend others]) (set.extend other)
  | reorder {steps : List Write} {set order : AttributeSet} (h : WrittenBy steps set)
      (horder : order.entries.Perm set.entries) : WrittenBy steps order

theorem lastValue?_concat (name : String) (steps : List Write) (step : Write) :
    lastValue? name (steps ++ [step]) = (step.value? name).or (lastValue? name steps) := by
  induction steps with
  | nil => simp [lastValue?]
  | cons first rest ih => rw [List.cons_append, lastValue?, ih, lastValue?, Option.or_assoc]

mutual

theorem WrittenBy.step {steps : List Write} {set : AttributeSet} (h : WrittenBy steps set)
    (step : Write) :
    WrittenBy (steps ++ [step]) (step.run set) := by
  cases step with
  | put name value => exact h.put name value
  | putNonEmpty name value => exact h.putNonEmpty name value
  | extend others => exact h.extend (WrittenBy.start.append others)

theorem WrittenBy.append {steps : List Write} {set : AttributeSet} (h : WrittenBy steps set)
    (more : List Write) :
    WrittenBy (steps ++ more) (runAll set more) := by
  cases more with
  | nil =>
    rw [List.append_nil]
    exact h
  | cons step rest =>
    have hrest := (h.step step).append rest
    rw [List.append_assoc] at hrest
    exact hrest

end

variable {steps : List Write} {set : AttributeSet}

/-! ### What steps leave -/

theorem WrittenBy.nodup (h : WrittenBy steps set) : (set.entries.map (·.1)).Nodup := by
  induction h with
  | start => exact List.nodup_nil
  | put _ name value ih => exact put_nodup ih name value
  | putNonEmpty _ name value ih =>
    unfold AttributeSet.putNonEmpty
    split
    · exact ih
    · exact put_nodup ih name (.text value)
  | extend _ _ ih _ => exact nodup_extend ih _
  | reorder _ horder ih => exact (horder.map _).nodup_iff.mpr ih

/-- Under every name there is what the last step that writes it left there. -/
theorem WrittenBy.get? (h : WrittenBy steps set) (name : String) :
    set.get? name = lastValue? name steps := by
  induction h with
  | start => rfl
  | put _ key value ih =>
    rw [lastValue?_concat, get?_put, ih, Write.value?]
    split <;> rfl
  | putNonEmpty _ key value ih =>
    rw [lastValue?_concat, get?_putNonEmpty, ih, Write.value?]
    split <;> rfl
  | extend _ hother ih ihother =>
    rw [lastValue?_concat, get?_extend _ hother.nodup, ih, ihother, Write.value?]
  | reorder h horder ih => rw [get?_perm horder h.nodup, ih]

/-! ### Ascending lists -/

/-- Entries in strictly ascending order of names, byte by byte. -/
def Ascending (entries : List (String × AttributeValue)) : Prop :=
  entries.Pairwise fun a b => Text.Utf8.encode a.1 < Text.Utf8.encode b.1

theorem nameLe_trans (a b c : String × AttributeValue) (hab : nameLe a b = true)
    (hbc : nameLe b c = true) : nameLe a c = true := by
  unfold nameLe at *
  rw [decide_eq_true_eq] at *
  exact String.le_trans hab hbc

theorem nameLe_total (a b : String × AttributeValue) : (nameLe a b || nameLe b a) = true := by
  unfold nameLe
  rw [Bool.or_eq_true, decide_eq_true_eq, decide_eq_true_eq]
  exact String.le_total a.1 b.1

theorem ascending_toKeyValues (h : (set.entries.map (·.1)).Nodup) :
    Ascending set.toKeyValues := by
  have hsorted : set.toKeyValues.Pairwise fun a b => nameLe a b = true :=
    List.pairwise_mergeSort nameLe_trans nameLe_total set.entries
  have hnodup : (set.toKeyValues.map (·.1)).Nodup :=
    ((List.mergeSort_perm set.entries nameLe).map _).nodup_iff.mpr h
  refine (hsorted.and (List.pairwise_map.mp hnodup)).imp ?_
  rintro a b ⟨hle, hne⟩
  refine Text.Utf8.encode_lt_encode (Classical.byContradiction fun hnot => hne ?_)
  exact String.le_antisymm (of_decide_eq_true hle) (String.not_lt.mp hnot)

theorem Ascending.nodup {entries : List (String × AttributeValue)} (h : Ascending entries) :
    entries.Nodup := by
  refine List.Pairwise.imp ?_ h
  rintro a _ hlt rfl
  exact List.lt_irrefl _ hlt

/-- A list in strictly ascending order of names is determined by its entries. -/
theorem eq_of_ascending {entries others : List (String × AttributeValue)} (h : Ascending entries)
    (hothers : Ascending others) (hmem : ∀ entry, entry ∈ entries ↔ entry ∈ others) :
    entries = others := by
  have hperm := (List.perm_ext_iff_of_nodup h.nodup hothers.nodup).mpr hmem
  refine List.Perm.eq_of_pairwise ?_ h hothers hperm
  intro a b _ _ hab hba
  exact absurd hba (List.lt_asymm hab)

theorem WrittenBy.mem_toKeyValues (h : WrittenBy steps set) {name : String}
    {value : AttributeValue} :
    (name, value) ∈ set.toKeyValues ↔ lastValue? name steps = some value := by
  rw [toKeyValues, List.mem_mergeSort, ← h.get?]
  exact (find_eq_some_iff h.nodup).symm

/-- **A set is exported by its last writes alone**: in strictly ascending order of names, each name
with the value that was last written under it, and in the same way by any two sets that were last
written alike. -/
theorem exported_by_last_writes (steps : List Write) :
    WrittenBy steps (runAll .empty steps) ∧
    ∀ set, WrittenBy steps set →
      Ascending set.toKeyValues ∧
      (∀ name value, (name, value) ∈ set.toKeyValues ↔ lastValue? name steps = some value) ∧
      ∀ steps' set', WrittenBy steps' set' →
        (∀ name, lastValue? name steps' = lastValue? name steps) →
        set'.toKeyValues = set.toKeyValues := by
  refine ⟨WrittenBy.start.append steps, fun set h => ⟨?_, ?_, ?_⟩⟩
  · exact ascending_toKeyValues h.nodup
  · exact fun name value => h.mem_toKeyValues
  · intro steps' set' h' hlast
    refine eq_of_ascending (ascending_toKeyValues h'.nodup) (ascending_toKeyValues h.nodup) ?_
    rintro ⟨name, value⟩
    rw [h'.mem_toKeyValues, h.mem_toKeyValues, hlast]

/-- Steps that write one name several times, with values of several kinds, and leave another alone. -/
def restless : List Write :=
  [.put "b" (.int 1), .putNonEmpty "a" "first",
    .extend [.put "b" (.bool true), .putNonEmpty "c" "",
      .extend [.put "a" (.text "second"), .putNonEmpty "d" ""]],
    .putNonEmpty "b" ""]

/-- Steps that write each name once. -/
def settled : List Write := [.put "a" (.text "second"), .put "b" (.bool true)]

/-- Both are exported alike, here with the entries of the first enumerated backwards. -/
theorem restless_settled :
    WrittenBy restless ⟨(runAll .empty restless).entries.reverse⟩ ∧
    WrittenBy settled (runAll .empty settled) ∧
    (∀ name, lastValue? name restless = lastValue? name settled) ∧
    (⟨(runAll .empty restless).entries.reverse⟩ : AttributeSet).toKeyValues =
      [("a", .text "second"), ("b", .bool true)] := by
  obtain ⟨hsettled, hexport⟩ := exported_by_last_writes settled
  have hrestless : WrittenBy restless ⟨(runAll .empty restless).entries.reverse⟩ :=
    (exported_by_last_writes restless).1.reorder (List.reverse_perm _)
  have hlast : ∀ name, lastValue? name restless = lastValue? name settled := by
    intro name
    by_cases ha : "a" = name
    · subst ha
      decide
    · by_cases hb : "b" = name
      · subst hb
        decide
      · simp [restless, settled, lastValue?, Write.value?, ha, hb]
  refine ⟨hrestless, hsettled, hlast, ?_⟩
  rw [(hexport _ hsettled).2.2 _ _ hrestless hlast]
  exact List.mergeSort_of_pairwise (by decide)

end CallTracing.AttributeSet
