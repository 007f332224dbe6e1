/-
  CallTracing/Proofs/Model/Union.lean
  ===================================
  **The generic decoder is the ordered union of the families.**

  Each family writes what it finds into an empty set, and these sets are merged one after the other.
  A merge fills names that are free and leaves the others (`BodyDecoder.get?_fill`), so it is the
  first family to write a name that decides, where `AttributeSet.extend` lets the last one decide.

  Along the families this gives one equation for each name (`BodyDecoder.get?_foldl_fill`).  It looks
  into the sets that are merged by name only.  As no name comes twice in them (`Written.nodup`), it
  does not matter in which order their entries are gone through.
-/
import CallTracing.Proofs.Attribute.Writes
import CallTracing.Proofs.Model.Facts

namespace CallTracing

open AttributeSet Names.GenAi

/-! ### Filling free names -/

namespace BodyDecoder

/-- An attribute written only if its name is free. -/
theorem get?_putFree (set : AttributeSet) (key : String) (value : AttributeValue) (name : String) :
    (if set.contains key then set else set.put key value).get? name =
      (set.get? name).or (if key = name then some value else none) := by
  by_cases hkey : key = name
  · subst hkey
    rw [if_pos rfl]
    cases hset : set.get? key with
    | some known =>
      have htaken : set.contains key = true := by rw [contains, hset]; rfl
      rw [if_pos htaken, hset]
      rfl
    | none =>
      have hfree : ¬set.contains key = true := by rw [contains, hset]; decide
      rw [if_neg hfree, get?_put, if_pos rfl]
      rfl
  · rw [if_neg hkey, Option.or_none]
    split
    · rfl
    · rw [get?_put, if_neg hkey]

theorem get?_fill (set other : AttributeSet) (name : String) :
    (fill set other).get? name = (set.get? name).or (other.get? name) := by
  obtain ⟨entries⟩ := other
  unfold fill
  induction entries generalizing set with
  | nil => exact (Option.or_none).symm
  | cons entry rest ih =>
    obtain ⟨key, value⟩ := entry
    have hfind : (⟨(key, value) :: rest⟩ : AttributeSet).get? name =
        (if key = name then some value else none).or ((⟨rest⟩ : AttributeSet).get? name) := by
      by_cases hkey : key = name <;> simp [get?, find, hkey]
    rw [List.foldl_cons, ih, get?_putFree, Option.or_assoc, hfind]

theorem nodup_fill {set : AttributeSet} (h : (set.entries.map (·.1)).Nodup)
    (other : AttributeSet) : ((fill set other).entries.map (·.1)).Nodup := by
  obtain ⟨entries⟩ := other
  unfold fill
  induction entries generalizing set with
  | nil => exact h
  | cons entry rest ih =>
    rw [List.foldl_cons]
    refine ih ?_
    split
    · exact h
    · exact put_nodup h _ _

/-- Sets merged one after the other: the first that has a name decides. -/
theorem get?_foldl_fill (found : ModelFamily → AttributeSet) (families : List ModelFamily)
    (set : AttributeSet) (name : String) :
    (families.foldl (fun sum f => fill sum (found f)) set).get? name =
      (set.get? name).or (families.findSome? fun f => (found f).get? name) := by
  induction families generalizing set with
  | nil => exact (Option.or_none).symm
  | cons f rest ih =>
    rw [List.foldl_cons, ih, get?_fill, Option.or_assoc, List.findSome?_cons]
    cases (found f).get? name <;> rfl

theorem nodup_foldl_fill (found : ModelFamily → AttributeSet) (families : List ModelFamily)
    {set : AttributeSet} (h : (set.entries.map (·.1)).Nodup) :
    ((families.foldl (fun sum f => fill sum (found f)) set).entries.map (·.1)).Nodup := by
  induction families generalizing set with
  | nil => exact h
  | cons f rest ih => exact ih (nodup_fill h _)

/-- What a family writes into an empty set. -/
def found (direction : Direction) (body : Json) (f : ModelFamily) : AttributeSet :=
  (family f).write direction body .empty

theorem nodup_found (direction : Direction) (body : Json) (f : ModelFamily) :
    ((found direction body f).entries.map (·.1)).Nodup :=
  (written_write (family f) direction body).nodup

/-- The value of a name: what it had, or else what the first family to write it writes. -/
theorem get?_write_generic (direction : Direction) (body : Json) (prior : AttributeSet)
    (name : String) :
    (generic.write direction body prior).get? name =
      (prior.get? name).or
        ([.claude, .titan, .llama, .nova].findSome? fun f => (found direction body f).get? name) :=
  get?_foldl_fill (found direction body) ModelFamily.all prior name

theorem contains_write_generic {direction : Direction} {body : Json} {f : ModelFamily}
    {name : String} (prior : AttributeSet) (h : (found direction body f).contains name = true) :
    (generic.write direction body prior).contains name = true := by
  have hsome : (ModelFamily.all.findSome? fun f => (found direction body f).get? name).isSome := by
    rw [List.findSome?_isSome_iff]
    exact ⟨f, by cases f <;> decide, h⟩
  unfold contains
  rw [get?_write_generic, Option.isSome_or, Bool.or_eq_true]
  exact Or.inr hsome

/-- **The generic decoder is the ordered union of the families.**  Whatever is written of a body is
what its name had before, or else what the first family to write the name writes; it is all there is
to export; and it stays the same in whatever order the sets of the families are gone through. -/
theorem generic_orderedUnion (direction : Direction) (body : Json) (prior : AttributeSet)
    (scratch : ModelFamily → AttributeSet)
    (hscratch : ∀ f, (scratch f).entries.Perm (found direction body f).entries) :
    let result := generic.write direction body prior
    (∀ name, result.get? name = (prior.get? name).or
      ([.claude, .titan, .llama, .nova].findSome? fun f =>
        (found direction body f).get? name)) ∧
    (∀ name, (ModelFamily.all.foldl (fun sum f => fill sum (scratch f)) prior).get? name =
      result.get? name) ∧
    ((prior.entries.map (·.1)).Nodup → ∀ name value,
      (name, value) ∈ result.toKeyValues ↔ result.get? name = some value) ∧
    (∀ f name, (found direction body f).contains name = true → result.contains name = true) ∧
    (∀ name value, (found direction body .claude).get? name = some value →
      (generic.write direction body .empty).get? name = some value) := by
  intro result
  refine ⟨get?_write_generic direction body prior, ?_, ?_, ?_, ?_⟩
  · intro name
    have hsame : ∀ f, (scratch f).get? name = (found direction body f).get? name :=
      fun f => get?_perm (hscratch f) (nodup_found direction body f) name
    rw [get?_foldl_fill]
    simp only [hsame]
    exact (get?_write_generic direction body prior name).symm
  · intro hprior name value
    have hnodup : (result.entries.map (·.1)).Nodup :=
      nodup_foldl_fill (found direction body) ModelFamily.all hprior
    rw [toKeyValues, List.mem_mergeSort]
    exact (find_eq_some_iff hnodup).symm
  · intro f name hname
    exact contains_write_generic prior hname
  · intro name value hvalue
    rw [get?_write_generic, get?_empty, Option.none_or, List.findSome?_cons, hvalue]

/-- A response in which the members of several families stand side by side. -/
def mixedBody : Json :=
  .object
    [("stop_reason", .string "stop"), ("usage", .object [("input_tokens", .number (.integer 12))]),
      ("results", .array [.object
        [("completionReason", .string "FINISH"), ("tokenCount", .number (.integer 3))]]),
      ("generation_token_count", .number (.integer 9))]

/-- A set that holds one of the names already. -/
def countedSet : AttributeSet := .ofList [(usagePromptTokens, .text "7")]

/-- What a family finds in the mixed body, the last entry first. -/
def backwards (f : ModelFamily) : AttributeSet :=
  ⟨(found .response mixedBody f).entries.reverse⟩

/-- The count of the set stays; the reason is that of Claude, and the other count that of Titan. -/
theorem mixedBody_union :
    (∀ f, (backwards f).entries.Perm (found .response mixedBody f).entries) ∧
    (countedSet.entries.map (·.1)).Nodup ∧
    (generic.write .response mixedBody countedSet).get? usagePromptTokens = some (.text "7") ∧
    (generic.write .response mixedBody countedSet).get? responseFinishReason =
      some (.text "stop") ∧
    (ModelFamily.all.foldl (fun sum f => fill sum (backwards f)) countedSet).get?
      usageCompletionTokens = some (.text "3") ∧
    (usageCompletionTokens, .text "3") ∈
      (generic.write .response mixedBody countedSet).toKeyValues := by
  have hperm : ∀ f, (backwards f).entries.Perm (found .response mixedBody f).entries :=
    fun f => List.reverse_perm _
  have hnodup : (countedSet.entries.map (·.1)).Nodup := by decide
  obtain ⟨hvalue, hscratch, hexport, -, -⟩ :=
    generic_orderedUnion .response mixedBody countedSet backwards hperm
  have hcount : (generic.write .response mixedBody countedSet).get? usageCompletionTokens =
      some (.text "3") := (hvalue usageCompletionTokens).trans (by decide +kernel)
  refine ⟨hperm, hnodup, ?_, ?_, ?_, ?_⟩
  · exact (hvalue usagePromptTokens).trans (by decide +kernel)
  · exact (hvalue responseFinishReason).trans (by decide +kernel)
  · exact (hscratch usageCompletionTokens).trans hcount
  · exact (hexport hnodup usageCompletionTokens (.text "3")).mpr hcount

end BodyDecoder

end CallTracing
