/-
  CallTracing/Proofs/Model/TokenLimit.lean
  ========================================
  **Which token limit of a Claude request is written.**

  A Claude request may hold its limit under an older and a newer name, and the first of the two that
  holds a whole number should count.  What a whole number is, is asked twice and not in one way: the
  member is chosen by its literal (`ModelFamily.isWholeLiteral`), and what is chosen is written if its
  value is whole and fits 64 bits (`Json.countText?`).  A number may be one without being the other:
  `256.0` is no whole literal and yet a count, `9223372036854775808` is a literal and no count.

  So the limit that is written (`takenLimit`) is the one that the members ask for (`askedLimit`)
  unless one of them is such a number and stands where it matters (`Misjudged`).
-/
import CallTracing.Json.Reader
import CallTracing.Proofs.Model.Facts

namespace CallTracing

open AttributeSet Names.GenAi

/-! ### What single writes do -/

/-- The attribute that a value gives where a count is written, if it gives one. -/
def Json.countText? : Json → Option AttributeValue
  | .number n => n.toInt64?.map fun count => .text (toString count)
  | _ => none

namespace AttributeSet

theorem get?_putCount (set : AttributeSet) (name : String) (value : Option Json) (other : String) :
    (set.putCount name value).get? other =
      if name = other then (value.bind Json.countText?).or (set.get? other)
      else set.get? other := by
  unfold putCount
  split
  · next n =>
    rw [Option.bind_some, Json.countText?]
    cases n.toInt64? with
    | some count => exact get?_put set name _ other
    | none => exact (ite_self _).symm
  · next hnumber =>
    have hnone : value.bind Json.countText? = none := by
      rcases value with _ | value
      · rfl
      · cases value with
        | number n => exact absurd rfl (hnumber n)
        | _ => rfl
    rw [hnone, Option.none_or, ite_self]

theorem get?_putNumber_of_ne (set : AttributeSet) {name other : String} (hne : name ≠ other)
    (value : Option Json) : (set.putNumber name value).get? other = set.get? other := by
  unfold putNumber
  split
  · rw [get?_put, if_neg hne]
  · rfl

end AttributeSet

theorem RequestFacts.get?_write_maxTokens (facts : RequestFacts) (set : AttributeSet) :
    (facts.write set).get? requestMaxTokens =
      (facts.maxTokens.bind Json.countText?).or (set.get? requestMaxTokens) := by
  unfold RequestFacts.write
  rw [get?_putNumber_of_ne _ (by decide), get?_putNumber_of_ne _ (by decide), get?_putCount,
    if_pos rfl]

/-! ### Two members -/

namespace ModelFamily

variable {older newer : Option Json}

theorem isWholeLiteral_iff {value : Json} :
    isWholeLiteral value = true ↔ ∃ n, value = .number (.integer n) := by
  cases value with
  | number n => cases n <;> simp [isWholeLiteral]
  | _ => simp [isWholeLiteral]

/-- The limit that an older and a newer member ask for: the first of them that is a count. -/
def askedLimit (older newer : Option Json) : Option AttributeValue :=
  (older.bind Json.countText?).or (newer.bind Json.countText?)

/-- The limit that is taken: the first of them that is a whole literal, if this is a count. -/
def takenLimit (older newer : Option Json) : Option AttributeValue :=
  ((older.filter isWholeLiteral).or (newer.filter isWholeLiteral)).bind Json.countText?

/-- The first value of a kind, of those that a list of names leads to. -/
theorem find?_filterMap_cons (read : String → Option Json) (kind : Json → Bool) (name : String)
    (rest : List String) :
    ((name :: rest).filterMap read).find? kind =
      ((read name).filter kind).or ((rest.filterMap read).find? kind) := by
  rw [List.filterMap_cons]
  cases read name with
  | none => rfl
  | some value =>
    rw [Option.filter_some]
    by_cases hkind : kind value = true
    · rw [if_pos hkind, List.find?_cons_of_pos hkind, Option.some_or]
    · rw [if_neg hkind, List.find?_cons_of_neg hkind, Option.none_or]

theorem maxTokens_requestFacts (body : Json) :
    (requestFacts body .claude).maxTokens =
      ((body.member? "max_tokens_to_sample").filter isWholeLiteral).or
        ((body.member? "max_tokens").filter isWholeLiteral) := by
  have hchosen : (requestFacts body .claude).maxTokens =
      (["max_tokens_to_sample", "max_tokens"].filterMap body.member?).find? isWholeLiteral := rfl
  rw [hchosen, find?_filterMap_cons, find?_filterMap_cons, List.filterMap_nil, List.find?_nil,
    Option.or_none]

/-- The members of which not the limit that they ask for is taken. -/
inductive Misjudged (older newer : Option Json) : Prop where
  /-- The older one is a literal that is no count; it keeps the newer one from being asked. -/
  | blocked {n : Int} (holder : older = some (.number (.integer n)))
      (hlarge : older.bind Json.countText? = none) (hcount : newer.bind Json.countText? ≠ none)
  /-- The older one is a count but no literal; it is passed over, for another limit or for none. -/
  | passed {x : Binary64} (holder : older = some (.number (.real x)))
      (hcount : older.bind Json.countText? ≠ none)
      (hother : (newer.filter isWholeLiteral).bind Json.countText? ≠ older.bind Json.countText?)
  /-- The newer one is a count but no literal, and the older one is neither. -/
  | lost {x : Binary64} (hliteral : older.filter isWholeLiteral = none)
      (hnone : older.bind Json.countText? = none) (hnewer : newer = some (.number (.real x)))
      (hcount : newer.bind Json.countText? ≠ none)

theorem filter_isWholeLiteral_eq_some_iff {value : Option Json} {literal : Json} :
    value.filter isWholeLiteral = some literal ↔
      value = some literal ∧ ∃ n, literal = .number (.integer n) := by
  rw [Option.filter_eq_some_iff, isWholeLiteral_iff]

/-- A count that is no whole literal is a double. -/
theorem real_of_count {value : Option Json} (hliteral : value.filter isWholeLiteral = none)
    (hcount : value.bind Json.countText? ≠ none) : ∃ x, value = some (.number (.real x)) := by
  rcases value with _ | value
  · exact absurd rfl hcount
  · cases value with
    | number n =>
      cases n with
      | integer n => cases hliteral
      | real x => exact ⟨x, rfl⟩
    | _ => exact absurd rfl hcount

theorem takenLimit_of_passed (h : older.filter isWholeLiteral = none) :
    takenLimit older newer = (newer.filter isWholeLiteral).bind Json.countText? := by
  rw [takenLimit, h, Option.none_or]

theorem Misjudged.ne (h : Misjudged older newer) :
    takenLimit older newer ≠ askedLimit older newer := by
  unfold askedLimit
  cases h with
  | @blocked n holder hlarge hcount =>
    have htaken : takenLimit older newer = older.bind Json.countText? := by rw [holder]; rfl
    rw [htaken, hlarge, Option.none_or]
    exact hcount.symm
  | @passed x holder hcount hother =>
    have hliteral : older.filter isWholeLiteral = none := by rw [holder]; rfl
    rw [takenLimit_of_passed hliteral, Option.or_of_isSome (Option.isSome_iff_ne_none.mpr hcount)]
    exact hother
  | @lost x hliteral hnone hnewer hcount =>
    have hnewer : newer.filter isWholeLiteral = none := by rw [hnewer]; rfl
    rw [takenLimit_of_passed hliteral, hnewer, hnone, Option.none_or]
    exact hcount.symm

theorem misjudged_of_ne (h : takenLimit older newer ≠ askedLimit older newer) :
    Misjudged older newer := by
  unfold askedLimit at h
  cases hliteral : older.filter isWholeLiteral with
  | some literal =>
    obtain ⟨rfl, n, rfl⟩ := filter_isWholeLiteral_eq_some_iff.mp hliteral
    have htaken : takenLimit (some (.number (.integer n))) newer =
      (some (Json.number (.integer n))).bind Json.countText? := rfl
    rw [htaken] at h
    cases hcount : (some (Json.number (.integer n))).bind Json.countText? with
    | some value =>
      rw [hcount, Option.some_or] at h
      exact absurd rfl h
    | none =>
      rw [hcount, Option.none_or] at h
      exact .blocked rfl hcount h.symm
  | none =>
    rw [takenLimit_of_passed hliteral] at h
    by_cases hcount : older.bind Json.countText? = none
    · rw [hcount, Option.none_or] at h
      -- the newer member is asked for its literal, so it can only lose a count that is none
      cases hnewer : newer.filter isWholeLiteral with
      | some literal =>
        obtain ⟨rfl, -⟩ := filter_isWholeLiteral_eq_some_iff.mp hnewer
        rw [hnewer] at h
        exact absurd rfl h
      | none =>
        rw [hnewer] at h
        obtain ⟨x, hx⟩ := real_of_count hnewer h.symm
        exact .lost hliteral hcount hx h.symm
    · obtain ⟨x, hx⟩ := real_of_count hliteral hcount
      rw [Option.or_of_isSome (Option.isSome_iff_ne_none.mpr hcount)] at h
      exact .passed hx hcount h

/-- **The limit that is written is the one asked for, unless a member is misjudged**: for every body,
and every set that holds no limit yet. -/
theorem limit_asked_iff (body : Json) (set : AttributeSet)
    (hset : set.contains requestMaxTokens = false) :
    let older := body.member? "max_tokens_to_sample"
    let newer := body.member? "max_tokens"
    let written := ((BodyDecoder.family .claude).write .request body set).get? requestMaxTokens
    written = takenLimit older newer ∧
      (written = askedLimit older newer ↔ ¬Misjudged older newer) := by
  intro older newer written
  have hnone : set.get? requestMaxTokens = none := by
    simpa [contains] using hset
  have hwritten : written = takenLimit older newer := by
    show ((requestFacts body .claude).write set).get? requestMaxTokens = _
    rw [RequestFacts.get?_write_maxTokens, maxTokens_requestFacts, hnone, Option.or_none]
    rfl
  refine ⟨hwritten, ?_⟩
  rw [hwritten]
  constructor
  · intro heq hjudged
    exact hjudged.ne heq
  · intro hjudged
    exact Decidable.byContradiction fun hne => hjudged (misjudged_of_ne hne)

/-- A limit that is no 64-bit number, and a second one written with a fraction. -/
def largeBody : Json :=
  .object
    [("max_tokens_to_sample", .number (.integer 9223372036854775808)),
      ("max_tokens", .number (.real (Binary64.ofInt 256)))]

/-- The first limit keeps the second one from being written. -/
theorem largeBody_unwritten :
    (AttributeSet.ofList [(requestTopP, .text "1")]).contains requestMaxTokens = false ∧
    ((BodyDecoder.family .claude).write .request largeBody
      (.ofList [(requestTopP, .text "1")])).get? requestMaxTokens = none ∧
    askedLimit (largeBody.member? "max_tokens_to_sample") (largeBody.member? "max_tokens") =
      some (.text "256") ∧
    Misjudged (largeBody.member? "max_tokens_to_sample") (largeBody.member? "max_tokens") := by
  have hfree : (AttributeSet.ofList [(requestTopP, .text "1")]).contains requestMaxTokens =
    false := by decide
  obtain ⟨htaken, hiff⟩ := limit_asked_iff largeBody (.ofList [(requestTopP, .text "1")]) hfree
  have hasked : askedLimit (largeBody.member? "max_tokens_to_sample")
      (largeBody.member? "max_tokens") = some (.text "256") := by decide +kernel
  have hnone := htaken.trans (show takenLimit (largeBody.member? "max_tokens_to_sample")
    (largeBody.member? "max_tokens") = none by decide +kernel)
  refine ⟨hfree, hnone, hasked, Classical.byContradiction fun hjudged => ?_⟩
  have heq := hiff.mpr hjudged
  rw [hnone, hasked] at heq
  cases heq

/-- A limit written as `256.0` is lost, where the request asks for 256 tokens. -/
theorem wholeDouble_unwritten :
    (Json.parse? "\x7b\"max_tokens\":256.0\x7d").map (fun body =>
        askedLimit (body.member? "max_tokens_to_sample") (body.member? "max_tokens")) =
      some (some (.text "256")) ∧
    (Json.parse? "\x7b\"max_tokens\":256.0\x7d").map (fun body =>
        ((BodyDecoder.family .claude).write .request body .empty).get? requestMaxTokens) =
      some none := by
  decide +kernel

end ModelFamily

end CallTracing
