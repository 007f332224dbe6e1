/-
  CallTracing/Proofs/Model/Facts.lean
  ===================================
  **What a decoder may write.**

  The bodies of model invocations are whatever a vendor sends.  Still a decoder writes nothing but
  the facts of its direction (`BodyFact`): each under its own name, a count as the decimal text of a
  whole number of 64 bits, a temperature as the text of a JSON number, and a finish reason only if
  it is not empty.  This holds of every family's schema, of the generic decoder, which merges what
  the families find, and of every JSON value (`BodyDecoder.written_write`).

  No text of a number is empty, whatever its layout (`JsonNumber.text_ne_empty`).
-/
import CallTracing.Model.Body
import CallTracing.Proofs.Attribute.Writes

namespace CallTracing

open AttributeSet Names.GenAi

/-! ### Numbers as text -/

/-- A whole number of 64 bits, signed. -/
def IsInt64 (n : Int) : Prop := -9223372036854775808 ≤ n ∧ n ≤ 9223372036854775807

theorem toString_int_ne_empty (n : Int) : toString n ≠ "" := by
  rw [Int.toString_eq_repr]
  cases n with
  | ofNat m => exact Nat.repr_ne_empty
  | negSucc m =>
    intro h
    have hlist : (Int.repr (.negSucc m)).toList = [] := by rw [h]; rfl
    simp [Int.repr, String.toList_append] at hlist

namespace Binary64

theorem significant_ne_nil (n : Nat) : significant n ≠ [] := by
  unfold significant
  split
  · simp
  · next hne => exact hne

theorem plainDigits_ne_nil (fraction : Bool) {digits : List Char} (h : digits ≠ [])
    (leading : Int) : plainDigits fraction digits leading ≠ [] := by
  unfold plainDigits
  split
  · simp
  · dsimp only
    split
    · simp [h]
    · simp

theorem magnitudeText_ne_nil (layout : Layout) (mantissa : Nat) (exponent : Int) :
    magnitudeText layout mantissa exponent ≠ [] := by
  unfold magnitudeText
  split
  · exact plainDigits_ne_nil _ (by simp) 0
  · dsimp only
    split
    · exact plainDigits_ne_nil _ (significant_ne_nil _) _
    · simp [exponentDigits]

theorem text_ne_empty (layout : Layout) (x : Binary64) : x.text layout ≠ "" := by
  cases x with
  | finite negative mantissa exponent =>
    intro h
    have hlist := String.ofList_eq_empty_iff.mp h
    exact magnitudeText_ne_nil layout mantissa exponent (List.append_eq_nil_iff.mp hlist).2
  | infinite negative => cases negative <;> simp [text]
  | nan => simp [text]

end Binary64

namespace JsonNumber

theorem text_ne_empty (n : JsonNumber) : n.text ≠ "" := by
  cases n with
  | integer n => exact toString_int_ne_empty n
  | real x =>
    show x.jsonText ≠ ""
    unfold Binary64.jsonText
    split
    · exact Binary64.text_ne_empty _ x
    · exact Binary64.text_ne_empty _ x

/-- A double counts only if its magnitude is below the bound. -/
theorem isInt64_of_whole {x : Binary64} {value : Int}
    (h : (match x.toInt? with
      | some value => if value.natAbs < Nat.pow 2 63 then some value else none
      | none => none) = some value) : IsInt64 value := by
  have hpow : Nat.pow 2 63 = 9223372036854775808 := by decide
  split at h
  · split at h
    · next hlt =>
      obtain rfl := Option.some.inj h
      rw [hpow] at hlt
      unfold IsInt64
      omega
    · cases h
  · cases h

theorem isInt64_of_toInt64? {n : JsonNumber} {value : Int} (h : n.toInt64? = some value) :
    IsInt64 value := by
  have hpow : Int.pow 2 63 = 9223372036854775808 := by decide
  cases n with
  | integer literal =>
    simp only [toInt64?, hpow] at h
    split at h
    · next hrange =>
      obtain rfl := Option.some.inj h
      unfold IsInt64
      omega
    · exact isInt64_of_whole h
  | real x => exact isInt64_of_whole h

end JsonNumber

/-! ### Facts of bodies -/

/-- The attributes that the body of one half of a call can give. -/
inductive BodyFact : Direction → String → AttributeValue → Prop where
  | maxTokens {n : Int} (hn : IsInt64 n) : BodyFact .request requestMaxTokens (.text (toString n))
  | temperature (n : JsonNumber) : BodyFact .request requestTemperature (.text n.text)
  | topP (n : JsonNumber) : BodyFact .request requestTopP (.text n.text)
  | finishReason {reason : String} (hreason : reason ≠ "") :
      BodyFact .response responseFinishReason (.text reason)
  | promptTokens {n : Int} (hn : IsInt64 n) :
      BodyFact .response usagePromptTokens (.text (toString n))
  | completionTokens {n : Int} (hn : IsInt64 n) :
      BodyFact .response usageCompletionTokens (.text (toString n))

namespace AttributeSet

variable {allowed : String → AttributeValue → Prop} {set : AttributeSet} {name : String}

theorem Written.putCount (h : Written allowed set)
    (hcount : ∀ n, IsInt64 n → allowed name (.text (toString n))) (value : Option Json) :
    Written allowed (set.putCount name value) := by
  unfold AttributeSet.putCount
  split
  · next n =>
    cases hn : n.toInt64? with
    | none => exact h
    | some count => exact h.put (hcount count (JsonNumber.isInt64_of_toInt64? hn))
  · exact h

theorem Written.putNumber (h : Written allowed set)
    (hnumber : ∀ n : JsonNumber, allowed name (.text n.text)) (value : Option Json) :
    Written allowed (set.putNumber name value) := by
  unfold AttributeSet.putNumber
  split
  · exact h.put (hnumber _)
  · exact h

theorem Written.putString (h : Written allowed set)
    (htext : ∀ text, text ≠ "" → allowed name (.text text)) (value : Option Json) :
    Written allowed (set.putString name value) := by
  unfold AttributeSet.putString
  split
  · exact h.putNonEmpty (htext _)
  · exact h

end AttributeSet

theorem RequestFacts.written_write (facts : RequestFacts) {set : AttributeSet}
    (h : Written (BodyFact .request) set) : Written (BodyFact .request) (facts.write set) := by
  have hcount := h.putCount (fun _ => .maxTokens) facts.maxTokens
  have htemperature := hcount.putNumber .temperature facts.temperature
  exact htemperature.putNumber .topP facts.topP

theorem ResponseFacts.written_write (facts : ResponseFacts) {set : AttributeSet}
    (h : Written (BodyFact .response) set) : Written (BodyFact .response) (facts.write set) := by
  have hreason := h.putString (fun _ => .finishReason) facts.finishReason
  have hprompt := hreason.putCount (fun _ => .promptTokens) facts.promptTokens
  exact hprompt.putCount (fun _ => .completionTokens) facts.completionTokens

namespace BodyDecoder

variable {allowed : String → AttributeValue → Prop}

theorem written_fill {set other : AttributeSet} (h : Written allowed set)
    (hother : Written allowed other) : Written allowed (fill set other) := by
  refine h.foldl ?_
  intro set entry hentry hset
  split
  · exact hset
  · exact hset.put (hother.of_mem entry hentry)

theorem written_writeFamily (direction : Direction) (body : Json) {set : AttributeSet}
    (h : Written (BodyFact direction) set) (f : ModelFamily) :
    Written (BodyFact direction) (writeFamily direction body set f) := by
  cases direction with
  | request => exact (f.requestFacts body).written_write h
  | response => exact (f.responseFacts body).written_write h

/-- A decoder writes facts of the body and nothing else. -/
theorem written_write (decoder : BodyDecoder) (direction : Direction) (body : Json) :
    Written (BodyFact direction) (decoder.write direction body .empty) := by
  cases decoder with
  | family f => exact written_writeFamily direction body .empty f
  | generic =>
    refine Written.empty.foldl fun set f _ hset => ?_
    exact written_fill hset (written_writeFamily direction body .empty f)

end BodyDecoder

end CallTracing
