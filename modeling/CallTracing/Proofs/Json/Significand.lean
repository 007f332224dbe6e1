/-
  CallTracing/Proofs/Json/Significand.lean
  ========================================
  **What numbers are made of numerals.**

  Digits are gathered as long as 64 bits hold them (`isGathered_gather`).  A whole number that fits
  is therefore gathered in full, and is the number of its literal (`number_whole`).  Of one that
  does not fit the leading digits are kept, about sixty-one bits at least, and ten to the number of
  the others is multiplied on (`number_long`).  A numeral with a fraction or an exponent is always a
  double (`number_real`).
-/
import CallTracing.Json.Numeral
import CallTracing.Proofs.Binary64.Arithmetic
import CallTracing.Proofs.Binary64.Digits

namespace CallTracing

namespace Json

open Binary64

/-! ### Gathering -/

/-- A significand gathered from digits, and those that are left. -/
structure IsGathered (start : Nat) (digits : List Char) (significand : Nat) (left : List Char) :
    Prop where
  front : ∃ taken, digits = taken ++ left ∧
    significand = start * 10 ^ taken.length + digitsValue taken
  fits : start < Nat.pow 2 64 → significand < Nat.pow 2 64
  /-- The next digit would not fit. -/
  full : ∀ digit rest, left = digit :: rest →
    Nat.pow 2 64 ≤ significand * 10 + (digit.toNat - '0'.toNat)

theorem isGathered_gather (start : Nat) (digits : List Char) :
    IsGathered start digits (gather start digits).1 (gather start digits).2 := by
  induction digits generalizing start with
  | nil =>
    refine ⟨⟨[], rfl, ?_⟩, id, fun _ _ h => nomatch h⟩
    exact (Nat.mul_one start).symm
  | cons digit rest ih =>
    rw [gather]
    split
    · next hfits =>
      obtain ⟨⟨taken, hrest, hvalue⟩, hsmall, hfull⟩ := ih (start * 10 + (digit.toNat - '0'.toNat))
      refine ⟨⟨digit :: taken, congrArg (digit :: ·) hrest, ?_⟩, fun _ => hsmall hfits, hfull⟩
      rw [hvalue, digitsValue_cons, List.length_cons, Nat.pow_succ']
      ring
    · next hfull =>
      refine ⟨⟨[], rfl, (Nat.mul_one start).symm⟩, id, fun _ _ h => ?_⟩
      obtain ⟨rfl, rfl⟩ := List.cons.inj h
      exact Nat.not_lt.mp hfull

/-- Digits are left out just where all of them together do not fit. -/
theorem IsGathered.left_eq_nil_iff {digits left : List Char} {significand : Nat}
    (h : IsGathered 0 digits significand left) :
    left = [] ↔ digitsValue digits < Nat.pow 2 64 := by
  obtain ⟨⟨taken, rfl, hvalue⟩, hfits, hfull⟩ := h
  rw [Nat.zero_mul, Nat.zero_add] at hvalue
  cases left with
  | nil =>
    rw [List.append_nil, ← hvalue]
    exact iff_of_true rfl (hfits (by decide))
  | cons digit rest =>
    refine iff_of_false (List.cons_ne_nil digit rest) (Nat.not_lt.mpr ?_)
    calc Nat.pow 2 64 ≤ significand * 10 + (digit.toNat - '0'.toNat) := hfull digit rest rfl
      _ ≤ (significand * 10 + (digit.toNat - '0'.toNat)) * 10 ^ rest.length :=
          Nat.le_mul_of_pos_right _ (Nat.pow_pos (by decide))
      _ ≤ digitsValue (taken ++ digit :: rest) := by
          rw [digitsValue_append, digitsValue_cons, ← hvalue, List.length_cons, Nat.pow_succ',
            ← Nat.add_assoc]
          refine Nat.le_trans (Nat.le_of_eq ?_) (Nat.le_add_right _ (digitsValue rest))
          ring

/-- What is gathered are the leading digits. -/
theorem IsGathered.eq_div {digits left : List Char} {significand : Nat}
    (h : IsGathered 0 digits significand left) (hdigits : ∀ c ∈ digits, c.isDigit = true) :
    significand = digitsValue digits / 10 ^ left.length := by
  obtain ⟨⟨taken, rfl, hvalue⟩, -, -⟩ := h
  rw [Nat.zero_mul, Nat.zero_add] at hvalue
  have hleft := (List.forall_mem_append.mp hdigits).2
  rw [digitsValue_append, ← hvalue, Nat.mul_comm, Nat.mul_add_div (Nat.pow_pos (by decide)),
    Nat.div_eq_of_lt (digitsValue_lt hleft), Nat.add_zero]

/-- Where digits are left out, those that are not fill sixty-four bits but for one digit. -/
theorem IsGathered.two_pow_le {digits left : List Char} {significand : Nat}
    (h : IsGathered 0 digits significand left) (hdigits : ∀ c ∈ digits, c.isDigit = true)
    (hleft : left ≠ []) : 2 ^ 60 ≤ significand := by
  obtain ⟨⟨taken, rfl, -⟩, -, hfull⟩ := h
  obtain ⟨digit, rest, rfl⟩ := List.exists_cons_of_ne_nil hleft
  obtain ⟨d, hd, hdigit, -⟩ := exists_digit (hdigits digit (by simp))
  have hlarge := hfull digit rest rfl
  have hpow : Nat.pow 2 64 = 18446744073709551616 := by decide
  rw [hdigit, hpow] at hlarge
  omega

/-! ### Numbers -/

/-- The numeral of a whole number. -/
def wholeNumeral (negative : Bool) (digits : List Char) : Numeral := { negative, whole := digits }

theorem number_real {numeral : Numeral}
    (h : numeral.fraction.isSome = true ∨ numeral.exponent.isSome = true) :
    numeral.number = .real numeral.double := by
  unfold Numeral.number
  split
  · next hfraction hexponent =>
    rw [hfraction, hexponent] at h
    exact absurd h (by decide)
  · rfl

/-- A whole number of up to 64 bits is the number of its literal. -/
theorem number_whole (negative : Bool) {digits : List Char}
    (h : digitsValue digits < Nat.pow 2 64) :
    (wholeNumeral negative digits).number = .ofLiteral negative (digitsValue digits) := by
  have hgathered := isGathered_gather 0 digits
  have hleft := hgathered.left_eq_nil_iff.mpr h
  obtain ⟨⟨taken, hdigits, hvalue⟩, -, -⟩ := hgathered
  rw [hleft, List.append_nil] at hdigits
  subst hdigits
  rw [Nat.zero_mul, Nat.zero_add] at hvalue
  have hgather : gather 0 digits = (digitsValue digits, []) := Prod.ext hvalue hleft
  unfold Numeral.number wholeNumeral
  dsimp only
  rw [hgather]

/-- A double made of the leading digits of a whole number, as many as fit 64 bits, and ten to the
number of the others. -/
def LeadingParts (x : Binary64) (negative : Bool) (magnitude : Nat) : Prop :=
  ∃ leftOut > 0, x = ofParts negative (magnitude / 10 ^ leftOut) (leftOut : Nat) ∧
    2 ^ 60 ≤ magnitude / 10 ^ leftOut ∧ magnitude / 10 ^ leftOut < 2 ^ 64

theorem number_long (negative : Bool) {digits : List Char}
    (hdigits : ∀ c ∈ digits, c.isDigit = true) (h : Nat.pow 2 64 ≤ digitsValue digits) :
    ∃ x, (wholeNumeral negative digits).number = .real x ∧
      LeadingParts x negative (digitsValue digits) := by
  have hgathered := isGathered_gather 0 digits
  have hleft := mt hgathered.left_eq_nil_iff.mp (Nat.not_lt.mpr h)
  have hnumber : (wholeNumeral negative digits).number =
      .real (ofParts negative (gather 0 digits).1 ((gather 0 digits).2.length : Nat)) := by
    obtain ⟨digit, rest, hcons⟩ := List.exists_cons_of_ne_nil hleft
    unfold Numeral.number wholeNumeral
    dsimp only
    split
    · next heq _ _ =>
      rw [heq] at hcons
      cases hcons
    · rfl
  refine ⟨_, hnumber, (gather 0 digits).2.length, List.length_pos_of_ne_nil hleft, ?_⟩
  rw [← hgathered.eq_div hdigits]
  exact ⟨rfl, hgathered.two_pow_le hdigits hleft, hgathered.fits (by decide)⟩

/-- The leading digits, moved to their place, are at least a power of two. -/
theorem LeadingParts.atLeast {x : Binary64} {negative : Bool} {magnitude : Nat}
    (h : LeadingParts x negative magnitude) : x.AtLeast (2 ^ 63) := by
  obtain ⟨leftOut, hpos, rfl, hlarge, -⟩ := h
  refine atLeast_ofParts negative (k := 3) hlarge ?_
  exact Nat.le_trans (by decide) (Nat.pow_le_pow_right (by decide) hpos)

end Json

/-! ### Forms of numbers -/

namespace JsonNumber

/-- The numbers that the reader gives: whole numbers of 64 bits and doubles in normal form. -/
def IsKept : JsonNumber → Prop
  | .integer n => -(Nat.pow 2 63 : Int) ≤ n ∧ n < (Nat.pow 2 64 : Int)
  | .real x => x.IsKept

theorem isKept_ofLiteral (negative : Bool) {magnitude : Nat} (h : magnitude < Nat.pow 2 64) :
    (ofLiteral negative magnitude).IsKept := by
  unfold ofLiteral
  split
  · split
    · exact Binary64.isNormal_zero
    · split
      · next hsmall => exact ⟨by omega, by omega⟩
      · exact Binary64.isKept_ofInt _
  · exact ⟨by omega, by omega⟩

end JsonNumber

namespace Json

theorem isKept_number (numeral : Numeral) : numeral.number.IsKept := by
  unfold Numeral.number
  split
  · next magnitude heq _ _ =>
    refine JsonNumber.isKept_ofLiteral _ ?_
    have hfits := (isGathered_gather 0 numeral.whole).fits (by decide)
    rw [heq] at hfits
    exact hfits
  · exact Binary64.isKept_ofParts _ _ _

end Json

end CallTracing
