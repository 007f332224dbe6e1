/-
  CallTracing/Proofs/Binary64/Nearest.lean
  ========================================
  **Whole numbers as doubles.**

  A whole number too large for 53 bits is rounded: the quotient by a power of two that has 53 bits
  goes to its nearest neighbour (`rounded_whole`).  No double is nearer to the number than the one
  that is taken (`nearestTo_ofInt`), because a double with a larger or the same exponent is a
  multiple of that power, and one with a smaller exponent does not even reach the quotient rounded
  down.

  Distances are compared as whole numbers of units, the smallest distance between two doubles.
-/
import CallTracing.Binary64.Basic

namespace CallTracing.Binary64

/-! ### Nearest doubles -/

/-- Two to the minus this is the least distance between two doubles. -/
@[irreducible] def gridExponent : Nat := 1074

theorem leastExponent_eq : leastExponent = -(gridExponent : Int) := by
  unfold leastExponent gridExponent
  rfl

/-- How many least distances a finite double is away from zero. -/
def units? : Binary64 → Option Int
  | .finite negative mantissa exponent =>
    some (signed negative (mantissa * Nat.pow 2 (exponent + gridExponent).toNat))
  | _ => none

/-- A finite number that has the form of a double: 53 bits at most, and an exponent in range. -/
def InRange : Binary64 → Prop
  | .finite _ mantissa exponent =>
    mantissa < Nat.pow 2 precision ∧ leastExponent ≤ exponent ∧ exponent ≤ greatestExponent
  | _ => False

/-- A double to which no other one is preferable, if a whole number is to be written as a double. -/
def NearestTo (x : Binary64) (n : Int) : Prop :=
  x.InRange ∧ ∃ taken, x.units? = some taken ∧
    ∀ y : Binary64, y.InRange → ∀ other, y.units? = some other →
      (n * Nat.pow 2 gridExponent - taken).natAbs ≤ (n * Nat.pow 2 gridExponent - other).natAbs

/-! ### Quotients -/

theorem nearest_cases (num den : Nat) :
    (nearest num den = num / den ∧ 2 * (num % den) ≤ den) ∨
      (nearest num den = num / den + 1 ∧ den ≤ 2 * (num % den)) := by
  unfold nearest
  dsimp only
  split
  · exact Or.inl ⟨rfl, by omega⟩
  · split
    · exact Or.inr ⟨rfl, by omega⟩
    · -- a half goes to the neighbour that is even, on either side
      have hparity := Nat.mod_two_eq_zero_or_one (num / den)
      omega

/-- The nearest multiple of `den` is at least as near as anything outside of the gap that holds the
number, in units of any size. -/
theorem nearest_distance {num den unit : Nat} (hden : 0 < den) {other : Int}
    (h : other ≤ (num / den * (den * unit) : Nat) ∨
      ((num / den + 1) * (den * unit) : Nat) ≤ other) :
    ((num * unit : Nat) - (nearest num den * (den * unit) : Nat) : Int).natAbs ≤
      ((num * unit : Nat) - other).natAbs := by
  have hnum : num * unit = num / den * (den * unit) + num % den * unit := by
    rw [← Nat.mul_assoc, ← Nat.add_mul, Nat.mul_comm (num / den) den, Nat.div_add_mod]
  have hrest : num % den * unit ≤ den * unit :=
    Nat.mul_le_mul_right unit (Nat.le_of_lt (Nat.mod_lt num hden))
  have hnext : (num / den + 1) * (den * unit) = num / den * (den * unit) + den * unit :=
    Nat.succ_mul _ _
  rw [hnext] at h
  rw [hnum]
  rcases nearest_cases num den with ⟨hfloor, hhalf⟩ | ⟨habove, hhalf⟩
  · have hunits : 2 * (num % den * unit) ≤ den * unit := by
      rw [← Nat.mul_assoc]
      exact Nat.mul_le_mul_right unit hhalf
    rw [hfloor]
    omega
  · have hunits : den * unit ≤ 2 * (num % den * unit) := by
      rw [← Nat.mul_assoc]
      exact Nat.mul_le_mul_right unit hhalf
    rw [habove, hnext]
    omega

/-! ### Rounding whole numbers -/

/-- The power of two by which a whole number is divided to leave 53 bits. -/
def excess (n : Nat) : Nat := n.log2 - 52

theorem quotient_bounds {n : Nat} (h : Nat.pow 2 52 ≤ n) :
    Nat.pow 2 52 ≤ n / Nat.pow 2 (excess n) ∧ n / Nat.pow 2 (excess n) < Nat.pow 2 53 := by
  have hpos : 0 < n := Nat.lt_of_lt_of_le (by decide) h
  have hlog : 52 ≤ n.log2 := (Nat.le_log2 (Nat.ne_of_gt hpos)).mpr h
  have hpow : 0 < Nat.pow 2 (excess n) := Nat.pow_pos (by decide)
  have hbits : 52 + excess n = n.log2 := by unfold excess; omega
  constructor
  · rw [Nat.le_div_iff_mul_le hpow]
    calc Nat.pow 2 52 * Nat.pow 2 (excess n) = Nat.pow 2 n.log2 := by
          rw [← hbits]
          exact (Nat.pow_add 2 52 (excess n)).symm
      _ ≤ n := Nat.log2_self_le (Nat.ne_of_gt hpos)
  · rw [Nat.div_lt_iff_lt_mul hpow]
    calc n < Nat.pow 2 (n.log2 + 1) := Nat.lt_log2_self
      _ = Nat.pow 2 53 * Nat.pow 2 (excess n) := by
          rw [← hbits, Nat.add_right_comm]
          exact Nat.pow_add 2 53 (excess n)

theorem scaled_whole (n shift : Nat) : scaled n 1 (shift : Int) = (n, Nat.pow 2 shift) := by
  have hneg : (-(shift : Int)).toNat = 0 := by omega
  unfold scaled
  rw [hneg, Int.toNat_natCast, Nat.one_mul]
  exact congrArg (·, _) (Nat.mul_one n)

theorem exponentFor_whole {n : Nat} (h : Nat.pow 2 52 ≤ n) :
    exponentFor n 1 = (excess n : Int) := by
  have hlog : 52 ≤ n.log2 := (Nat.le_log2 (Nat.ne_of_gt (Nat.lt_of_lt_of_le (by decide) h))).mpr h
  have hguess : (n.log2 : Int) - ((1 : Nat).log2 : Int) - 52 = (excess n : Int) := by
    have hone : (1 : Nat).log2 = 0 := by decide
    rw [hone]
    unfold excess
    omega
  unfold exponentFor
  dsimp only
  rw [hguess, scaled_whole, if_neg (Nat.not_lt.mpr (quotient_bounds h).1)]
  unfold leastExponent
  omega

/-- The double of a whole number of 53 bits or more: the nearest multiple of a power of two, unless
that is out of range. -/
theorem rounded_whole {n : Nat} (h : Nat.pow 2 52 ≤ n) (negative : Bool) :
    rounded negative n 1 = .infinite negative ∨
      ∃ mantissa exponent : Nat, rounded negative n 1 = .finite negative mantissa exponent ∧
        mantissa < Nat.pow 2 precision ∧ (exponent : Int) ≤ greatestExponent ∧
        mantissa * Nat.pow 2 exponent =
          nearest n (Nat.pow 2 (excess n)) * Nat.pow 2 (excess n) := by
  have hne : n ≠ 0 := Nat.ne_of_gt (Nat.lt_of_lt_of_le (by decide) h)
  unfold rounded
  rw [if_neg hne, exponentFor_whole h]
  dsimp only
  rw [scaled_whole]
  dsimp only
  obtain ⟨-, hbelow⟩ := quotient_bounds h
  have hle : nearest n (Nat.pow 2 (excess n)) ≤ Nat.pow 2 precision := by
    rcases nearest_cases n (Nat.pow 2 (excess n)) with ⟨heq, -⟩ | ⟨heq, -⟩
    · exact heq ▸ Nat.le_of_lt hbelow
    · exact heq ▸ hbelow
  by_cases hcarried : nearest n (Nat.pow 2 (excess n)) = Nat.pow 2 precision
  · -- the quotient grew by a bit: half the mantissa, and the next exponent
    simp only [hcarried, decide_true, if_true]
    split
    · exact Or.inl rfl
    · next hrange =>
      refine Or.inr ⟨Nat.pow 2 (precision - 1), excess n + 1, rfl, by decide, by omega, ?_⟩
      calc Nat.pow 2 52 * Nat.pow 2 (excess n + 1) = Nat.pow 2 (52 + (excess n + 1)) :=
            (Nat.pow_add 2 52 (excess n + 1)).symm
        _ = Nat.pow 2 (53 + excess n) := congrArg (Nat.pow 2) (by omega)
        _ = Nat.pow 2 53 * Nat.pow 2 (excess n) := Nat.pow_add 2 53 (excess n)
  · simp only [hcarried, decide_false, Bool.false_eq_true, if_false]
    split
    · exact Or.inl rfl
    · next hrange =>
      exact Or.inr ⟨_, excess n, rfl, Nat.lt_of_le_of_ne hle hcarried, by omega, rfl⟩

theorem natAbs_signed (negative : Bool) (magnitude : Nat) :
    (signed negative magnitude).natAbs = magnitude := by
  cases negative with
  | true => exact (Int.natAbs_neg magnitude).trans (Int.natAbs_natCast magnitude)
  | false => exact Int.natAbs_natCast magnitude

/-! ### No double is nearer -/

/-- No double lies between the two multiples of a power of two that enclose a whole number. -/
theorem outside_gap {n : Nat} (h : Nat.pow 2 52 ≤ n) {mantissa : Nat} {exponent : Int}
    (hmantissa : mantissa < Nat.pow 2 53) (hexponent : leastExponent ≤ exponent) :
    mantissa * Nat.pow 2 (exponent + gridExponent).toNat ≤
        n / Nat.pow 2 (excess n) * (Nat.pow 2 (excess n) * Nat.pow 2 gridExponent) ∨
      (n / Nat.pow 2 (excess n) + 1) * (Nat.pow 2 (excess n) * Nat.pow 2 gridExponent) ≤
        mantissa * Nat.pow 2 (exponent + gridExponent).toNat := by
  have hstep : Nat.pow 2 (excess n) * Nat.pow 2 gridExponent =
      Nat.pow 2 (excess n + gridExponent) :=
    (Nat.pow_add 2 (excess n) gridExponent).symm
  rw [hstep]
  obtain ⟨hquotient, -⟩ := quotient_bounds h
  rw [leastExponent_eq] at hexponent
  generalize n / Nat.pow 2 (excess n) = quotient at hquotient ⊢
  generalize excess n = shift
  by_cases hlarge : (shift : Int) ≤ exponent
  · -- a multiple of the power
    have hmultiple : mantissa * Nat.pow 2 (exponent + gridExponent).toNat =
        mantissa * Nat.pow 2 (exponent - shift).toNat * Nat.pow 2 (shift + gridExponent) := by
      have hsplit : (exponent + gridExponent).toNat =
          (exponent - shift).toNat + (shift + gridExponent) := by omega
      rw [hsplit, Nat.mul_assoc]
      exact congrArg (mantissa * ·) (Nat.pow_add 2 _ _)
    rw [hmultiple]
    rcases Nat.lt_or_ge quotient (mantissa * Nat.pow 2 (exponent - shift).toNat) with hlt | hge
    · exact Or.inr (Nat.mul_le_mul_right _ hlt)
    · exact Or.inl (Nat.mul_le_mul_right _ hge)
  · -- the largest mantissa at a smaller exponent stays below
    refine Or.inl ?_
    calc mantissa * Nat.pow 2 (exponent + gridExponent).toNat
        ≤ Nat.pow 2 53 * Nat.pow 2 (exponent + gridExponent).toNat :=
          Nat.mul_le_mul_right _ (Nat.le_of_lt hmantissa)
      _ = Nat.pow 2 (53 + (exponent + gridExponent).toNat) := (Nat.pow_add 2 53 _).symm
      _ ≤ Nat.pow 2 (52 + (shift + gridExponent)) := Nat.pow_le_pow_right (by decide) (by omega)
      _ = Nat.pow 2 52 * Nat.pow 2 (shift + gridExponent) := Nat.pow_add 2 52 _
      _ ≤ quotient * Nat.pow 2 (shift + gridExponent) := Nat.mul_le_mul_right _ hquotient

/-- A sign that two numbers share does not change how far they are apart. -/
theorem natAbs_sub_signed (negative below : Bool) (a b : Nat) :
    (signed negative a - signed below b).natAbs =
      ((a : Int) - signed (negative != below) b).natAbs := by
  cases negative <;> cases below
  · rfl
  · rfl
  · show (-(a : Int) - b).natAbs = ((a : Int) - -b).natAbs
    omega
  · show (-(a : Int) - -b).natAbs = ((a : Int) - b).natAbs
    omega

theorem signed_natAbs (n : Int) : signed (decide (n < 0)) n.natAbs = n := by
  unfold signed
  split
  · next h =>
    have hneg := of_decide_eq_true h
    omega
  · next h =>
    rw [decide_eq_true_eq] at h
    omega

theorem signed_mul (negative : Bool) (a b : Nat) :
    signed negative (a * b) = signed negative a * b := by
  cases negative with
  | true => exact (Int.neg_mul a b).symm
  | false => exact Int.natCast_mul a b

/-- A whole number of 53 bits or more becomes the double nearest to it, if one is in range. -/
theorem nearestTo_ofInt {n : Int} (h : Nat.pow 2 52 ≤ n.natAbs)
    (hfinite : (ofInt n).isFinite = true) : (ofInt n).NearestTo n := by
  unfold ofInt at hfinite ⊢
  rcases rounded_whole h (decide (n < 0)) with
    heq | ⟨mantissa, exponent, heq, hmantissa, hrange, hmultiple⟩
  · rw [heq] at hfinite
    cases hfinite
  · rw [heq]
    have htaken : mantissa * Nat.pow 2 ((exponent : Int) + gridExponent).toNat =
        nearest n.natAbs (Nat.pow 2 (excess n.natAbs)) *
          (Nat.pow 2 (excess n.natAbs) * Nat.pow 2 gridExponent) := by
      have hsplit : ((exponent : Int) + gridExponent).toNat = exponent + gridExponent := by omega
      rw [hsplit, ← Nat.mul_assoc, ← hmultiple, Nat.mul_assoc]
      exact congrArg (mantissa * ·) (Nat.pow_add 2 exponent gridExponent)
    refine ⟨⟨hmantissa, Int.le_trans (by decide) (Int.natCast_nonneg _), hrange⟩, _, rfl, ?_⟩
    intro y hy other hother
    cases y with
    | infinite _ => cases hother
    | nan => cases hother
    | finite below mantissa' exponent' =>
      obtain ⟨hmantissa', hleast, -⟩ := hy
      have hgap := outside_gap h hmantissa' hleast
      obtain rfl := Option.some.inj hother
      have hunits : n * Nat.pow 2 gridExponent =
          signed (decide (n < 0)) (n.natAbs * Nat.pow 2 gridExponent) := by
        rw [signed_mul, signed_natAbs]
      rw [hunits, htaken, natAbs_sub_signed, natAbs_sub_signed, bne_self_eq_false]
      refine nearest_distance (Nat.pow_pos (by decide)) ?_
      cases decide (n < 0) != below with
      | false => exact hgap.imp Int.ofNat_le.mpr Int.ofNat_le.mpr
      | true =>
        refine Or.inl (Int.le_trans ?_ (Int.natCast_nonneg _))
        exact Int.neg_nonpos_of_nonneg (Int.natCast_nonneg _)

end CallTracing.Binary64
