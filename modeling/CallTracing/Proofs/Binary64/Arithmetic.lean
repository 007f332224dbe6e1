/-
  CallTracing/Proofs/Binary64/Arithmetic.lean
  ===========================================
  **What products, quotients and the decimals made of them are.**

  Every operation ends with one rounding, so its result is in normal form (`isKept_ofParts`).  How
  far it is from the exact value is not followed here, only that rounding never leads below a power
  of two: what is at least one before rounding is at least that one after it (`atLeast_rounded`), so
  the product of two numbers is at least the product of the powers of two below them
  (`AtLeast.mul`).
-/
import CallTracing.Binary64.Arithmetic
import CallTracing.Proofs.Binary64.Rounding

namespace CallTracing.Binary64

variable {x y : Binary64}

/-! ### Forms of results -/

theorem isKept_mul (x y : Binary64) : (x.mul y).IsKept := by
  unfold mul
  split
  · exact isKept_rounded _ _ (scaled_pos Nat.one_pos _ _)
  · split <;> trivial
  · split <;> trivial
  · trivial
  · trivial
  · trivial

theorem isKept_div (x y : Binary64) : (x.div y).IsKept := by
  unfold div
  split
  · next mantissa' _ =>
    split
    · split <;> trivial
    · next hne => exact isKept_rounded _ _ (scaled_pos (Nat.pos_of_ne_zero hne) _ _)
  · exact isNormal_zero
  · trivial
  · trivial
  · trivial
  · trivial

theorem isKept_neg (h : x.IsKept) : x.neg.IsKept := by
  cases x with
  | finite => exact h
  | infinite => trivial
  | nan => trivial

theorem isKept_timesTen (h : x.IsKept) (exponent : Int) : (x.timesTen exponent).IsKept := by
  unfold timesTen
  split
  · split
    · exact h
    · trivial
  · split
    · exact isKept_mul _ _
    · exact isKept_div _ _

theorem isKept_ofParts (negative : Bool) (significand : Nat) (exponent : Int) :
    (ofParts negative significand exponent).IsKept := by
  have hkept := isKept_timesTen (isKept_rounded false significand Nat.one_pos) exponent
  unfold ofParts
  dsimp only
  split
  · exact isKept_neg hkept
  · exact hkept

/-! ### Powers of two below numbers -/

/-- A number that is `q` or more in magnitude, or infinite. -/
def AtLeast (q : ℚ) : Binary64 → Prop
  | .finite _ mantissa exponent => q ≤ mantissa * 2 ^ exponent
  | .infinite _ => True
  | .nan => False

theorem AtLeast.neg {q : ℚ} (h : x.AtLeast q) : x.neg.AtLeast q := by
  cases x with
  | finite => exact h
  | infinite => trivial
  | nan => exact h

/-- A positive bound leaves no zero. -/
theorem AtLeast.ne_zero {q : ℚ} {negative : Bool} {mantissa : Nat} {exponent : Int}
    (h : (finite negative mantissa exponent).AtLeast q) (hq : 0 < q) : mantissa ≠ 0 := by
  rintro rfl
  have hle : q ≤ ((0 : Nat) : ℚ) * 2 ^ exponent := h
  rw [Nat.cast_zero, zero_mul] at hle
  exact absurd hq (not_lt.mpr hle)

/-- Between a power of two and a quotient above it there is a whole number of units of the exponent
that the quotient is rounded at. -/
theorem OnScale.exists_units {q : ℚ} {exponent : Int} (hscale : OnScale q exponent) {k : Nat}
    (h : (2 : ℚ) ^ k ≤ q) :
    ∃ units : Nat, (2 : ℚ) ^ k ≤ units * 2 ^ exponent ∧ units * (2 : ℚ) ^ exponent ≤ q := by
  -- the power of two is a whole number of units, or the mantissa has all of its bits
  rcases le_or_gt exponent k with hle | hgt
  · have hpow : ((2 ^ (k - exponent).toNat : Nat) : ℚ) * 2 ^ exponent = 2 ^ k := by
      push_cast
      rw [← zpow_natCast, ← zpow_natCast, ← zpow_add₀ (by norm_num)]
      congr 1
      omega
    exact ⟨2 ^ (k - exponent).toNat, hpow.ge, hpow.le.trans h⟩
  · have hfull : (2 : ℚ) ^ 52 * 2 ^ exponent ≤ q :=
      hscale.2.2.resolve_left (by unfold leastExponent; omega)
    have hstep : (2 : ℚ) ^ (k : Int) ≤ 2 ^ exponent := two_zpow_le hgt.le
    rw [zpow_natCast] at hstep
    refine ⟨2 ^ 52, ?_, by exact_mod_cast hfull⟩
    have hpos := two_zpow_pos exponent
    push_cast
    linarith

/-- What a quotient is rounded to at its exponent is not below a power of two that the quotient is
not below. -/
theorem two_pow_le_nearest {num den k : Nat} {exponent : Int} (hden : 0 < den)
    (hscale : OnScale (num / den) exponent) (h : (2 : ℚ) ^ k ≤ num / den) :
    (2 : ℚ) ^ k ≤
      nearest (scaled num den exponent).1 (scaled num den exponent).2 * 2 ^ exponent := by
  have hpos := two_zpow_pos exponent
  obtain ⟨units, hunits, hfloor⟩ := hscale.exists_units h
  refine hunits.trans (mul_le_mul_of_nonneg_right ?_ hpos.le)
  have hbelow := div_lt_iff_ratio (scaled num den exponent).1 units (scaled_pos hden num exponent)
  rw [scaled_ratio, div_lt_iff₀ hpos] at hbelow
  have hge := mt hbelow.mp (not_lt.mpr hfloor)
  have hcases := nearest_cases (scaled num den exponent).1 (scaled num den exponent).2
  have hnat : units ≤ nearest (scaled num den exponent).1 (scaled num den exponent).2 := by omega
  exact_mod_cast hnat

/-- Rounding does not lead below a power of two. -/
theorem atLeast_rounded (negative : Bool) {num den k : Nat} (hden : 0 < den)
    (h : (2 : ℚ) ^ k ≤ num / den) : (rounded negative num den).AtLeast (2 ^ k) := by
  have hnum : 0 < num := by
    rcases Nat.eq_zero_or_pos num with rfl | hnum
    · have hpos : (0 : ℚ) < 2 ^ k := by positivity
      rw [Nat.cast_zero, zero_div] at h
      exact absurd h (not_le.mpr hpos)
    · exact hnum
  have hscale := onScale_exponentFor hnum hden
  have hnearest := two_pow_le_nearest hden hscale h
  rw [rounded_of_onScale hnum hden hscale rfl]
  split
  · next hcarried =>
    split
    · trivial
    · -- half the mantissa at the next exponent
      show (2 : ℚ) ^ k ≤ (Nat.pow 2 (precision - 1) : Nat) * 2 ^ (exponentFor num den + 1)
      rw [hcarried] at hnearest
      have hhalf : ((Nat.pow 2 precision : Nat) : ℚ) = 2 * (Nat.pow 2 (precision - 1) : Nat) := by
        exact_mod_cast Nat.pow_succ'
      rw [hhalf] at hnearest
      rw [two_zpow_succ]
      linarith
  · split
    · trivial
    · exact hnearest

theorem atLeast_rounded_whole (negative : Bool) {n k : Nat} (h : 2 ^ k ≤ n) :
    (rounded negative n 1).AtLeast (2 ^ k) := by
  refine atLeast_rounded negative Nat.one_pos ?_
  rw [Nat.cast_one, div_one]
  exact_mod_cast h

theorem AtLeast.mul {j k : Nat} (hx : x.AtLeast (2 ^ j)) (hy : y.AtLeast (2 ^ k)) :
    (x.mul y).AtLeast (2 ^ (j + k)) := by
  have hj : (0 : ℚ) < 2 ^ j := by positivity
  have hk : (0 : ℚ) < 2 ^ k := by positivity
  unfold Binary64.mul
  split
  · next negative mantissa exponent negative' mantissa' exponent' =>
    refine atLeast_rounded _ (scaled_pos Nat.one_pos _ _) ?_
    have hx : (2 : ℚ) ^ j ≤ mantissa * 2 ^ exponent := hx
    have hy : (2 : ℚ) ^ k ≤ mantissa' * 2 ^ exponent' := hy
    rw [scaled_ratio, Nat.cast_one, div_one, zpow_neg, div_inv_eq_mul,
      zpow_add₀ (by norm_num), Nat.cast_mul, mul_mul_mul_comm, pow_add]
    exact mul_le_mul hx hy hk.le (hj.le.trans hx)
  · rw [if_neg (hx.ne_zero hj)]
    trivial
  · rw [if_neg (hy.ne_zero hk)]
    trivial
  · trivial
  · exact hx.elim
  · exact hy.elim

/-- What a decimal with its point moved to the right is at least. -/
theorem atLeast_ofParts (negative : Bool) {significand exponent j k : Nat} (hj : 2 ^ j ≤ significand)
    (hk : 2 ^ k ≤ 10 ^ exponent) : (ofParts negative significand exponent).AtLeast (2 ^ (j + k)) := by
  have hsignificand := atLeast_rounded_whole false hj
  have hpos : (0 : ℚ) < 2 ^ j := by positivity
  have hmagnitude : ((rounded false significand 1).timesTen exponent).AtLeast (2 ^ (j + k)) := by
    unfold timesTen
    split
    · rw [if_neg]
      · trivial
      · intro hzero
        unfold isZero at hzero
        split at hzero
        · next heq =>
          rw [heq] at hsignificand
          exact hsignificand.ne_zero hpos (beq_iff_eq.mp hzero)
        · cases hzero
    · rw [if_pos (Int.natCast_nonneg exponent), Int.toNat_natCast]
      exact hsignificand.mul (atLeast_rounded_whole false hk)
  unfold ofParts
  dsimp only
  split
  · exact hmagnitude.neg
  · exact hmagnitude

/-- The whole number of a double is the double's own magnitude. -/
theorem AtLeast.le_natAbs {k : Nat} (h : x.AtLeast (2 ^ k)) {value : Int}
    (hvalue : x.toInt? = some value) : 2 ^ k ≤ value.natAbs := by
  unfold toInt? at hvalue
  split at hvalue
  · next negative mantissa exponent =>
    dsimp only at hvalue
    split at hvalue
    · next hwhole =>
      rw [← Option.some.inj hvalue, natAbs_signed]
      obtain ⟨quotient, rfl⟩ := Nat.dvd_of_mod_eq_zero hwhole
      have hdivisor : 0 < Nat.pow 2 (-exponent).toNat := Nat.pow_pos (by decide)
      have hpow : (2 : ℚ) ^ exponent =
          (Nat.pow 2 exponent.toNat : Nat) / (Nat.pow 2 (-exponent).toNat : Nat) :=
        zpow_eq_div 2 (by decide) exponent
      have hne : ((Nat.pow 2 (-exponent).toNat : Nat) : ℚ) ≠ 0 := by exact_mod_cast hdivisor.ne'
      have hle : (2 : ℚ) ^ k ≤ (Nat.pow 2 (-exponent).toNat * quotient : Nat) * 2 ^ exponent := h
      rw [hpow, Nat.cast_mul, mul_div_assoc', mul_assoc, mul_div_cancel_left₀ _ hne] at hle
      rw [Nat.mul_div_cancel_left _ hdivisor]
      exact_mod_cast hle
    · cases hvalue
  · cases hvalue

end CallTracing.Binary64
