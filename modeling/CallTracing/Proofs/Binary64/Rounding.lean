/-
  CallTracing/Proofs/Binary64/Rounding.lean
  =========================================
  **Which numbers are rounded to a given double.**

  A quotient has one exponent at which its mantissa has 53 bits (`OnScale`), and rounding finds it
  (`onScale_exponentFor`).  Between the double and half way to the next one, on either side, whole
  numbers of units of that exponent are rounded to the mantissa of the double (`nearest_eq`); only
  below a power of two the double next to it is nearer, and the quotient has the next smaller
  exponent.  So what is rounded to a double are the numbers of an interval around it (`Around`,
  `rounded_eq`), whatever quotient or decimal they are written as (`ofDecimal_eq`).

  The intervals are those of rational numbers: a power of two or ten with an exponent of either sign
  is the quotient of two natural numbers (`zpow_eq_div`).
-/
import CallTracing.Proofs.Binary64.Nearest
import Mathlib.Algebra.Order.Field.Power
import Mathlib.Tactic.NormNum
import Mathlib.Tactic.Linarith
import Mathlib.Tactic.Positivity
import Mathlib.Tactic.Ring

namespace CallTracing.Binary64

/-! ### Powers with exponents of either sign -/

theorem cast_natPow (base k : Nat) : ((Nat.pow base k : Nat) : ℚ) = (base : ℚ) ^ k :=
  Nat.cast_pow base k

theorem zpow_eq_div (base : Nat) (hbase : 0 < base) (exponent : Int) :
    (base : ℚ) ^ exponent =
      (Nat.pow base exponent.toNat : Nat) / (Nat.pow base (-exponent).toNat : Nat) := by
  have hne : (base : ℚ) ≠ 0 := by positivity
  rw [cast_natPow, cast_natPow, ← zpow_natCast, ← zpow_natCast, ← zpow_sub₀ hne]
  congr 1
  omega

theorem two_zpow_pos (exponent : Int) : (0 : ℚ) < 2 ^ exponent := by positivity

theorem two_zpow_le {a b : Int} (h : a ≤ b) : (2 : ℚ) ^ a ≤ 2 ^ b :=
  zpow_le_zpow_right₀ (by norm_num) h

theorem two_zpow_succ (exponent : Int) : (2 : ℚ) ^ (exponent + 1) = 2 * 2 ^ exponent := by
  rw [zpow_add_one₀ (by norm_num), mul_comm]

/-! ### Scales -/

theorem scaled_pos {den : Nat} (hden : 0 < den) (num : Nat) (exponent : Int) :
    0 < (scaled num den exponent).2 :=
  Nat.mul_pos hden (Nat.pow_pos (by decide))

theorem scaled_ratio (num den : Nat) (exponent : Int) :
    ((scaled num den exponent).1 : ℚ) / (scaled num den exponent).2 =
      (num : ℚ) / den / 2 ^ exponent := by
  have hpow : (2 : ℚ) ^ exponent =
      (Nat.pow 2 exponent.toNat : Nat) / (Nat.pow 2 (-exponent).toNat : Nat) :=
    zpow_eq_div 2 (by decide) exponent
  unfold scaled
  rw [hpow, Nat.cast_mul, Nat.cast_mul, div_div_div_eq]

/-- The exponent of a positive number: it has 53 bits, or the least exponent. -/
def OnScale (q : ℚ) (exponent : Int) : Prop :=
  leastExponent ≤ exponent ∧ q < 2 ^ 53 * 2 ^ exponent ∧
    (exponent = leastExponent ∨ 2 ^ 52 * 2 ^ exponent ≤ q)

theorem OnScale.le {q : ℚ} {a b : Int} (ha : OnScale q a) (hb : OnScale q b) : b ≤ a := by
  by_contra hlt
  rcases hb.2.2 with hleast | hfull
  · exact hlt (hleast ▸ ha.1)
  · have hstep := two_zpow_le (show a + 1 ≤ b by omega)
    rw [two_zpow_succ] at hstep
    have hbits := ha.2.1
    linarith

theorem OnScale.unique {q : ℚ} {a b : Int} (ha : OnScale q a) (hb : OnScale q b) : a = b :=
  Int.le_antisymm (hb.le ha) (ha.le hb)

theorem div_lt_iff_ratio (num n : Nat) {den : Nat} (hden : 0 < den) :
    num / den < n ↔ (num : ℚ) / den < n := by
  have hpos : (0 : ℚ) < den := by exact_mod_cast hden
  rw [Nat.div_lt_iff_lt_mul hden, div_lt_iff₀ hpos]
  exact_mod_cast Iff.rfl

/-- A quotient lies between the powers of two that its terms suggest. -/
theorem ratio_bounds {num den : Nat} (hnum : 0 < num) (hden : 0 < den) :
    (2 : ℚ) ^ ((num.log2 : Int) - den.log2 - 1) < (num : ℚ) / den ∧
      (num : ℚ) / den < 2 ^ ((num.log2 : Int) - den.log2 + 1) := by
  have hnumLow : (2 : ℚ) ^ num.log2 ≤ num := by
    exact_mod_cast Nat.log2_self_le (Nat.ne_of_gt hnum)
  have hdenLow : (2 : ℚ) ^ den.log2 ≤ den := by
    exact_mod_cast Nat.log2_self_le (Nat.ne_of_gt hden)
  have hnumHigh : (num : ℚ) < 2 ^ (num.log2 + 1) := by exact_mod_cast Nat.lt_log2_self
  have hdenHigh : (den : ℚ) < 2 ^ (den.log2 + 1) := by exact_mod_cast Nat.lt_log2_self
  have hpos : (0 : ℚ) < den := by exact_mod_cast hden
  constructor
  · calc (2 : ℚ) ^ ((num.log2 : Int) - den.log2 - 1) = 2 ^ num.log2 / 2 ^ (den.log2 + 1) := by
          rw [← zpow_natCast, ← zpow_natCast, ← zpow_sub₀ (by norm_num)]
          congr 1
          push_cast
          ring
      _ < (num : ℚ) / den := by
          rw [div_lt_div_iff₀ (by positivity) hpos]
          exact mul_lt_mul' hnumLow hdenHigh (by positivity) (by exact_mod_cast hnum)
  · calc (num : ℚ) / den < 2 ^ (num.log2 + 1) / 2 ^ den.log2 := by
          rw [div_lt_div_iff₀ hpos (by positivity)]
          exact mul_lt_mul hnumHigh hdenLow (by positivity) (by positivity)
      _ = (2 : ℚ) ^ ((num.log2 : Int) - den.log2 + 1) := by
          rw [← zpow_natCast, ← zpow_natCast, ← zpow_sub₀ (by norm_num)]
          congr 1
          push_cast
          ring

/-- The least exponent takes the place of smaller ones. -/
theorem onScale_max {q : ℚ} {exponent : Int} (hbits : q < 2 ^ 53 * 2 ^ exponent)
    (hfull : 2 ^ 52 * 2 ^ exponent ≤ q) : OnScale q (max exponent leastExponent) := by
  rcases le_total leastExponent exponent with hle | hle
  · rw [max_eq_left hle]
    exact ⟨hle, hbits, Or.inr hfull⟩
  · rw [max_eq_right hle]
    refine ⟨le_refl _, hbits.trans_le ?_, Or.inl rfl⟩
    exact mul_le_mul_of_nonneg_left (two_zpow_le hle) (by positivity)

theorem onScale_exponentFor {num den : Nat} (hnum : 0 < num) (hden : 0 < den) :
    OnScale (num / den) (exponentFor num den) := by
  obtain ⟨hlow, hhigh⟩ := ratio_bounds hnum hden
  unfold exponentFor
  dsimp only
  have hfloor := div_lt_iff_ratio (scaled num den (num.log2 - den.log2 - 52)).1 (Nat.pow 2 52)
    (scaled_pos hden num (num.log2 - den.log2 - 52))
  rw [scaled_ratio, cast_natPow, div_lt_iff₀ (two_zpow_pos _)] at hfloor
  rw [if_congr hfloor rfl rfl]
  generalize hguess : (num.log2 : Int) - den.log2 - 52 = guess
  have hguessLow : (num.log2 : Int) - den.log2 - 1 = 51 + guess := by omega
  have hguessHigh : (num.log2 : Int) - den.log2 + 1 = 53 + guess := by omega
  rw [hguessLow, zpow_add₀ (by norm_num)] at hlow
  rw [hguessHigh, zpow_add₀ (by norm_num)] at hhigh
  split
  · next hsmall =>
    have hstep := two_zpow_succ (guess - 1)
    rw [Int.sub_add_cancel] at hstep
    rw [hstep] at hsmall hlow
    push_cast at hsmall
    exact onScale_max (by linarith) (by linarith)
  · next hlarge =>
    exact onScale_max hhigh (by exact_mod_cast not_lt.mp hlarge)

/-! ### Whole numbers of units -/

theorem nearest_eq {num den n : Nat} (hden : 0 < den)
    (hlow : (n : ℚ) - 1 / 2 ≤ num / den) (hhigh : (num : ℚ) / den ≤ n + 1 / 2)
    (hinside : n % 2 = 0 ∨ (n : ℚ) - 1 / 2 < num / den ∧ (num : ℚ) / den < n + 1 / 2) :
    nearest num den = n := by
  have hpos : (0 : ℚ) < den := by exact_mod_cast hden
  have hlow' : 2 * (n * den) ≤ 2 * num + den := by
    rw [le_div_iff₀ hpos] at hlow
    have hcast : 2 * ((n : ℚ) * den) ≤ 2 * num + den := by linarith
    exact_mod_cast hcast
  have hhigh' : 2 * num ≤ 2 * (n * den) + den := by
    rw [div_le_iff₀ hpos] at hhigh
    have hcast : 2 * (num : ℚ) ≤ 2 * ((n : ℚ) * den) + den := by linarith
    exact_mod_cast hcast
  have hinside' : n % 2 = 0 ∨ 2 * (n * den) < 2 * num + den ∧ 2 * num < 2 * (n * den) + den := by
    refine hinside.imp_right fun ⟨hlow, hhigh⟩ => ?_
    rw [lt_div_iff₀ hpos] at hlow
    rw [div_lt_iff₀ hpos] at hhigh
    have hcast : 2 * ((n : ℚ) * den) < 2 * num + den := by linarith
    have hcast' : 2 * (num : ℚ) < 2 * ((n : ℚ) * den) + den := by linarith
    exact ⟨by exact_mod_cast hcast, by exact_mod_cast hcast'⟩
  have hnum : num / den * den + num % den = num := Nat.div_add_mod' num den
  have hrest := Nat.mod_lt num hden
  have hle : num / den ≤ n := by
    by_contra hlt
    have hmul := Nat.mul_le_mul_right den (Nat.lt_of_not_le hlt)
    rw [Nat.succ_mul] at hmul
    omega
  have hge : n ≤ num / den + 1 := by
    by_contra hlt
    have hmul := Nat.mul_le_mul_right den (Nat.lt_of_not_le hlt)
    rw [Nat.succ_mul, Nat.succ_mul] at hmul
    omega
  unfold nearest
  dsimp only
  rcases Nat.lt_or_eq_of_le hle with hlt | heq
  · -- the number lies below the neighbour that it goes to
    obtain rfl : n = num / den + 1 := by omega
    rw [Nat.succ_mul (num / den) den] at hlow' hhigh' hinside'
    split
    · omega
    · split <;> omega
  · rw [← heq] at hlow' hhigh' hinside'
    split
    · exact heq
    · split <;> omega

/-! ### Numbers around a double -/

/-- A mantissa and an exponent as they are kept: 53 bits, or fewer at the least exponent. -/
structure IsNormal (mantissa : Nat) (exponent : Int) : Prop where
  bits : mantissa < Nat.pow 2 precision
  least : leastExponent ≤ exponent
  greatest : exponent ≤ greatestExponent
  full : exponent = leastExponent ∨ Nat.pow 2 52 ≤ mantissa

/-- Half way to the double below.  Below a power of two the gap is half as wide. -/
def lowEnd (mantissa : Nat) (exponent : Int) : ℚ :=
  (mantissa - if mantissa = Nat.pow 2 52 ∧ leastExponent < exponent then 1 / 4 else 1 / 2) *
    2 ^ exponent

/-- Half way to the double above. -/
def highEnd (mantissa : Nat) (exponent : Int) : ℚ := (mantissa + 1 / 2) * 2 ^ exponent

/-- The numbers around a double, with the two ends if its mantissa is even. -/
structure Around (mantissa : Nat) (exponent : Int) (q : ℚ) : Prop where
  low : lowEnd mantissa exponent ≤ q
  high : q ≤ highEnd mantissa exponent
  ends : mantissa % 2 = 0 ∨ lowEnd mantissa exponent < q ∧ q < highEnd mantissa exponent

theorem half_le_lowEnd (mantissa : Nat) (exponent : Int) :
    (mantissa - 1 / 2) * 2 ^ exponent ≤ lowEnd mantissa exponent := by
  unfold lowEnd
  refine mul_le_mul_of_nonneg_right ?_ (two_zpow_pos exponent).le
  split <;> linarith

/-- Rounding at the exponent of a quotient. -/
theorem rounded_of_onScale {num den n : Nat} {exponent : Int} (hnum : 0 < num) (hden : 0 < den)
    (hscale : OnScale (num / den) exponent)
    (hnearest : nearest (scaled num den exponent).1 (scaled num den exponent).2 = n)
    (negative : Bool) :
    rounded negative num den =
      if n = Nat.pow 2 precision then
        if greatestExponent < exponent + 1 then .infinite negative
        else .finite negative (Nat.pow 2 (precision - 1)) (exponent + 1)
      else if greatestExponent < exponent then .infinite negative
      else .finite negative n exponent := by
  have hexponent := (onScale_exponentFor hnum hden).unique hscale
  unfold rounded
  rw [if_neg (Nat.ne_of_gt hnum)]
  dsimp only
  rw [hexponent, hnearest]
  by_cases hcarried : n = Nat.pow 2 precision
  · simp only [hcarried, decide_true, if_true]
  · simp only [hcarried, decide_false, Bool.false_eq_true, if_false]

theorem nearest_scaled {num den n : Nat} {exponent : Int} (hden : 0 < den)
    (hlow : ((n : ℚ) - 1 / 2) * 2 ^ exponent ≤ num / den)
    (hhigh : (num : ℚ) / den ≤ (n + 1 / 2) * 2 ^ exponent)
    (hinside : n % 2 = 0 ∨
      ((n : ℚ) - 1 / 2) * 2 ^ exponent < num / den ∧ (num : ℚ) / den < (n + 1 / 2) * 2 ^ exponent) :
    nearest (scaled num den exponent).1 (scaled num den exponent).2 = n := by
  have hpos := two_zpow_pos exponent
  refine nearest_eq (scaled_pos hden num exponent) ?_ ?_ ?_
  · rw [scaled_ratio, le_div_iff₀ hpos]
    exact hlow
  · rw [scaled_ratio, div_le_iff₀ hpos]
    exact hhigh
  · rw [scaled_ratio, lt_div_iff₀ hpos, div_lt_iff₀ hpos]
    exact hinside

section

variable {mantissa num den : Nat} {exponent : Int}

/-- A quotient that has the exponent of the double. -/
theorem rounded_at_exponent (h : IsNormal mantissa exponent) (hnum : 0 < num) (hden : 0 < den)
    (haround : Around mantissa exponent (num / den))
    (hscale : exponent = leastExponent ∨ (2 : ℚ) ^ 52 * 2 ^ exponent ≤ num / den)
    (negative : Bool) : rounded negative num den = .finite negative mantissa exponent := by
  have hbits : (mantissa : ℚ) + 1 ≤ 2 ^ 53 := by exact_mod_cast h.bits
  have hlow := (half_le_lowEnd mantissa exponent).trans haround.low
  have hhigh := haround.high
  unfold highEnd at hhigh
  have honscale : OnScale (num / den) exponent := by
    refine ⟨h.least, hhigh.trans_lt ?_, hscale⟩
    exact mul_lt_mul_of_pos_right (by linarith) (two_zpow_pos exponent)
  have hnearest := nearest_scaled hden hlow hhigh (haround.ends.imp_right fun hinside =>
    ⟨(half_le_lowEnd mantissa exponent).trans_lt hinside.1, hinside.2⟩)
  rw [rounded_of_onScale hnum hden honscale hnearest, if_neg (Nat.ne_of_lt h.bits),
    if_neg (not_lt.mpr h.greatest)]

/-- Only below a power of two is the exponent of the quotient another one. -/
theorem mantissa_of_below (h : IsNormal mantissa exponent)
    (haround : Around mantissa exponent (num / den)) (hleast : exponent ≠ leastExponent)
    (hsmall : (num : ℚ) / den < 2 ^ 52 * 2 ^ exponent) : mantissa = Nat.pow 2 52 := by
  have hlow := (half_le_lowEnd mantissa exponent).trans haround.low
  have hfull := h.full.resolve_left hleast
  have hpos := two_zpow_pos exponent
  by_contra hne
  have hlarge : (2 : ℚ) ^ 52 + 1 ≤ mantissa := by
    exact_mod_cast Nat.lt_of_le_of_ne hfull (Ne.symm hne)
  have hmul := mul_le_mul_of_nonneg_right hlarge hpos.le
  linarith

/-- Below a power of two the quotient is rounded up to a mantissa of 54 bits, which is carried. -/
theorem rounded_below_power (h : IsNormal mantissa exponent) (hnum : 0 < num) (hden : 0 < den)
    (haround : Around mantissa exponent (num / den)) (hleast : exponent ≠ leastExponent)
    (hsmall : (num : ℚ) / den < 2 ^ 52 * 2 ^ exponent) (negative : Bool) :
    rounded negative num den = .finite negative mantissa exponent := by
  have hmantissa := mantissa_of_below h haround hleast hsmall
  have habove : leastExponent < exponent := lt_of_le_of_ne h.least (Ne.symm hleast)
  have hnarrow : (2 ^ 52 - 1 / 4 : ℚ) * 2 ^ exponent ≤ num / den := by
    have hlowEnd := haround.low
    unfold lowEnd at hlowEnd
    rw [if_pos ⟨hmantissa, habove⟩, hmantissa, cast_natPow] at hlowEnd
    exact_mod_cast hlowEnd
  have hstep := two_zpow_succ (exponent - 1)
  rw [Int.sub_add_cancel] at hstep
  rw [hstep] at hsmall hnarrow
  have hbelow := two_zpow_pos (exponent - 1)
  have honscale : OnScale (num / den) (exponent - 1) :=
    ⟨by omega, by linarith, Or.inr (by linarith)⟩
  have hnearest : nearest (scaled num den (exponent - 1)).1 (scaled num den (exponent - 1)).2 =
      Nat.pow 2 precision := by
    refine nearest_scaled hden ?_ ?_ (Or.inl (by decide)) <;> rw [cast_natPow] <;>
      unfold precision <;> push_cast <;> linarith
  rw [rounded_of_onScale hnum hden honscale hnearest, if_pos rfl, Int.sub_add_cancel,
    if_neg (not_lt.mpr h.greatest), hmantissa]
  rfl

/-- A quotient around a double is rounded to it. -/
theorem rounded_eq (h : IsNormal mantissa exponent) (hnum : 0 < num) (hden : 0 < den)
    (haround : Around mantissa exponent (num / den)) (negative : Bool) :
    rounded negative num den = .finite negative mantissa exponent := by
  by_cases hleast : exponent = leastExponent
  · exact rounded_at_exponent h hnum hden haround (Or.inl hleast) negative
  · rcases le_or_gt ((2 : ℚ) ^ 52 * 2 ^ exponent) ((num : ℚ) / den) with hfull | hsmall
    · exact rounded_at_exponent h hnum hden haround (Or.inr hfull) negative
    · exact rounded_below_power h hnum hden haround hleast hsmall negative

end

/-! ### Forms of doubles -/

/-- A double in the form in which doubles are kept. -/
def IsKept : Binary64 → Prop
  | .finite _ mantissa exponent => IsNormal mantissa exponent
  | .infinite _ => True
  | .nan => True

theorem isNormal_zero : IsNormal 0 leastExponent :=
  ⟨by decide, le_refl _, by decide, Or.inl rfl⟩

theorem isNormal_nearest {num den : Nat} {exponent : Int} (hden : 0 < den)
    (hscale : OnScale (num / den) exponent) :
    nearest (scaled num den exponent).1 (scaled num den exponent).2 ≤ Nat.pow 2 precision ∧
      (exponent = leastExponent ∨
        Nat.pow 2 52 ≤ nearest (scaled num den exponent).1 (scaled num den exponent).2) := by
  obtain ⟨-, hbits, hfull⟩ := hscale
  have hpos := two_zpow_pos exponent
  have hcases := nearest_cases (scaled num den exponent).1 (scaled num den exponent).2
  have hpow := cast_natPow 2
  have hbelow := div_lt_iff_ratio (scaled num den exponent).1 (Nat.pow 2 53)
    (scaled_pos hden num exponent)
  have hfloor := div_lt_iff_ratio (scaled num den exponent).1 (Nat.pow 2 52)
    (scaled_pos hden num exponent)
  rw [scaled_ratio, hpow, div_lt_iff₀ hpos] at hbelow hfloor
  have hlt := hbelow.mpr (by exact_mod_cast hbits)
  constructor
  · show _ ≤ Nat.pow 2 53
    omega
  · refine hfull.imp_right fun hfull => ?_
    have hge : ¬_ := mt hfloor.mp (not_lt.mpr (by exact_mod_cast hfull))
    omega

theorem isKept_rounded (negative : Bool) (num : Nat) {den : Nat} (hden : 0 < den) :
    (rounded negative num den).IsKept := by
  rcases Nat.eq_zero_or_pos num with rfl | hnum
  · exact isNormal_zero
  · have hscale := onScale_exponentFor hnum hden
    have hleast := hscale.1
    obtain ⟨hle, hfull⟩ := isNormal_nearest hden hscale
    rw [rounded_of_onScale hnum hden hscale rfl]
    split
    · split
      · trivial
      · next hrange => exact ⟨by decide, by omega, not_lt.mp hrange, Or.inr (le_refl _)⟩
    · next hcarried =>
      split
      · trivial
      · next hrange => exact ⟨lt_of_le_of_ne hle hcarried, hleast, not_lt.mp hrange, hfull⟩

theorem isKept_ofInt (n : Int) : (ofInt n).IsKept := isKept_rounded _ _ (by decide)

/-! ### Decimals -/

/-- A decimal lies between the powers of ten that its number of digits suggests. -/
theorem decimal_bounds {digits : Nat} (h : 0 < digits) (exponent : Int) :
    (10 : ℚ) ^ ((Nat.toDigits 10 digits).length + exponent - 1) ≤ digits * 10 ^ exponent ∧
      (digits : ℚ) * 10 ^ exponent < 10 ^ ((Nat.toDigits 10 digits).length + exponent) := by
  have hsome : 0 < (Nat.toDigits 10 digits).length := Nat.length_toDigits_pos
  obtain ⟨more, hlength⟩ := Nat.exists_eq_add_one_of_ne_zero (Nat.ne_of_gt hsome)
  have hpos : (0 : ℚ) < 10 ^ exponent := by positivity
  have hhigh : digits < 10 ^ (more + 1) := by
    rw [← Nat.length_toDigits_le_iff (by decide) (Nat.succ_pos more), hlength]
  have hlow : 10 ^ more ≤ digits := by
    rcases Nat.eq_zero_or_pos more with rfl | hmore
    · exact h
    · rw [← not_lt, ← Nat.length_toDigits_le_iff (by decide) hmore, hlength]
      omega
  rw [hlength]
  constructor
  · have hexponent : ((more + 1 : Nat) : Int) + exponent - 1 = more + exponent := by
      push_cast
      ring
    rw [hexponent, zpow_add₀ (by norm_num), zpow_natCast]
    exact mul_le_mul_of_nonneg_right (by exact_mod_cast hlow) hpos.le
  · rw [zpow_add₀ (by norm_num), zpow_natCast]
    exact mul_lt_mul_of_pos_right (by exact_mod_cast hhigh) hpos

theorem two_pow_le_ten_pow : (2 : ℚ) ^ 1023 ≤ 10 ^ 308 :=
  calc (2 : ℚ) ^ 1023 = (2 ^ 93) ^ 11 := by rw [← pow_mul]
    _ ≤ (10 ^ 28) ^ 11 := pow_le_pow_left₀ (by norm_num) (by norm_num) 11
    _ = 10 ^ 308 := by rw [← pow_mul]

/-- What is rounded to a double is no further from one than the limits of `ofDecimal`. -/
theorem Around.bounds {mantissa : Nat} {exponent : Int} {q : ℚ} (h : IsNormal mantissa exponent)
    (hpos : 0 < mantissa) (haround : Around mantissa exponent q) :
    (10 : ℚ) ^ (-330 : Int) ≤ q ∧ q < 10 ^ (309 : Int) := by
  have hone : (1 : ℚ) ≤ mantissa := by exact_mod_cast hpos
  have hbits : (mantissa : ℚ) + 1 ≤ 2 ^ 53 := by exact_mod_cast h.bits
  have hpow := two_pow_le_ten_pow
  constructor
  · calc (10 : ℚ) ^ (-330 : Int) = 1 / (10 ^ 308 * 10 ^ 22) := by
          rw [← pow_add, one_div, ← zpow_natCast, ← zpow_neg]
          rfl
      _ ≤ 1 / (2 ^ 1023 * 2 ^ 52) := by
          refine one_div_le_one_div_of_le (by positivity) ?_
          exact mul_le_mul hpow (by norm_num) (by positivity) (by positivity)
      _ = 2 ^ (-1075 : Int) := by
          rw [← pow_add, one_div, ← zpow_natCast, ← zpow_neg]
          rfl
      _ = (1 - 1 / 2) * 2 ^ leastExponent := by
          rw [show leastExponent = -1075 + 1 from rfl, two_zpow_succ, ← mul_assoc,
            show (1 - 1 / 2) * 2 = (1 : ℚ) by norm_num, one_mul]
      _ ≤ (mantissa - 1 / 2) * 2 ^ exponent :=
          mul_le_mul (by linarith) (two_zpow_le h.least) (two_zpow_pos _).le (by linarith)
      _ ≤ q := (half_le_lowEnd mantissa exponent).trans haround.low
  · calc q ≤ (mantissa + 1 / 2) * 2 ^ exponent := haround.high
      _ ≤ 2 ^ 53 * 2 ^ greatestExponent :=
          mul_le_mul (by linarith) (two_zpow_le h.greatest) (two_zpow_pos _).le (by norm_num)
      _ = 2 * 2 ^ 1023 := by
          rw [show greatestExponent = (971 : Nat) from rfl, zpow_natCast, ← pow_add, ← pow_succ']
      _ ≤ 2 * 10 ^ 308 := mul_le_mul_of_nonneg_left hpow (by norm_num)
      _ < 10 * 10 ^ 308 := mul_lt_mul_of_pos_right (by norm_num) (by positivity)
      _ = 10 ^ (309 : Int) := by
          rw [← pow_succ', ← zpow_natCast]
          rfl

theorem ofDecimal_eq {mantissa digits : Nat} {exponent decimalExponent : Int}
    (h : IsNormal mantissa exponent) (hpos : 0 < mantissa)
    (haround : Around mantissa exponent (digits * 10 ^ decimalExponent)) (negative : Bool) :
    ofDecimal negative digits decimalExponent = .finite negative mantissa exponent := by
  obtain ⟨hlow, hhigh⟩ := haround.bounds h hpos
  have hdigits : 0 < digits := by
    rcases Nat.eq_zero_or_pos digits with rfl | hdigits
    · have hzero : (0 : ℚ) < 10 ^ (-330 : Int) := by positivity
      rw [Nat.cast_zero, zero_mul] at hlow
      exact absurd hlow (not_le.mpr hzero)
    · exact hdigits
  obtain ⟨hbelow, habove⟩ := decimal_bounds hdigits decimalExponent
  have hsmall := (zpow_lt_zpow_iff_right₀ (by norm_num)).mp (hbelow.trans_lt hhigh)
  have hlarge := (zpow_lt_zpow_iff_right₀ (by norm_num)).mp (hlow.trans_lt habove)
  unfold ofDecimal
  dsimp only
  rw [if_neg (Nat.ne_of_gt hdigits), if_neg (by omega), if_neg (by omega)]
  have hden : 0 < Nat.pow 10 (-decimalExponent).toNat := Nat.pow_pos (by decide)
  have hnum : 0 < digits * Nat.pow 10 decimalExponent.toNat :=
    Nat.mul_pos hdigits (Nat.pow_pos (by decide))
  refine rounded_eq h hnum hden ?_ negative
  have hpow : (10 : ℚ) ^ decimalExponent =
      (Nat.pow 10 decimalExponent.toNat : Nat) / (Nat.pow 10 (-decimalExponent).toNat : Nat) :=
    zpow_eq_div 10 (by decide) decimalExponent
  rw [hpow, ← mul_div_assoc] at haround
  rw [Nat.cast_mul]
  exact haround

end CallTracing.Binary64
