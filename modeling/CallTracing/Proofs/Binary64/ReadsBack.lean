/-
  CallTracing/Proofs/Binary64/ReadsBack.lean
  ==========================================
  **The shortest decimal of a double reads back as the double.**

  A `Span` is the interval of the numbers around a double over one denominator (`span_low`,
  `span_value`, `span_high`), and a point of a decimal grid is compared with it exactly
  (`grid_lt_iff`, `lt_grid_iff`).  What a grid gives is one of the double's two neighbours on it,
  which lies around the double (`around_of_onGrid`); a grid that gives none is wider than the
  interval (`width_le_of_onGrid`).  The grid of seventeen digits is not (`last_grid_fine`), so the
  search ends with a number around the double (`around_shortest`).  What lies around it is rounded
  to it, so whoever takes the double nearest to the decimal gets the double back.
-/
import CallTracing.Binary64.Shortest
import CallTracing.Proofs.Binary64.Rounding

namespace CallTracing.Binary64

variable {mantissa : Nat} {exponent : Int}

/-! ### The interval over one denominator -/

theorem span_den_pos (mantissa : Nat) (exponent : Int) : 0 < (span mantissa exponent).den :=
  Nat.pow_pos (by decide)

theorem span_unit (exponent : Int) :
    ((Nat.pow 2 (exponent - 2).toNat : Nat) : ℚ) / (Nat.pow 2 (2 - exponent).toNat : Nat) =
      2 ^ exponent / 4 := by
  have hpow : (2 : ℚ) ^ (exponent - 2) =
      (Nat.pow 2 (exponent - 2).toNat : Nat) / (Nat.pow 2 (-(exponent - 2)).toNat : Nat) :=
    zpow_eq_div 2 (by decide) (exponent - 2)
  rw [Int.neg_sub] at hpow
  rw [← hpow, zpow_sub₀ (by norm_num)]
  norm_num

theorem span_value (mantissa : Nat) (exponent : Int) :
    ((span mantissa exponent).value : ℚ) / (span mantissa exponent).den =
      mantissa * 2 ^ exponent := by
  unfold span
  dsimp only
  rw [Nat.cast_mul, mul_div_assoc, span_unit]
  push_cast
  ring

theorem span_high (mantissa : Nat) (exponent : Int) :
    ((span mantissa exponent).high : ℚ) / (span mantissa exponent).den =
      highEnd mantissa exponent := by
  unfold span highEnd
  dsimp only
  rw [Nat.cast_mul, mul_div_assoc, span_unit]
  push_cast
  ring

theorem span_low (hpos : 0 < mantissa) (exponent : Int) :
    ((span mantissa exponent).low : ℚ) / (span mantissa exponent).den =
      lowEnd mantissa exponent := by
  unfold span lowEnd
  dsimp only
  rw [Nat.cast_mul, mul_div_assoc, span_unit]
  by_cases hnarrow : mantissa = Nat.pow 2 52 ∧ leastExponent < exponent
  · rw [if_pos hnarrow, if_pos (by simp only [hnarrow, decide_true, Bool.and_self]),
      Nat.cast_sub (by omega)]
    push_cast
    ring
  · rw [if_neg hnarrow, if_neg (by rwa [← Bool.decide_and, decide_eq_true_iff]),
      Nat.cast_sub (by omega)]
    push_cast
    ring

theorem lowEnd_lt_value (mantissa : Nat) (exponent : Int) :
    lowEnd mantissa exponent < mantissa * 2 ^ exponent := by
  unfold lowEnd
  refine mul_lt_mul_of_pos_right ?_ (two_zpow_pos exponent)
  split <;> linarith

theorem value_lt_highEnd (mantissa : Nat) (exponent : Int) :
    mantissa * 2 ^ exponent < highEnd mantissa exponent :=
  mul_lt_mul_of_pos_right (by linarith) (two_zpow_pos exponent)

/-! ### Points of a grid -/

theorem ten_pow_pos (k : Nat) : (0 : ℚ) < (Nat.pow 10 k : Nat) := by
  exact_mod_cast Nat.pow_pos (by decide)

theorem grid_point (digits : Nat) (step : Int) :
    (digits : ℚ) * 10 ^ step =
      digits * (Nat.pow 10 step.toNat : Nat) / (Nat.pow 10 (-step).toNat : Nat) := by
  have hpow : (10 : ℚ) ^ step = (Nat.pow 10 step.toNat : Nat) / (Nat.pow 10 (-step).toNat : Nat) :=
    zpow_eq_div 10 (by decide) step
  rw [hpow, mul_div_assoc]

theorem lt_grid_iff (n digits : Nat) {den : Nat} (hden : 0 < den) (step : Int) :
    n * Nat.pow 10 (-step).toNat < digits * (den * Nat.pow 10 step.toNat) ↔
      (n : ℚ) / den < digits * 10 ^ step := by
  have hdenPos : (0 : ℚ) < den := by exact_mod_cast hden
  rw [grid_point, div_lt_div_iff₀ hdenPos (ten_pow_pos _), mul_assoc, mul_comm _ (den : ℚ)]
  exact_mod_cast Iff.rfl

theorem grid_lt_iff (n digits : Nat) {den : Nat} (hden : 0 < den) (step : Int) :
    digits * (den * Nat.pow 10 step.toNat) < n * Nat.pow 10 (-step).toNat ↔
      (digits : ℚ) * 10 ^ step < n / den := by
  have hdenPos : (0 : ℚ) < den := by exact_mod_cast hden
  rw [grid_point, div_lt_div_iff₀ (ten_pow_pos _) hdenPos, mul_assoc, mul_comm _ (den : ℚ)]
  exact_mod_cast Iff.rfl

/-- The point of a grid below a double, or the double itself. -/
def below (s : Span) (step : Int) : Nat :=
  s.value * Nat.pow 10 (-step).toNat / (s.den * Nat.pow 10 step.toNat)

theorem below_le_value (mantissa : Nat) (exponent step : Int) :
    (below (span mantissa exponent) step : ℚ) * 10 ^ step ≤ mantissa * 2 ^ exponent := by
  rw [← span_value, ← not_lt, ← lt_grid_iff _ _ (span_den_pos mantissa exponent), not_lt]
  exact Nat.div_mul_le_self _ _

theorem value_lt_above (mantissa : Nat) (exponent step : Int) :
    mantissa * 2 ^ exponent <
      ((below (span mantissa exponent) step + 1 : Nat) : ℚ) * 10 ^ step := by
  rw [← span_value, ← lt_grid_iff _ _ (span_den_pos mantissa exponent)]
  exact Nat.lt_mul_of_div_lt (Nat.lt_succ_self _)
    (Nat.mul_pos (span_den_pos mantissa exponent) (Nat.pow_pos (by decide)))

/-- Whether the neighbour below counts as the double. -/
def LowHit (s : Span) (step : Int) : Prop :=
  s.low * Nat.pow 10 (-step).toNat ≤ below s step * (s.den * Nat.pow 10 step.toNat) ∧
    (s.closed = true ∨
      s.low * Nat.pow 10 (-step).toNat < below s step * (s.den * Nat.pow 10 step.toNat))

/-- Whether the neighbour above counts as the double. -/
def HighHit (s : Span) (step : Int) : Prop :=
  (below s step + 1) * (s.den * Nat.pow 10 step.toNat) ≤ s.high * Nat.pow 10 (-step).toNat ∧
    (s.closed = true ∨
      (below s step + 1) * (s.den * Nat.pow 10 step.toNat) < s.high * Nat.pow 10 (-step).toNat)

theorem hit_iff {closed : Bool} {a b : Nat} :
    (if closed then decide (a ≤ b) else decide (a < b)) = true ↔
      a ≤ b ∧ (closed = true ∨ a < b) := by
  cases closed <;> simp
  exact Nat.le_of_lt

theorem onGrid_eq_some {tie : Tie} {s : Span} {step : Int} {digits : Nat}
    (h : onGrid tie s step = some digits) :
    (digits = below s step ∧ LowHit s step) ∨ (digits = below s step + 1 ∧ HighHit s step) := by
  unfold onGrid at h
  dsimp only at h
  split at h
  · next hlow hhigh =>
    rw [hit_iff] at hlow hhigh
    split at h
    · exact Or.inl ⟨(Option.some.inj h).symm, hlow⟩
    · split at h
      · exact Or.inr ⟨(Option.some.inj h).symm, hhigh⟩
      · cases tie with
        | even =>
          have hdigits : below s step + below s step % 2 = digits := Option.some.inj h
          rcases Nat.mod_two_eq_zero_or_one (below s step) with heven | hodd
          · exact Or.inl ⟨by rw [← hdigits, heven, Nat.add_zero], hlow⟩
          · exact Or.inr ⟨by rw [← hdigits, hodd], hhigh⟩
        | up => exact Or.inr ⟨(Option.some.inj h).symm, hhigh⟩
  · next hlow _ => exact Or.inl ⟨(Option.some.inj h).symm, hit_iff.mp hlow⟩
  · next _ hhigh => exact Or.inr ⟨(Option.some.inj h).symm, hit_iff.mp hhigh⟩
  · cases h

theorem onGrid_eq_none {tie : Tie} {s : Span} {step : Int} (h : onGrid tie s step = none) :
    ¬LowHit s step ∧ ¬HighHit s step := by
  unfold onGrid at h
  dsimp only at h
  split at h
  · split at h
    · cases h
    · split at h
      · cases h
      · cases tie <;> cases h
  · cases h
  · cases h
  · next hlow hhigh =>
    exact ⟨mt hit_iff.mpr (Bool.eq_false_iff.mp hlow), mt hit_iff.mpr (Bool.eq_false_iff.mp hhigh)⟩

/-! ### Grids and the interval -/

theorem span_closed : (span mantissa exponent).closed = true ↔ mantissa % 2 = 0 := by
  unfold span
  exact beq_iff_eq

/-- What a grid gives lies around the double. -/
theorem around_of_onGrid {tie : Tie} {step : Int} {digits : Nat} (hpos : 0 < mantissa)
    (h : onGrid tie (span mantissa exponent) step = some digits) :
    Around mantissa exponent (digits * 10 ^ step) := by
  have hden := span_den_pos mantissa exponent
  have hbelow := below_le_value mantissa exponent step
  have habove := value_lt_above mantissa exponent step
  have hlowEnd := lowEnd_lt_value mantissa exponent
  have hhighEnd := value_lt_highEnd mantissa exponent
  rcases onGrid_eq_some h with ⟨rfl, hlow, hlowEnds⟩ | ⟨rfl, hhigh, hhighEnds⟩
  · rw [← not_lt, grid_lt_iff _ _ hden, not_lt, span_low hpos] at hlow
    rw [lt_grid_iff _ _ hden, span_low hpos, span_closed] at hlowEnds
    exact ⟨hlow, (hbelow.trans_lt hhighEnd).le,
      hlowEnds.imp_right fun hlt => ⟨hlt, hbelow.trans_lt hhighEnd⟩⟩
  · rw [← not_lt, lt_grid_iff _ _ hden, not_lt, span_high] at hhigh
    rw [grid_lt_iff _ _ hden, span_high, span_closed] at hhighEnds
    exact ⟨(hlowEnd.trans habove).le, hhigh,
      hhighEnds.imp_right fun hlt => ⟨hlowEnd.trans habove, hlt⟩⟩

/-- A grid that gives nothing is at least as wide as the interval. -/
theorem width_le_of_onGrid {tie : Tie} {step : Int} (hpos : 0 < mantissa)
    (h : onGrid tie (span mantissa exponent) step = none) :
    highEnd mantissa exponent - lowEnd mantissa exponent ≤ 10 ^ step := by
  have hden := span_den_pos mantissa exponent
  obtain ⟨hlow, hhigh⟩ := onGrid_eq_none h
  have hlowEnd : (below (span mantissa exponent) step : ℚ) * 10 ^ step ≤
      lowEnd mantissa exponent := by
    rw [← span_low hpos, ← not_lt, ← lt_grid_iff _ _ hden]
    exact fun hlt => hlow ⟨hlt.le, Or.inr hlt⟩
  have hhighEnd : highEnd mantissa exponent ≤
      ((below (span mantissa exponent) step + 1 : Nat) : ℚ) * 10 ^ step := by
    rw [← span_high, ← not_lt, ← grid_lt_iff _ _ hden]
    exact fun hlt => hhigh ⟨hlt.le, Or.inr hlt⟩
  push_cast at hhighEnd
  linarith

/-- Seventeen digits tell any two doubles apart. -/
theorem last_grid_fine (h : IsNormal mantissa exponent) :
    mantissa * 2 ^ exponent < 10 ^ 16 * (highEnd mantissa exponent - lowEnd mantissa exponent) := by
  have hpos := two_zpow_pos exponent
  have hbits : (mantissa : ℚ) < 2 ^ 53 := by exact_mod_cast h.bits
  unfold highEnd lowEnd
  rw [← sub_mul, ← mul_assoc]
  refine mul_lt_mul_of_pos_right ?_ hpos
  split
  · next hnarrow =>
    rw [hnarrow.1, cast_natPow]
    norm_num
  · linarith

theorem around_value (mantissa : Nat) (exponent : Int) :
    Around mantissa exponent (mantissa * 2 ^ exponent) :=
  ⟨(lowEnd_lt_value mantissa exponent).le, (value_lt_highEnd mantissa exponent).le,
    Or.inr ⟨lowEnd_lt_value mantissa exponent, value_lt_highEnd mantissa exponent⟩⟩

theorem below_neg (s : Span) (k : Nat) :
    below s (-(k : Int)) = s.value * Nat.pow 10 k / s.den := by
  unfold below
  rw [neg_neg, Int.toNat_natCast, Int.toNat_neg_natCast]
  show _ / (s.den * 1) = _
  rw [Nat.mul_one]

theorem leadingExponent_eq (s : Span) :
    leadingExponent s = (Nat.toDigits 10 (below s (-340))).length + -340 - 1 := by
  unfold leadingExponent
  rw [← below_neg s 340]
  exact sub_right_comm _ _ _

theorem leadingExponent_le (h : IsNormal mantissa exponent) (hpos : 0 < mantissa) :
    (10 : ℚ) ^ leadingExponent (span mantissa exponent) ≤ mantissa * 2 ^ exponent := by
  have hpositive : 0 < below (span mantissa exponent) (-340) := by
    by_contra hzero
    have habove := value_lt_above mantissa exponent (-340)
    rw [Nat.eq_zero_of_not_pos hzero, Nat.zero_add, Nat.cast_one, one_mul] at habove
    have hlow := ((around_value mantissa exponent).bounds h hpos).1
    have hstep := (zpow_lt_zpow_iff_right₀ (by norm_num)).mp (hlow.trans_lt habove)
    omega
  rw [leadingExponent_eq]
  exact (decimal_bounds hpositive (-340)).1.trans (below_le_value mantissa exponent (-340))

/-! ### The search -/

theorem around_search {tie : Tie} (hpos : 0 < mantissa) (more : Nat) :
    ∀ step : Int, (10 : ℚ) ^ (step - more) < highEnd mantissa exponent - lowEnd mantissa exponent →
      Around mantissa exponent ((search tie (span mantissa exponent) step (more + 1)).digits *
        10 ^ (search tie (span mantissa exponent) step (more + 1)).exponent) := by
  induction more with
  | zero =>
    intro step hfine
    unfold search
    split
    · next hgrid => exact around_of_onGrid hpos hgrid
    · next hgrid =>
      rw [Nat.cast_zero, sub_zero] at hfine
      exact absurd (width_le_of_onGrid hpos hgrid) (not_le.mpr hfine)
  | succ more ih =>
    intro step hfine
    unfold search
    split
    · next hgrid => exact around_of_onGrid hpos hgrid
    · refine ih (step - 1) ?_
      rw [show step - 1 - (more : Int) = step - ((more + 1 : Nat) : Int) by push_cast; ring]
      exact hfine

theorem around_shortest (tie : Tie) (h : IsNormal mantissa exponent) (hpos : 0 < mantissa) :
    Around mantissa exponent
      ((shortest tie mantissa exponent).digits * 10 ^ (shortest tie mantissa exponent).exponent) := by
  refine around_search hpos 16 _ ?_
  have hleading := leadingExponent_le h hpos
  have hfine := last_grid_fine h
  rw [zpow_sub₀ (by norm_num), zpow_natCast, div_lt_iff₀ (by positivity), mul_comm]
  exact hleading.trans_lt hfine

theorem shortest_digits_pos (tie : Tie) (h : IsNormal mantissa exponent) (hpos : 0 < mantissa) :
    0 < (shortest tie mantissa exponent).digits := by
  have hlow := ((around_shortest tie h hpos).bounds h hpos).1
  rcases Nat.eq_zero_or_pos (shortest tie mantissa exponent).digits with hzero | hdigits
  · have hten : (0 : ℚ) < 10 ^ (-330 : Int) := by positivity
    rw [hzero, Nat.cast_zero, zero_mul] at hlow
    exact absurd hlow (not_le.mpr hten)
  · exact hdigits

end CallTracing.Binary64
