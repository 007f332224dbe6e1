/-
  CallTracing/Proofs/Binary64/Digits.lean
  =======================================
  **Values of decimal digits.**

  The value of digits one after the other is that of the first ones, moved by the number of the
  others, and that of the others (`digitsValue_append`).  The digits of a number have the number for
  their value, and no zero stands in front of them.
-/
import CallTracing.Binary64.Numeral
import CallTracing.Proofs.Text.Letters
import Mathlib.Algebra.Group.Nat.Defs
import Mathlib.Data.List.Basic

namespace CallTracing.Binary64

theorem digitsValue_eq (digits : List Char) :
    digitsValue digits = Nat.ofDigitChars 10 digits 0 := by
  unfold digitsValue Nat.ofDigitChars
  simp only [Nat.mul_comm]

theorem digitsValue_toDigits (n : Nat) : digitsValue (Nat.toDigits 10 n) = n := by
  rw [digitsValue_eq, Nat.ofDigitChars_ten_toDigits]

theorem digitsValue_append (front back : List Char) :
    digitsValue (front ++ back) = digitsValue front * 10 ^ back.length + digitsValue back := by
  rw [digitsValue_eq, Nat.ofDigitChars_append, Nat.ofDigitChars_eq_ofDigitChars_zero,
    Nat.mul_comm, ← digitsValue_eq, ← digitsValue_eq]

theorem digitsValue_zeros (k : Nat) : digitsValue (List.replicate k '0') = 0 := by
  rw [digitsValue_eq, Nat.ofDigitChars_replicate_zero, Nat.mul_zero]

theorem digitsValue_singleton (c : Char) : digitsValue [c] = c.toNat - '0'.toNat := by
  unfold digitsValue
  rw [List.foldl_cons, List.foldl_nil, Nat.zero_mul, Nat.zero_add]

theorem digitsValue_cons (c : Char) (rest : List Char) :
    digitsValue (c :: rest) =
      (c.toNat - '0'.toNat) * 10 ^ rest.length + digitsValue rest := by
  rw [← List.singleton_append, digitsValue_append, digitsValue_singleton]

theorem exists_digit {c : Char} (h : c.isDigit = true) :
    ∃ d < 10, c.toNat - '0'.toNat = d ∧ Nat.toDigits 10 d = [c] := by
  have hrange := isDigit_iff.mp h
  have hzero : '0'.toNat = 48 := by decide
  have hchar : ∀ d < 10, Nat.toDigits 10 d = [Char.ofNat (d + '0'.toNat)] := by decide
  refine ⟨c.toNat - '0'.toNat, by omega, rfl, ?_⟩
  rw [hchar _ (by omega), Nat.sub_add_cancel (by omega), Char.ofNat_toNat]

theorem digitsValue_lt {digits : List Char} (h : ∀ c ∈ digits, c.isDigit = true) :
    digitsValue digits < 10 ^ digits.length := by
  induction digits with
  | nil => exact Nat.one_pos
  | cons c rest ih =>
    obtain ⟨hc, hrest⟩ := List.forall_mem_cons.mp h
    obtain ⟨d, hd, hvalue, -⟩ := exists_digit hc
    rw [digitsValue_cons, hvalue, List.length_cons, Nat.pow_succ]
    have hmul := Nat.mul_le_mul_right (10 ^ rest.length) (Nat.le_of_lt_succ hd)
    have hlt := ih hrest
    omega

theorem isDigit_toDigits (n : Nat) : ∀ c ∈ Nat.toDigits 10 n, c.isDigit = true :=
  fun _ hc => Nat.isDigit_of_mem_toDigits (by decide) (by decide) hc

/-- No zero stands in front of the digits of a positive number. -/
theorem head?_toDigits {n : Nat} (h : 0 < n) : (Nat.toDigits 10 n).head? ≠ some '0' := by
  induction n using Nat.strongRecOn with
  | ind n ih =>
    have hsmall : ∀ d < 10, 0 < d → Nat.digitChar d ≠ '0' := by decide
    rw [Nat.toDigits_eq_if (by decide)]
    split
    · next hlt => exact fun hhead => hsmall n hlt h (Option.some.inj hhead)
    · rw [List.head?_append_of_ne_nil _ Nat.toDigits_ne_nil]
      exact ih (n / 10) (Nat.div_lt_self h (by decide)) (by omega)

end CallTracing.Binary64
