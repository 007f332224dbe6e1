/-
  CallTracing/Proofs/Model/Counts.lean
  ====================================
  **Counts are exact.**

  A count in the body of a model's answer is the literal of a whole number, of any length.  On its
  way to an attribute it is kept as a whole number of 64 bits or, out of their range, as a double
  that is made of its leading digits (`RoundedFrom`).  What is written is the decimal text of the
  literal's own number or nothing at all (`whole_literals_counted`): a number that was rounded is at
  least `2 ^ 63` in magnitude and stays so, and is not written.

  The literals are those that stand in the text of the body, each compared with the number that was
  read there.
-/
import CallTracing.Proofs.Json.Numerals
import CallTracing.Proofs.Model.Facts
import CallTracing.Proofs.Text.Letters

namespace CallTracing

/-! ### Decimal texts -/

namespace Binary64

theorem toDigits_foldl {digits : List Char} (h : ∀ c ∈ digits, c.isDigit = true) {value : Nat}
    (hvalue : 0 < value) :
    Nat.toDigits 10 (digits.foldl (fun value c => value * 10 + (c.toNat - '0'.toNat)) value) =
      Nat.toDigits 10 value ++ digits := by
  induction digits generalizing value with
  | nil => exact (List.append_nil _).symm
  | cons c rest ih =>
    obtain ⟨hc, hrest⟩ := List.forall_mem_cons.mp h
    obtain ⟨d, hlt, hd, hchar⟩ := exists_digit hc
    rw [List.foldl_cons, hd, ih hrest (by omega), Nat.mul_comm value 10,
      ← Nat.toDigits_append_toDigits (by decide) hvalue hlt, hchar, List.append_assoc]
    rfl

/-- The digits of a whole number are those of its decimal text. -/
theorem toDigits_digitsValue {digits : List Char} (h : Json.IsWhole digits) :
    Nat.toDigits 10 (digitsValue digits) = digits := by
  obtain ⟨c, rest, rfl⟩ := List.exists_cons_of_ne_nil h.nonempty
  obtain ⟨hc, hrest⟩ := List.forall_mem_cons.mp h.isDigit
  obtain ⟨d, hlt, hd, hchar⟩ := exists_digit hc
  rcases Nat.eq_zero_or_pos d with rfl | hpos
  · -- a leading zero is the only digit
    have hzero : c = '0' := (List.cons.inj hchar).1.symm
    rw [h.leading (by rw [hzero]; rfl)]
    rfl
  · unfold digitsValue
    rw [List.foldl_cons, Nat.zero_mul, Nat.zero_add, hd, toDigits_foldl hrest hpos, hchar]
    rfl

end Binary64

/-- The literal of a whole number: its decimal text.  Zero may have a minus in front. -/
def WholeLiteral (literal : List Char) (n : Int) : Prop :=
  literal = (toString n).toList ∨ literal = ['-', '0'] ∧ n = 0

theorem wholeLiteral_signed (negative : Bool) {digits : List Char} (h : Json.IsWhole digits) :
    WholeLiteral (Json.signText negative ++ digits)
      (Binary64.signed negative (Binary64.digitsValue digits)) := by
  have hdigits := Binary64.toDigits_digitsValue h
  generalize Binary64.digitsValue digits = magnitude at hdigits ⊢
  subst hdigits
  cases negative with
  | false =>
    refine Or.inl ?_
    show Nat.toDigits 10 magnitude = (toString (Int.ofNat magnitude)).toList
    rw [Int.toString_eq_repr]
    show _ = magnitude.repr.toList
    rw [Nat.repr_eq_ofList_toDigits, String.toList_ofList]
  | true =>
    cases magnitude with
    | zero => exact Or.inr ⟨rfl, rfl⟩
    | succ k =>
      refine Or.inl ?_
      show '-' :: Nat.toDigits 10 (k + 1) = (toString (Int.negSucc k)).toList
      rw [Int.toString_eq_repr]
      show _ = ("-" ++ (k + 1).repr).toList
      have hminus : "-".toList = ['-'] := rfl
      rw [String.toList_append, hminus, Nat.repr_eq_ofList_toDigits, String.toList_ofList]
      rfl

/-! ### Numbers of literals -/

/-- What fits neither kind of whole numbers of 64 bits. -/
def OutOfRange (n : Int) : Prop := n < -9223372036854775808 ∨ 18446744073709551616 ≤ n

/-- The double that a whole number out of range becomes. -/
structure RoundedFrom (x : Binary64) (n : Int) : Prop where
  large : x.AtLeast (2 ^ 63)
  /-- Up to 64 bits without the sign, one rounding. -/
  nearest : n.natAbs < 2 ^ 64 → x.NearestTo n
  /-- Beyond, the leading digits and a power of ten. -/
  leading : 2 ^ 64 ≤ n.natAbs → Json.LeadingParts x (decide (n < 0)) n.natAbs

theorem atLeast_ofInt {n : Int} (h : 2 ^ 63 ≤ n.natAbs) : (Binary64.ofInt n).AtLeast (2 ^ 63) :=
  Binary64.atLeast_rounded_whole _ h

theorem roundedFrom_ofInt {n : Int} (hlarge : 2 ^ 63 ≤ n.natAbs) (hfits : n.natAbs < 2 ^ 64)
    (hfinite : (Binary64.ofInt n).isFinite = true) : RoundedFrom (Binary64.ofInt n) n where
  large := atLeast_ofInt hlarge
  nearest _ := Binary64.nearestTo_ofInt (Nat.le_trans (by decide) hlarge) hfinite
  leading h := absurd hfits (Nat.not_lt.mpr h)

theorem roundedFrom_leadingParts {x : Binary64} {negative : Bool} {magnitude : Nat}
    (h : Json.LeadingParts x negative magnitude) (hlarge : 2 ^ 64 ≤ magnitude) :
    RoundedFrom x (Binary64.signed negative magnitude) := by
  have hmagnitude := Binary64.natAbs_signed negative magnitude
  have hnegative : decide (Binary64.signed negative magnitude < 0) = negative := by
    cases negative with
    | true =>
      refine decide_eq_true ?_
      show -(magnitude : Int) < 0
      omega
    | false =>
      refine decide_eq_false ?_
      show ¬(magnitude : Int) < 0
      omega
  refine ⟨h.atLeast, fun hsmall => ?_, fun _ => ?_⟩
  · rw [hmagnitude] at hsmall
    exact absurd hsmall (Nat.not_lt.mpr hlarge)
  · rw [hmagnitude, hnegative]
    exact h

namespace Json

open Binary64 in
/-- A literal in range is kept as it is, or a double that is exact; any other one is rounded. -/
theorem number_cases (negative : Bool) {digits : List Char} (h : IsWhole digits) :
    let n := signed negative (digitsValue digits)
    let number := (wholeNumeral negative digits).number
    (number = .integer n ∧ ¬OutOfRange n) ∨ (number = .real (.zero true) ∧ n = 0) ∨
      ∃ x, number = .real x ∧ OutOfRange n ∧ (x.isFinite = true → RoundedFrom x n) := by
  have hsigned : Nat.pow 2 63 = 9223372036854775808 := by decide
  have hunsigned : Nat.pow 2 64 = 18446744073709551616 := by decide
  intro n number
  have hmagnitude : n.natAbs = digitsValue digits := natAbs_signed negative (digitsValue digits)
  unfold OutOfRange
  rcases Nat.lt_or_ge (digitsValue digits) (Nat.pow 2 64) with hfits | hlong
  · have hnumber : number = .ofLiteral negative (digitsValue digits) := number_whole negative hfits
    rw [hnumber]
    unfold JsonNumber.ofLiteral
    rw [hsigned]
    rw [hunsigned] at hfits
    cases negative with
    | false =>
      have hn : n = (digitsValue digits : Nat) := rfl
      rw [if_neg (by decide), hn]
      exact Or.inl ⟨rfl, by omega⟩
    | true =>
      have hn : n = -(digitsValue digits : Nat) := rfl
      rw [if_pos rfl, ← hn]
      split
      · next hzero => exact Or.inr (Or.inl ⟨rfl, by omega⟩)
      · split
        · exact Or.inl ⟨rfl, by omega⟩
        · refine Or.inr (Or.inr ⟨_, rfl, by omega, roundedFrom_ofInt ?_ ?_⟩)
          · omega
          · omega
  · obtain ⟨x, hnumber, hparts⟩ := number_long negative h.isDigit hlong
    refine Or.inr (Or.inr ⟨x, hnumber, ?_, fun _ => roundedFrom_leadingParts hparts hlong⟩)
    rw [hunsigned] at hlong
    omega

end Json

namespace JsonNumber

/-- Rounding does not bring a number back into the range of counts. -/
theorem whole_eq_none {x : Binary64} (h : x.AtLeast (2 ^ 63)) :
    (match x.toInt? with
      | some value => if value.natAbs < Nat.pow 2 63 then some value else none
      | none => none) = none := by
  split
  · next value hvalue => exact if_neg (Nat.not_lt.mpr (h.le_natAbs hvalue))
  · rfl

theorem toInt64?_integer (n : Int) :
    (IsInt64 n → (JsonNumber.integer n).toInt64? = some n) ∧
      (¬IsInt64 n → (JsonNumber.integer n).toInt64? = none) := by
  have hpow : Int.pow 2 63 = 9223372036854775808 := by decide
  unfold toInt64?
  dsimp only
  rw [hpow]
  constructor
  · intro h
    unfold IsInt64 at h
    exact if_pos (by omega)
  · intro h
    unfold IsInt64 at h
    refine Eq.trans (if_neg ?_) (whole_eq_none (atLeast_ofInt ?_))
    · omega
    · omega

theorem toInt64?_zero (negative : Bool) : (real (.zero negative)).toInt64? = some 0 := by
  unfold toInt64?
  dsimp only
  rw [Binary64.toInt?_zero]
  rfl

end JsonNumber

/-! ### Counts of a body -/

/-- What becomes of a number whose literal is that of `n`. -/
structure CountsAs (number : JsonNumber) (n : Int) : Prop where
  kept : IsInt64 n → ∀ (set : AttributeSet) (name : String),
    set.putCount name (some (.number number)) = set.put name (.text (toString n))
  dropped : ¬IsInt64 n → ∀ (set : AttributeSet) (name : String),
    set.putCount name (some (.number number)) = set
  rounded : OutOfRange n → ∃ x, number = .real x ∧ RoundedFrom x n

/-- If the numeral is that of a whole number, its number counts as that one. -/
def CountedExactly (literal : List Char) (number : JsonNumber) : Prop :=
  literal.any Json.isPartMark = false → ∃ n, WholeLiteral literal n ∧ CountsAs number n

/-- A number counts as `n` if it gives `n` just where that fits 64 bits. -/
theorem countsAs_of_toInt64? {number : JsonNumber} {n : Int}
    (hkept : IsInt64 n → number.toInt64? = some n) (hdropped : ¬IsInt64 n → number.toInt64? = none)
    (hrounded : OutOfRange n → ∃ x, number = .real x ∧ RoundedFrom x n) : CountsAs number n := by
  refine ⟨fun hrange set name => ?_, fun hrange set name => ?_, hrounded⟩
  · unfold AttributeSet.putCount
    dsimp only
    rw [hkept hrange]
  · unfold AttributeSet.putCount
    dsimp only
    rw [hdropped hrange]

theorem countsAs_number {negative : Bool} {digits : List Char} (h : Json.IsWhole digits)
    (hfinite : (Json.wholeNumeral negative digits).number.isFinite = true) :
    CountsAs (Json.wholeNumeral negative digits).number
      (Binary64.signed negative (Binary64.digitsValue digits)) := by
  rcases Json.number_cases negative h with ⟨heq, hin⟩ | ⟨heq, hzero⟩ | ⟨x, heq, hout, hrounded⟩
  · obtain ⟨hkept, hdropped⟩ := JsonNumber.toInt64?_integer
      (Binary64.signed negative (Binary64.digitsValue digits))
    rw [heq]
    exact countsAs_of_toInt64? hkept hdropped fun hout => absurd hout hin
  · have hrange : IsInt64 0 := by
      unfold IsInt64
      decide
    have hin : ¬OutOfRange 0 := by
      unfold OutOfRange
      decide
    rw [heq, hzero]
    exact countsAs_of_toInt64? (fun _ => JsonNumber.toInt64?_zero true)
      (fun hout => absurd hrange hout) fun hout => absurd hout hin
  · rw [heq] at hfinite ⊢
    have hrounded := hrounded hfinite
    refine countsAs_of_toInt64? (fun hin => ?_) (fun _ => JsonNumber.whole_eq_none hrounded.large)
      fun _ => ⟨x, rfl, hrounded⟩
    unfold OutOfRange at hout
    unfold IsInt64 at hin
    omega

theorem countedExactly_of_denotes {literal : List Char} {number : JsonNumber}
    (h : Json.Denotes literal number) (hfinite : number.isFinite = true) :
    CountedExactly literal number := by
  intro hwhole
  cases h with
  | whole negative hdigits =>
    exact ⟨_, wholeLiteral_signed negative hdigits, countsAs_number hdigits hfinite⟩
  | real x hmark =>
    rw [hmark] at hwhole
    cases hwhole

theorem countedExactly_of_forall₂ {literals : List (List Char)} {numbers : List JsonNumber}
    (h : List.Forall₂ Json.Denotes literals numbers) (hfinite : ∀ n ∈ numbers, n.isFinite = true) :
    List.Forall₂ CountedExactly literals numbers := by
  induction h with
  | nil => exact .nil
  | cons hdenotes _ ih =>
    obtain ⟨hnumber, hrest⟩ := List.forall_mem_cons.mp hfinite
    exact .cons (countedExactly_of_denotes hdenotes hnumber) (ih hrest)

/-- **Every literal of a whole number in the text of a body is counted exactly**, and the body holds
no other numbers than those of its literals. -/
theorem whole_literals_counted {text : String} {body : Json} (h : Json.parse? text = some body) :
    ∃ written, Json.readWhole? text = some written ∧ body = written.collapsed ∧
      List.Forall₂ CountedExactly (Json.numerals text.toList) written.numbers ∧
      ∀ path number, body.at? path = some (.number number) → number ∈ written.numbers := by
  obtain ⟨written, hread, hsettled⟩ := Option.bind_eq_some_iff.mp h
  split at hsettled
  · next hlimits =>
    have hfinite := Json.isFinite_of_allFinite written hlimits.2
    have hdenote := Json.denote_readWhole? hread
    obtain rfl := Option.some.inj hsettled
    refine ⟨written, hread, rfl, countedExactly_of_forall₂ hdenote hfinite, ?_⟩
    intro path number hnumber
    exact Json.mem_numbers_of_collapsed written (Json.mem_numbers_of_at? hnumber)
  · cases hsettled

/-- A body with numbers around the ends of their ranges, and digits in a string. -/
def edgeText : String :=
  "\x7b\"v-2\":[-0,9223372036854775807,-9223372036854775808,9223372036854775808,-1e2]," ++
    "\"limit\":18446744073709551616\x7d"

/-- The numbers of that body. -/
def edgeNumbers : List JsonNumber :=
  [.real (.zero true), .integer 9223372036854775807, .integer (-9223372036854775808),
    .integer 9223372036854775808, .real (Binary64.ofInt (-100)),
    .real (Binary64.ofInt 18446744073709551616)]

/-- The first four literals are kept as they are, and the last one is rounded; what is more than
`2 ^ 63 - 1` is no count. -/
theorem edgeText_counted :
    (Json.parse? edgeText).isSome = true ∧
    Json.numerals edgeText.toList =
      ["-0".toList, "9223372036854775807".toList, "-9223372036854775808".toList,
        "9223372036854775808".toList, "-1e2".toList, "18446744073709551616".toList] ∧
    List.Forall₂ CountedExactly (Json.numerals edgeText.toList) edgeNumbers ∧
    edgeNumbers.map JsonNumber.toInt64? =
      [some 0, some 9223372036854775807, some (-9223372036854775808), none, some (-100), none] := by
  have haccepted : (Json.parse? edgeText).isSome = true := by decide +kernel
  have hnumbers : (Json.readWhole? edgeText).map Json.numbers = some edgeNumbers := by
    decide +kernel
  obtain ⟨body, hbody⟩ := Option.isSome_iff_exists.mp haccepted
  obtain ⟨written, hread, -, hcounted, -⟩ := whole_literals_counted hbody
  rw [hread, Option.map_some, Option.some.injEq] at hnumbers
  rw [hnumbers] at hcounted
  exact ⟨haccepted, by decide +kernel, hcounted, by decide +kernel⟩

end CallTracing
