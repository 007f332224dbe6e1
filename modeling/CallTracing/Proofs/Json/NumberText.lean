/-
  CallTracing/Proofs/Json/NumberText.lean
  =======================================
  **What the text of a number is read as.**

  Of a double the digits of its shortest decimal are written, around a point or before an exponent;
  whichever layout it is, the text is a numeral (`Spells`), and no double is nearer to the numeral
  than the one that was written (`Numeral.Says`).  The numeral ends where the text goes on with what
  is in none (`Stops`).  So two numbers with the same text are the same (`text_inj`).

  The reader is another matter, because it does not always take the nearest double.  It gives back
  every whole number (`reread_integer`), but of a double only what it makes of the numeral
  (`readNumber_text`).
-/
import CallTracing.Proofs.Binary64.ReadsBack
import CallTracing.Proofs.Json.Numerals

namespace CallTracing

/-! ### Digits of whole numbers -/

namespace Binary64

theorem isWhole_toDigits (n : Nat) : Json.IsWhole (Nat.toDigits 10 n) := by
  refine ⟨Nat.toDigits_ne_nil, isDigit_toDigits n, fun hhead => ?_⟩
  rcases Nat.eq_zero_or_pos n with rfl | hpos
  · rfl
  · exact absurd hhead (head?_toDigits hpos)

/-! ### Significant digits -/

/-- Digits without a zero in front. -/
structure IsLeading (digits : List Char) : Prop where
  nonempty : digits ≠ []
  isDigit : ∀ c ∈ digits, c.isDigit = true
  head : digits.head? ≠ some '0'

theorem IsLeading.isWhole_append {digits : List Char} (h : IsLeading digits) {more : List Char}
    (hmore : ∀ c ∈ more, c.isDigit = true) : Json.IsWhole (digits ++ more) := by
  refine ⟨fun hnil => h.nonempty (List.append_eq_nil_iff.mp hnil).1,
    List.forall_mem_append.mpr ⟨h.isDigit, hmore⟩, fun hhead => ?_⟩
  rw [List.head?_append_of_ne_nil _ h.nonempty] at hhead
  exact absurd hhead h.head

theorem IsLeading.isWhole_take {digits : List Char} (h : IsLeading digits) (k : Nat) :
    Json.IsWhole (digits.take (k + 1)) := by
  obtain ⟨first, more, rfl⟩ := List.exists_cons_of_ne_nil h.nonempty
  exact ⟨List.cons_ne_nil _ _, fun c hc => h.isDigit c (List.mem_of_mem_take hc),
    fun hhead => absurd hhead h.head⟩

/-- Only zeros stand behind the significant digits. -/
theorem toDigits_significant {n : Nat} (h : 0 < n) :
    IsLeading (significant n) ∧
      ∃ zeros, Nat.toDigits 10 n = significant n ++ List.replicate zeros '0' := by
  have hsplit : Nat.toDigits 10 n = ((Nat.toDigits 10 n).reverse.dropWhile (· == '0')).reverse ++
      ((Nat.toDigits 10 n).reverse.takeWhile (· == '0')).reverse := by
    rw [← List.reverse_append, List.takeWhile_append_dropWhile, List.reverse_reverse]
  have hzeros : ((Nat.toDigits 10 n).reverse.takeWhile (· == '0')).reverse =
      List.replicate ((Nat.toDigits 10 n).reverse.takeWhile (· == '0')).length '0' := by
    refine List.eq_replicate_iff.mpr ⟨List.length_reverse, fun c hc => ?_⟩
    exact beq_iff_eq.mp (List.all_eq_true.mp List.all_takeWhile c (List.mem_reverse.mp hc))
  have hnonempty : ((Nat.toDigits 10 n).reverse.dropWhile (· == '0')).reverse ≠ [] := by
    intro hnil
    rw [hnil, List.nil_append, hzeros] at hsplit
    refine head?_toDigits h ?_
    rw [hsplit, List.head?_replicate, if_neg]
    intro hnone
    rw [hnone] at hsplit
    exact Nat.toDigits_ne_nil hsplit
  have hsignificant : significant n =
      ((Nat.toDigits 10 n).reverse.dropWhile (· == '0')).reverse := by
    unfold significant
    split
    · next hnil => exact absurd hnil hnonempty
    · rfl
  rw [← hsignificant] at hsplit hnonempty
  refine ⟨⟨hnonempty, fun c hc => isDigit_toDigits n c ?_, fun hhead => head?_toDigits h ?_⟩, _,
    hzeros ▸ hsplit⟩
  · rw [hsplit]
    exact List.mem_append_left _ hc
  · rw [hsplit, List.head?_append_of_ne_nil _ hnonempty, hhead]

/-- Digits that stand for a double where the leading one is at an exponent. -/
structure Leads (mantissa : Nat) (exponent : Int) (digits : List Char) (leading : Int) : Prop
    extends IsLeading digits where
  around : Around mantissa exponent (digitsValue digits * 10 ^ (leading + 1 - digits.length))

theorem leads_significant {mantissa : Nat} {exponent : Int} (h : IsNormal mantissa exponent)
    (hpos : 0 < mantissa) (tie : Tie) :
    Leads mantissa exponent (significant (shortest tie mantissa exponent).digits)
      ((Nat.toDigits 10 (shortest tie mantissa exponent).digits).length - 1 +
        (shortest tie mantissa exponent).exponent) := by
  obtain ⟨hleading, zeros, hdigits⟩ := toDigits_significant (shortest_digits_pos tie h hpos)
  refine ⟨hleading, ?_⟩
  have haround := around_shortest tie h hpos
  generalize shortest tie mantissa exponent = decimal at *
  have hvalue := digitsValue_toDigits decimal.digits
  rw [hdigits, digitsValue_append, digitsValue_zeros, List.length_replicate, Nat.add_zero] at hvalue
  rw [← hvalue, Nat.cast_mul, Nat.cast_pow, Nat.cast_ofNat, mul_assoc, ← zpow_natCast,
    ← zpow_add₀ (by norm_num)] at haround
  rw [hdigits, List.length_append, List.length_replicate]
  convert haround using 3
  push_cast
  ring

/-- A numeral is read as the double that its decimal lies around. -/
theorem ofNumeral_eq {mantissa : Nat} {exponent shift : Int} {whole fraction : List Char}
    (h : IsNormal mantissa exponent) (hpos : 0 < mantissa)
    (haround : Around mantissa exponent
      (digitsValue (whole ++ fraction) * 10 ^ (shift - fraction.length))) (negative : Bool) :
    ofNumeral negative whole fraction shift = .finite negative mantissa exponent :=
  ofDecimal_eq h hpos haround negative

end Binary64

namespace Json

open Binary64

/-! ### Parts of a numeral, read -/

theorem Stops.ne {c d : Char} {rest : List Char} (h : Stops (c :: rest)) (hd : inNumeral d = true) :
    c ≠ d := by
  rintro rfl
  rw [h c rfl] at hd
  cases hd

theorem spanDigits_digits {digits rest : List Char} (hdigits : ∀ c ∈ digits, c.isDigit = true)
    (hrest : ∀ c, rest.head? = some c → c.isDigit = false) :
    spanDigits (digits ++ rest) = (digits, rest) := by
  unfold spanDigits
  rw [List.takeWhile_append_of_pos hdigits, List.dropWhile_append_of_pos hdigits]
  cases rest with
  | nil => rw [List.takeWhile_nil, List.append_nil, List.dropWhile_nil]
  | cons c rest =>
    have hc : ¬c.isDigit = true := by simp [hrest c rfl]
    rw [List.takeWhile_cons_of_neg hc, List.dropWhile_cons_of_neg hc, List.append_nil]

theorem isDigit_of_stops {rest : List Char} (h : Stops rest) :
    ∀ c, rest.head? = some c → c.isDigit = false := by
  intro c hc
  have hstop := h c hc
  cases hdigit : c.isDigit with
  | false => rfl
  | true => rw [inNumeral_of_isDigit hdigit] at hstop; cases hstop

theorem wholePart?_digits {digits rest : List Char} (h : IsWhole digits)
    (hrest : ∀ c, rest.head? = some c → c.isDigit = false) :
    wholePart? (digits ++ rest) = some (digits, rest) := by
  unfold wholePart?
  split
  · next more heq =>
    have hlone : digits = ['0'] := by
      obtain ⟨c, others, rfl⟩ := List.exists_cons_of_ne_nil h.nonempty
      rw [List.cons_append] at heq
      exact h.leading (congrArg some (List.cons.inj heq).1)
    subst hlone
    obtain rfl : rest = more := (List.cons.inj heq).2
    rfl
  · rw [spanDigits_digits h.isDigit hrest]
    dsimp only
    rw [if_neg (mt List.isEmpty_iff.mp h.nonempty)]

theorem fractionPart?_digits {digits rest : List Char} (hne : digits ≠ [])
    (hdigits : ∀ c ∈ digits, c.isDigit = true)
    (hrest : ∀ c, rest.head? = some c → c.isDigit = false) :
    fractionPart? ('.' :: (digits ++ rest)) = some (some digits, rest) := by
  show (if (spanDigits (digits ++ rest)).1.isEmpty then none else some
    (some (spanDigits (digits ++ rest)).1, (spanDigits (digits ++ rest)).2)) = _
  rw [spanDigits_digits hdigits hrest]
  exact if_neg (mt List.isEmpty_iff.mp hne)

theorem fractionPart?_absent {rest : List Char} (h : rest.head? ≠ some '.') :
    fractionPart? rest = some (none, rest) := by
  unfold fractionPart?
  split
  · exact absurd rfl h
  · rfl

theorem exponentPart?_digits (negative : Bool) {digits rest : List Char} (hne : digits ≠ [])
    (hdigits : ∀ c ∈ digits, c.isDigit = true)
    (hrest : ∀ c, rest.head? = some c → c.isDigit = false) :
    exponentPart? ('e' :: (if negative then '-' else '+') :: (digits ++ rest)) =
      some (some (signed negative (digitsValue digits)), rest) := by
  have hsign : exponentPart? ('e' :: (if negative then '-' else '+') :: (digits ++ rest)) =
      if (spanDigits (digits ++ rest)).1.isEmpty then none else some
        (some (signed negative (digitsValue (spanDigits (digits ++ rest)).1)),
          (spanDigits (digits ++ rest)).2) := by
    cases negative <;> rfl
  rw [hsign, spanDigits_digits hdigits hrest]
  exact if_neg (mt List.isEmpty_iff.mp hne)

theorem exponentPart?_absent {rest : List Char} (h : Stops rest) :
    exponentPart? rest = some (none, rest) := by
  unfold exponentPart?
  split
  · rw [if_neg]
    rintro (rfl | rfl)
    · exact h.ne (d := 'e') rfl rfl
    · exact h.ne (d := 'E') rfl rfl
  · rfl

/-! ### Numerals and what they say -/

/-- The double nearest to a numeral. -/
def Numeral.nearest (numeral : Numeral) : Binary64 :=
  ofNumeral numeral.negative numeral.whole (numeral.fraction.getD []) (numeral.exponent.getD 0)

/-- What a numeral says: the whole number that is made of it or, with a fraction or an exponent, the
double that is nearest to it. -/
def Numeral.Says (numeral : Numeral) : JsonNumber → Prop
  | .integer n => numeral.number = .integer n
  | .real x => (numeral.fraction.isSome = true ∨ numeral.exponent.isSome = true) ∧
      numeral.nearest = x

theorem Numeral.Says.unique {numeral : Numeral} {n m : JsonNumber} (hn : numeral.Says n)
    (hm : numeral.Says m) : n = m := by
  cases n with
  | integer =>
    cases m with
    | integer => exact hn.symm.trans hm
    | real => exact nomatch (number_real hm.1).symm.trans hn
  | real =>
    cases m with
    | integer => exact nomatch (number_real hn.1).symm.trans hm
    | real => exact congrArg JsonNumber.real (hn.2.symm.trans hm.2)

/-- A text that is read as a numeral, whatever stands behind it. -/
def Spells (text : List Char) (numeral : Numeral) : Prop :=
  ∀ rest, Stops rest → readNumeral (text ++ rest) = some (numeral, rest)

theorem Spells.readNumeral {text : List Char} {numeral : Numeral} (h : Spells text numeral) :
    readNumeral text = some (numeral, []) := by
  have hread := h [] stops_nil
  rwa [List.append_nil] at hread

/-- A text without a sign that is read as a numeral, whatever stands behind it. -/
def SpellsMagnitude (text : List Char) (numeral : Numeral) : Prop :=
  ∀ rest, Stops rest → readMagnitude numeral.negative (text ++ rest) = some (numeral, rest)

theorem readMagnitude_parts (negative : Bool) {text whole behind last rest : List Char}
    {fraction : Option (List Char)} {exponent : Option Int}
    (hwhole : wholePart? text = some (whole, behind))
    (hfraction : fractionPart? behind = some (fraction, last))
    (hexponent : exponentPart? last = some (exponent, rest)) :
    readMagnitude negative text = some (⟨negative, whole, fraction, exponent⟩, rest) := by
  simp only [readMagnitude, hwhole, hfraction, hexponent, Option.bind_eq_bind, Option.bind_some]
  rfl

theorem spellsMagnitude_whole (negative : Bool) {digits : List Char} (h : IsWhole digits) :
    SpellsMagnitude digits (wholeNumeral negative digits) := by
  intro rest hrest
  have hpoint : rest.head? ≠ some '.' := fun hpoint => nomatch hrest '.' hpoint
  exact readMagnitude_parts negative (wholePart?_digits h (isDigit_of_stops hrest))
    (fractionPart?_absent hpoint) (exponentPart?_absent hrest)

theorem spellsMagnitude_point (negative : Bool) {whole fraction : List Char}
    (h : IsWhole whole) (hne : fraction ≠ []) (hfraction : ∀ c ∈ fraction, c.isDigit = true) :
    SpellsMagnitude (whole ++ '.' :: fraction) ⟨negative, whole, some fraction, none⟩ := by
  intro rest hrest
  rw [List.append_assoc]
  exact readMagnitude_parts negative (wholePart?_digits h (fun c hc => by cases hc; rfl))
    (fractionPart?_digits hne hfraction (isDigit_of_stops hrest)) (exponentPart?_absent hrest)

/-- A numeral without a sign in front. -/
theorem readNumeral_of_readMagnitude {text rest : List Char} {numeral : Numeral}
    (h : readMagnitude false text = some (numeral, rest)) :
    readNumeral text = some (numeral, rest) := by
  unfold readNumeral
  split
  · cases h
  · exact h

theorem SpellsMagnitude.spells {text : List Char} {numeral : Numeral}
    (h : SpellsMagnitude text numeral) : Spells (signText numeral.negative ++ text) numeral := by
  intro rest hrest
  have hread := h rest hrest
  cases hnegative : numeral.negative with
  | true =>
    rw [hnegative] at hread
    exact hread
  | false =>
    rw [hnegative] at hread
    exact readNumeral_of_readMagnitude hread

/-! ### Doubles -/

/-- A text without a sign that is read as a numeral to which a double is nearest. -/
def StandsFor (text : List Char) (negative : Bool) (mantissa : Nat) (exponent : Int) : Prop :=
  ∃ numeral : Numeral, numeral.negative = negative ∧ SpellsMagnitude text numeral ∧
    numeral.Says (.real (.finite negative mantissa exponent))

section

variable {mantissa : Nat} {exponent leading : Int} {digits : List Char}

theorem isDigit_zeros (k : Nat) : ∀ c ∈ List.replicate k '0', c.isDigit = true := by
  intro c hc
  rw [List.eq_of_mem_replicate hc]
  rfl

/-- Digits around a point stand for the double that they lie around. -/
theorem standsFor_placed {whole fraction : List Char} (h : IsNormal mantissa exponent)
    (hpos : 0 < mantissa) (hwhole : IsWhole whole) (hne : fraction ≠ [])
    (hfraction : ∀ c ∈ fraction, c.isDigit = true)
    (haround : Around mantissa exponent
      (digitsValue (whole ++ fraction) * 10 ^ (0 - (fraction.length : Int))))
    (negative : Bool) : StandsFor (whole ++ '.' :: fraction) negative mantissa exponent :=
  ⟨_, rfl, spellsMagnitude_point negative hwhole hne hfraction, Or.inl rfl,
    ofNumeral_eq h hpos haround negative⟩

theorem standsFor_plainDigits (h : IsNormal mantissa exponent) (hpos : 0 < mantissa)
    (hdigits : Leads mantissa exponent digits leading) (negative : Bool) :
    StandsFor (plainDigits true digits leading) negative mantissa exponent := by
  have haround := hdigits.around
  unfold plainDigits
  split
  · next hbelow =>
    have hfraction : List.replicate (-leading - 1).toNat '0' ++ digits ≠ [] :=
      fun hnil => hdigits.nonempty (List.append_eq_nil_iff.mp hnil).2
    have hwhole : IsWhole ['0'] := isWhole_toDigits 0
    refine standsFor_placed h hpos hwhole hfraction
      (List.forall_mem_append.mpr ⟨isDigit_zeros _, hdigits.isDigit⟩) ?_ negative
    rw [← List.append_assoc, digitsValue_append, ← List.replicate_one,
      List.replicate_append_replicate, digitsValue_zeros, Nat.zero_mul, Nat.zero_add,
      List.length_append, List.length_replicate]
    convert haround using 3
    omega
  · next habove =>
    dsimp only
    split
    · next hfew =>
      have hwhole := hdigits.isWhole_append (isDigit_zeros (leading.toNat + 1 - digits.length))
      refine standsFor_placed h hpos hwhole (List.cons_ne_nil '0' []) (isDigit_zeros 1) ?_ negative
      rw [List.append_assoc, ← List.replicate_one, List.replicate_append_replicate,
        digitsValue_append, digitsValue_zeros, Nat.add_zero, List.length_replicate,
        List.length_replicate, Nat.cast_mul, Nat.cast_pow, Nat.cast_ofNat, mul_assoc,
        ← zpow_natCast, ← zpow_add₀ (by norm_num)]
      convert haround using 3
      omega
    · next hmany =>
      have hfraction : digits.drop (leading.toNat + 1) ≠ [] :=
        fun hnil => hmany (List.drop_eq_nil_iff.mp hnil)
      refine standsFor_placed h hpos (hdigits.isWhole_take leading.toNat) hfraction
        (fun c hc => hdigits.isDigit c (List.mem_of_mem_drop hc)) ?_ negative
      rw [List.take_append_drop, List.length_drop]
      convert haround using 3
      omega

theorem standsFor_exponentDigits (h : IsNormal mantissa exponent) (hpos : 0 < mantissa)
    (hdigits : Leads mantissa exponent digits leading) (negative : Bool) :
    StandsFor (exponentDigits true digits leading) negative mantissa exponent := by
  have haround := hdigits.around
  have hsign : (if leading < 0 then ['-'] else if true then ['+'] else []) =
      [if decide (leading < 0) then '-' else '+'] := by
    by_cases hbelow : leading < 0 <;> simp [hbelow]
  have hexponent {rest : List Char} (hrest : Stops rest) :=
    exponentPart?_digits (decide (leading < 0)) Nat.toDigits_ne_nil
      (isDigit_toDigits leading.natAbs) (isDigit_of_stops hrest)
  simp only [digitsValue_toDigits, signed_natAbs] at hexponent
  unfold exponentDigits
  dsimp only
  rw [hsign]
  have hwhole := hdigits.isWhole_take 0
  obtain ⟨first, more, rfl⟩ := List.exists_cons_of_ne_nil hdigits.nonempty
  rw [List.take_succ_cons, List.take_zero] at hwhole
  have hplaces : leading + 1 - ((first :: more).length : Int) = leading - more.length := by
    rw [List.length_cons]
    omega
  rw [hplaces] at haround
  cases more with
  | nil =>
    refine ⟨⟨negative, [first], none, some leading⟩, rfl, fun rest hrest => ?_, Or.inr rfl,
      ofNumeral_eq h hpos haround negative⟩
    have hread := readMagnitude_parts negative
      (wholePart?_digits hwhole (fun c hc => by cases hc; rfl))
      (fractionPart?_absent (by simp)) (hexponent hrest)
    rw [← hread]
    simp only [List.cons_append, List.nil_append]
  | cons second more =>
    have hmore := (List.forall_mem_cons.mp hdigits.isDigit).2
    refine ⟨⟨negative, [first], some (second :: more), some leading⟩, rfl, fun rest hrest => ?_,
      Or.inl rfl, ofNumeral_eq h hpos haround negative⟩
    have hread := readMagnitude_parts negative
      (wholePart?_digits hwhole (fun c hc => by cases hc; rfl))
      (fractionPart?_digits (List.cons_ne_nil _ _) hmore (fun c hc => by cases hc; rfl))
      (hexponent hrest)
    rw [← hread]
    simp only [List.cons_append, List.nil_append, List.append_assoc]

theorem standsFor_magnitudeText (h : IsNormal mantissa exponent) (negative : Bool) :
    StandsFor (magnitudeText jsonLayout mantissa exponent) negative mantissa exponent := by
  unfold magnitudeText
  split
  · next hzero =>
    subst hzero
    have hleast : exponent = leastExponent := h.full.resolve_right (by decide)
    rw [hleast]
    exact ⟨_, rfl, spellsMagnitude_point negative (isWhole_toDigits 0) (List.cons_ne_nil '0' [])
      (isDigit_zeros 1), Or.inl rfl, rfl⟩
  · next hne =>
    have hpos := Nat.pos_of_ne_zero hne
    have hdigits := leads_significant h hpos jsonLayout.tie
    dsimp only
    split
    · exact standsFor_plainDigits h hpos hdigits negative
    · exact standsFor_exponentDigits h hpos hdigits negative

end

/-! ### Whole numbers -/

theorem toList_toString_ofNat (n : Nat) :
    (toString (Int.ofNat n)).toList = Nat.toDigits 10 n := by
  rw [Int.toString_eq_repr]
  exact Nat.toList_repr

theorem toList_toString_negSucc (n : Nat) :
    (toString (Int.negSucc n)).toList = '-' :: Nat.toDigits 10 (n + 1) := by
  have hrepr : (toString (Int.negSucc n)) = "-" ++ (n + 1).repr := Int.toString_eq_repr
  rw [hrepr, String.toList_append, Nat.toList_repr]
  rfl

/-- The text of a whole number is a numeral of which the number is made again. -/
theorem spells_integer {n : Int} (h : (JsonNumber.integer n).IsKept) :
    ∃ numeral, Spells (toString n).toList numeral ∧ numeral.number = .integer n := by
  obtain ⟨hlow, hhigh⟩ := h
  have hspells (negative : Bool) (magnitude : Nat) :=
    (spellsMagnitude_whole negative (isWhole_toDigits magnitude)).spells
  have hnumber (negative : Bool) {magnitude : Nat} (hfits : magnitude < Nat.pow 2 64) :
      (wholeNumeral negative (Nat.toDigits 10 magnitude)).number =
        .ofLiteral negative magnitude := by
    rw [number_whole negative (by rwa [digitsValue_toDigits]), digitsValue_toDigits]
  cases n with
  | ofNat magnitude =>
    rw [toList_toString_ofNat]
    exact ⟨_, hspells false magnitude, hnumber false (Int.ofNat_lt.mp hhigh)⟩
  | negSucc below =>
    have hfits : below + 1 ≤ Nat.pow 2 63 := by omega
    have hliteral : JsonNumber.ofLiteral true (below + 1) = .integer (Int.negSucc below) := by
      unfold JsonNumber.ofLiteral
      rw [if_pos rfl, if_neg (Nat.succ_ne_zero below), if_pos hfits]
      rfl
    rw [toList_toString_negSucc, ← hliteral]
    exact ⟨_, hspells true (below + 1), hnumber true (Nat.lt_of_le_of_lt hfits (by decide))⟩

end Json

/-! ### Numbers -/

namespace JsonNumber

open Json

/-- What is made of the text of a number when it is read. -/
def reread (n : JsonNumber) : JsonNumber :=
  match readNumber n.text.toList with
  | some (read, _) => read
  | none => n

variable {n m : JsonNumber}

/-- The text of a finite number is a numeral that says what the number is. -/
theorem spells_text (h : n.IsKept) (hfinite : n.isFinite = true) :
    ∃ numeral, Spells n.text.toList numeral ∧ numeral.Says n := by
  cases n with
  | integer n => exact spells_integer h
  | real x =>
    cases x with
    | finite negative mantissa exponent =>
      obtain ⟨numeral, rfl, hspells, hsays⟩ := standsFor_magnitudeText h negative
      refine ⟨numeral, ?_, hsays⟩
      show Spells (String.ofList _).toList numeral
      rw [String.toList_ofList]
      exact hspells.spells
    | infinite _ => cases hfinite
    | nan => cases hfinite

theorem reread_of_spells {numeral : Json.Numeral} (h : Spells n.text.toList numeral) :
    n.reread = numeral.number := by
  unfold reread readNumber
  rw [h.readNumeral]
  rfl

theorem isKept_reread (h : n.IsKept) : n.reread.IsKept := by
  unfold reread
  split
  · next hread => exact isKept_readNumber hread
  · exact h

/-- A whole number is read as it was written. -/
theorem reread_integer {n : Int} (h : (integer n).IsKept) : (integer n).reread = .integer n := by
  obtain ⟨numeral, hspells, hnumber⟩ := spells_integer h
  exact (reread_of_spells (n := .integer n) hspells).trans hnumber

theorem text_inj (hn : n.IsKept ∧ n.isFinite = true) (hm : m.IsKept ∧ m.isFinite = true)
    (h : n.text = m.text) : n = m := by
  obtain ⟨numeral, hspells, hsays⟩ := spells_text hn.1 hn.2
  obtain ⟨numeral', hspells', hsays'⟩ := spells_text hm.1 hm.2
  have hread := hspells.readNumeral
  rw [h, hspells'.readNumeral, Option.some.injEq, Prod.mk.injEq] at hread
  obtain ⟨rfl, -⟩ := hread
  exact hsays.unique hsays'

end JsonNumber

namespace Json

/-- A number that was written is read as far as its text goes. -/
theorem readNumber_text {n : JsonNumber} (h : n.IsKept) (hfinite : n.isFinite = true)
    {rest : List Char} (hrest : Stops rest) :
    readNumber (n.text.toList ++ rest) = some (n.reread, rest) := by
  obtain ⟨numeral, hspells, -⟩ := JsonNumber.spells_text h hfinite
  rw [JsonNumber.reread_of_spells hspells]
  exact readNumber_eq_some_iff.mpr ⟨numeral, hspells rest hrest, rfl⟩

end Json

end CallTracing
