/-
  CallTracing/Proofs/Json/Numerals.lean
  =====================================
  **The numbers of a JSON value are the numerals of its text, one for one.**

  A text can be searched for numerals without being read as JSON: strings are passed over, and
  outside of them a numeral begins with a digit or a minus and goes on as far as its characters do
  (`numerals`).  Where the reader accepts a text, the numbers of the value, in the order of reading,
  stand for the numerals found this way (`denote_readWhole?`).

  Reading is followed along the fuel, values, items and members together.  A number is read as far
  as the grammar goes and not as far as the characters do; that both end at the same place is known
  from what the reader asks for behind the value, a blank, a comma or a closing bracket (`Stops`).
-/
import CallTracing.Json.Reader
import CallTracing.Proofs.Json.Numbers
import CallTracing.Proofs.Json.Significand
import Mathlib.Data.List.Forall2

namespace CallTracing.Json

/-! ### Numerals of a text -/

/-- The characters that a numeral begins with. -/
def startsNumeral (c : Char) : Bool := c == '-' || c.isDigit

/-- The marks that a numeral has if it is not that of a whole number. -/
def isPartMark (c : Char) : Bool := c == '.' || c == 'e' || c == 'E'

/-- The characters of numerals. -/
def inNumeral (c : Char) : Bool := startsNumeral c || isPartMark c || c == '+'

/-- How many characters a string takes behind its opening quote, with the closing one. -/
def stringLength : List Char → Nat
  | [] => 0
  | '"' :: _ => 1
  | '\\' :: _ :: rest => stringLength rest + 2
  | _ :: rest => stringLength rest + 1

/-- The numerals of a text outside of its strings, behind some characters that are passed over. -/
def numeralsFrom : Nat → List Char → List (List Char)
  | _, [] => []
  | skip + 1, _ :: rest => numeralsFrom skip rest
  | 0, c :: rest =>
    if c = '"' then numeralsFrom (stringLength rest) rest
    else if startsNumeral c then
      (c :: rest.takeWhile inNumeral) :: numeralsFrom (rest.takeWhile inNumeral).length rest
    else numeralsFrom 0 rest

/-- The numerals of a text outside of its strings. -/
def numerals (text : List Char) : List (List Char) := numeralsFrom 0 text

/-- A text that does not go on with a numeral. -/
def Stops (text : List Char) : Prop := ∀ c, text.head? = some c → inNumeral c = false

theorem stops_nil : Stops [] := fun _ hc => nomatch hc

theorem stops_cons {c : Char} (h : inNumeral c = false) (rest : List Char) : Stops (c :: rest) := by
  rintro d hd
  rw [← Option.some.inj hd]
  exact h

theorem numeralsFrom_eq (skip : Nat) (text : List Char) :
    numeralsFrom skip text = numerals (text.drop skip) := by
  induction text generalizing skip with
  | nil => cases skip <;> rfl
  | cons c rest ih =>
    cases skip with
    | zero => rfl
    | succ skip => exact ih skip

theorem numerals_nil : numerals [] = [] := rfl

theorem numerals_quote (rest : List Char) :
    numerals ('"' :: rest) = numerals (rest.drop (stringLength rest)) :=
  numeralsFrom_eq (stringLength rest) rest

theorem numerals_plain {c : Char} (hquote : c ≠ '"') (hc : startsNumeral c = false)
    (rest : List Char) : numerals (c :: rest) = numerals rest := by
  unfold numerals
  rw [numeralsFrom, if_neg hquote, if_neg (by rw [hc]; decide)]

theorem takeWhile_stops {more rest : List Char} (hmore : ∀ c ∈ more, inNumeral c = true)
    (hrest : Stops rest) : (more ++ rest).takeWhile inNumeral = more := by
  rw [List.takeWhile_append_of_pos hmore]
  cases rest with
  | nil => exact List.append_nil more
  | cons c rest => rw [List.takeWhile_cons_of_neg (by simp [hrest c rfl]), List.append_nil]

/-- A run of characters of numerals. -/
structure IsRun (run : List Char) : Prop where
  starts : ∃ c more, run = c :: more ∧ startsNumeral c = true
  inside : ∀ c ∈ run, inNumeral c = true

theorem numerals_run {run rest : List Char} (h : IsRun run) (hrest : Stops rest) :
    numerals (run ++ rest) = run :: numerals rest := by
  obtain ⟨c, more, rfl, hc⟩ := h.starts
  have hquote : c ≠ '"' := by
    rintro rfl
    cases hc
  have htake := takeWhile_stops (List.forall_mem_cons.mp h.inside).2 hrest
  unfold numerals
  rw [List.cons_append, numeralsFrom, if_neg hquote, if_pos hc, htake, numeralsFrom_eq,
    List.drop_left]
  rfl

/-! ### Blanks and strings -/

theorem isSpace_iff {c : Char} : isSpace c = true ↔ c = ' ' ∨ c = '\t' ∨ c = '\n' ∨ c = '\r' := by
  simp only [isSpace, Bool.or_eq_true, beq_iff_eq, or_assoc]

theorem of_isSpace {c : Char} (h : isSpace c = true) : c ≠ '"' ∧ inNumeral c = false := by
  rcases isSpace_iff.mp h with rfl | rfl | rfl | rfl <;> decide

theorem startsNumeral_of_inNumeral {c : Char} (h : inNumeral c = false) :
    startsNumeral c = false := by
  rw [inNumeral, Bool.or_eq_false_iff, Bool.or_eq_false_iff] at h
  exact h.1.1

theorem numerals_skipSpace (text : List Char) : numerals (skipSpace text) = numerals text := by
  induction text with
  | nil => rfl
  | cons c rest ih =>
    unfold skipSpace
    rw [List.dropWhile_cons]
    split
    · next hspace =>
      obtain ⟨hquote, hc⟩ := of_isSpace hspace
      rw [numerals_plain hquote (startsNumeral_of_inNumeral hc)]
      exact ih
    · rfl

/-- A character behind blanks, if it is in no numeral and opens no string, can be passed over. -/
theorem numerals_behind {text left : List Char} {c : Char} (h : skipSpace text = c :: left)
    (hc : inNumeral c = false) (hquote : c ≠ '"') : numerals text = numerals left := by
  rw [← numerals_skipSpace, h, numerals_plain hquote (startsNumeral_of_inNumeral hc)]

/-- Behind blanks stands a character that is in no numeral, or nothing. -/
theorem stops_of_skipSpace {text : List Char} (h : Stops (skipSpace text)) : Stops text := by
  intro c hc
  cases hspace : isSpace c with
  | true => exact (of_isSpace hspace).2
  | false =>
    obtain ⟨rest, rfl⟩ : ∃ rest, text = c :: rest := by
      cases text with
      | nil => cases hc
      | cons d rest => exact ⟨rest, by rw [Option.some.inj hc]⟩
    refine h c ?_
    unfold skipSpace
    rw [List.dropWhile_cons_of_neg (by simp [hspace])]
    rfl

theorem stringLength_plain {c : Char} (hquote : c ≠ '"') (hslash : c ≠ '\\') (rest : List Char) :
    stringLength (c :: rest) = stringLength rest + 1 := by
  rw [stringLength]
  · exact hquote
  · intro _ _ heq
    exact absurd heq hslash

theorem not_escape_of_hexNumber? {digits : List Char} {n : Nat}
    (h : Text.hexNumber? digits = some n) : ∀ c ∈ digits, c ≠ '"' ∧ c ≠ '\\' := by
  unfold Text.hexNumber? at h
  generalize 0 = value at h
  induction digits generalizing value with
  | nil => exact fun c hc => absurd hc List.not_mem_nil
  | cons d rest ih =>
    rw [List.foldlM_cons] at h
    obtain ⟨next, hnext, hrest⟩ := Option.bind_eq_some_iff.mp h
    obtain ⟨digit, hdigit, -⟩ := Option.map_eq_some_iff.mp hnext
    refine List.forall_mem_cons.mpr ⟨⟨?_, ?_⟩, ih next hrest⟩
    · rintro rfl
      cases hdigit
    · rintro rfl
      cases hdigit

theorem drop_hexDigits {a b c d : Char} {n : Nat} (h : Text.hexNumber? [a, b, c, d] = some n)
    (rest : List Char) :
    (a :: b :: c :: d :: rest).drop (stringLength (a :: b :: c :: d :: rest)) =
      rest.drop (stringLength rest) := by
  have hdigits := not_escape_of_hexNumber? h
  simp only [List.mem_cons, List.not_mem_nil, or_false, forall_eq_or_imp, forall_eq] at hdigits
  obtain ⟨⟨ha, ha'⟩, ⟨hb, hb'⟩, ⟨hc, hc'⟩, ⟨hd, hd'⟩⟩ := hdigits
  rw [stringLength_plain ha ha', stringLength_plain hb hb', stringLength_plain hc hc',
    stringLength_plain hd hd']
  rfl

theorem drop_escape (c : Char) (rest : List Char) :
    ('\\' :: c :: rest).drop (stringLength ('\\' :: c :: rest)) =
      rest.drop (stringLength rest) := by
  rw [stringLength, List.drop_succ_cons, List.drop_succ_cons]

theorem drop_unicodeEscape {a b c d : Char} {n : Nat} (h : Text.hexNumber? [a, b, c, d] = some n)
    (rest : List Char) :
    ('\\' :: 'u' :: a :: b :: c :: d :: rest).drop
        (stringLength ('\\' :: 'u' :: a :: b :: c :: d :: rest)) =
      rest.drop (stringLength rest) := by
  rw [drop_escape, drop_hexDigits h]

/-- A string ends where the reader says. -/
theorem drop_stringLength {text chars left : List Char} (h : readString text = some (chars, left)) :
    text.drop (stringLength text) = left := by
  fun_induction readString text generalizing chars left with
  | case1 => cases h
  | case2 rest =>
    cases h
    rfl
  | case3 | case4 | case5 | case7 | case9 | case11 => cases h
  | case6 a b c d unit hunit _ _ e f g i after char hlow ih =>
    -- two units, each written as an escape
    obtain ⟨low, hlow, -⟩ := Option.bind_eq_some_iff.mp hlow
    obtain ⟨⟨chars', left'⟩, hafter, hresult⟩ := Option.map_eq_some_iff.mp h
    cases hresult
    rw [drop_unicodeEscape hunit, drop_unicodeEscape hlow]
    exact ih hafter
  | case8 a b c d rest unit hunit _ _ ih =>
    obtain ⟨⟨chars', left'⟩, hrest, hresult⟩ := Option.map_eq_some_iff.mp h
    cases hresult
    rw [drop_unicodeEscape hunit]
    exact ih hrest
  | case10 c rest _ char _ ih =>
    obtain ⟨⟨chars', left'⟩, hrest, hresult⟩ := Option.map_eq_some_iff.mp h
    cases hresult
    rw [drop_escape]
    exact ih hrest
  | case12 c rest hquote _ hescape _ ih =>
    obtain ⟨⟨chars', left'⟩, hrest, hresult⟩ := Option.map_eq_some_iff.mp h
    cases hresult
    have hslash : c ≠ '\\' := by
      rintro rfl
      cases rest with
      | nil => cases hrest
      | cons c rest => exact hescape c rest rfl rfl
    rw [stringLength_plain hquote hslash]
    exact ih hrest

/-! ### Parts of a numeral -/

/-- The digits of a whole number: no zero stands in front of others. -/
structure IsWhole (digits : List Char) : Prop where
  nonempty : digits ≠ []
  isDigit : ∀ c ∈ digits, c.isDigit = true
  leading : digits.head? = some '0' → digits = ['0']

/-- A part of a numeral that may be left out.  Where it is given, it begins with its mark. -/
inductive IsOptional : List Char → Bool → Prop
  | absent : IsOptional [] false
  | given {mark : Char} {more : List Char} (hmark : isPartMark mark = true)
      (hmore : ∀ c ∈ more, inNumeral c = true) : IsOptional (mark :: more) true

theorem IsOptional.inside {part : List Char} {given : Bool} (h : IsOptional part given) :
    ∀ c ∈ part, inNumeral c = true := by
  cases h with
  | absent => exact fun _ hc => absurd hc List.not_mem_nil
  | given hmark hmore =>
    refine List.forall_mem_cons.mpr ⟨?_, hmore⟩
    rw [inNumeral, hmark, Bool.or_true, Bool.true_or]

theorem IsOptional.any_isPartMark {part : List Char} (h : IsOptional part true) :
    part.any isPartMark = true := by
  cases h with
  | given hmark _ => rw [List.any_cons, hmark, Bool.true_or]

theorem inNumeral_of_isDigit {c : Char} (h : c.isDigit = true) : inNumeral c = true := by
  unfold inNumeral startsNumeral
  rw [h, Bool.or_true, Bool.true_or, Bool.true_or]

theorem of_spanDigits (text : List Char) :
    text = (Binary64.spanDigits text).1 ++ (Binary64.spanDigits text).2 ∧
      ∀ c ∈ (Binary64.spanDigits text).1, c.isDigit = true := by
  constructor
  · exact (Binary64.spanDigits_append text).symm
  · exact List.all_eq_true.mp List.all_takeWhile

theorem wholePart?_eq_some {text digits rest : List Char}
    (h : wholePart? text = some (digits, rest)) : text = digits ++ rest ∧ IsWhole digits := by
  unfold wholePart? at h
  split at h
  · cases h
    exact ⟨rfl, by decide, by simp, fun _ => rfl⟩
  · next hzero =>
    dsimp only at h
    split at h
    · cases h
    · next hempty =>
      obtain ⟨htext, hdigits⟩ := of_spanDigits text
      cases h
      have hne := mt List.isEmpty_iff.mpr hempty
      refine ⟨htext, hne, hdigits, fun hhead => ?_⟩
      obtain ⟨more, hmore⟩ := List.head?_eq_some_iff.mp hhead
      rw [hmore, List.cons_append] at htext
      exact absurd htext (hzero _)

theorem fractionPart?_eq_some {text rest : List Char} {fraction : Option (List Char)}
    (h : fractionPart? text = some (fraction, rest)) :
    ∃ part, text = part ++ rest ∧ IsOptional part fraction.isSome := by
  unfold fractionPart? at h
  split at h
  · next after =>
    dsimp only at h
    split at h
    · cases h
    · obtain ⟨hafter, hdigits⟩ := of_spanDigits after
      cases h
      refine ⟨'.' :: (Binary64.spanDigits after).1, congrArg ('.' :: ·) hafter, .given rfl ?_⟩
      exact fun c hc => inNumeral_of_isDigit (hdigits c hc)
  · cases h
    exact ⟨[], rfl, .absent⟩

/-- What stands behind the sign of an exponent. -/
theorem of_exponentDigits {negative : Bool} {text rest : List Char} {exponent : Option Int}
    (h : (if (Binary64.spanDigits text).1.isEmpty then none
      else some
        (some (Binary64.signed negative (Binary64.digitsValue (Binary64.spanDigits text).1)),
          (Binary64.spanDigits text).2)) = some (exponent, rest)) :
    exponent.isSome = true ∧
      ∃ digits, text = digits ++ rest ∧ ∀ c ∈ digits, inNumeral c = true := by
  split at h
  · cases h
  · obtain ⟨htext, hdigits⟩ := of_spanDigits text
    cases h
    exact ⟨rfl, _, htext, fun c hc => inNumeral_of_isDigit (hdigits c hc)⟩

theorem exponentPart?_eq_some {text rest : List Char} {exponent : Option Int}
    (h : exponentPart? text = some (exponent, rest)) :
    ∃ part, text = part ++ rest ∧ IsOptional part exponent.isSome := by
  unfold exponentPart? at h
  split at h
  · next mark after =>
    split at h
    · next hmark =>
      have hpart : isPartMark mark = true := by
        rcases hmark with rfl | rfl <;> rfl
      dsimp only at h
      split at h
      · obtain ⟨hgiven, digits, rfl, hdigits⟩ := of_exponentDigits h
        rw [hgiven]
        exact ⟨mark :: '-' :: digits, rfl, .given hpart (List.forall_mem_cons.mpr ⟨rfl, hdigits⟩)⟩
      · obtain ⟨hgiven, digits, rfl, hdigits⟩ := of_exponentDigits h
        rw [hgiven]
        exact ⟨mark :: '+' :: digits, rfl, .given hpart (List.forall_mem_cons.mpr ⟨rfl, hdigits⟩)⟩
      · obtain ⟨hgiven, digits, rfl, hdigits⟩ := of_exponentDigits h
        rw [hgiven]
        exact ⟨mark :: digits, rfl, .given hpart hdigits⟩
    · cases h
      exact ⟨[], rfl, .absent⟩
  · cases h
    exact ⟨[], rfl, .absent⟩

/-! ### Numbers -/

/-- The sign in front of a numeral. -/
def signText (negative : Bool) : List Char := if negative then ['-'] else []

/-- The number that a numeral stands for.  That of a whole number is made of its digits; nothing is
said here of how others are rounded. -/
inductive Denotes : List Char → JsonNumber → Prop
  | whole (negative : Bool) {digits : List Char} (h : IsWhole digits) :
      Denotes (signText negative ++ digits) (wholeNumeral negative digits).number
  | real {literal : List Char} (x : Binary64) (h : literal.any isPartMark = true) :
      Denotes literal (.real x)

theorem readMagnitude_eq_some {negative : Bool} {text rest : List Char} {numeral : Numeral}
    (h : readMagnitude negative text = some (numeral, rest)) :
    ∃ literal, text = literal ++ rest ∧ IsRun literal ∧
      Denotes (signText negative ++ literal) numeral.number := by
  unfold readMagnitude at h
  obtain ⟨⟨digits, behind⟩, hdigits, hafter⟩ := Option.bind_eq_some_iff.mp h
  obtain ⟨⟨fraction, behind'⟩, hfraction, hlast⟩ := Option.bind_eq_some_iff.mp hafter
  obtain ⟨⟨exponent, left⟩, hexponent, hnumeral⟩ := Option.bind_eq_some_iff.mp hlast
  obtain ⟨rfl, hwhole⟩ := wholePart?_eq_some hdigits
  obtain ⟨fractionText, rfl, hfractionText⟩ := fractionPart?_eq_some hfraction
  obtain ⟨exponentText, rfl, hexponentText⟩ := exponentPart?_eq_some hexponent
  obtain ⟨rfl, rfl⟩ := Prod.mk.inj (Option.some.inj hnumeral)
  have hrun : IsRun (digits ++ fractionText ++ exponentText) := by
    obtain ⟨c, more, rfl⟩ := List.exists_cons_of_ne_nil hwhole.nonempty
    have hc := hwhole.isDigit c List.mem_cons_self
    refine ⟨⟨c, _, rfl, by rw [startsNumeral, hc, Bool.or_true]⟩, ?_⟩
    refine List.forall_mem_append.mpr ⟨List.forall_mem_append.mpr ⟨?_, ?_⟩, ?_⟩
    · exact fun c hc => inNumeral_of_isDigit (hwhole.isDigit c hc)
    · exact hfractionText.inside
    · exact hexponentText.inside
  refine ⟨digits ++ fractionText ++ exponentText, ?_, hrun, ?_⟩
  · rw [List.append_assoc, List.append_assoc]
  · by_cases hgiven : fraction.isSome = true ∨ exponent.isSome = true
    · rw [number_real hgiven]
      refine .real _ ?_
      rw [List.append_assoc digits, List.any_append, List.any_append, List.any_append]
      rcases hgiven with hgiven | hgiven
      · rw [hgiven] at hfractionText
        rw [hfractionText.any_isPartMark, Bool.true_or, Bool.or_true, Bool.or_true]
      · rw [hgiven] at hexponentText
        rw [hexponentText.any_isPartMark, Bool.or_true, Bool.or_true, Bool.or_true]
    · rw [not_or, Option.not_isSome_iff_eq_none, Option.not_isSome_iff_eq_none] at hgiven
      obtain ⟨rfl, rfl⟩ := hgiven
      cases hfractionText
      cases hexponentText
      rw [List.append_nil, List.append_nil]
      exact .whole negative hwhole

theorem readNumeral_eq_some {text rest : List Char} {numeral : Numeral}
    (h : readNumeral text = some (numeral, rest)) :
    ∃ literal, text = literal ++ rest ∧ IsRun literal ∧ Denotes literal numeral.number := by
  unfold readNumeral at h
  split at h
  · obtain ⟨literal, rfl, hrun, hdenotes⟩ := readMagnitude_eq_some h
    refine ⟨'-' :: literal, rfl, ⟨⟨'-', literal, rfl, rfl⟩, ?_⟩, hdenotes⟩
    exact List.forall_mem_cons.mpr ⟨rfl, hrun.inside⟩
  · exact readMagnitude_eq_some h

theorem readNumber_eq_some_iff {text rest : List Char} {n : JsonNumber} :
    readNumber text = some (n, rest) ↔
      ∃ numeral, readNumeral text = some (numeral, rest) ∧ numeral.number = n := by
  unfold readNumber
  rw [Option.map_eq_some_iff]
  constructor
  · rintro ⟨⟨numeral, left⟩, hread, hresult⟩
    cases hresult
    exact ⟨numeral, hread, rfl⟩
  · rintro ⟨numeral, hread, rfl⟩
    exact ⟨(numeral, rest), hread, rfl⟩

theorem readNumber_eq_some {text rest : List Char} {n : JsonNumber}
    (h : readNumber text = some (n, rest)) :
    ∃ literal, text = literal ++ rest ∧ IsRun literal ∧ Denotes literal n := by
  obtain ⟨numeral, hread, rfl⟩ := readNumber_eq_some_iff.mp h
  exact readNumeral_eq_some hread

theorem isKept_readNumber {text rest : List Char} {n : JsonNumber}
    (h : readNumber text = some (n, rest)) : n.IsKept := by
  obtain ⟨numeral, -, rfl⟩ := readNumber_eq_some_iff.mp h
  exact isKept_number numeral

/-- Numbers account for a stretch of text if they stand for its numerals, one for one. -/
def Accounts (text left : List Char) (numbers : List JsonNumber) : Prop :=
  ∃ found, numerals text = found ++ numerals left ∧ List.Forall₂ Denotes found numbers

section

variable {text middle left : List Char} {first second : List JsonNumber}

theorem Accounts.of_eq (h : numerals text = numerals left) : Accounts text left [] :=
  ⟨[], h, .nil⟩

theorem Accounts.congr_text (h : Accounts text left first)
    (heq : numerals middle = numerals text) : Accounts middle left first := by
  obtain ⟨found, hfound, hdenote⟩ := h
  exact ⟨found, heq.trans hfound, hdenote⟩

theorem Accounts.congr_left (h : Accounts text left first)
    (heq : numerals left = numerals middle) : Accounts text middle first := by
  obtain ⟨found, hfound, hdenote⟩ := h
  exact ⟨found, heq ▸ hfound, hdenote⟩

theorem Accounts.append (hfirst : Accounts text middle first)
    (hsecond : Accounts middle left second) : Accounts text left (first ++ second) := by
  obtain ⟨found, hfound, hdenote⟩ := hfirst
  obtain ⟨found', hfound', hdenote'⟩ := hsecond
  refine ⟨found ++ found', ?_, List.rel_append hdenote hdenote'⟩
  rw [hfound, hfound', List.append_assoc]

end

/-! ### Reading -/

theorem accounts_number {text left : List Char} {n : JsonNumber}
    (h : readNumber text = some (n, left)) (hleft : Stops left) : Accounts text left [n] := by
  obtain ⟨literal, rfl, hrun, hdenotes⟩ := readNumber_eq_some h
  exact ⟨[literal], numerals_run hrun hleft, .cons hdenotes .nil⟩

theorem numerals_string {rest chars left : List Char}
    (h : readString rest = some (chars, left)) : numerals ('"' :: rest) = numerals left := by
  rw [numerals_quote, drop_stringLength h]

/-- What `accounts_read` says of one amount of fuel. -/
structure Accounted (fuel : Nat) : Prop where
  value : ∀ {text left v}, readValue fuel text = some (v, left) → Stops left →
    Accounts text left (numbers v)
  items : ∀ {text left items}, readItems fuel text = some (items, left) →
    Accounts text left (numbersItems items)
  members : ∀ {text left members}, readMembers fuel text = some (members, left) →
    Accounts text left (numbersMembers members)

section

variable {fuel : Nat} {text left : List Char}

theorem accounts_value (ih : Accounted fuel) {v : Json}
    (h : readValue (fuel + 1) text = some (v, left)) (hleft : Stops left) :
    Accounts text left (numbers v) := by
  refine Accounts.congr_text ?_ (numerals_skipSpace text).symm
  unfold readValue at h
  -- the three names hold no numeral; only a number needs to know what stands behind it
  split at h
  · next heq =>
    cases h
    rw [heq]
    exact .of_eq rfl
  · next heq =>
    cases h
    rw [heq]
    exact .of_eq rfl
  · next heq =>
    cases h
    rw [heq]
    exact .of_eq rfl
  · next rest heq =>
    obtain ⟨⟨chars, left'⟩, hstring, hresult⟩ := Option.map_eq_some_iff.mp h
    cases hresult
    rw [heq]
    exact .of_eq (numerals_string hstring)
  · next rest heq =>
    rw [heq]
    split at h
    · next hclose =>
      cases h
      refine .of_eq ?_
      rw [numerals_plain (by decide) rfl, numerals_behind hclose rfl (by decide)]
    · obtain ⟨⟨items, left'⟩, hitems, hresult⟩ := Option.map_eq_some_iff.mp h
      cases hresult
      exact (ih.items hitems).congr_text (numerals_plain (by decide) rfl rest)
  · next rest heq =>
    rw [heq]
    split at h
    · next hclose =>
      cases h
      refine .of_eq ?_
      rw [numerals_plain (by decide) rfl, numerals_behind hclose rfl (by decide)]
    · obtain ⟨⟨members, left'⟩, hmembers, hresult⟩ := Option.map_eq_some_iff.mp h
      cases hresult
      exact (ih.members hmembers).congr_text (numerals_plain (by decide) rfl rest)
  · obtain ⟨⟨n, left'⟩, hnumber, hresult⟩ := Option.map_eq_some_iff.mp h
    cases hresult
    exact accounts_number hnumber hleft

/-- A value up to a character that stands behind it and is in no numeral. -/
theorem accounts_until (ih : Accounted fuel) {rest : List Char} {v : Json}
    (h : readValue fuel text = some (v, rest)) {c : Char} (hbehind : skipSpace rest = c :: left)
    (hc : inNumeral c = false) (hquote : c ≠ '"') : Accounts text left (numbers v) := by
  have hstops : Stops rest := by
    refine stops_of_skipSpace ?_
    rw [hbehind]
    exact stops_cons hc left
  exact (ih.value h hstops).congr_left (numerals_behind hbehind hc hquote)

theorem accounts_items (ih : Accounted fuel) {items : List Json}
    (h : readItems (fuel + 1) text = some (items, left)) :
    Accounts text left (numbersItems items) := by
  unfold readItems at h
  split at h
  · cases h
  · next item rest hitem =>
    split at h
    · next heq =>
      cases h
      rw [numbersItems, numbersItems, List.append_nil]
      exact accounts_until ih hitem heq rfl (by decide)
    · next more heq =>
      obtain ⟨⟨items', left'⟩, hitems, hresult⟩ := Option.map_eq_some_iff.mp h
      cases hresult
      exact (accounts_until ih hitem heq rfl (by decide)).append (ih.items hitems)
    · cases h

theorem accounts_members (ih : Accounted fuel) {members : List (String × Json)}
    (h : readMembers (fuel + 1) text = some (members, left)) :
    Accounts text left (numbersMembers members) := by
  refine Accounts.congr_text ?_ (numerals_skipSpace text).symm
  unfold readMembers at h
  split at h
  · next rest heq =>
    rw [heq]
    split at h
    · cases h
    · next name behind hname =>
      refine Accounts.congr_text ?_ (numerals_string hname)
      split at h
      · next rest' hcolon =>
        refine Accounts.congr_text ?_ (numerals_behind hcolon rfl (by decide))
        split at h
        · cases h
        · next value after hvalue =>
          split at h
          · next hclose =>
            cases h
            rw [numbersMembers, numbersMembers, List.append_nil]
            exact accounts_until ih hvalue hclose rfl (by decide)
          · next more hcomma =>
            obtain ⟨⟨members', left'⟩, hmembers, hresult⟩ := Option.map_eq_some_iff.mp h
            cases hresult
            exact (accounts_until ih hvalue hcomma rfl (by decide)).append (ih.members hmembers)
          · cases h
      · cases h
  · cases h

end

theorem accounts_read (fuel : Nat) : Accounted fuel := by
  induction fuel with
  | zero => exact ⟨(nomatch ·), (nomatch ·), (nomatch ·)⟩
  | succ fuel ih => exact ⟨accounts_value ih, accounts_items ih, accounts_members ih⟩

/-- The numbers of a value that was read stand for the numerals of its text, one for one. -/
theorem denote_readWhole? {text : String} {v : Json} (h : readWhole? text = some v) :
    List.Forall₂ Denotes (numerals text.toList) (numbers v) := by
  unfold readWhole? at h
  split at h
  · next value rest hvalue =>
    split at h
    · next hrest =>
      cases h
      have hempty := List.isEmpty_iff.mp hrest
      have hstops : Stops rest := by
        refine stops_of_skipSpace ?_
        rw [hempty]
        exact stops_nil
      obtain ⟨found, hfound, hdenote⟩ := (accounts_read _).value hvalue hstops
      rw [← numerals_skipSpace rest, hempty, numerals_nil, List.append_nil] at hfound
      rw [hfound]
      exact hdenote
    · cases h
  · cases h

end CallTracing.Json
