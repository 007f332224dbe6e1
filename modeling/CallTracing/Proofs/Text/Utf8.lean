/-
  CallTracing/Proofs/Text/Utf8.lean
  =================================
  **A text read back from its bytes.**

  The decoder meets the bytes of a character as one that opens it and up to three that continue it.
  Where the code point so far is all but the last six bits of `n`, a continuing byte with these six
  bits completes `n` (`decodeFrom_last`, `decodeFrom_more`).  After the first byte of a character of
  three or four bytes the next one is restricted; the characters that there are keep to it
  (`lead_three`, `lead_four`).  So there are no gaps, and reading back the bytes of a text gives the text.
-/
import CallTracing.Text.Utf8

namespace CallTracing.Text.Utf8

/-! ### Continuing bytes -/

section

variable {low high n : Nat} {rest : List UInt8}

theorem toNat_ofNat {b : Nat} (h : b < 256) : (UInt8.ofNat b).toNat = b := by
  rw [UInt8.toNat_ofNat', Nat.mod_eq_of_lt h]

theorem accepts_continuing {further code : Nat} (hlow : low ≤ n % 64 + 128)
    (hhigh : n % 64 + 128 ≤ high) :
    (Partial.mk further low high code).accepts (UInt8.ofNat (n % 64 + 128)) = true := by
  unfold Partial.accepts
  rw [toNat_ofNat (by omega), Bool.and_eq_true, decide_eq_true_eq, decide_eq_true_eq]
  exact ⟨hlow, hhigh⟩

theorem extended_continuing (further : Nat) :
    (Partial.mk further low high (n / 64)).extended (UInt8.ofNat (n % 64 + 128)) = n := by
  unfold Partial.extended
  rw [toNat_ofNat (by omega)]
  show n / 64 * 64 + (n % 64 + 128 - 128) = n
  omega

theorem decodeFrom_last (hlow : low ≤ n % 64 + 128) (hhigh : n % 64 + 128 ≤ high) :
    decodeFrom (some ⟨0, low, high, n / 64⟩) (UInt8.ofNat (n % 64 + 128) :: rest) =
      some (Char.ofNat n) :: decodeFrom none rest := by
  rw [decodeFrom, if_pos (accepts_continuing hlow hhigh)]
  simp only [extended_continuing]

theorem decodeFrom_more {further : Nat} (hlow : low ≤ n % 64 + 128)
    (hhigh : n % 64 + 128 ≤ high) :
    decodeFrom (some ⟨further + 1, low, high, n / 64⟩) (UInt8.ofNat (n % 64 + 128) :: rest) =
      decodeFrom (some ⟨further, 0x80, 0xBF, n⟩) rest := by
  rw [decodeFrom, if_pos (accepts_continuing hlow hhigh)]
  simp only [extended_continuing]

end

/-! ### First bytes -/

section

variable {n : Nat}

theorem lead_one (h : n < 0x80) : lead (UInt8.ofNat n) = .complete (Char.ofNat n) := by
  unfold lead
  rw [toNat_ofNat (by omega)]
  exact if_pos h

theorem lead_two (hfirst : 0x80 ≤ n) (hlast : n < 0x800) :
    lead (UInt8.ofNat (n / 64 % 32 + 192)) = .opens ⟨0, 0x80, 0xBF, n / 64⟩ := by
  unfold lead
  rw [toNat_ofNat (by omega), Nat.mod_eq_of_lt (by omega)]
  dsimp only
  rw [if_neg (by omega), if_neg (by omega), if_pos (by omega), Nat.add_sub_cancel]

/-- Three bytes: neither a character of fewer bytes nor a surrogate. -/
theorem lead_three (hfirst : 0x800 ≤ n) (hlast : n < 0x10000) (hvalid : n < 0xD800 ∨ 0xDFFF < n) :
    ∃ low high, lead (UInt8.ofNat (n / 4096 % 16 + 224)) = .opens ⟨1, low, high, n / 64 / 64⟩ ∧
      low ≤ n / 64 % 64 + 128 ∧ n / 64 % 64 + 128 ≤ high := by
  have hcode : n / 64 / 64 = n / 4096 := by omega
  unfold lead
  rw [toNat_ofNat (by omega), Nat.mod_eq_of_lt (by omega), hcode]
  dsimp only
  rw [if_neg (by omega), if_neg (by omega), if_neg (by omega)]
  split
  · next hbyte =>
    have hzero : n / 4096 = 0 := by omega
    exact ⟨0xA0, 0xBF, by rw [hzero], by omega, by omega⟩
  · split
    · next hbyte =>
      have hthirteen : n / 4096 = 0xD := by omega
      exact ⟨0x80, 0x9F, by rw [hthirteen], by omega, by omega⟩
    · rw [if_pos (by omega), Nat.add_sub_cancel]
      exact ⟨0x80, 0xBF, rfl, by omega, by omega⟩

/-- Four bytes: neither a character of fewer bytes nor a code point that does not exist. -/
theorem lead_four (hfirst : 0x10000 ≤ n) (hlast : n < 0x110000) :
    ∃ low high,
      lead (UInt8.ofNat (n / 262144 % 8 + 240)) = .opens ⟨2, low, high, n / 64 / 64 / 64⟩ ∧
      low ≤ n / 64 / 64 % 64 + 128 ∧ n / 64 / 64 % 64 + 128 ≤ high := by
  have hcode : n / 64 / 64 / 64 = n / 262144 := by omega
  unfold lead
  rw [toNat_ofNat (by omega), Nat.mod_eq_of_lt (by omega), hcode]
  dsimp only
  rw [if_neg (by omega), if_neg (by omega), if_neg (by omega), if_neg (by omega),
    if_neg (by omega), if_neg (by omega)]
  split
  · next hbyte =>
    have hzero : n / 262144 = 0 := by omega
    exact ⟨0x90, 0xBF, by rw [hzero], by omega, by omega⟩
  · split
    · rw [Nat.add_sub_cancel]
      exact ⟨0x80, 0xBF, rfl, by omega, by omega⟩
    · next hbyte hnext =>
      have hfour : n / 262144 = 4 := by omega
      exact ⟨0x80, 0x8F, by rw [hfour]; rfl, by omega, by omega⟩

end

/-! ### Characters and texts -/

theorem utf8EncodeChar_eq (c : Char) :
    String.utf8EncodeChar c =
      if c.toNat ≤ 0x7F then [UInt8.ofNat c.toNat]
      else if c.toNat ≤ 0x7FF then
        [UInt8.ofNat (c.toNat / 64 % 32 + 192), UInt8.ofNat (c.toNat % 64 + 128)]
      else if c.toNat ≤ 0xFFFF then
        [UInt8.ofNat (c.toNat / 4096 % 16 + 224), UInt8.ofNat (c.toNat / 64 % 64 + 128),
          UInt8.ofNat (c.toNat % 64 + 128)]
      else
        [UInt8.ofNat (c.toNat / 262144 % 8 + 240), UInt8.ofNat (c.toNat / 4096 % 64 + 128),
          UInt8.ofNat (c.toNat / 64 % 64 + 128), UInt8.ofNat (c.toNat % 64 + 128)] := rfl

theorem decodeFrom_complete {b : UInt8} {c : Char} (h : lead b = .complete c)
    (rest : List UInt8) : decodeFrom none (b :: rest) = some c :: decodeFrom none rest := by
  rw [decodeFrom, h]

theorem decodeFrom_opens {b : UInt8} {pending : Partial} (h : lead b = .opens pending)
    (rest : List UInt8) : decodeFrom none (b :: rest) = decodeFrom (some pending) rest := by
  rw [decodeFrom, h]

theorem decodeFrom_char (c : Char) (rest : List UInt8) :
    decodeFrom none (String.utf8EncodeChar c ++ rest) = some c :: decodeFrom none rest := by
  have hvalid : c.toNat < 0xD800 ∨ 0xDFFF < c.toNat ∧ c.toNat < 0x110000 := c.valid
  have hchar : Char.ofNat c.toNat = c := Char.ofNat_toNat c
  rw [utf8EncodeChar_eq]
  generalize c.toNat = n at hvalid hchar
  subst hchar
  split
  · exact decodeFrom_complete (lead_one (by omega)) rest
  · split
    · rw [List.cons_append, decodeFrom_opens (lead_two (by omega) (by omega))]
      exact decodeFrom_last (by omega) (by omega)
    · split
      · obtain ⟨low, high, hlead, hlow, hhigh⟩ := @lead_three n (by omega) (by omega) (by omega)
        rw [List.cons_append, decodeFrom_opens hlead, List.cons_append,
          decodeFrom_more hlow hhigh]
        exact decodeFrom_last (by omega) (by omega)
      · obtain ⟨low, high, hlead, hlow, hhigh⟩ := @lead_four n (by omega) (by omega)
        have hsecond : n / 4096 = n / 64 / 64 := by omega
        rw [hsecond, List.cons_append, decodeFrom_opens hlead, List.cons_append,
          decodeFrom_more hlow hhigh, List.cons_append, decodeFrom_more (by omega) (by omega)]
        exact decodeFrom_last (by omega) (by omega)

/-- The bytes of a text have no gaps. -/
theorem decode_encode (text : String) : decode (encode text) = text.toList.map some := by
  unfold decode encode
  induction text.toList with
  | nil => rfl
  | cons c rest ih => rw [List.flatMap_cons, decodeFrom_char, ih, List.map_cons]

theorem decodeLossy_encode (text : String) : decodeLossy (encode text) = text := by
  unfold decodeLossy
  rw [decode_encode, List.map_map]
  show String.ofList (text.toList.map id) = text
  rw [List.map_id, String.ofList_toList]

end CallTracing.Text.Utf8
