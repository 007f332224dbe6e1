/-
  CallTracing/Proofs/Text/ByteOrder.lean
  ======================================
  **Texts in the order of their bytes.**

  Texts are compared character by character.  Their bytes are in the same order
  (`encode_lt_encode`): of two characters, the one of fewer bytes has the smaller first byte, and
  characters of equally many bytes differ first where their code points do, six bits a byte.
-/
import CallTracing.Proofs.Text.Utf8

namespace CallTracing.Text.Utf8

/-! ### First bytes -/

section

variable {a b : Nat} {rest rest' : List UInt8}

theorem cons_lt_cons_of_lt (h : a < b) (hb : b < 256) :
    UInt8.ofNat a :: rest < UInt8.ofNat b :: rest' := by
  refine List.Lex.rel ?_
  rw [UInt8.lt_iff_toNat_lt, toNat_ofNat (Nat.lt_trans h hb), toNat_ofNat hb]
  exact h

theorem cons_lt_cons_of_le (h : a ≤ b) (hb : b < 256) (hrest : a = b → rest < rest') :
    UInt8.ofNat a :: rest < UInt8.ofNat b :: rest' := by
  rcases Nat.lt_or_eq_of_le h with hlt | rfl
  · exact cons_lt_cons_of_lt hlt hb
  · exact List.Lex.cons (hrest rfl)

end

/-! ### Characters and texts -/

theorem utf8EncodeChar_ne_nil (c : Char) : String.utf8EncodeChar c ≠ [] := by
  rw [utf8EncodeChar_eq]
  repeat' split
  all_goals exact List.cons_ne_nil _ _

theorem utf8EncodeChar_lt {c d : Char} (h : c < d) (rest rest' : List UInt8) :
    String.utf8EncodeChar c ++ rest < String.utf8EncodeChar d ++ rest' := by
  have hlast : d.toNat < 0x110000 := by
    have hvalid : d.toNat < 0xD800 ∨ 0xDFFF < d.toNat ∧ d.toNat < 0x110000 := d.valid
    omega
  have hlt : c.toNat < d.toNat := h
  rw [utf8EncodeChar_eq, utf8EncodeChar_eq]
  generalize c.toNat = n at hlt
  generalize d.toNat = m at hlt hlast
  by_cases hone : m ≤ 0x7F
  · rw [if_pos hone, if_pos (by omega)]
    exact cons_lt_cons_of_lt hlt (by omega)
  · rw [if_neg hone]
    by_cases htwo : m ≤ 0x7FF
    · rw [if_pos htwo]
      split
      · exact cons_lt_cons_of_lt (by omega) (by omega)
      · rw [if_pos (by omega)]
        refine cons_lt_cons_of_le (by omega) (by omega) fun _ => ?_
        exact cons_lt_cons_of_lt (by omega) (by omega)
    · rw [if_neg htwo]
      by_cases hthree : m ≤ 0xFFFF
      · rw [if_pos hthree]
        split
        · exact cons_lt_cons_of_lt (by omega) (by omega)
        · split
          · exact cons_lt_cons_of_lt (by omega) (by omega)
          · rw [if_pos (by omega)]
            refine cons_lt_cons_of_le (by omega) (by omega) fun _ => ?_
            refine cons_lt_cons_of_le (by omega) (by omega) fun _ => ?_
            exact cons_lt_cons_of_lt (by omega) (by omega)
      · rw [if_neg hthree]
        split
        · exact cons_lt_cons_of_lt (by omega) (by omega)
        · split
          · exact cons_lt_cons_of_lt (by omega) (by omega)
          · split
            · exact cons_lt_cons_of_lt (by omega) (by omega)
            · refine cons_lt_cons_of_le (by omega) (by omega) fun _ => ?_
              refine cons_lt_cons_of_le (by omega) (by omega) fun _ => ?_
              refine cons_lt_cons_of_le (by omega) (by omega) fun _ => ?_
              exact cons_lt_cons_of_lt (by omega) (by omega)

/-- The order of texts is the order of their bytes. -/
theorem encode_lt_encode {a b : String} (h : a < b) : encode a < encode b := by
  have hchars : a.toList < b.toList := h
  unfold encode
  generalize a.toList = front at hchars
  generalize b.toList = back at hchars
  induction hchars with
  | @nil d rest =>
    obtain ⟨byte, more, hbytes⟩ := List.exists_cons_of_ne_nil (utf8EncodeChar_ne_nil d)
    rw [List.flatMap_cons, hbytes]
    exact List.Lex.nil
  | @cons c rest rest' _ ih =>
    rw [List.flatMap_cons, List.flatMap_cons]
    exact List.append_left_lt ih
  | @rel c rest d rest' hlt =>
    rw [List.flatMap_cons, List.flatMap_cons]
    exact utf8EncodeChar_lt hlt _ _

end CallTracing.Text.Utf8
