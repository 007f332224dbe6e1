/-
  CallTracing/Proofs/Redaction/KeyFree.lean
  =========================================
  **Where no access key id can be.**

  Much of what is logged is no text of the host: names, messages, numbers and ids.  None of them
  holds a key id.  For a fixed text this is computed, by looking for the stem of a key id
  (`hasStem`); of numbers and ids it is enough to know that their digits have no capital letter.

  Texts of the host may be logged between quotes.  Escapes hold no key id and cannot complete one, so
  what is found in the quoted text stands in the text itself (`infix_of_quoted`).
-/
import CallTracing.Proofs.Redaction.KeyIds
import CallTracing.Text.Quoted

namespace CallTracing.Redaction

variable {key text front : List Char}

/-! ### Fixed texts -/

/-- Whether what key ids begin with stands somewhere in a text. -/
def hasStem : List Char → Bool
  | [] => false
  | c :: rest => keyIdStems.any (·.isPrefixOf (c :: rest)) || hasStem rest

theorem IsKeyId.hasStem (hkey : IsKeyId key) (h : key <:+: text) : hasStem text = true := by
  induction text with
  | nil => exact absurd (List.infix_nil.mp h) hkey.ne_nil
  | cons c rest ih =>
    rw [Redaction.hasStem, Bool.or_eq_true]
    rcases List.infix_cons_iff.mp h with hleads | hrest
    · have hstem : key.take 4 <+: c :: rest := (List.take_prefix 4 key).trans hleads
      refine Or.inl (List.any_eq_true.mpr ⟨key.take 4, hkey.stem, ?_⟩)
      exact List.isPrefixOf_iff_prefix.mpr hstem
    · exact Or.inr (ih hrest)

theorem IsKeyId.not_infix_of_fixed (hkey : IsKeyId key) (h : Redaction.hasStem text = false) :
    ¬key <:+: text := by
  intro hholds
  rw [hkey.hasStem hholds] at h
  cases h

/-! ### Texts without capital letters -/

/-- A key id begins with a capital letter. -/
theorem IsKeyId.head (hkey : IsKeyId key) : ∃ rest, key = 'A' :: rest := by
  have hstem := hkey.stem
  cases key with
  | nil => exact absurd rfl hkey.ne_nil
  | cons c rest =>
    have hhead : ∀ stem ∈ keyIdStems, stem.head? = some 'A' := by decide
    exact ⟨rest, by rw [Option.some.inj (hhead _ hstem)]⟩

/-- What has no capital letter in front of a text takes no part in a key id. -/
theorem IsKeyId.infix_of_append (hkey : IsKeyId key) (hfront : 'A' ∉ front)
    (h : key <:+: front ++ text) : key <:+: text := by
  induction front with
  | nil => exact h
  | cons c front ih =>
    rw [List.mem_cons, not_or] at hfront
    rcases List.infix_cons_iff.mp h with hleads | hrest
    · obtain ⟨rest, rfl⟩ := hkey.head
      exact absurd (List.cons_prefix_cons.mp hleads).1 hfront.1
    · exact ih hfront.2 hrest

theorem IsKeyId.not_infix (hkey : IsKeyId key) (h : 'A' ∉ text) : ¬key <:+: text := by
  intro hholds
  rw [← List.append_nil text] at hholds
  exact hkey.ne_nil (List.infix_nil.mp (hkey.infix_of_append h hholds))

theorem not_mem_toDigits {base : Nat} (hbase : 1 < base) (hsmall : base ≤ 16) (n : Nat) :
    'A' ∉ Nat.toDigits base n := by
  have hdigits : ∀ digit : Fin 16, 'A' ∉ [Nat.digitChar digit] := by decide
  induction n using Nat.strongRecOn with
  | ind n ih =>
    rw [Nat.toDigits_eq_if hbase]
    split
    · next hn => exact hdigits ⟨n, by omega⟩
    · next hn =>
      have hlast : n % base < 16 := Nat.lt_of_lt_of_le (Nat.mod_lt n (by omega)) hsmall
      rw [List.mem_append, not_or]
      exact ⟨ih (n / base) (Nat.div_lt_self (by omega) hbase), hdigits ⟨n % base, hlast⟩⟩

theorem not_mem_toString (n : Nat) : 'A' ∉ (toString n).toList := by
  have hdigits : (toString n).toList = Nat.toDigits 10 n := Nat.toList_repr
  rw [hdigits]
  exact not_mem_toDigits (by decide) (by decide) n

theorem not_mem_hexPadded (width n : Nat) : 'A' ∉ (Text.hexPadded width n).toList := by
  rw [Text.hexPadded, String.toList_ofList, List.mem_append, not_or]
  refine ⟨fun hzero => ?_, not_mem_toDigits (by decide) (by decide) n⟩
  exact absurd (List.eq_of_mem_replicate hzero) (by decide)

/-! ### Quoted texts -/

/-- A character is shown as it is, or by an escape. -/
theorem quotedChar_eq (c : Char) :
    (Text.quotedChar c).toList = [c] ∨
      ∃ escape, (Text.quotedChar c).toList = '\\' :: escape ∧ 'A' ∉ '\\' :: escape := by
  unfold Text.quotedChar
  split
  · exact Or.inr ⟨['"'], by decide, by decide⟩
  split
  · exact Or.inr ⟨['\\'], by decide, by decide⟩
  split
  · exact Or.inr ⟨['n'], by decide, by decide⟩
  split
  · exact Or.inr ⟨['r'], by decide, by decide⟩
  split
  · exact Or.inr ⟨['t'], by decide, by decide⟩
  split
  · exact Or.inr ⟨['0'], by decide, by decide⟩
  split
  · refine Or.inr ⟨['u', '\x7b'] ++ Text.hexDigits c.toNat ++ ['\x7d'], ?_, ?_⟩
    · rw [String.toList_append, String.toList_append, String.toList_ofList, String.toList_ofList]
      rfl
    · have hdigits : 'A' ∉ Text.hexDigits c.toNat :=
        not_mem_toDigits (by decide) (by decide) c.toNat
      simp [hdigits]
  · exact Or.inl (String.toList_singleton c)

theorem prefix_of_quotedChars (hkey : ∀ c ∈ key, isKeyIdChar c = true)
    (h : key <+: text.flatMap fun c => (Text.quotedChar c).toList) : key <+: text := by
  induction text generalizing key with
  | nil => exact h
  | cons c rest ih =>
    cases key with
    | nil => exact List.nil_prefix
    | cons first key =>
      rw [List.flatMap_cons] at h
      rcases quotedChar_eq c with hplain | ⟨escape, hescape, -⟩
      · rw [hplain] at h
        obtain ⟨rfl, hrest⟩ := List.cons_prefix_cons.mp h
        have hchars : ∀ c ∈ key, isKeyIdChar c = true :=
          fun c hc => hkey c (List.mem_cons_of_mem _ hc)
        exact List.cons_prefix_cons.mpr ⟨rfl, ih hchars hrest⟩
      · rw [hescape] at h
        obtain ⟨rfl, -⟩ := List.cons_prefix_cons.mp h
        exact absurd (hkey _ List.mem_cons_self) (by decide)

theorem infix_of_quotedChars (hkey : IsKeyId key)
    (h : key <:+: text.flatMap fun c => (Text.quotedChar c).toList) : key <:+: text := by
  induction text with
  | nil => exact h
  | cons c rest ih =>
    rw [List.flatMap_cons] at h
    rcases quotedChar_eq c with hplain | ⟨escape, hescape, hfree⟩
    · rw [hplain] at h
      rcases List.infix_cons_iff.mp h with hleads | hrest
      · have hshown : key <+: (c :: rest).flatMap fun c => (Text.quotedChar c).toList := by
          rw [List.flatMap_cons, hplain]
          exact hleads
        exact (prefix_of_quotedChars hkey.chars hshown).isInfix
      · exact List.infix_cons (ih hrest)
    · rw [hescape] at h
      exact List.infix_cons (ih (hkey.infix_of_append hfree h))

/-- A key id that is found in a quoted text stands in the text. -/
theorem infix_of_quoted (hkey : IsKeyId key) {text : String}
    (h : key <:+: (Text.quoted text).toList) : key <:+: text.toList := by
  have hquote : '"' ∉ key := hkey.not_mem (by decide)
  rw [Text.quoted, String.toList_append, String.toList_append, String.toList_join,
    List.flatMap_map] at h
  rcases infix_append_cons hquote h with hopened | hclosed
  · exact infix_of_quotedChars hkey (hkey.infix_of_append (by decide) hopened)
  · exact absurd hclosed (hkey.not_infix (by decide))

end CallTracing.Redaction
