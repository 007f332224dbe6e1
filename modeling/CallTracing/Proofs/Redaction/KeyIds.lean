/-
  CallTracing/Proofs/Redaction/KeyIds.lean
  ========================================
  **An access key id that stands as a word is not logged.**

  A text that may be logged is the text itself with stars in place of some of its parts (`Obscures`).
  So a key id, which has no star in it, is found in the one only if it is found in the other
  (`Obscures.holds`); this holds of every kind of secret that is hidden and of the cut at the end.

  The matcher of access key ids hides those that stand as words of their own.  What it lets through
  is a key id next to another character of a word, as part of a longer one (`InsideWord`).  Hence
  the result `insideWord_of_sanitizedChars`: a key id that is found in what may be logged stands in
  the text inside a longer word.
-/
import CallTracing.Redaction

namespace CallTracing.Redaction

/-! ### Key ids -/

/-- Whether characters are an access key id. -/
structure IsKeyId (key : List Char) : Prop where
  length : key.length = keyIdLength
  stem : key.take 4 ∈ keyIdStems
  chars : ∀ c ∈ key, isKeyIdChar c = true

/-- Whether a key stands somewhere in a text, which follows another character, where it is not a
word of its own. -/
def InsideWord (before : Option Char) (key text : List Char) : Prop :=
  ∃ front back, text = front ++ key ++ back ∧
    ¬(startsWord (front.getLast?.or before) = true ∧ endsWord back = true)

variable {key text out before after : List Char}

theorem IsKeyId.not_mem (h : IsKeyId key) {c : Char} (hc : isKeyIdChar c = false) : c ∉ key := by
  intro hmem
  rw [h.chars c hmem] at hc
  cases hc

theorem IsKeyId.ne_nil (h : IsKeyId key) : key ≠ [] := by
  rintro rfl
  have hlength := h.length
  cases hlength

/-! ### Parts of a text -/

/-- What is found next to a character that it does not have is found on one side of it. -/
theorem infix_append_cons {c : Char} (hc : c ∉ key) (h : key <:+: before ++ c :: after) :
    key <:+: before ∨ key <:+: after := by
  rcases List.infix_append_iff.mp h with h | h | ⟨first, last, rfl, hfirst, hlast⟩
  · exact Or.inl h
  · rcases List.infix_cons_iff.mp h with h | h
    · rcases List.prefix_cons_iff.mp h with rfl | ⟨rest, rfl, -⟩
      · exact Or.inr List.nil_infix
      · exact absurd List.mem_cons_self hc
    · exact Or.inr h
  · rcases List.prefix_cons_iff.mp hlast with rfl | ⟨rest, rfl, -⟩
    · rw [List.append_nil]
      exact Or.inl hfirst.isInfix
    · exact absurd (List.mem_append_right first List.mem_cons_self) hc

theorem infix_of_replicate {c : Char} (hc : c ∉ key) (n : Nat)
    (h : key <:+: List.replicate n c ++ out) : key <:+: out := by
  induction n with
  | zero => exact h
  | succ n ih =>
    have hfront : key <:+: [] ++ c :: (List.replicate n c ++ out) := h
    rcases infix_append_cons hc hfront with h | h
    · rw [List.infix_nil.mp h]
      exact List.nil_infix
    · exact ih h

/-! ### Texts with parts hidden -/

/-- A text, and what is left of it with stars in place of some of its parts. -/
inductive Obscures : List Char → List Char → Prop where
  | nil : Obscures [] []
  | keep (c : Char) {text out : List Char} (h : Obscures text out) : Obscures (c :: text) (c :: out)
  | hide (hidden : List Char) (n : Nat) {text out : List Char} (h : Obscures text out) :
      Obscures (hidden ++ text) (List.replicate (n + 1) '*' ++ out)

theorem Obscures.append (h : Obscures text out) (kept : List Char) :
    Obscures (kept ++ text) (kept ++ out) := by
  induction kept with
  | nil => exact h
  | cons c kept ih => exact ih.keep c

theorem Obscures.startsWith (h : Obscures text out) (hkey : '*' ∉ key) (hleads : key <+: out) :
    key <+: text := by
  induction h generalizing key with
  | nil => exact hleads
  | keep c h ih =>
    rcases List.prefix_cons_iff.mp hleads with rfl | ⟨rest, rfl, hrest⟩
    · exact List.nil_prefix
    · rw [List.mem_cons, not_or] at hkey
      exact List.cons_prefix_cons.mpr ⟨rfl, ih hkey.2 hrest⟩
  | hide hidden n h ih =>
    rw [List.replicate_succ, List.cons_append] at hleads
    rcases List.prefix_cons_iff.mp hleads with rfl | ⟨rest, rfl, -⟩
    · exact List.nil_prefix
    · exact absurd List.mem_cons_self hkey

theorem Obscures.holds (h : Obscures text out) (hkey : '*' ∉ key) (hholds : key <:+: out) :
    key <:+: text := by
  induction h with
  | nil => exact hholds
  | keep c h ih =>
    rcases List.infix_cons_iff.mp hholds with hleads | hrest
    · exact ((h.keep c).startsWith hkey hleads).isInfix
    · exact List.infix_cons (ih hrest)
  | hide hidden n h ih =>
    have hrest := ih (infix_of_replicate hkey (n + 1) hholds)
    exact hrest.trans (List.suffix_append hidden _).isInfix

/-- In what is left of a text there is nothing new but stars. -/
theorem Obscures.of_mem (h : Obscures text out) {c : Char} (hc : c ∈ out) : c ∈ text ∨ c = '*' := by
  induction h with
  | nil => exact Or.inl hc
  | keep d h ih =>
    rcases List.mem_cons.mp hc with rfl | hmem
    · exact Or.inl List.mem_cons_self
    · exact (ih hmem).imp_left (List.mem_cons_of_mem d)
  | hide hidden n h ih =>
    rcases List.mem_append.mp hc with hstar | hmem
    · exact Or.inr (List.eq_of_mem_replicate hstar)
    · exact (ih hmem).imp_left (List.mem_append_right hidden)

/-! ### Matchers -/

/-- Whether a matcher tells only what stands there, with a secret that is not empty. -/
def Matcher.Sound (matcher : Matcher) : Prop :=
  ∀ before text found, matcher before text = some found →
    found.secret ≠ [] ∧ ∃ rest, text = found.kept ++ found.secret ++ rest

theorem Match.obscures (found : Match) (hsecret : found.secret ≠ []) (h : Obscures text out) :
    Obscures (found.kept ++ found.secret ++ text) (found.hidden ++ out) := by
  have hsecrets : Obscures (found.secret ++ text) (obscured found.secret ++ out) := by
    unfold obscured
    split
    · obtain ⟨n, hn⟩ : ∃ n, found.secret.length = n + 1 :=
        Nat.exists_eq_succ_of_ne_zero fun hzero => hsecret (List.eq_nil_of_length_eq_zero hzero)
      rw [hn]
      exact h.hide found.secret n
    · have hdropped := (h.hide (found.secret.drop 5) 2).append (found.secret.take 5)
      rwa [← List.append_assoc, ← List.append_assoc, List.take_append_drop] at hdropped
  have hkept := hsecrets.append found.kept
  rwa [← List.append_assoc, ← List.append_assoc] at hkept

/-- To skip characters is to go on behind them. -/
theorem redactFrom_skip (matcher : Matcher) (n : Nat) (before : Option Char) (text : List Char) :
    redactFrom matcher n before text =
      redactFrom matcher 0 ((text.take n).getLast?.or before) (text.drop n) := by
  induction n generalizing before text with
  | zero => rw [List.take_zero, List.drop_zero, List.getLast?_nil, Option.none_or]
  | succ n ih =>
    cases text with
    | nil => rfl
    | cons c rest =>
      have hlast : (rest.take n).getLast?.or (some c) = ((c :: rest.take n).getLast?).or before := by
        rw [List.getLast?_cons]
        cases (rest.take n).getLast? <;> rfl
      rw [redactFrom, ih, List.take_succ_cons, List.drop_succ_cons, hlast]

variable {matcher : Matcher}

/-- What is written for a match, and what comes behind it. -/
theorem redactFrom_match (hsound : matcher.Sound) {before : Option Char} {c : Char}
    {rest : List Char} {found : Match} (hfound : matcher before (c :: rest) = some found) :
    ∃ tail, c :: rest = found.kept ++ found.secret ++ tail ∧ tail.length < (c :: rest).length ∧
      redactFrom matcher 0 before (c :: rest) = found.hidden ++
        redactFrom matcher 0 ((found.kept ++ found.secret).getLast?.or before) tail := by
  obtain ⟨hsecret, tail, htext⟩ := hsound _ _ _ hfound
  have hpositive : 0 < found.secret.length := List.length_pos_iff.mpr hsecret
  have hlength := congrArg List.length htext
  rw [List.length_append, List.length_append] at hlength
  refine ⟨tail, htext, by omega, ?_⟩
  have hskip : redactFrom matcher (found.length - 1) (some c) rest =
      redactFrom matcher found.length before (c :: rest) := by
    obtain ⟨n, hn⟩ : ∃ n, found.length = n + 1 := ⟨found.length - 1, by unfold Match.length; omega⟩
    rw [hn, redactFrom]
    rfl
  have hcovered : found.length = (found.kept ++ found.secret).length :=
    List.length_append.symm
  have htake : (c :: rest).take found.length = found.kept ++ found.secret := by
    rw [htext, hcovered, List.take_left]
  have hdrop : (c :: rest).drop found.length = tail := by
    rw [htext, hcovered, List.drop_left]
  rw [redactFrom, hfound]
  dsimp only
  rw [hskip, redactFrom_skip, htake, hdrop]

theorem redactFrom_none {before : Option Char} {c : Char} {rest : List Char}
    (hnone : matcher before (c :: rest) = none) :
    redactFrom matcher 0 before (c :: rest) = c :: redactFrom matcher 0 (some c) rest := by
  rw [redactFrom, hnone]

theorem obscures_redactFrom (hsound : matcher.Sound) (before : Option Char) (text : List Char) :
    Obscures text (redactFrom matcher 0 before text) := by
  induction hn : text.length using Nat.strongRecOn generalizing before text with
  | ind n ih =>
    cases text with
    | nil => exact .nil
    | cons c rest =>
      cases hmatch : matcher before (c :: rest) with
      | none =>
        rw [redactFrom_none hmatch]
        exact (ih rest.length (by rw [← hn]; simp) _ rest rfl).keep c
      | some found =>
        obtain ⟨tail, htext, hshorter, hredact⟩ := redactFrom_match hsound hmatch
        rw [hredact, htext]
        refine found.obscures (hsound _ _ _ hmatch).1 ?_
        exact ih tail.length (hn ▸ hshorter) _ tail rfl

/-! ### The kinds of secrets -/

theorem leading_eq {property : Char → Bool} {text : List Char} :
    text = (leading property text).1 ++ (leading property text).2 :=
  (List.takeWhile_append_dropWhile).symm

theorem atMostOne_eq {property : Char → Bool} {text : List Char} :
    text = (atMostOne property text).1 ++ (atMostOne property text).2 := by
  cases text with
  | nil => rfl
  | cons c rest =>
    unfold atMostOne
    dsimp only
    split <;> rfl

theorem name?_eq {name text read rest : List Char} (h : name? name text = some (read, rest)) :
    text = read ++ rest := by
  induction name generalizing text read with
  | nil =>
    obtain ⟨rfl, rfl⟩ := Prod.mk.inj (Option.some.inj h)
    rfl
  | cons letter name ih =>
    cases text with
    | nil => cases h
    | cons c text =>
      unfold name? at h
      split at h
      · obtain ⟨⟨read', rest'⟩, hname, heq⟩ := Option.map_eq_some_iff.mp h
        obtain ⟨rfl, rfl⟩ := Prod.mk.inj heq
        rw [ih hname]
        rfl
      · cases h

theorem sound_accessKeyId : accessKeyId.Sound := by
  intro before text found h
  unfold accessKeyId at h
  dsimp only at h
  split at h
  · next hkey =>
    obtain rfl := Option.some.inj h
    simp only [Bool.and_eq_true, beq_iff_eq] at hkey
    refine ⟨?_, text.drop keyIdLength, (List.take_append_drop _ _).symm⟩
    intro hnil
    have hlength := hkey.1.1.1.2
    rw [show text.take keyIdLength = [] from hnil] at hlength
    cases hlength
  · cases h

theorem sound_bearerToken : bearerToken.Sound := by
  intro before text found h
  unfold bearerToken at h
  split at h
  · split at h
    · cases h
    · next word rest hword =>
      dsimp only at h
      split at h
      · cases h
      · next hparts =>
        obtain rfl := Option.some.inj h
        rw [Bool.or_eq_true, not_or] at hparts
        refine ⟨?_, (leading (· == '=') (leading isTokenChar (leading Text.isBlank rest).2).2).2, ?_⟩
        · intro hnil
          exact hparts.2 (by rw [(List.append_eq_nil_iff.mp hnil).1]; rfl)
        · rw [name?_eq hword, List.append_assoc, List.append_assoc, List.append_assoc,
            ← leading_eq, ← leading_eq, ← leading_eq]
  · cases h

theorem sound_assignedSecret : assignedSecret.Sound := by
  intro before text found h
  have hstem : text = ((name? secretStem text).getD ([], text)).1 ++
      ((name? secretStem text).getD ([], text)).2 := by
    cases hread : name? secretStem text with
    | none => rfl
    | some parts => exact name?_eq hread
  unfold assignedSecret at h
  split at h
  · dsimp only at h
    split at h
    · cases h
    · next name rest hnames =>
      obtain ⟨secretName, -, hname⟩ := List.exists_of_findSome?_eq_some hnames
      split at h
      · cases h
      · next hparts =>
        obtain rfl := Option.some.inj h
        rw [Bool.or_eq_true, not_or] at hparts
        refine ⟨fun hnil => hparts.2 (by rw [show Prod.fst _ = [] from hnil]; rfl), ?_⟩
        refine ⟨(leading isValueChar (atMostOne isQuote (leading Text.isBlank (atMostOne isAssignment
          (leading Text.isBlank (atMostOne isQuote rest).2).2).2).2).2).2, hstem.trans ?_⟩
        simp only [List.append_assoc]
        rw [← leading_eq, ← atMostOne_eq, ← leading_eq, ← atMostOne_eq, ← leading_eq,
          ← atMostOne_eq, ← name?_eq hname]
  · cases h

/-! ### What stays of a text -/

theorem InsideWord.append {before : Option Char} {covered : List Char}
    (h : InsideWord (covered.getLast?.or before) key text) :
    InsideWord before key (covered ++ text) := by
  obtain ⟨front, back, rfl, hinside⟩ := h
  refine ⟨covered ++ front, back, by simp only [List.append_assoc], ?_⟩
  rwa [List.getLast?_append, Option.or_assoc]

theorem accessKeyId_eq (hkey : IsKeyId key) {before : Option Char}
    (hbefore : startsWord before = true) (hafter : endsWord after = true) :
    accessKeyId before (key ++ after) = some ⟨[], key⟩ := by
  have htake : (key ++ after).take keyIdLength = key := hkey.length ▸ List.take_left
  have hdrop : (key ++ after).drop keyIdLength = after := hkey.length ▸ List.drop_left
  have hstem : keyIdStems.contains (key.take 4) = true := List.contains_iff_mem.mpr hkey.stem
  have hchars : key.all isKeyIdChar = true := List.all_eq_true.mpr hkey.chars
  unfold accessKeyId
  dsimp only
  rw [htake, hdrop, hbefore, hafter, hstem, hchars, hkey.length]
  rfl

/-- What is found is a key id that is a word of its own. -/
theorem of_accessKeyId {before : Option Char} {found : Match}
    (h : accessKeyId before text = some found) :
    ∃ key after, text = key ++ after ∧ found = ⟨[], key⟩ ∧ IsKeyId key ∧
      startsWord before = true ∧ endsWord after = true := by
  unfold accessKeyId at h
  dsimp only at h
  split at h
  · next hkey =>
    simp only [Bool.and_eq_true, beq_iff_eq, List.contains_iff_mem] at hkey
    obtain ⟨⟨⟨⟨hbefore, hlength⟩, hstem⟩, hchars⟩, hafter⟩ := hkey
    exact ⟨text.take keyIdLength, text.drop keyIdLength, (List.take_append_drop _ _).symm,
      (Option.some.inj h).symm, ⟨hlength, hstem, List.all_eq_true.mp hchars⟩, hbefore, hafter⟩
  · cases h

/-- Of a key id five characters stay. -/
theorem obscured_keyId (hkey : IsKeyId key) : obscured key = key.take 5 ++ ['*', '*', '*'] := by
  unfold obscured
  rw [hkey.length, if_neg (by decide)]

theorem hidden_of_accessKeyId {before : Option Char} {found : Match}
    (h : accessKeyId before text = some found) :
    ∃ first, first.length = 5 ∧ found.hidden = first ++ List.replicate 3 '*' := by
  obtain ⟨key, after, -, rfl, hkey, -, -⟩ := of_accessKeyId h
  refine ⟨key.take 5, ?_, obscured_keyId hkey⟩
  rw [List.length_take, hkey.length]
  rfl

theorem insideWord_of_redactFrom (hkey : IsKeyId key) (before : Option Char) (text : List Char)
    (h : key <:+: redactFrom accessKeyId 0 before text) : InsideWord before key text := by
  have hstar : '*' ∉ key := hkey.not_mem (by decide)
  induction hn : text.length using Nat.strongRecOn generalizing before text with
  | ind n ih =>
    cases text with
    | nil => exact absurd (List.infix_nil.mp h) hkey.ne_nil
    | cons c rest =>
      cases hmatch : accessKeyId before (c :: rest) with
      | none =>
        rw [redactFrom_none hmatch] at h
        have hobscures := obscures_redactFrom sound_accessKeyId (some c) rest
        rcases List.infix_cons_iff.mp h with hleads | hrest
        -- the key begins here, and would have matched as a word of its own
        · obtain ⟨back, hback⟩ := (hobscures.keep c).startsWith hstar hleads
          refine ⟨[], back, hback.symm, fun ⟨hbefore, hafter⟩ => ?_⟩
          rw [List.getLast?_nil, Option.none_or] at hbefore
          rw [← hback, accessKeyId_eq hkey hbefore hafter] at hmatch
          cases hmatch
        · have hinside : InsideWord ([c].getLast?.or before) key rest :=
            ih rest.length (by rw [← hn]; simp) (some c) rest hrest rfl
          exact hinside.append
      | some found =>
        obtain ⟨tail, htext, hshorter, hredact⟩ := redactFrom_match sound_accessKeyId hmatch
        obtain ⟨first, hlength, hhidden⟩ := hidden_of_accessKeyId hmatch
        rw [hredact, hhidden, List.append_assoc] at h
        rcases infix_append_cons hstar h with hfirst | htail
        · have hshort := hfirst.length_le
          rw [hlength, hkey.length] at hshort
          exact absurd hshort (by decide)
        · have hinside := ih tail.length (hn ▸ hshorter) _ tail (infix_of_replicate hstar 2 htail) rfl
          rw [htext]
          exact hinside.append

theorem infix_of_capped (hkey : IsKeyId key) (h : key <:+: capped text) : key <:+: text := by
  have hdot : '.' ∉ key := hkey.not_mem (by decide)
  unfold capped at h
  split at h
  · rcases infix_append_cons hdot h with htaken | hdots
    · exact htaken.trans (List.take_prefix _ _).isInfix
    · have hnil : key <:+: [] := infix_of_replicate hdot 2 hdots
      exact absurd (List.infix_nil.mp hnil) hkey.ne_nil
  · exact h

theorem sanitizedChars_eq (text : List Char) : sanitizedChars text =
    capped (redact assignedSecret (redact bearerToken (redact accessKeyId text))) := rfl

/-- A key id that is found in what may be logged of a text stands in the text inside a longer
word. -/
theorem insideWord_of_sanitizedChars (hkey : IsKeyId key) (h : key <:+: sanitizedChars text) :
    InsideWord none key text := by
  have hstar : '*' ∉ key := hkey.not_mem (by decide)
  have hassigned := infix_of_capped hkey h
  have hbearer := (obscures_redactFrom sound_assignedSecret none _).holds hstar hassigned
  have hredacted := (obscures_redactFrom sound_bearerToken none _).holds hstar hbearer
  exact insideWord_of_redactFrom hkey none text hredacted

end CallTracing.Redaction
