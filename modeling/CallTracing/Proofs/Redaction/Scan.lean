/-
  CallTracing/Proofs/Redaction/Scan.lean
  ======================================
  **Hiding secrets in the parts of a text.**

  Secrets are looked for from left to right, so what is written for the front of a text depends on
  what stands behind it in one way only: a match that begins in the front may go on there.  The scan of
  a front (`scanFrom`) is taken with what follows it at hand; it gives what is written, and how many of
  the characters that follow are covered already.

  Of the matches that begin in a front, each ends there or takes in all of a run behind it
  (`Settles`).  Then so does the scan (`closed_or_open`): it writes what it would write with nothing
  behind, or else what is hidden last is a secret that goes on to the end of the run.
-/
import CallTracing.Proofs.Redaction.KeyIds

namespace CallTracing.Redaction

variable {matcher : Matcher} {front rest : List Char} {before : Option Char}

/-! ### The scan of a front -/

/-- What is written for the front of a text, and how many characters behind it are covered, by the
match that covers the end of the front. -/
def scanFrom (matcher : Matcher) (rest : List Char) :
    Nat → Option Char → List Char → List Char × Nat
  | skip, _, [] => ([], skip)
  | skip + 1, _, c :: front => scanFrom matcher rest skip (some c) front
  | 0, before, c :: front =>
    match matcher before (c :: front ++ rest) with
    | some found =>
      let after := scanFrom matcher rest (found.length - 1) (some c) front
      (found.hidden ++ after.1, after.2)
    | none =>
      let after := scanFrom matcher rest 0 (some c) front
      (c :: after.1, after.2)

theorem getLast?_cons_or (c : Char) (front : List Char) (before : Option Char) :
    (c :: front).getLast?.or before = front.getLast?.or (some c) := by
  rw [List.getLast?_cons]
  cases front.getLast? <;> rfl

/-- A text is gone through in two parts. -/
theorem redactFrom_append (matcher : Matcher) (skip : Nat) (before : Option Char)
    (front rest : List Char) :
    redactFrom matcher skip before (front ++ rest) =
      (scanFrom matcher rest skip before front).1 ++
        redactFrom matcher (scanFrom matcher rest skip before front).2
          (front.getLast?.or before) rest := by
  induction front generalizing skip before with
  | nil =>
    show _ = [] ++ redactFrom matcher skip (none.or before) rest
    rw [Option.none_or]
    rfl
  | cons c front ih =>
    rw [getLast?_cons_or]
    cases skip with
    | succ skip => exact ih skip (some c)
    | zero =>
      rw [scanFrom, List.cons_append, redactFrom]
      cases matcher before (c :: (front ++ rest)) with
      | none =>
        dsimp only
        rw [ih 0 (some c)]
        rfl
      | some found =>
        dsimp only
        rw [ih (found.length - 1) (some c), List.append_assoc]

theorem scanFrom_covered {skip : Nat} (h : front.length ≤ skip) :
    scanFrom matcher rest skip before front = ([], skip - front.length) := by
  induction front generalizing skip before with
  | nil => rfl
  | cons c front ih =>
    cases skip with
    | zero => cases h
    | succ skip =>
      have hfront : front.length ≤ skip := Nat.le_of_succ_le_succ h
      rw [scanFrom, ih hfront, List.length_cons, Nat.add_sub_add_right]

/-! ### Matches that go on behind a front -/

/-- Whether a match at the start of a text ends in it, with whatever follows the next character. -/
def Ends (matcher : Matcher) (next : Char) (before : Option Char) (front : List Char) : Prop :=
  ∀ rest, matcher before (front ++ next :: rest) = matcher before front

/-- Whether a match at the start of a text, which keeps this much of it, goes on into a run behind
it. -/
def RunsOn (matcher : Matcher) (run : List Char → List Char) (next : Char) (before : Option Char)
    (kept part : List Char) : Prop :=
  ∀ rest, matcher before (kept ++ part ++ next :: rest) = some ⟨kept, part ++ run (next :: rest)⟩

/-- Whether every match that begins in a text ends there or takes in all of a run behind it. -/
def Settles (matcher : Matcher) (run : List Char → List Char) (next : Char) (front : List Char) :
    Prop :=
  ∀ before text, text ≠ [] → text <:+ front →
    Ends matcher next before text ∨
      ∃ kept part, text = kept ++ part ∧ RunsOn matcher run next before kept part

theorem Matcher.Sound.length_le (h : matcher.Sound) {found : Match}
    (hfound : matcher before front = some found) :
    0 < found.length ∧ found.length ≤ front.length := by
  obtain ⟨hsecret, tail, htext⟩ := h _ _ _ hfound
  have hpositive : 0 < found.secret.length := List.length_pos_iff.mpr hsecret
  have hlength := congrArg List.length htext
  rw [List.length_append, List.length_append] at hlength
  unfold Match.length
  omega

variable {run : List Char → List Char} {next : Char}

/-- What is written for a text is what would be written with nothing behind it. -/
def Closed (matcher : Matcher) (next : Char) (skip : Nat) (before : Option Char)
    (front : List Char) : Prop :=
  ∀ rest, scanFrom matcher (next :: rest) skip before front =
    (redactFrom matcher skip before front, 0)

/-- The match that is hidden last in a text goes on into a run behind it. -/
def Open (matcher : Matcher) (run : List Char → List Char) (next : Char) (skip : Nat)
    (before : Option Char) (front : List Char) : Prop :=
  ∃ start out kept part, kept ++ part <:+ front ∧ RunsOn matcher run next start kept part ∧
    ∀ rest, scanFrom matcher (next :: rest) skip before front =
      (out ++ kept ++ obscured (part ++ run (next :: rest)), (run (next :: rest)).length)

/-- What is written first does not matter for how a text ends. -/
theorem Open.cons {skip skip' : Nat} {before' : Option Char} {c : Char} {written : List Char}
    (h : Open matcher run next skip' before' front)
    (hscan : ∀ rest, scanFrom matcher (next :: rest) skip before (c :: front) =
      (written ++ (scanFrom matcher (next :: rest) skip' before' front).1,
        (scanFrom matcher (next :: rest) skip' before' front).2)) :
    Open matcher run next skip before (c :: front) := by
  obtain ⟨start, out, kept, part, hpart, hruns, hopen⟩ := h
  refine ⟨start, written ++ out, kept, part, hpart.trans (List.suffix_cons c front), hruns, ?_⟩
  intro rest
  rw [hscan, hopen]
  simp only [List.append_assoc]

theorem closed_or_open_from (hsound : matcher.Sound) {skip : Nat} (hskip : skip ≤ front.length)
    (h : Settles matcher run next front) :
    Closed matcher next skip before front ∨ Open matcher run next skip before front := by
  induction front generalizing skip before with
  | nil =>
    obtain rfl := Nat.le_zero.mp hskip
    exact Or.inl fun _ => rfl
  | cons c front ih =>
    have htail : Settles matcher run next front :=
      fun before text hne htext => h before text hne (htext.trans (List.suffix_cons c front))
    cases skip with
    | succ skip =>
      have hscan : ∀ rest, scanFrom matcher (next :: rest) (skip + 1) before (c :: front) =
          ([] ++ (scanFrom matcher (next :: rest) skip (some c) front).1,
            (scanFrom matcher (next :: rest) skip (some c) front).2) := fun _ => rfl
      rcases ih (Nat.le_of_succ_le_succ hskip) htail with hclosed | hopen
      · exact Or.inl hclosed
      · exact Or.inr (hopen.cons hscan)
    | zero =>
      rcases h before (c :: front) (List.cons_ne_nil c front) List.suffix_rfl with hends | hruns
      · cases hmatch : matcher before (c :: front) with
        | none =>
          have hscan : ∀ rest, scanFrom matcher (next :: rest) 0 before (c :: front) =
              ([c] ++ (scanFrom matcher (next :: rest) 0 (some c) front).1,
                (scanFrom matcher (next :: rest) 0 (some c) front).2) := by
            intro rest
            rw [scanFrom, (hends rest).trans hmatch]
            rfl
          rcases ih (Nat.zero_le _) htail with hclosed | hopen
          · refine Or.inl fun rest => ?_
            rw [hscan, hclosed, redactFrom_none hmatch]
            rfl
          · exact Or.inr (hopen.cons hscan)
        | some found =>
          obtain ⟨hpositive, hlength⟩ := hsound.length_le hmatch
          rw [List.length_cons] at hlength
          have hinside : found.length - 1 ≤ front.length := by omega
          have hscan : ∀ rest, scanFrom matcher (next :: rest) 0 before (c :: front) =
              (found.hidden ++
                (scanFrom matcher (next :: rest) (found.length - 1) (some c) front).1,
                (scanFrom matcher (next :: rest) (found.length - 1) (some c) front).2) := by
            intro rest
            rw [scanFrom, (hends rest).trans hmatch]
          rcases ih hinside htail with hclosed | hopen
          · refine Or.inl fun rest => ?_
            rw [hscan, hclosed, redactFrom, hmatch]
          · exact Or.inr (hopen.cons hscan)
      · -- the rest of the front is covered, and so is the run
        obtain ⟨kept, part, hfront, hfound⟩ := hruns
        refine Or.inr ⟨before, [], kept, part, hfront ▸ List.suffix_rfl, hfound, fun rest => ?_⟩
        have hparts := congrArg List.length hfront
        rw [List.length_cons, List.length_append] at hparts
        have hlength : (⟨kept, part ++ run (next :: rest)⟩ : Match).length =
            front.length + 1 + (run (next :: rest)).length := by
          show kept.length + (part ++ run (next :: rest)).length = _
          rw [List.length_append]
          omega
        have hcovered : front.length ≤ front.length + 1 + (run (next :: rest)).length - 1 := by
          omega
        have hbehind : front.length + 1 + (run (next :: rest)).length - 1 - front.length =
            (run (next :: rest)).length := by
          omega
        have hmatch := hfound rest
        rw [← hfront] at hmatch
        rw [scanFrom, hmatch]
        dsimp only
        rw [hlength, scanFrom_covered hcovered, hbehind, List.append_nil]
        rfl

/-- Where the matches that begin in a text have settled, so has the text. -/
theorem closed_or_open (hsound : matcher.Sound) (before : Option Char)
    (h : Settles matcher run next front) :
    Closed matcher next 0 before front ∨ Open matcher run next 0 before front :=
  closed_or_open_from hsound (Nat.zero_le _) h

theorem closed_of_ends (hsound : matcher.Sound) (before : Option Char)
    (h : ∀ before text, text ≠ [] → text <:+ front → Ends matcher next before text) :
    Closed matcher next 0 before front := by
  have hsettles : Settles matcher (fun text => next :: text) next front :=
    fun before text hne htext => Or.inl (h before text hne htext)
  rcases closed_or_open hsound before hsettles with hclosed | ⟨start, out, kept, part, -, hruns, -⟩
  · exact hclosed
  · -- no match is longer than the text it is found in
    obtain ⟨-, tail, htext⟩ := hsound _ _ _ (hruns [])
    have hlength := congrArg List.length htext
    simp only [List.length_append, List.length_cons] at hlength
    omega

theorem Closed.redact_eq (h : Closed matcher next 0 before front) (rest : List Char) :
    redactFrom matcher 0 before (front ++ next :: rest) = redactFrom matcher 0 before front ++
      redactFrom matcher 0 (front.getLast?.or before) (next :: rest) := by
  rw [redactFrom_append, h rest]

/-- Behind what is covered of a text the search goes on. -/
theorem Open.redact_eq (h : Open matcher run next 0 before front) :
    ∃ start out kept part, kept ++ part <:+ front ∧ RunsOn matcher run next start kept part ∧
      ∀ tail rest, next :: rest = run (next :: rest) ++ tail →
        redactFrom matcher 0 before (front ++ next :: rest) =
          out ++ kept ++ obscured (part ++ run (next :: rest)) ++
            redactFrom matcher 0 ((run (next :: rest)).getLast?.or (front.getLast?.or before))
              tail := by
  obtain ⟨start, out, kept, part, hpart, hruns, hopen⟩ := h
  refine ⟨start, out, kept, part, hpart, hruns, fun tail rest htext => ?_⟩
  have hscan := hopen rest
  generalize run (next :: rest) = covered at htext hscan ⊢
  rw [redactFrom_append, hscan, redactFrom_skip, htext, List.take_left, List.drop_left]

/-! ### Words, and what stands between them -/

/-- A matcher that finds secrets at the beginnings of words only. -/
structure Matcher.AtWords (matcher : Matcher) : Prop where
  inside : ∀ before text, startsWord before = false → matcher before text = none
  outside : ∀ before c rest, isWordChar c = false → matcher before (c :: rest) = none

theorem redactFrom_within (hwords : matcher.AtWords) {word : List Char}
    (hword : ∀ c ∈ word, isWordChar c = true) (hbefore : startsWord before = false)
    (rest : List Char) :
    redactFrom matcher 0 before (word ++ rest) =
      word ++ redactFrom matcher 0 (word.getLast?.or before) rest := by
  induction word generalizing before with
  | nil => rw [List.getLast?_nil, Option.none_or, List.nil_append, List.nil_append]
  | cons c word ih =>
    obtain ⟨hc, hrest⟩ := List.forall_mem_cons.mp hword
    have hinside : startsWord (some c) = false := by simp [startsWord, hc]
    rw [List.cons_append, redactFrom_none (hwords.inside _ _ hbefore), ih hrest hinside,
      getLast?_cons_or]
    rfl

/-- A word with nothing at its beginning stays as it is. -/
theorem redactFrom_word (hwords : matcher.AtWords) {word : List Char}
    (hword : ∀ c ∈ word, isWordChar c = true) (hnone : matcher before (word ++ rest) = none) :
    redactFrom matcher 0 before (word ++ rest) =
      word ++ redactFrom matcher 0 (word.getLast?.or before) rest := by
  cases word with
  | nil => rw [List.getLast?_nil, Option.none_or, List.nil_append, List.nil_append]
  | cons c word =>
    obtain ⟨hc, hrest⟩ := List.forall_mem_cons.mp hword
    have hinside : startsWord (some c) = false := by simp [startsWord, hc]
    have hfirst : matcher before (c :: (word ++ rest)) = none := hnone
    rw [List.cons_append, redactFrom_none hfirst, redactFrom_within hwords hrest hinside,
      getLast?_cons_or]
    rfl

/-- What stands between words stays as it is. -/
theorem redactFrom_gap (hwords : matcher.AtWords) {gap : List Char}
    (hgap : ∀ c ∈ gap, isWordChar c = false) (before : Option Char) (rest : List Char) :
    redactFrom matcher 0 before (gap ++ rest) =
      gap ++ redactFrom matcher 0 (gap.getLast?.or before) rest := by
  induction gap generalizing before with
  | nil => rw [List.getLast?_nil, Option.none_or, List.nil_append, List.nil_append]
  | cons c gap ih =>
    obtain ⟨hc, hrest⟩ := List.forall_mem_cons.mp hgap
    rw [List.cons_append, redactFrom_none (hwords.outside _ _ _ hc), ih hrest, getLast?_cons_or]
    rfl

theorem startsWord_or {last before : Option Char} (h : startsWord before = true) :
    startsWord (last.or before) = startsWord last := by
  cases last with
  | none => exact h
  | some c => rfl

/-- Behind a word, what the word is does not matter. -/
theorem redactFrom_of_endsWord (hwords : matcher.AtWords) {text : List Char}
    (h : endsWord text = true) (before : Option Char) :
    redactFrom matcher 0 before text = redact matcher text := by
  cases text with
  | nil => rfl
  | cons c rest =>
    have hc : isWordChar c = false := by simpa [endsWord, startsWord] using h
    unfold redact
    rw [redactFrom_none (hwords.outside _ _ _ hc), redactFrom_none (hwords.outside _ _ _ hc)]

/-! ### The first match -/

/-- A text stays as it is, or is kept up to a first match. -/
theorem redactFrom_eq_or_match (hsound : matcher.Sound) (before : Option Char) (text : List Char) :
    redactFrom matcher 0 before text = text ∨
      ∃ front found tail, text = front ++ (found.kept ++ found.secret ++ tail) ∧
        matcher (front.getLast?.or before) (found.kept ++ found.secret ++ tail) = some found ∧
          redactFrom matcher 0 before text = front ++ (found.hidden ++
            redactFrom matcher 0 ((found.kept ++ found.secret).getLast?.or
              (front.getLast?.or before)) tail) := by
  induction text generalizing before with
  | nil => exact Or.inl rfl
  | cons c rest ih =>
    cases hmatch : matcher before (c :: rest) with
    | none =>
      rw [redactFrom_none hmatch]
      rcases ih (some c) with hsame | ⟨front, found, tail, rfl, hfound, hredact⟩
      · exact Or.inl (congrArg (c :: ·) hsame)
      · refine Or.inr ⟨c :: front, found, tail, rfl, ?_, ?_⟩
        · rwa [getLast?_cons_or]
        · rw [hredact, getLast?_cons_or]
          rfl
    | some found =>
      obtain ⟨tail, htext, -, hredact⟩ := redactFrom_match hsound hmatch
      refine Or.inr ⟨[], found, tail, htext, ?_, hredact⟩
      rw [← htext]
      exact hmatch

/-- Whether what is kept of a match has a character of a kind in it. -/
def Matcher.Marked (matcher : Matcher) (mark : Char → Bool) : Prop :=
  ∀ before text found, matcher before text = some found → ∃ c ∈ found.kept, mark c = true

section

variable {mark : Char → Bool} {text : List Char}

/-- Without a mark there is no match. -/
theorem redactFrom_unmarked (hsound : matcher.Sound) (hmarked : matcher.Marked mark)
    (h : ∀ c ∈ text, mark c = false) (before : Option Char) :
    redactFrom matcher 0 before text = text := by
  rcases redactFrom_eq_or_match hsound before text with hsame | ⟨first, found, tail, rfl, hfound, -⟩
  · exact hsame
  · obtain ⟨c, hkept, hc⟩ := hmarked _ _ _ hfound
    rw [h c (by simp [hkept])] at hc
    cases hc

/-- A text without a mark stays as it is, whatever follows: a match that begins in it keeps all of
it. -/
theorem exists_back_of_unmarked (hsound : matcher.Sound) (hmarked : matcher.Marked mark)
    (h : ∀ c ∈ text, mark c = false) (before : Option Char) (rest : List Char) :
    ∃ back, redactFrom matcher 0 before (text ++ rest) = text ++ back := by
  rcases redactFrom_eq_or_match hsound before (text ++ rest) with
    hsame | ⟨front, found, tail, htext, hfound, hredact⟩
  · exact ⟨rest, hsame⟩
  · obtain ⟨c, hkept, hc⟩ := hmarked _ _ _ hfound
    obtain ⟨left, right, hparts⟩ := List.append_of_mem hkept
    -- the mark is behind the text, and all in front of it is kept
    have hprefix : text <+: front ++ left := by
      have hall : text ++ rest = front ++ left ++ c :: (right ++ found.secret ++ tail) := by
        rw [htext, hparts]
        simp only [List.append_assoc, List.cons_append]
      rcases List.append_eq_append_iff.mp hall with ⟨more, hmore, -⟩ | ⟨more, hmore, hbehind⟩
      · exact ⟨more, hmore.symm⟩
      · cases more with
        | nil => exact ⟨[], by rw [hmore, List.append_nil, List.append_nil]⟩
        | cons d more =>
          obtain ⟨rfl, -⟩ := List.cons_eq_cons.mp hbehind
          rw [h c (by rw [hmore]; simp)] at hc
          cases hc
    obtain ⟨more, hmore⟩ := hprefix
    have hkeeps : front ++ found.kept = text ++ (more ++ c :: right) := by
      rw [hparts, ← List.append_assoc, ← hmore, List.append_assoc]
    refine ⟨more ++ c :: right ++ (obscured found.secret ++ redactFrom matcher 0
      ((found.kept ++ found.secret).getLast?.or (front.getLast?.or before)) tail), ?_⟩
    rw [hredact, Match.hidden, List.append_assoc, ← List.append_assoc, hkeeps, List.append_assoc]

end

/-! ### How texts end -/

/-- A text ends as it did, or with a star. -/
theorem getLast?_redactFrom (hsound : matcher.Sound) (before : Option Char) {text : List Char}
    (hne : text ≠ []) :
    (redactFrom matcher 0 before text).getLast? = text.getLast? ∨
      (redactFrom matcher 0 before text).getLast? = some '*' := by
  induction hn : text.length using Nat.strongRecOn generalizing before text with
  | ind n ih =>
    cases text with
    | nil => exact absurd rfl hne
    | cons c rest =>
      cases hmatch : matcher before (c :: rest) with
      | none =>
        rw [redactFrom_none hmatch]
        cases rest with
        | nil => exact Or.inl rfl
        | cons d rest =>
          have hrest := ih (d :: rest).length (by rw [← hn]; simp) (some c)
            (List.cons_ne_nil d rest) rfl
          rw [List.getLast?_cons, List.getLast?_cons]
          rcases hrest with hsame | hstar
          · refine Or.inl ?_
            rw [hsame]
          · refine Or.inr ?_
            rw [hstar]
            rfl
      | some found =>
        obtain ⟨hsecret, -⟩ := hsound _ _ _ hmatch
        obtain ⟨tail, htext, hshorter, hredact⟩ := redactFrom_match hsound hmatch
        have hhidden : found.hidden.getLast? = some '*' := by
          unfold Match.hidden obscured
          split
          · have hlength : found.secret.length ≠ 0 := by
              simpa using hsecret
            rw [List.getLast?_append, List.getLast?_replicate, if_neg hlength]
            rfl
          · simp
        rw [hredact, htext, List.getLast?_append, hhidden]
        cases tail with
        | nil => exact Or.inr rfl
        | cons d tail =>
          have hrest := ih (d :: tail).length (hn ▸ hshorter)
            ((found.kept ++ found.secret).getLast?.or before) (List.cons_ne_nil d tail) rfl
          rcases hrest with hsame | hstar
          · refine Or.inl ?_
            rw [hsame, List.getLast?_append, List.getLast?_cons]
            rfl
          · refine Or.inr ?_
            rw [hstar]
            rfl

/-- A word may start behind a text if it could before secrets were hidden. -/
theorem startsWord_redact (hsound : matcher.Sound) {text : List Char}
    (h : startsWord text.getLast? = true) :
    startsWord (redact matcher text).getLast? = true := by
  unfold redact
  by_cases hne : text = []
  · rw [hne]
    rfl
  · rcases getLast?_redactFrom hsound none hne with hsame | hstar
    · rwa [hsame]
    · rw [hstar]
      decide +kernel

end CallTracing.Redaction
