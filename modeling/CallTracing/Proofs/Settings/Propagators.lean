/-
  CallTracing/Proofs/Settings/Propagators.lean
  ============================================
  **Which propagators a list of configured names installs.**

  A name asks for a propagator whatever the case of its letters and whatever blanks stand around it
  (`asksFor`), and it is passed over where a name that is spelled exactly like it was installed before.
  So what is installed are the names that ask for a propagator, without repeated spellings
  (`install_eq`).  Each propagator comes as often as it has spellings, in the order in which they
  are first asked for; and it comes once just where it has one spelling.
-/
import CallTracing.Proofs.Lists
import CallTracing.Proofs.Text.Letters
import CallTracing.Propagation

namespace CallTracing.Propagator

variable {p q : Propagator} {text given : String} {entry : String × Propagator}

/-! ### Names that ask for a propagator -/

/-- The name of a propagator. -/
def name : Propagator → String
  | .traceContext => "tracecontext"
  | .baggage => "baggage"

/-- Whether a configured name asks for a propagator. -/
def asksFor (p : Propagator) (given : String) : Bool :=
  Text.sameIgnoringAsciiCase (Text.trimmed given.toList) p.name.toList

/-- A configured name as it is installed, if it asks for a propagator. -/
def requested? (given : String) : Option (String × Propagator) :=
  match meaningOf (Text.trim given) with
  | .propagator p => some (Text.trim given, p)
  | _ => none

theorem lookup_meanings_iff : meanings.lookup text = some (.propagator p) ↔ text = p.name := by
  constructor
  · intro h
    obtain ⟨front, back, hsplit, -⟩ := List.lookup_eq_some_iff.mp h
    have hmem : (text, Meaning.propagator p) ∈ meanings := by
      rw [hsplit]
      exact List.mem_append_right front List.mem_cons_self
    simp [meanings, unavailable] at hmem
    rcases hmem with ⟨rfl, rfl⟩ | ⟨rfl, rfl⟩ <;> rfl
  · rintro rfl
    cases p <;> decide

/-- No other character than an ASCII letter is in lower case a letter of one of the names. -/
theorem lower_eq_name_iff : Text.lower text = p.name ↔
    Text.sameIgnoringAsciiCase text.toList p.name.toList = true := by
  have hname : Text.IsName p.name.toList := by cases p <;> decide
  have hkelvin : 'k' ∉ p.name.toList := by cases p <;> decide
  have hlower : p.name.toList.map Char.toLower = p.name.toList := by cases p <;> decide
  unfold Text.lower Text.sameIgnoringAsciiCase
  rw [beq_iff_eq, hlower, ← Text.lowerFrom_eq_iff hname hkelvin []]
  constructor
  · intro h
    rw [← h, String.toList_ofList]
  · intro h
    rw [h, String.ofList_toList]

theorem meaningOf_trim_iff : meaningOf (Text.trim given) = .propagator p ↔
    asksFor p given = true := by
  have hlookup : meaningOf (Text.trim given) = .propagator p ↔
      meanings.lookup (Text.lower (Text.trim given)) = some (.propagator p) := by
    unfold meaningOf
    cases meanings.lookup (Text.lower (Text.trim given)) <;> simp
  rw [hlookup, lookup_meanings_iff, lower_eq_name_iff]
  unfold Text.trim asksFor
  rw [String.toList_ofList]

theorem requested?_eq_some_iff :
    requested? given = some entry ↔
      entry.1 = Text.trim given ∧ asksFor entry.2 given = true := by
  rw [← meaningOf_trim_iff]
  obtain ⟨known, p⟩ := entry
  unfold requested?
  cases meaningOf (Text.trim given) <;> simp [eq_comm]

/-- A name asks for one propagator at most. -/
theorem asksFor_unique (hp : asksFor p given = true) (hq : asksFor q given = true) :
    p = q := by
  rw [← meaningOf_trim_iff] at hp hq
  exact Meaning.propagator.inj (hp.symm.trans hq)

/-! ### The loop -/

/-- What is installed are the names asked for, without repetitions; behind others that were asked
for before. -/
theorem install_eq (before : List (String × Propagator)) (names : List String)
    (hbefore : ∀ entry ∈ before, meaningOf entry.1 = .propagator entry.2) :
    (install before.eraseDups names).1 = (before ++ names.filterMap requested?).eraseDups := by
  induction names generalizing before with
  | nil =>
    rw [List.filterMap_nil, List.append_nil]
    rfl
  | cons given rest ih =>
    unfold install
    dsimp only
    by_cases hknown : (before.eraseDups.map (·.1)).contains (Text.trim given) = true
    · -- a name of this spelling was asked for before, and so was the same entry
      obtain ⟨entry, hentry, htrim⟩ := List.mem_map.mp (List.contains_iff_mem.mp hknown)
      have hmem := List.mem_eraseDups.mp hentry
      have hmeaning := hbefore entry hmem
      rw [htrim] at hmeaning
      have hasked : requested? given = some entry :=
        requested?_eq_some_iff.mpr ⟨htrim, meaningOf_trim_iff.mp hmeaning⟩
      rw [if_pos hknown, ih before hbefore, List.filterMap_cons_some hasked,
        eraseDups_append_cons_of_mem hmem]
    · rw [if_neg hknown]
      have hskipped : (∀ p, meaningOf (Text.trim given) ≠ .propagator p) →
          (install before.eraseDups rest).1 =
            (before ++ (given :: rest).filterMap requested?).eraseDups := by
        intro hmeaning
        have hasked : requested? given = none := by
          rw [Option.eq_none_iff_forall_ne_some]
          intro entry hentry
          exact hmeaning entry.2 (meaningOf_trim_iff.mpr (requested?_eq_some_iff.mp hentry).2)
        rw [List.filterMap_cons_none hasked, ih before hbefore]
      cases hmeaning : meaningOf (Text.trim given) with
      | propagator p =>
        dsimp only
        have hasked : requested? given = some (Text.trim given, p) :=
          requested?_eq_some_iff.mpr ⟨rfl, meaningOf_trim_iff.mp hmeaning⟩
        have hnew : (Text.trim given, p) ∉ before := by
          intro hmem
          refine hknown (List.contains_iff_mem.mpr ?_)
          exact List.mem_map.mpr ⟨_, List.mem_eraseDups.mpr hmem, rfl⟩
        rw [← eraseDups_concat_of_not_mem hnew, ih, List.filterMap_cons_some hasked,
          List.append_assoc, List.singleton_append]
        intro entry hentry
        rcases List.mem_append.mp hentry with hold | hlast
        · exact hbefore entry hold
        · rw [List.mem_singleton.mp hlast]
          exact hmeaning
      | nothing => exact hskipped fun p hp => by rw [hmeaning] at hp; cases hp
      | unavailable => exact hskipped fun p hp => by rw [hmeaning] at hp; cases hp
      | unknown => exact hskipped fun p hp => by rw [hmeaning] at hp; cases hp

theorem configured_eq (names : List String) :
    configured names = (names.filterMap requested?).eraseDups.map (·.2) := by
  have hinstall := install_eq [] names (List.forall_mem_nil _)
  rw [List.eraseDups_nil, List.nil_append] at hinstall
  unfold configured
  rw [hinstall]

/-! ### What is installed -/

variable {names : List String}

theorem mem_entries_iff :
    entry ∈ names.filterMap requested? ↔
      ∃ given ∈ names, entry.1 = Text.trim given ∧ asksFor entry.2 given = true := by
  rw [List.mem_filterMap]
  exact exists_congr fun given => and_congr_right fun _ => requested?_eq_some_iff

theorem mem_configured_iff : p ∈ configured names ↔ ∃ given ∈ names, asksFor p given = true := by
  rw [configured_eq, List.mem_map]
  constructor
  · rintro ⟨entry, hentry, rfl⟩
    obtain ⟨given, hgiven, -, hasks⟩ := mem_entries_iff.mp (List.mem_eraseDups.mp hentry)
    exact ⟨given, hgiven, hasks⟩
  · rintro ⟨given, hgiven, hasks⟩
    refine ⟨(Text.trim given, p), List.mem_eraseDups.mpr ?_, rfl⟩
    exact mem_entries_iff.mpr ⟨given, hgiven, rfl, hasks⟩

/-- The spellings in which a propagator is asked for, each once. -/
def spellings (p : Propagator) (names : List String) : List String :=
  ((names.filter p.asksFor).map Text.trim).eraseDups

theorem mem_spellings_iff :
    text ∈ spellings p names ↔ ∃ given ∈ names, asksFor p given = true ∧ Text.trim given = text := by
  unfold spellings
  rw [List.mem_eraseDups, List.mem_map]
  simp only [List.mem_filter, and_assoc]

/-- The entries of a propagator are its spellings. -/
theorem count_configured (p : Propagator) (names : List String) :
    (configured names).count p = (spellings p names).length := by
  let entries := (names.filterMap requested?).eraseDups.filter fun entry => entry.2 == p
  have hcount : (configured names).count p = entries.length := by
    rw [configured_eq, List.count_eq_countP, List.countP_map, List.countP_eq_length_filter]
    rfl
  have hperm : entries.Perm ((spellings p names).map fun text => (text, p)) := by
    have hentries : entries.Nodup := List.Pairwise.filter _ (nodup_eraseDups _)
    have hspellings : ((spellings p names).map fun text => (text, p)).Nodup :=
      List.Pairwise.map _ (fun a b hne heq => hne (Prod.mk.inj heq).1) (nodup_eraseDups _)
    refine (List.perm_ext_iff_of_nodup hentries hspellings).mpr ?_
    rintro ⟨text, kind⟩
    rw [List.mem_filter, List.mem_eraseDups, mem_entries_iff, List.mem_map]
    simp only [mem_spellings_iff, beq_iff_eq, Prod.mk.injEq]
    constructor
    · rintro ⟨⟨given, hgiven, htrim, hasks⟩, rfl⟩
      exact ⟨text, ⟨given, hgiven, hasks, htrim.symm⟩, rfl, rfl⟩
    · rintro ⟨_, ⟨given, hgiven, hasks, htrim⟩, rfl, rfl⟩
      exact ⟨⟨given, hgiven, htrim.symm, hasks⟩, rfl⟩
  rw [hcount, hperm.length_eq, List.length_map]

theorem count_le_one_iff : (configured names).count p ≤ 1 ↔
    ∀ a ∈ names, ∀ b ∈ names, asksFor p a = true → asksFor p b = true →
      Text.trim a = Text.trim b := by
  rw [count_configured]
  refine (length_eraseDups_le_one_iff _).trans ?_
  simp only [List.forall_mem_map, List.mem_filter]
  constructor
  · intro h a ha b hb hasksA hasksB
    exact h a ⟨ha, hasksA⟩ b ⟨hb, hasksB⟩
  · rintro h a ⟨ha, hasksA⟩ b ⟨hb, hasksB⟩
    exact h a ha b hb hasksA hasksB

/-- Which propagator a name asks for, as far as a test can tell. -/
theorem any_requested?_iff (test : Propagator → Bool) (given : String) :
    ((requested? given).any fun entry => test entry.2) = true ↔
      ∃ p, asksFor p given = true ∧ test p = true := by
  rw [Option.any_eq_true]
  constructor
  · rintro ⟨entry, hentry, htest⟩
    exact ⟨entry.2, (requested?_eq_some_iff.mp hentry).2, htest⟩
  · rintro ⟨p, hasks, htest⟩
    exact ⟨(Text.trim given, p), requested?_eq_some_iff.mpr ⟨rfl, hasks⟩, htest⟩

/-- The first of two propagators that is installed is the first one that is asked for. -/
theorem find?_configured_eq_some_iff {r : Propagator} :
    (configured names).find? (fun installed => installed == p || installed == q) = some r ↔
      ∃ given, names.find? (fun given => asksFor p given || asksFor q given) = some given ∧
        asksFor r given = true := by
  have htest : (fun given => (requested? given).any fun entry => entry.2 == p || entry.2 == q) =
      fun given => asksFor p given || asksFor q given := by
    funext given
    rw [Bool.eq_iff_iff]
    refine (any_requested?_iff (fun r => r == p || r == q) given).trans ?_
    simp only [Bool.or_eq_true, beq_iff_eq]
    constructor
    · rintro ⟨_, hasks, rfl | rfl⟩
      · exact Or.inl hasks
      · exact Or.inr hasks
    · rintro (hasks | hasks)
      · exact ⟨p, hasks, Or.inl rfl⟩
      · exact ⟨q, hasks, Or.inr rfl⟩
  have hfind : (configured names).find? (fun installed => installed == p || installed == q) =
      ((names.find? fun given => asksFor p given || asksFor q given).bind requested?).map (·.2) := by
    rw [configured_eq, List.find?_map, find?_eraseDups, List.find?_filterMap, ← htest]
    rfl
  rw [hfind, Option.map_eq_some_iff]
  simp only [Option.bind_eq_some_iff]
  constructor
  · rintro ⟨entry, ⟨given, hgiven, hentry⟩, rfl⟩
    exact ⟨given, hgiven, (requested?_eq_some_iff.mp hentry).2⟩
  · rintro ⟨given, hgiven, hasks⟩
    exact ⟨(Text.trim given, r), ⟨given, hgiven, requested?_eq_some_iff.mpr ⟨rfl, hasks⟩⟩, rfl⟩

/-- Propagators are installed in the order in which they are first asked for. -/
theorem idxOf_lt_iff : (configured names).idxOf p < (configured names).idxOf q ↔
    names.findIdx p.asksFor < names.findIdx q.asksFor := by
  refine (findIdx_lt_iff _ _ _).trans ((findIdx_lt_iff _ _ _).trans ?_).symm
  simp only [find?_configured_eq_some_iff]
  constructor
  · rintro ⟨given, hgiven, hq⟩
    have hasks := List.find?_some hgiven
    rw [hq, Bool.or_false] at hasks
    refine ⟨p, ⟨given, hgiven, hasks⟩, beq_false_of_ne ?_⟩
    rintro rfl
    rw [hasks] at hq
    cases hq
  · rintro ⟨r, ⟨given, hgiven, hr⟩, hne⟩
    refine ⟨given, hgiven, Bool.eq_false_iff.mpr fun hq => ?_⟩
    rw [asksFor_unique hr hq, beq_self_eq_true] at hne
    cases hne

/-! ### The main result -/

/-- **What a list of configured names installs.**  A propagator is installed just where some name asks
for it, once for each of the spellings in which it is asked for, blanks apart.  So it is installed
once where it is asked for, and not at all elsewhere, exactly if all names that ask for it are spelled
alike.  And whatever is installed twice, the propagators come in the order in which they are first
asked for. -/
theorem configured_by_spelling (names : List String) :
    (∀ p, p ∈ configured names ↔ ∃ given ∈ names, asksFor p given = true) ∧
    (∀ p, (configured names).count p = (spellings p names).length) ∧
    (∀ p, (configured names).count p = (if names.any p.asksFor then 1 else 0) ↔
      ∀ a ∈ names, ∀ b ∈ names, asksFor p a = true → asksFor p b = true →
        Text.trim a = Text.trim b) ∧
    (∀ p q, (configured names).idxOf p < (configured names).idxOf q ↔
      names.findIdx p.asksFor < names.findIdx q.asksFor) := by
  refine ⟨fun p => mem_configured_iff, fun p => count_configured p names, fun p => ?_,
    fun p q => idxOf_lt_iff⟩
  rw [← count_le_one_iff]
  have hpos : 0 < (configured names).count p ↔ names.any p.asksFor = true := by
    rw [List.count_pos_iff, mem_configured_iff, List.any_eq_true]
  by_cases hasked : names.any p.asksFor = true
  · rw [if_pos hasked]
    have hinstalled := hpos.mpr hasked
    omega
  · rw [if_neg hasked]
    have hnone := mt hpos.mp hasked
    omega

/-- Two spellings of one name install its propagator twice. -/
theorem respelled_twice :
    ["tracecontext", "TraceContext"].any (asksFor .traceContext) = true ∧
      configured ["tracecontext", "TraceContext"] = [.traceContext, .traceContext] := by
  decide +kernel

end CallTracing.Propagator
