/-
  CallTracing/Proofs/Model/Selection.lean
  =======================================
  **Which identifiers of models name which family.**

  The family of a model is read off its identifier in two steps: a regional qualifier is dropped
  from the front, and what follows is cut at its first hyphen.  Put together, the identifiers of a
  family are exactly the texts `qualifier key rest` (`ModelFamily.Identifies`): a qualifier or none,
  a key of the family, and a rest that is empty or begins with a hyphen.

  Three facts about the tables carry this.  No qualifier begins with another one, so the first that
  fits is the only one, also where a qualifier has a hyphen of its own.  A key neither begins with a
  qualifier nor is the beginning of one, so nothing is dropped from an identifier without a
  qualifier.  And the keys of two families differ, so the order of the families does not matter.
-/
import CallTracing.Model.Body

namespace CallTracing

/-! ### The tables -/

theorem regionQualifiers_prefixFree : ∀ a ∈ regionQualifiers, ∀ b ∈ regionQualifiers,
    a.toList.isPrefixOf b.toList = true → a = b := by decide

namespace ModelFamily

theorem mem_all (f : ModelFamily) : f ∈ all := by cases f <;> decide

theorem qualifier_apart (f : ModelFamily) : ∀ key ∈ f.keys, ∀ qualifier ∈ regionQualifiers,
    key.toList.isPrefixOf qualifier.toList = false ∧
      qualifier.toList.isPrefixOf key.toList = false := by
  cases f <;> decide

theorem hyphen_not_mem (f : ModelFamily) : ∀ key ∈ f.keys, '-' ∉ key.toList := by
  cases f <;> decide

theorem eq_of_mem_keys (f g : ModelFamily) : ∀ key ∈ f.keys, key ∈ g.keys → f = g := by
  cases f <;> cases g <;> decide

end ModelFamily

/-! ### Dropping a qualifier -/

/-- What follows the regional qualifier of an identifier, or all of it where it has none. -/
def unqualified (chars : List Char) : List Char :=
  (regionQualifiers.findSome? fun qualifier => dropPrefix? qualifier.toList chars).getD chars

theorem familyKey_eq (id : String) :
    familyKey id = String.ofList ((unqualified id.toList).takeWhile (· != '-')) := rfl

theorem unqualified_qualifier {qualifier : String} (h : qualifier ∈ regionQualifiers)
    (rest : List Char) : unqualified (qualifier.toList ++ rest) = rest := by
  unfold unqualified
  cases hfound : regionQualifiers.findSome? fun other =>
      dropPrefix? other.toList (qualifier.toList ++ rest) with
  | none =>
    have hnone := List.findSome?_eq_none_iff.mp hfound qualifier h
    rw [dropPrefix?_append] at hnone
    cases hnone
  | some left =>
    obtain ⟨other, hother, hdrop⟩ := List.exists_of_findSome?_eq_some hfound
    have htext := dropPrefix?_eq_some_iff.mp hdrop
    have hsame : other = qualifier := by
      rcases List.prefix_or_prefix_of_prefix (List.prefix_append other.toList left)
          (htext ▸ List.prefix_append qualifier.toList rest) with hprefix | hprefix
      · exact regionQualifiers_prefixFree _ hother _ h (List.isPrefixOf_iff_prefix.mpr hprefix)
      · exact (regionQualifiers_prefixFree _ h _ hother
          (List.isPrefixOf_iff_prefix.mpr hprefix)).symm
    rw [hsame] at htext
    exact (List.append_cancel_left htext).symm

theorem unqualified_key {f : ModelFamily} {key : String} (h : key ∈ f.keys) (rest : List Char) :
    unqualified (key.toList ++ rest) = key.toList ++ rest := by
  unfold unqualified
  have hnone : (regionQualifiers.findSome? fun qualifier =>
      dropPrefix? qualifier.toList (key.toList ++ rest)) = none := by
    refine List.findSome?_eq_none_iff.mpr fun qualifier hqualifier => ?_
    rw [Option.eq_none_iff_forall_ne_some]
    intro left hdrop
    have htext := dropPrefix?_eq_some_iff.mp hdrop
    obtain ⟨hleft, hright⟩ := f.qualifier_apart key h qualifier hqualifier
    rcases List.prefix_or_prefix_of_prefix (List.prefix_append qualifier.toList left)
        (htext ▸ List.prefix_append key.toList rest) with hprefix | hprefix
    · rw [List.isPrefixOf_iff_prefix.mpr hprefix] at hright
      cases hright
    · rw [List.isPrefixOf_iff_prefix.mpr hprefix] at hleft
      cases hleft
  rw [hnone, Option.getD_none]

theorem exists_unqualified (chars : List Char) :
    ∃ qualifier ∈ "" :: regionQualifiers, chars = qualifier.toList ++ unqualified chars := by
  unfold unqualified
  cases hfound : regionQualifiers.findSome? fun qualifier =>
      dropPrefix? qualifier.toList chars with
  | none => exact ⟨"", List.mem_cons_self, rfl⟩
  | some rest =>
    obtain ⟨qualifier, hqualifier, hdrop⟩ := List.exists_of_findSome?_eq_some hfound
    exact ⟨qualifier, List.mem_cons_of_mem _ hqualifier, dropPrefix?_eq_some_iff.mp hdrop⟩

/-! ### Cutting at the first hyphen -/

/-- Nothing, or a hyphen and what may follow it. -/
def IsVersion (rest : String) : Prop := rest = "" ∨ ∃ version, rest = "-" ++ version

theorem takeWhile_key {f : ModelFamily} {key : String} (h : key ∈ f.keys) {rest : String}
    (hrest : IsVersion rest) :
    (key.toList ++ rest.toList).takeWhile (· != '-') = key.toList := by
  rw [List.takeWhile_append_of_pos]
  · rcases hrest with rfl | ⟨version, rfl⟩
    · exact List.append_nil _
    · rw [String.toList_append]
      exact List.append_nil _
  · intro c hc
    rw [bne_iff_ne]
    rintro rfl
    exact f.hyphen_not_mem key h hc

theorem isVersion_dropWhile (chars : List Char) :
    IsVersion (String.ofList (chars.dropWhile (· != '-'))) := by
  cases hrest : chars.dropWhile (· != '-') with
  | nil => exact Or.inl rfl
  | cons c version =>
    have hstop := List.head_dropWhile_not (· != '-') (l := chars) (by rw [hrest]; simp)
    simp only [hrest, List.head_cons, bne_eq_false_iff_eq] at hstop
    subst hstop
    exact Or.inr ⟨String.ofList version, @String.ofList_append ['-'] version⟩

/-! ### Families by identifier -/

namespace ModelFamily

/-- The identifiers of the models of a family. -/
def Identifies (f : ModelFamily) (id : String) : Prop :=
  ∃ qualifier ∈ "" :: regionQualifiers, ∃ key ∈ f.keys, ∃ rest,
    id = qualifier ++ key ++ rest ∧ IsVersion rest

theorem identifies_iff {f : ModelFamily} {id : String} :
    f.Identifies id ↔ familyKey id ∈ f.keys := by
  constructor
  · rintro ⟨qualifier, hqualifier, key, hkey, rest, rfl, hrest⟩
    have hunqualified : unqualified (qualifier ++ key ++ rest).toList =
        key.toList ++ rest.toList := by
      rw [String.toList_append, String.toList_append, List.append_assoc]
      rcases List.mem_cons.mp hqualifier with rfl | hqualifier
      · exact unqualified_key hkey rest.toList
      · exact unqualified_qualifier hqualifier _
    rw [familyKey_eq, hunqualified, takeWhile_key hkey hrest, String.ofList_toList]
    exact hkey
  · intro hkey
    obtain ⟨qualifier, hqualifier, hid⟩ := exists_unqualified id.toList
    refine ⟨qualifier, hqualifier, familyKey id, hkey,
      String.ofList ((unqualified id.toList).dropWhile (· != '-')), ?_, isVersion_dropWhile _⟩
    rw [← String.toList_inj, String.toList_append, String.toList_append, familyKey_eq,
      String.toList_ofList, String.toList_ofList, List.append_assoc,
      List.takeWhile_append_dropWhile]
    exact hid

theorem select_eq_family_iff {f : ModelFamily} {id : String} :
    BodyDecoder.select (some id) = .family f ↔ familyKey id ∈ f.keys := by
  unfold BodyDecoder.select
  dsimp only
  cases hfound : all.find? fun g => g.keys.contains (familyKey id) with
  | none =>
    have hnone := List.find?_eq_none.mp hfound f f.mem_all
    rw [List.contains_iff_mem] at hnone
    exact iff_of_false (by simp) hnone
  | some g =>
    have hkey := List.find?_some hfound
    rw [List.contains_iff_mem] at hkey
    constructor
    · rintro ⟨⟩
      exact hkey
    · intro hf
      rw [eq_of_mem_keys g f _ hkey hf]

end ModelFamily

/-- **An identifier selects a family's decoder exactly if it is one of the family's**, and the
generic decoder if it is none of any family. -/
theorem selects_by_identifier (id : String) :
    (∀ f, BodyDecoder.select (some id) = .family f ↔ f.Identifies id) ∧
      (BodyDecoder.select (some id) = .generic ↔ ∀ f : ModelFamily, ¬f.Identifies id) := by
  have hfamily : ∀ f, BodyDecoder.select (some id) = .family f ↔ f.Identifies id := fun f =>
    ModelFamily.select_eq_family_iff.trans ModelFamily.identifies_iff.symm
  refine ⟨hfamily, ?_⟩
  constructor
  · intro hgeneric f hid
    rw [(hfamily f).mpr hid] at hgeneric
    cases hgeneric
  · intro hnone
    cases hselect : BodyDecoder.select (some id) with
    | generic => rfl
    | family f => exact absurd ((hfamily f).mp hselect) (hnone f)

/-- The hyphen that cuts off a version is looked for behind the qualifier. -/
example : BodyDecoder.select (some "us-gov.meta.llama3-8b") = .family .llama := by decide

end CallTracing
