/-
  CallTracing/Proofs/Payload/Concealment.lean
  ===========================================
  **What the text of a value does not show.**

  A field may hold a whole body in bytes, or a map full of them, and lists hold such values at any
  depth.  The text that an attribute takes from a value (`FieldValue.flat?`) shows none of it: two
  values that differ in bytes and under the keys of maps only have the same text, and items of lists
  that have no text of their own may as well be missing (`Veils`).

  An item that is a list of bytes is itself absent, so what is left out further in decides what is
  left out further out; the induction goes through values and lists of items together.
-/
import CallTracing.Payload.Display

namespace CallTracing.FieldValue

/-! ### Values with the same outside -/

mutual

/-- The second value is the first one with other bytes, other values under the keys of its maps, and
fewer of the list items that have no text, at any depth of lists. -/
inductive Veils : FieldValue → FieldValue → Prop where
  | same (value : FieldValue) : Veils value value
  | bytes (content other : List UInt8) : Veils (.bytes content) (.bytes other)
  | map {entries others : List (String × FieldValue)}
      (hkeys : entries.map (·.1) = others.map (·.1)) :
      Veils (.map entries) (.map others)
  | list {items others : List FieldValue} (hitems : VeilsItems items others) :
      Veils (.list items) (.list others)

/-- `Veils` for the items of a list, in order. -/
inductive VeilsItems : List FieldValue → List FieldValue → Prop where
  | nil : VeilsItems [] []
  | cons {item other : FieldValue} {items others : List FieldValue} (hitem : Veils item other)
      (hitems : VeilsItems items others) : VeilsItems (item :: items) (other :: others)
  | absent {item : FieldValue} {items others : List FieldValue} (hitem : flat? item = none)
      (hitems : VeilsItems items others) : VeilsItems (item :: items) others

end

mutual

theorem Veils.flat?_eq {value other : FieldValue} (h : Veils value other) :
    flat? value = flat? other := by
  cases h with
  | same => rfl
  | bytes => rfl
  | map hkeys => rw [flat?, flat?, hkeys]
  | list hitems => rw [flat?, flat?, hitems.flatItems_eq]

theorem VeilsItems.flatItems_eq {items others : List FieldValue} (h : VeilsItems items others) :
    flatItems items = flatItems others := by
  cases h with
  | nil => rfl
  | cons hitem hitems =>
    rw [flatItems_eq_filterMap, flatItems_eq_filterMap, List.filterMap_cons, List.filterMap_cons,
      hitem.flat?_eq, ← flatItems_eq_filterMap, ← flatItems_eq_filterMap, hitems.flatItems_eq]
  | absent hitem hitems =>
    rw [flatItems_eq_filterMap, List.filterMap_cons_none hitem, ← flatItems_eq_filterMap,
      hitems.flatItems_eq]

end

/-! ### Texts in brackets -/

theorem joined?_eq_some_iff {parts : List String} {text : String} :
    joined? parts = some text ↔
      ",".intercalate parts ≠ "" ∧ text = "[" ++ ",".intercalate parts ++ "]" := by
  unfold joined?
  dsimp only
  split
  · next hempty => simp [String.isEmpty_iff.mp hempty]
  · next hempty =>
    rw [String.isEmpty_iff] at hempty
    rw [Option.some.injEq, and_iff_right hempty, eq_comm]

theorem flat?_list (items : List FieldValue) :
    flat? (.list items) = joined? (items.filterMap flat?) := by
  rw [flat?, flatItems_eq_filterMap]

/-- **A text shows neither bytes nor what maps hold, nor where a list had items without a text.**
The text of a list, where there is one, has something between its brackets. -/
theorem text_veiled :
    (∀ value other, Veils value other → flat? value = flat? other) ∧
    ∀ items text, flat? (.list items) = some text ↔
      ",".intercalate (items.filterMap flat?) ≠ "" ∧
      text = "[" ++ ",".intercalate (items.filterMap flat?) ++ "]" ∧
      "[]".length < text.length := by
  refine ⟨fun value other h => h.flat?_eq, fun items text => ?_⟩
  rw [flat?_list, joined?_eq_some_iff]
  refine and_congr_right fun hbody => (and_iff_left_of_imp ?_).symm
  rintro rfl
  have hlength := List.length_pos_iff.mpr (mt String.toList_eq_nil_iff.mp hbody)
  rw [String.length_toList] at hlength
  rw [String.length_append, String.length_append]
  show 2 < 1 + _ + 1
  omega

/-- A list with a body in bytes, a list of nothing but bytes, and maps. -/
def guardedList : FieldValue :=
  .list
    [.text "doc", .bytes [123, 125], .list [.bytes [1], .list []], .map [("owner", .text "me")],
      .list [.map [("body", .bytes [7]), ("key", .int 5)], .bytes []]]

/-- The same list without what it does not show, and with other values under the keys. -/
def strippedList : FieldValue :=
  .list
    [.text "doc", .map [("owner", .list [])],
      .list [.map [("body", .text "secret"), ("key", .bool true)]]]

theorem guardedList_veiled :
    Veils guardedList strippedList ∧ flat? guardedList = flat? strippedList ∧
      flat? strippedList = some "[doc,[owner],[[body,key]]]" ∧
      "[]".length < "[doc,[owner],[[body,key]]]".length := by
  have hmaps : VeilsItems [.map [("body", .bytes [7]), ("key", .int 5)], .bytes []]
      [.map [("body", .text "secret"), ("key", .bool true)]] :=
    .cons (.map rfl) (.absent rfl .nil)
  have hitems : Veils guardedList strippedList :=
    .list (.cons (.same _) (.absent rfl (.absent rfl
      (.cons (.map rfl) (.cons (.list hmaps) .nil)))))
  have htext : flat? strippedList = some "[doc,[owner],[[body,key]]]" := by decide +kernel
  exact ⟨hitems, text_veiled.1 _ _ hitems, htext, ((text_veiled.2 _ _).mp htext).2.2⟩

end CallTracing.FieldValue
