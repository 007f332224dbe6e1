/-
  CallTracing/Text/Casing.lean
  ============================
  **Lower and upper case of whole texts**, by the full mappings of the Unicode standard.

  Names of services, span keys and propagators are compared without regard to case, and the name
  of a getter is made by raising the first letter of a field name.  Two letters need more than a
  look-up.  The dotted capital I has two characters as its lower case.  The capital sigma has two
  lower-case forms: it becomes the final one at the end of a word, that is after a cased letter and
  not before one, where characters such as accents and apostrophes are passed over.
-/
import CallTracing.Text.CharTable

namespace CallTracing.Text

/-! ### Single characters -/

/-- Whether a character has a case. -/
def isCased (c : Char) : Bool := inRanges casedRanges c.toNat

/-- Whether a character is passed over when the end of a word is looked for. -/
def isCaseIgnorable (c : Char) : Bool := inRanges caseIgnorableRanges c.toNat

/-- The lower case of one character outside any word. -/
def lowerChar (c : Char) : List Char :=
  if c.toNat < 0x80 then [c.toLower]
  else if c.toNat = 0x130 then ['i', Char.ofNat 0x307]
  else [Char.ofNat (shifted lowerRuns c.toNat)]

/-- The upper case of one character; for some letters it is two or three. -/
def upperChar (c : Char) : List Char :=
  if c.toNat < 0x80 then [c.toUpper]
  else
    match upperExpansions.lookup c.toNat with
    | some codes => codes.map Char.ofNat
    | none => [Char.ofNat (shifted upperRuns c.toNat)]

/-! ### Texts -/

/-- Whether the first character that is not passed over has a case. -/
def meetsCased (text : List Char) : Bool :=
  match text.dropWhile isCaseIgnorable with
  | c :: _ => isCased c
  | [] => false

/-- Lower case of a text, given what stands before it, nearest character first. -/
def lowerFrom (before : List Char) : List Char → List Char
  | [] => []
  | c :: rest =>
    let lowered :=
      if c = 'Σ' then
        [if meetsCased before && !meetsCased rest then 'ς' else 'σ']
      else lowerChar c
    lowered ++ lowerFrom (c :: before) rest

/-- A text in lower case. -/
def lower (text : String) : String := String.ofList (lowerFrom [] text.toList)

/-- Equality of two characters, where the ASCII letters differ by case only. -/
def sameIgnoringAsciiCase (a b : List Char) : Bool :=
  a.map Char.toLower == b.map Char.toLower

end CallTracing.Text
