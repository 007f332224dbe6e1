/-
  CallTracing/Text/Utf8.lean
  ==========================
  **Text in bytes.**  A body may arrive as bytes, and a settings file always does.  `decode` reads
  a byte sequence as UTF-8 and reports each ill-formed piece on its own, as a gap: a piece is the
  longest beginning of a well-formed character that the bytes follow, and one byte where there is
  none.  The lossy reading puts U+FFFD into each gap; the strict one refuses a text with a gap.

  The decoder is a state machine over the bytes.  A character under way is a `Partial`: how many
  bytes are still to come, the range the next one must lie in, and the code point so far.  The
  range is narrower than that of all continuation bytes after four of the leading bytes, which
  rules out overlong forms, surrogates and code points that do not exist.
-/

namespace CallTracing.Text.Utf8

/-- A character of which some bytes have been read. -/
structure Partial where
  /-- Bytes to come after the next one. -/
  further : Nat
  /-- Least value of the next byte. -/
  low : Nat
  /-- Greatest value of the next byte. -/
  high : Nat
  /-- The bits read so far. -/
  code : Nat
deriving DecidableEq, Repr

/-- What a byte means at the start of a character. -/
inductive Lead where
  | complete (c : Char)
  | opens (pending : Partial)
  | stray
deriving DecidableEq, Repr

/-- A byte at the start of a character. -/
def lead (byte : UInt8) : Lead :=
  let b := byte.toNat
  if b < 0x80 then .complete (Char.ofNat b)
  else if b < 0xC2 then .stray
  else if b < 0xE0 then .opens ⟨0, 0x80, 0xBF, b - 0xC0⟩
  else if b = 0xE0 then .opens ⟨1, 0xA0, 0xBF, 0⟩
  else if b = 0xED then .opens ⟨1, 0x80, 0x9F, 0xD⟩
  else if b < 0xF0 then .opens ⟨1, 0x80, 0xBF, b - 0xE0⟩
  else if b = 0xF0 then .opens ⟨2, 0x90, 0xBF, 0⟩
  else if b < 0xF4 then .opens ⟨2, 0x80, 0xBF, b - 0xF0⟩
  else if b = 0xF4 then .opens ⟨2, 0x80, 0x8F, 4⟩
  else .stray

/-- Whether the byte may come next. -/
def Partial.accepts (pending : Partial) (byte : UInt8) : Bool :=
  decide (pending.low ≤ byte.toNat) && decide (byte.toNat ≤ pending.high)

/-- The code point after one more byte. -/
def Partial.extended (pending : Partial) (byte : UInt8) : Nat :=
  pending.code * 64 + (byte.toNat - 0x80)

/-- Read bytes, a character possibly under way; `none` in the result is a gap. -/
def decodeFrom : Option Partial → List UInt8 → List (Option Char)
  | none, [] => []
  | some _, [] => [none]
  | none, byte :: rest =>
    match lead byte with
    | .complete c => some c :: decodeFrom none rest
    | .opens pending => decodeFrom (some pending) rest
    | .stray => none :: decodeFrom none rest
  | some pending, byte :: rest =>
    if pending.accepts byte then
      match pending.further with
      | 0 => some (Char.ofNat (pending.extended byte)) :: decodeFrom none rest
      | further + 1 =>
        decodeFrom (some ⟨further, 0x80, 0xBF, pending.extended byte⟩) rest
    else
      none ::
        match lead byte with
        | .complete c => some c :: decodeFrom none rest
        | .opens opened => decodeFrom (some opened) rest
        | .stray => none :: decodeFrom none rest

/-- The characters of a byte sequence, with a gap for each ill-formed piece. -/
def decode (bytes : List UInt8) : List (Option Char) := decodeFrom none bytes

/-- Stands for a piece that is no text. -/
def replacement : Char := Char.ofNat 0xFFFD

/-- The text of a byte sequence, with `replacement` in the gaps. -/
def decodeLossy (bytes : List UInt8) : String :=
  String.ofList ((decode bytes).map (·.getD replacement))

/-- The text of a byte sequence that is well-formed throughout. -/
def decode? (bytes : List UInt8) : Option String :=
  ((decode bytes).mapM id).map String.ofList

/-- The bytes of a text. -/
def encode (text : String) : List UInt8 := text.toList.flatMap String.utf8EncodeChar

end CallTracing.Text.Utf8
