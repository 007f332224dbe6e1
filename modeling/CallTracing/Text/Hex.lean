/-
  CallTracing/Text/Hex.lean
  =========================
  **Hexadecimal digits**: bytes as pairs of digits, code points in diagnostics, the digits of an
  escape in a JSON string, trace and span ids padded to a fixed width.  Written digits are lower
  case; digits of either case are read.
-/

namespace CallTracing.Text

/-- The value of a hexadecimal digit. -/
def hexValue? (c : Char) : Option Nat :=
  if '0' ≤ c ∧ c ≤ '9' then some (c.toNat - '0'.toNat)
  else if 'a' ≤ c ∧ c ≤ 'f' then some (c.toNat - 'a'.toNat + 10)
  else if 'A' ≤ c ∧ c ≤ 'F' then some (c.toNat - 'A'.toNat + 10)
  else none

/-- The digits of a number, without leading zeros. -/
def hexDigits (n : Nat) : List Char := Nat.toDigits 16 n

/-- The digits of a number, with zeros in front up to a width. -/
def hexPadded (width n : Nat) : String :=
  String.ofList (List.replicate (width - (hexDigits n).length) '0' ++ hexDigits n)

/-- The number that digits stand for. -/
def hexNumber? (digits : List Char) : Option Nat :=
  digits.foldlM (fun n c => (hexValue? c).map (n * 16 + ·)) 0

/-- Bytes from pairs of digits. -/
def bytesOfHex? : List Char → Option (List UInt8)
  | [] => some []
  | [_] => none
  | a :: b :: rest =>
    match hexNumber? [a, b], bytesOfHex? rest with
    | some byte, some bytes => some (UInt8.ofNat byte :: bytes)
    | _, _ => none

/-- Two digits a byte. -/
def hexOfBytes (bytes : List UInt8) : String :=
  String.join (bytes.map fun byte => hexPadded 2 byte.toNat)

end CallTracing.Text
