import RiskManagement.Library.HexDigits
import RiskManagement.Library.Loops
import RiskManagement.Library.Panics
import RiskManagement.Library.Rlp
import RiskManagement.Minieth.Bytes

/-!
# Hexadecimal text
-/

namespace RiskManagement

namespace Hex

/-- `text.strip_prefix("0x")`. -/
def stripPrefix : List Char → Option (List Char)
  | '0' :: 'x' :: rest => some rest
  | _ => none

/-- `u8::from_str_radix(text, 16).ok()`: a sign is skipped. -/
def u8FromStrRadix (text : List Char) : Option UInt8 :=
  let digits :=
    if text.head? = some '+' ∧ 1 < text.length then text.tail else text
  if digits.isEmpty ∨ !digits.all Char.isHexDigit then
    none
  else if HexDigits.value digits < 2 ^ 8 then
    some (.ofNat (HexDigits.value digits))
  else
    none

/-- The locals of the loop over the digits. -/
structure Chunk where
  start : Nat
  stop : Nat
  res : List UInt8

/-- One turn of the loop.  All characters are ASCII by then, so positions in
the bytes of the text are positions in its characters. -/
def chunkTurn (hex : List Char) :
    Loops.Body Chunk (Option (List UInt8)) := fun chunk =>
  if chunk.start < hex.length then
    match Panics.slice hex chunk.start chunk.stop with
    | none => none
    | some text =>
        match u8FromStrRadix text with
        | none => some (.exit none)
        | some byte =>
            some (.next ⟨chunk.stop, chunk.stop + 2, chunk.res ++ [byte]⟩)
  else
    some (.exit (some chunk.res))

/-- The outer `none` is a panic or a loop that does not end. -/
def decode (s : String) : Option (Option (List UInt8)) :=
  let hex := (stripPrefix s.toList).getD s.toList
  if !hex.all Char.isHexDigit then
    some none
  else
    Loops.iterate (chunkTurn hex) (hex.length + 1)
      ⟨0, if hex.length % 2 = 1 then 1 else 2, []⟩

/-- `format!("{u:02x}")`. -/
def encodeByte (byte : UInt8) : List Char :=
  [Nat.digitChar (byte.toNat / 16), Nat.digitChar (byte.toNat % 16)]

/-- Two lower-case digits for each byte. -/
def encode (bytes : List UInt8) : String :=
  "0x" ++ String.ofList (bytes.flatMap encodeByte)

end Hex

/-- `format!("{num:#x}")`. -/
def hexNumber (num : UInt64) : String :=
  "0x" ++ String.ofList (Nat.toDigits 16 num.toNat)

end RiskManagement
