import RiskManagement.Minieth.HexDecoding

/-!
# Texts of fixed-size values

A fixed-size value should be read from an optional prefix and two digits for
each byte.  The decoder also takes an odd number of digits, so a text that has
lost one digit still fills the last byte and is read as another value.
-/

namespace RiskManagement

namespace Hex

/-- The text is these digits, with or without the prefix. -/
def Written (s : String) (digits : List Char) : Prop :=
  s = String.ofList digits ∨ s = "0x" ++ String.ofList digits

theorem stripPrefix_digits {digits : List Char}
    (areDigits : digits.all Char.isHexDigit = true) :
    stripPrefix digits = none := by
  apply stripPrefix_eq_none
  intro ⟨rest, isPrefixed⟩
  rw [← isPrefixed, List.all_append] at areDigits
  simp [Char.isHexDigit, Char.isDigit] at areDigits

theorem written_unprefixed (s : String) : Written s (unprefixed s) := by
  rw [unprefixed]
  cases stripped : stripPrefix s.toList with
  | none =>
      left
      rw [Option.getD_none, String.ofList_toList]
  | some rest =>
      right
      rw [Option.getD_some]
      apply String.toList_injective
      rw [toList_prefixed, eq_of_stripPrefix stripped]

theorem written_iff {s : String} {digits : List Char}
    (areDigits : digits.all Char.isHexDigit = true) :
    Written s digits ↔ unprefixed s = digits := by
  constructor
  · intro written
    cases written with
    | inl plain =>
        rw [plain, unprefixed_ofList (stripPrefix_digits areDigits)]
    | inr prefixed => rw [prefixed, unprefixed_prefixed]
  · intro same
    rw [← same]
    exact written_unprefixed s

theorem exists_written_iff {s : String} {Holds : List Char → Prop} :
    (∃ digits, Written s digits ∧ digits.all Char.isHexDigit = true ∧
        Holds digits) ↔
      (unprefixed s).all Char.isHexDigit = true ∧ Holds (unprefixed s) := by
  constructor
  · intro ⟨digits, written, areDigits, holds⟩
    rw [written_iff areDigits] at written
    rw [written]
    exact ⟨areDigits, holds⟩
  · intro ⟨areDigits, holds⟩
    exact ⟨_, written_unprefixed s, areDigits, holds⟩

end Hex

namespace SizedBytes

/-- What a strict reader takes: two digits for each byte. -/
def HexOfSize (size : Nat) (s : String) (bytes : List UInt8) : Prop :=
  ∃ digits, Hex.Written s digits ∧ digits.all Char.isHexDigit = true ∧
    digits.length = 2 * size ∧ bytes = HexDigits.pairs digits

/-- Two digits for each byte, less one. -/
def OneDigitShort (size : Nat) (s : String) : Prop :=
  ∃ digits, Hex.Written s digits ∧ digits.all Char.isHexDigit = true ∧
    digits.length + 1 = 2 * size

/-- A text is read when it is of the size, as what its digits spell, and
refused with an error otherwise. -/
def ParsedStrictly (size : Nat) (s : String) : Prop :=
  ∃ result, fromStr size s = some result ∧
    ∀ bytes, result = .ok bytes ↔ HexOfSize size s bytes.data

theorem hexOfSize_iff {size : Nat} {s : String} {bytes : List UInt8} :
    HexOfSize size s bytes ↔
      (Hex.unprefixed s).all Char.isHexDigit = true ∧
        (Hex.unprefixed s).length = 2 * size ∧
        bytes = HexDigits.pairs (Hex.unprefixed s) := by
  rw [HexOfSize]
  exact Hex.exists_written_iff

theorem oneDigitShort_iff {size : Nat} {s : String} :
    OneDigitShort size s ↔
      (Hex.unprefixed s).all Char.isHexDigit = true ∧
        (Hex.unprefixed s).length + 1 = 2 * size := by
  rw [OneDigitShort]
  exact Hex.exists_written_iff

/-! ### The reader -/

theorem fromStr_notDigits {size : Nat} {s : String}
    (notDigits : ¬ (Hex.unprefixed s).all Char.isHexDigit = true) :
    fromStr size s = some (.error .invalidHex) := by
  rw [fromStr, Hex.decode_notDigits notDigits]

/-- The number of bytes is checked, not the number of digits. -/
theorem fromStr_wrongSize {size : Nat} {s : String}
    (areDigits : (Hex.unprefixed s).all Char.isHexDigit = true)
    (wrongSize : ((Hex.unprefixed s).length + 1) / 2 ≠ size) :
    fromStr size s = some (.error .invalidSize) := by
  rw [← HexDigits.length_spelled] at wrongSize
  rw [fromStr, Hex.decode_digits areDigits]
  exact dif_neg wrongSize

theorem fromStr_size (size : Nat) {s : String}
    (areDigits : (Hex.unprefixed s).all Char.isHexDigit = true)
    (isSize : ((Hex.unprefixed s).length + 1) / 2 = size) :
    ∃ bytes, fromStr size s = some (.ok bytes) ∧
      bytes.data = HexDigits.spelled (Hex.unprefixed s) := by
  rw [← HexDigits.length_spelled] at isSize
  refine ⟨⟨_, isSize⟩, ?_, rfl⟩
  rw [fromStr, Hex.decode_digits areDigits]
  exact dif_pos isSize

theorem fromStr_toString {size : Nat} (bytes : SizedBytes size) :
    fromStr size bytes.toString = some (.ok bytes) := by
  rw [fromStr, toString, Hex.decode_of_encode]
  exact dif_pos bytes.size_eq

theorem deserialize_serialize {size : Nat} (bytes : SizedBytes size) :
    deserialize size bytes.serialize = some (.ok bytes) := by
  rw [deserialize, serialize]
  exact deserializeFromStr_string (fromStr_toString bytes)

/-! ### When it is strict -/

theorem parsedStrictly_of_notDigits {size : Nat} {s : String}
    (notDigits : ¬ (Hex.unprefixed s).all Char.isHexDigit = true) :
    ParsedStrictly size s := by
  refine ⟨_, fromStr_notDigits notDigits, ?_⟩
  intro bytes
  rw [hexOfSize_iff]
  constructor
  · intro parsed
    cases parsed
  · intro ⟨areDigits, _⟩
    exact absurd areDigits notDigits

theorem parsedStrictly_of_even {size : Nat} {s : String}
    (areDigits : (Hex.unprefixed s).all Char.isHexDigit = true)
    (isSize : (Hex.unprefixed s).length = 2 * size) :
    ParsedStrictly size s := by
  obtain ⟨value, parsed, spelled⟩ :=
    fromStr_size size areDigits (by omega)
  rw [HexDigits.spelled, if_neg (by omega)] at spelled
  refine ⟨_, parsed, ?_⟩
  intro bytes
  rw [hexOfSize_iff, ← spelled, Except.ok.injEq]
  constructor
  · intro same
    rw [same]
    exact ⟨areDigits, isSize, rfl⟩
  · rintro ⟨-, -, same⟩
    exact (SizedBytes.ext same).symm

theorem parsedStrictly_of_wrongSize {size : Nat} {s : String}
    (areDigits : (Hex.unprefixed s).all Char.isHexDigit = true)
    (wrongSize : ((Hex.unprefixed s).length + 1) / 2 ≠ size) :
    ParsedStrictly size s := by
  refine ⟨_, fromStr_wrongSize areDigits wrongSize, ?_⟩
  intro bytes
  rw [hexOfSize_iff]
  constructor
  · intro parsed
    cases parsed
  · intro ⟨_, isSize, _⟩
    omega

theorem not_parsedStrictly {size : Nat} {s : String}
    (short : OneDigitShort size s) : ¬ ParsedStrictly size s := by
  obtain ⟨areDigits, length⟩ := oneDigitShort_iff.mp short
  obtain ⟨value, parsed, _⟩ :=
    fromStr_size size areDigits (by omega)
  intro ⟨result, read, strict⟩
  rw [parsed, Option.some.injEq] at read
  have ofSize := (strict value).mp read.symm
  rw [hexOfSize_iff] at ofSize
  omega

theorem parsedStrictly_iff (size : Nat) (s : String) :
    ParsedStrictly size s ↔ ¬ OneDigitShort size s := by
  constructor
  · intro strict short
    exact not_parsedStrictly short strict
  · intro notShort
    rw [oneDigitShort_iff] at notShort
    by_cases areDigits : (Hex.unprefixed s).all Char.isHexDigit = true
    · by_cases isSize : (Hex.unprefixed s).length = 2 * size
      · exact parsedStrictly_of_even areDigits isSize
      · apply parsedStrictly_of_wrongSize areDigits
        intro filled
        apply notShort
        exact ⟨areDigits, by omega⟩
    · exact parsedStrictly_of_notDigits areDigits

end SizedBytes

/-- Every text is read strictly but those that are one digit short, and what
is printed is always read back. -/
theorem sizedBytes_parsed_strictly_iff (size : Nat) (s : String) :
    (SizedBytes.ParsedStrictly size s ↔
        ¬ SizedBytes.OneDigitShort size s) ∧
      ∀ bytes : SizedBytes size,
        SizedBytes.fromStr size bytes.toString = some (.ok bytes) ∧
          SizedBytes.deserialize size bytes.serialize = some (.ok bytes) := by
  constructor
  · exact SizedBytes.parsedStrictly_iff size s
  · intro bytes
    exact ⟨bytes.fromStr_toString, bytes.deserialize_serialize⟩

/-- An address that has lost its last digit. -/
def truncatedAddress : String :=
  "0xd8da6bf26964af9d7eed9e03e53415d37aa9604"

/-- It is read as an address that begins with the byte 13. -/
theorem truncatedAddress_is_parsed :
    ¬ SizedBytes.ParsedStrictly 20 truncatedAddress ∧
      ∃ address, SizedBytes.fromStr 20 truncatedAddress =
          some (.ok address) ∧
        address.data.head? = some 13 := by
  have digits :
      (Hex.unprefixed truncatedAddress).all Char.isHexDigit = true ∧
        (Hex.unprefixed truncatedAddress).length + 1 = 2 * 20 := by
    decide +kernel
  constructor
  · apply SizedBytes.not_parsedStrictly
    exact SizedBytes.oneDigitShort_iff.mpr digits
  · obtain ⟨address, parsed, spelled⟩ :=
      SizedBytes.fromStr_size 20 digits.1 (by omega)
    refine ⟨address, parsed, ?_⟩
    rw [spelled]
    decide +kernel

end RiskManagement
