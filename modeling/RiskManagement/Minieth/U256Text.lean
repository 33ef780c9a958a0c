import RiskManagement.Minieth.HexDecoding

/-!
# Texts of 256-bit integers

The two halves are printed one behind the other without leading zeros.  The
text is read back as the number of its digits, which is the printed one when
the low half takes all its 32 digits or the high half is not printed.
-/

namespace RiskManagement

namespace U256

/-- The number whose digits are printed. -/
def printedNumber (value : U256) : Nat :=
  if value.hi = 0 then
    value.lo.toNat
  else
    value.hi.toNat * 16 ^ (Nat.toDigits 16 value.lo.toNat).length +
      value.lo.toNat

/-- No leading zero of the low half is left out. -/
def FullyPrinted (value : U256) : Prop :=
  value.hi = 0 ∨ 2 ^ 124 ≤ value.lo.toNat

/-- The text is read back as the value, alone and as JSON. -/
def RoundTrips (value : U256) : Prop :=
  fromStr value.toString = some (.ok value) ∧
    deserialize value.serialize = some (.ok value)

/-- Two values survive their texts, and are told apart by them. -/
def ToldApart (left right : U256) : Prop :=
  left.RoundTrips ∧ right.RoundTrips ∧
    (left ≠ right → left.toString ≠ right.toString)

theorem hi_positive {value : U256} (printed : ¬ value.hi = 0) :
    0 < value.hi.toNat := by
  apply Nat.pos_of_ne_zero
  intro isZero
  exact printed (BitVec.eq_of_toNat_eq isZero)

/-! ### The text -/

theorem toString_eq (value : U256) : value.toString =
    "0x" ++ String.ofList (Nat.toDigits 16 value.printedNumber) := by
  rw [toString, printedNumber]
  split
  · rfl
  · rename_i printed
    rw [HexDigits.toDigits_append (hi_positive printed)]

theorem unprefixed_toString (value : U256) :
    Hex.unprefixed value.toString = Nat.toDigits 16 value.printedNumber := by
  rw [toString_eq, Hex.unprefixed_prefixed]

theorem length_toDigits_half (half : BitVec 128) :
    (Nat.toDigits 16 half.toNat).length ≤ 32 :=
  (Nat.length_toDigits_le_iff (by decide) (by decide)).mpr half.isLt

theorem length_unprefixed_toString (value : U256) :
    (Hex.unprefixed value.toString).length ≤ 64 := by
  have low := length_toDigits_half value.lo
  have high := length_toDigits_half value.hi
  rw [toString]
  split
  · rw [Hex.unprefixed_prefixed]
    omega
  · rw [Hex.unprefixed_prefixed, List.length_append]
    omega

theorem fromStr_toString (value : U256) :
    ∃ read : U256, fromStr value.toString = some (.ok read) ∧
      read.toNat = value.printedNumber := by
  have areDigits := HexDigits.toDigits_areDigits value.printedNumber
  rw [← unprefixed_toString] at areDigits
  obtain ⟨read, parsed, isNumber⟩ :=
    fromStr_digits areDigits (length_unprefixed_toString value)
  rw [unprefixed_toString, HexDigits.value_toDigits] at isNumber
  exact ⟨read, parsed, isNumber⟩

theorem toString_eq_iff (left right : U256) :
    left.toString = right.toString ↔
      left.printedNumber = right.printedNumber := by
  constructor
  · intro same
    apply HexDigits.toDigits_injective
    rw [← unprefixed_toString, same, unprefixed_toString]
  · intro same
    rw [toString_eq, toString_eq, same]

/-! ### What is read back -/

/-- A half of 32 digits is one that is not below `16 ^ 31`. -/
theorem length_toDigits_eq_iff (half : BitVec 128) :
    (Nat.toDigits 16 half.toNat).length = 32 ↔ 2 ^ 124 ≤ half.toNat := by
  have atMost := length_toDigits_half half
  have fewer : (Nat.toDigits 16 half.toNat).length ≤ 31 ↔
      half.toNat < 16 ^ 31 :=
    Nat.length_toDigits_le_iff (by decide) (by decide)
  have power : (16 : Nat) ^ 31 = 2 ^ 124 := by decide
  rw [power] at fewer
  omega

theorem printedNumber_eq_iff (value : U256) :
    value.printedNumber = value.toNat ↔ value.FullyPrinted := by
  rw [printedNumber, FullyPrinted, ← length_toDigits_eq_iff]
  by_cases noHigh : value.hi = 0
  · simp [toNat, noHigh]
  · have positive := hi_positive noHigh
    have power : (2 : Nat) ^ 128 = 16 ^ 32 := by decide
    simp only [noHigh, if_false, false_or, toNat, power]
    constructor
    · intro same
      have product := Nat.add_right_cancel same
      have powers := Nat.eq_of_mul_eq_mul_left positive product
      exact Nat.pow_right_injective (by decide) powers
    · intro length
      rw [length]

theorem roundTrips_iff (value : U256) :
    value.RoundTrips ↔ value.FullyPrinted := by
  obtain ⟨read, parsed, isNumber⟩ := fromStr_toString value
  have json : deserialize value.serialize = some (.ok read) := by
    rw [deserialize, serialize]
    exact deserializeFromStr_string parsed
  rw [RoundTrips, parsed, json, ← printedNumber_eq_iff, ← isNumber]
  simp only [Option.some.injEq, Except.ok.injEq, and_self]
  constructor
  · intro same
    rw [same]
  · intro same
    exact toNat_injective same

theorem toldApart_iff (left right : U256) :
    left.ToldApart right ↔ left.FullyPrinted ∧ right.FullyPrinted := by
  rw [ToldApart, roundTrips_iff, roundTrips_iff]
  constructor
  · intro ⟨leftPrinted, rightPrinted, _⟩
    exact ⟨leftPrinted, rightPrinted⟩
  · intro ⟨leftPrinted, rightPrinted⟩
    refine ⟨leftPrinted, rightPrinted, ?_⟩
    intro different sameText
    have sameNumber := (toString_eq_iff left right).mp sameText
    rw [(printedNumber_eq_iff left).mpr leftPrinted,
      (printedNumber_eq_iff right).mpr rightPrinted] at sameNumber
    exact different (toNat_injective sameNumber)

end U256

/-- A value is read back from its text, and told from another one by it, when
no leading zero of a low half behind a high half is left out. -/
theorem u256_text_round_trip_iff (value other : U256) :
    (value.RoundTrips ↔ value.FullyPrinted) ∧
      (value.ToldApart other ↔ value.FullyPrinted ∧ other.FullyPrinted) ∧
      (value.toString = other.toString ↔
        value.printedNumber = other.printedNumber) := by
  refine ⟨?_, ?_, ?_⟩
  · exact value.roundTrips_iff
  · exact value.toldApart_iff other
  · exact value.toString_eq_iff other

/-- `2 ^ 128 + 2` and `18` are both printed as `0x12`. -/
theorem u256_text_is_shared :
    (⟨1, 2⟩ : U256).toString = "0x12" ∧
      U256.fromStr "0x12" = some (.ok ⟨0, 18⟩) ∧
      (⟨0, 18⟩ : U256).toString = "0x12" ∧
      ¬ U256.RoundTrips ⟨1, 2⟩ ∧ ¬ U256.ToldApart ⟨1, 2⟩ ⟨0, 18⟩ := by
  have text : (⟨1, 2⟩ : U256).toString = "0x12" := by decide +kernel
  have sameText : (⟨0, 18⟩ : U256).toString = "0x12" := by decide +kernel
  have read : U256.fromStr "0x12" = some (.ok ⟨0, 18⟩) := by
    obtain ⟨value, parsed, isNumber⟩ := U256.fromStr_toString ⟨0, 18⟩
    rw [sameText] at parsed
    have isValue : value = ⟨0, 18⟩ := U256.toNat_injective isNumber
    rw [parsed, isValue]
  refine ⟨text, read, sameText, ?_, ?_⟩
  · intro ⟨back, _⟩
    rw [text, read] at back
    exact absurd back (by decide)
  · intro ⟨_, _, apart⟩
    exact apart (by decide) (text.trans sameText.symm)

end RiskManagement
