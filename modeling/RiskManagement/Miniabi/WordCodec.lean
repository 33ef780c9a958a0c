import RiskManagement.Library.Checked
import RiskManagement.Library.Segments
import RiskManagement.Miniabi.DecoderImpl
import RiskManagement.Miniabi.EncoderImpl

/-!
# Words and byte strings of the ABI

Each helper that reads a word, or a byte string, succeeds exactly where the
encoding of its value stands.
-/

namespace RiskManagement

open Segments

/-! ### Reading segments -/

theorem readFirst32Bytes_eq_ok_iff {input : List UInt8} {cursor : Nat}
    {word : Bytes32} :
    readFirst32Bytes input cursor = .ok word ↔
      StandsAt input cursor word.data := by
  rw [readFirst32Bytes]
  split
  · rename_i short
    simp only [reduceCtorEq, false_iff]
    intro stands
    have bound := stands.length_le
    rw [word.size_eq] at bound
    omega
  · rw [Except.ok.injEq, standsAt_iff_take, word.size_eq]
    constructor
    · intro same
      rw [← same]
    · intro same
      exact SizedBytes.ext same

theorem readPrefixBytes_eq_ok_iff {input data : List UInt8}
    {cursor length : Nat} :
    readPrefixBytes input cursor length = .ok data ↔
      data.length = length ∧ StandsAt input cursor data := by
  rw [readPrefixBytes]
  split
  · rename_i short
    simp only [reduceCtorEq, false_iff, not_and]
    intro sameLength stands
    have bound := stands.length_le
    omega
  · rename_i inside
    rw [Except.ok.injEq]
    constructor
    · intro same
      subst same
      refine ⟨?_, List.take_prefix _ _⟩
      rw [List.length_take, List.length_drop]
      omega
    · rintro ⟨rfl, stands⟩
      exact standsAt_iff_take.mp stands

theorem areAllZeros_iff {bytes : List UInt8} :
    areAllZeros bytes = true ↔
      bytes = List.replicate bytes.length 0 := by
  rw [areAllZeros, List.all_eq_true, List.eq_replicate_iff]
  simp

/-! ### Unsigned integers -/

theorem encodeUint_eq_digits {number : Nat} (fits : number < 2 ^ 128) :
    encodeUint number = BigEndian.digits 32 number := by
  have split := BigEndian.digits_add 16 16 number
  have high : number / 256 ^ 16 = 0 := Nat.div_eq_of_lt fits
  rw [high] at split
  rw [split, encodeUint, U256.ofUint, U256.new, U256.toBeBytes]
  simp only [BitVec.toNat_ofNat, Nat.mod_eq_of_lt fits]
  rfl

/-- A word is the encoding of a number exactly when it spells it. -/
theorem data_eq_encodeUint_iff {word : Bytes32} {number : Nat}
    (fits : number < 2 ^ 128) :
    word.data = encodeUint number ↔ BigEndian.value word.data = number := by
  rw [encodeUint_eq_digits fits]
  constructor
  · intro same
    rw [same]
    apply BigEndian.value_digits_of_lt
    exact fits.trans (by decide)
  · intro spells
    have digits := BigEndian.digits_value word.data
    rw [word.size_eq, spells] at digits
    exact digits.symm

/-- Zero padding in front leaves a number of the remaining bytes. -/
theorem areAllZeros_take_iff {word : Bytes32} {size : Nat}
    (atMost : size ≤ 32) :
    areAllZeros (word.data.take (32 - size)) = true ↔
      BigEndian.value word.data < 256 ^ size := by
  have low : (word.data.drop (32 - size)).length = size := by
    rw [List.length_drop, word.size_eq]
    omega
  have small := BigEndian.value_append_lt_iff (word.data.take (32 - size))
    (word.data.drop (32 - size))
  rw [List.take_append_drop, low] at small
  rw [areAllZeros_iff, small]

theorem value_drop_of_small (word : Bytes32) (size : Nat)
    (zeros : areAllZeros (word.data.take (32 - size)) = true) :
    BigEndian.value (word.data.drop (32 - size)) =
      BigEndian.value word.data := by
  have whole := BigEndian.value_append (word.data.take (32 - size))
    (word.data.drop (32 - size))
  rw [List.take_append_drop, areAllZeros_iff.mp zeros,
    BigEndian.value_replicate_zero, Nat.zero_mul, Nat.zero_add] at whole
  exact whole.symm

/-- The integer of an unsigned type that a word spells, and its width. -/
theorem decodeUintHelper_eq_ok_iff {size : Nat} (atMost : size ≤ 16)
    {α : Type} {constructor : α → Value} {ofNat : Nat → α} {toNat : α → Nat}
    (fits : ∀ value, toNat value < 256 ^ size)
    (ofNat_toNat : ∀ value, ofNat (toNat value) = value)
    (toNat_ofNat : ∀ number < 256 ^ size, toNat (ofNat number) = number)
    {input : List UInt8} {cursor : Nat} {result : DecodeResult} :
    decodeUintHelper size (fun number => constructor (ofNat number)) input
        cursor = .ok result ↔
      ∃ value, StandsAt input cursor (encodeUint (toNat value)) ∧
        result = decodedWord (constructor value) cursor := by
  have wide : (256 : Nat) ^ size ≤ 2 ^ 128 :=
    Nat.pow_le_pow_right (by decide : 0 < 256) atMost
  rw [decodeUintHelper]
  constructor
  · intro decoded
    obtain ⟨word, reads, decoded⟩ := Checked.bind_eq_ok_iff.mp decoded
    have stands := readFirst32Bytes_eq_ok_iff.mp reads
    cases zeros : areAllZeros (word.data.take (32 - size)) with
    | false => simp [zeros, bind, Except.bind, throw, throwThe,
        MonadExceptOf.throw] at decoded
    | true =>
        simp only [zeros, Bool.not_true, Bool.false_eq_true, ↓reduceIte]
          at decoded
        have small := (areAllZeros_take_iff (by omega)).mp zeros
        rw [value_drop_of_small word size zeros] at decoded
        refine ⟨ofNat (BigEndian.value word.data), ?_, ?_⟩
        · rw [toNat_ofNat _ small]
          rw [(data_eq_encodeUint_iff (small.trans_le wide)).mpr rfl] at stands
          exact stands
        · cases decoded
          rfl
  · rintro ⟨value, stands, rfl⟩
    obtain ⟨word, isWord⟩ : ∃ word : Bytes32,
        word.data = encodeUint (toNat value) :=
      ⟨(U256.ofUint (toNat value)).toBeBytes, rfl⟩
    have narrow := (fits value).trans_le wide
    have spells := (data_eq_encodeUint_iff narrow).mp isWord
    have zeros : areAllZeros (word.data.take (32 - size)) = true := by
      rw [areAllZeros_take_iff (by omega), spells]
      exact fits value
    rw [← isWord] at stands
    rw [readFirst32Bytes_eq_ok_iff.mpr stands]
    simp only [bind, Except.bind, zeros, Bool.not_true, Bool.false_eq_true,
      ↓reduceIte, value_drop_of_small word size zeros, spells, ofNat_toNat]
    rfl

/-! ### The other words -/

theorem boolFrom32Bytes_eq_ok_iff {word : Bytes32} {value : Bool} :
    boolFrom32Bytes word = .ok value ↔
      word.data = encodeUint value.toNat := by
  have fits : value.toNat < 2 ^ 128 := by cases value <;> decide
  rw [data_eq_encodeUint_iff fits, boolFrom32Bytes]
  cases zeros : areAllZeros (word.data.take 31) with
  | false =>
      have large : ¬BigEndian.value word.data < 256 ^ 1 := by
        rw [← areAllZeros_take_iff (by omega : 1 ≤ 32), zeros]
        simp
      simp only [Bool.not_false, ↓reduceIte, reduceCtorEq, false_iff]
      intro spells
      rw [spells] at large
      cases value <;> simp at large
  | true =>
      have spells : BigEndian.value (word.data.drop 31) =
          BigEndian.value word.data := value_drop_of_small word 1 zeros
      have single : (word.data.drop 31).length = 1 := by
        rw [List.length_drop, word.size_eq]
      obtain ⟨digit, isDigit⟩ := List.length_eq_one_iff.mp single
      rw [← spells, isDigit]
      have number : BigEndian.value [digit] = digit.toNat := by
        simp [BigEndian.value]
      rw [number]
      simp only [Bool.not_true, Bool.false_eq_true, ↓reduceIte]
      split
      · rename_i isZero
        cases isZero
        cases value <;> simp
      · rename_i isOne
        cases isOne
        cases value <;> simp
      · rename_i notZero notOne
        simp only [reduceCtorEq, false_iff]
        intro same
        cases value with
        | false =>
            apply notZero
            rw [List.cons.injEq, ← UInt8.toNat_inj]
            exact ⟨same, rfl⟩
        | true =>
            apply notOne
            rw [List.cons.injEq, ← UInt8.toNat_inj]
            exact ⟨same, rfl⟩

theorem addressFrom32Bytes_eq_ok_iff {word : Bytes32} {value : Address} :
    addressFrom32Bytes word = .ok value ↔
      word.data = encodeAddress value := by
  have whole := List.take_append_drop 12 word.data
  have twelve : (word.data.take 12).length = 12 := by
    rw [List.length_take, word.size_eq]
    rfl
  rw [addressFrom32Bytes, encodeAddress]
  cases zeros : areAllZeros (word.data.take 12) with
  | false =>
      simp only [Bool.not_false, ↓reduceIte, reduceCtorEq, false_iff]
      intro same
      have padded : word.data.take 12 = List.replicate 12 0 := by
        rw [same, List.take_left' (by simp)]
      rw [areAllZeros_iff.mpr (by rw [twelve]; exact padded)] at zeros
      cases zeros
  | true =>
      have padded := areAllZeros_iff.mp zeros
      rw [twelve] at padded
      simp only [Bool.not_true, Bool.false_eq_true, ↓reduceIte,
        Except.ok.injEq]
      constructor
      · intro same
        subst same
        rw [← padded]
        exact whole.symm
      · intro same
        apply SizedBytes.ext
        change word.data.drop 12 = value.data
        rw [same, List.drop_left' (by simp)]

theorem usizeFrom32Bytes_eq_ok_iff {word : Bytes32} {value : Nat} :
    usizeFrom32Bytes word = .ok value ↔
      value < 2 ^ 64 ∧ word.data = encodeUsize (.ofNat value) := by
  have wordFits (fits : value < 2 ^ 64) :
      (UInt64.ofNat value).toNat = value :=
    Nat.mod_eq_of_lt fits
  rw [usizeFrom32Bytes, encodeUsize]
  cases zeros : areAllZeros (word.data.take 16) with
  | false =>
      have large : ¬BigEndian.value word.data < 256 ^ 16 := by
        rw [← areAllZeros_take_iff (by omega : 16 ≤ 32), zeros]
        simp
      simp only [Bool.not_false, ↓reduceIte, reduceCtorEq, false_iff,
        not_and]
      intro fits same
      rw [wordFits fits, data_eq_encodeUint_iff (by omega)] at same
      omega
  | true =>
      have spells : BigEndian.value (word.data.drop 16) =
          BigEndian.value word.data := value_drop_of_small word 16 zeros
      simp only [Bool.not_true, Bool.false_eq_true, ↓reduceIte, spells]
      split
      · rename_i small
        rw [Except.ok.injEq]
        constructor
        · intro same
          subst same
          refine ⟨small, ?_⟩
          rw [wordFits small, data_eq_encodeUint_iff (by omega)]
        · rintro ⟨fits, same⟩
          rw [wordFits fits, data_eq_encodeUint_iff (by omega)] at same
          exact same
      · rename_i notSmall
        simp only [reduceCtorEq, false_iff, not_and]
        intro fits same
        rw [wordFits fits, data_eq_encodeUint_iff (by omega)] at same
        omega

theorem readUsize_eq_ok_iff {input : List UInt8} {cursor value : Nat} :
    (do usizeFrom32Bytes (← readFirst32Bytes input cursor)) = .ok value ↔
      value < 2 ^ 64 ∧
        StandsAt input cursor (encodeUsize (.ofNat value)) := by
  rw [Checked.bind_eq_ok_iff]
  constructor
  · rintro ⟨word, reads, isUsize⟩
    obtain ⟨fits, same⟩ := usizeFrom32Bytes_eq_ok_iff.mp isUsize
    rw [← same]
    exact ⟨fits, readFirst32Bytes_eq_ok_iff.mp reads⟩
  · rintro ⟨fits, stands⟩
    obtain ⟨word, isWord⟩ : ∃ word : Bytes32,
        word.data = encodeUsize (.ofNat value) :=
      ⟨(U256.ofUint (UInt64.ofNat value).toNat).toBeBytes, rfl⟩
    rw [← isWord] at stands
    exact ⟨word, readFirst32Bytes_eq_ok_iff.mpr stands,
      usizeFrom32Bytes_eq_ok_iff.mpr ⟨fits, isWord⟩⟩

/-! ### Offsets and byte strings -/

/-- The word at the cursor is an offset the decoder follows. -/
structure PointsTo (input : List UInt8) (cursor offset : Nat) : Prop where
  fits : offset < 2 ^ 64
  stands : StandsAt input cursor (encodeUsize (.ofNat offset))
  behind_word : 32 ≤ offset
  inside : offset ≤ input.length

theorem readDataOffset_eq_ok_iff {input : List UInt8}
    {cursor offset : Nat} :
    readDataOffset input cursor = .ok offset ↔
      PointsTo input cursor offset := by
  rw [readDataOffset]
  constructor
  · intro read
    obtain ⟨word, reads, read⟩ := Checked.bind_eq_ok_iff.mp read
    obtain ⟨dataOffset, isUsize, read⟩ := Checked.bind_eq_ok_iff.mp read
    obtain ⟨fits, stands⟩ := readUsize_eq_ok_iff.mp
      (Checked.bind_eq_ok_iff.mpr ⟨word, reads, isUsize⟩)
    split at read
    · cases read
    · rename_i inRange
      cases read
      exact ⟨fits, stands, by omega, by omega⟩
  · rintro ⟨fits, stands, behindWord, inside⟩
    obtain ⟨word, reads, isUsize⟩ := Checked.bind_eq_ok_iff.mp
      (readUsize_eq_ok_iff.mpr ⟨fits, stands⟩)
    have inRange : ¬(offset > input.length ∨ offset < 32) := by omega
    rw [reads]
    simp only [bind, Except.bind, isUsize, inRange, ↓reduceIte]
    rfl

theorem length_padRightToMultipleOf32Bytes (data : List UInt8) :
    (padRightToMultipleOf32Bytes data).length =
      (data.length + 31) / 32 * 32 := by
  rw [padRightToMultipleOf32Bytes, List.length_append, List.length_replicate]
  omega

theorem length_encodeByteString (data : List UInt8) :
    (encodeByteString data).length = 32 + (data.length + 31) / 32 * 32 := by
  rw [encodeByteString, List.length_append,
    length_padRightToMultipleOf32Bytes, encodeUsize_length]

theorem areAllZeros_drop_iff {padded : List UInt8} {length : Nat}
    (whole : padded.length = (length + 31) / 32 * 32) :
    areAllZeros (padded.drop length) = true ↔
      padded = padRightToMultipleOf32Bytes (padded.take length) := by
  have padding : padded.length - length = (32 - length % 32) % 32 := by
    omega
  have short : (padded.take length).length = length := by
    rw [List.length_take]
    omega
  rw [areAllZeros_iff, padRightToMultipleOf32Bytes, short, ← padding,
    List.length_drop]
  constructor
  · intro zeros
    rw [← zeros, List.take_append_drop]
  · intro same
    conv_lhs => rw [same, List.drop_left' short]

theorem eq_of_roundUpToMultipleOf32 {length roundedLength : Nat}
    (rounds : roundUpToMultipleOf32 length = .ok roundedLength) :
    roundedLength = (length + 31) / 32 * 32 := by
  rw [roundUpToMultipleOf32] at rounds
  split at rounds
  · cases rounds
  · cases rounds
    rfl

/-- Decoded bytes stand where the offset points to, padded with zeros. -/
theorem decodeBytesAt_sound {input : List UInt8} {cursor newCursor : Nat}
    {value : Bytes} {sizeInBytes : UInt64}
    (decoded : decodeBytesAt input cursor =
      .ok (value, newCursor, sizeInBytes)) :
    ∃ offset, PointsTo input cursor offset ∧
      StandsAt input offset (encodeByteString value.data) ∧
      newCursor = cursor + 32 ∧
      sizeInBytes = .ofNat (32 + (encodeByteString value.data).length) := by
  rw [decodeBytesAt] at decoded
  obtain ⟨offset, points, decoded⟩ := Checked.bind_eq_ok_iff.mp decoded
  obtain ⟨word, reads, decoded⟩ := Checked.bind_eq_ok_iff.mp decoded
  obtain ⟨length, isUsize, decoded⟩ := Checked.bind_eq_ok_iff.mp decoded
  obtain ⟨roundedLength, rounds, decoded⟩ :=
    Checked.bind_eq_ok_iff.mp decoded
  obtain ⟨data, readsData, decoded⟩ := Checked.bind_eq_ok_iff.mp decoded
  have points := readDataOffset_eq_ok_iff.mp points
  obtain ⟨lengthFits, lengthStands⟩ := readUsize_eq_ok_iff.mp
    (Checked.bind_eq_ok_iff.mpr ⟨word, reads, isUsize⟩)
  obtain ⟨dataLength, dataStands⟩ :=
    readPrefixBytes_eq_ok_iff.mp readsData
  have rounded := eq_of_roundUpToMultipleOf32 rounds
  rw [rounded] at dataLength
  cases zeros : areAllZeros (data.drop length) with
  | false =>
      rw [zeros] at decoded
      cases decoded
  | true =>
      rw [zeros] at decoded
      simp only [Bool.not_true, Bool.false_eq_true, ↓reduceIte, pure,
        Except.pure] at decoded
      split at decoded
      · cases decoded
        have short : (data.take length).length = length := by
          rw [List.length_take]
          omega
        have encoding : encodeByteString (data.take length) =
            encodeUsize (.ofNat length) ++ data := by
          rw [encodeByteString, short,
            ← (areAllZeros_drop_iff dataLength).mp zeros]
        refine ⟨offset, points, ?_, rfl, ?_⟩
        · change StandsAt input offset (encodeByteString (data.take length))
          rw [encoding, standsAt_append, encodeUsize_length]
          exact ⟨lengthStands, dataStands⟩
        · change _ = UInt64.ofNat
            (32 + (encodeByteString (data.take length)).length)
          rw [length_encodeByteString, short, rounded, ← Nat.add_assoc,
            UInt64.ofNat_add (32 + 32)]
          rfl
      · cases decoded

theorem decodeBytesAt_complete {input : List UInt8} {cursor offset : Nat}
    {value : Bytes} (fits : input.length < 2 ^ 64)
    (points : PointsTo input cursor offset)
    (stands : StandsAt input offset (encodeByteString value.data)) :
    decodeBytesAt input cursor =
      .ok (value, cursor + 32,
        .ofNat (32 + (encodeByteString value.data).length)) := by
  rw [decodeBytesAt]
  have bound := stands.length_le
  rw [length_encodeByteString] at bound
  rw [encodeByteString, standsAt_append, encodeUsize_length] at stands
  obtain ⟨lengthStands, dataStands⟩ := stands
  have lengthFits : value.data.length < 2 ^ 64 := value.data_length_lt
  obtain ⟨word, reads, isUsize⟩ := Checked.bind_eq_ok_iff.mp
    (readUsize_eq_ok_iff.mpr ⟨lengthFits, lengthStands⟩)
  have rounds : roundUpToMultipleOf32 value.data.length =
      .ok ((value.data.length + 31) / 32 * 32) := by
    rw [roundUpToMultipleOf32, if_neg (by omega)]
  have readsData := readPrefixBytes_eq_ok_iff.mpr
    ⟨length_padRightToMultipleOf32Bytes value.data, dataStands⟩
  have front : (padRightToMultipleOf32Bytes value.data).take
      value.data.length = value.data := by
    rw [padRightToMultipleOf32Bytes, List.take_left]
  have zeros : areAllZeros ((padRightToMultipleOf32Bytes
      value.data).drop value.data.length) = true := by
    rw [areAllZeros_drop_iff
      (length_padRightToMultipleOf32Bytes value.data), front]
  rw [readDataOffset_eq_ok_iff.mpr points]
  simp only [bind, Except.bind, reads, isUsize, rounds, readsData, zeros,
    front, Bool.not_true, Bool.false_eq_true, ↓reduceIte, pure,
    Except.pure, lengthFits, ↓reduceDIte, length_encodeByteString]
  rw [← Nat.add_assoc, UInt64.ofNat_add (32 + 32)]
  rfl

theorem decodeBytesAt_eq_ok_iff {input : List UInt8} {cursor newCursor : Nat}
    {value : Bytes} {sizeInBytes : UInt64} (fits : input.length < 2 ^ 64) :
    decodeBytesAt input cursor = .ok (value, newCursor, sizeInBytes) ↔
      ∃ offset, PointsTo input cursor offset ∧
        StandsAt input offset (encodeByteString value.data) ∧
        newCursor = cursor + 32 ∧
        sizeInBytes =
          .ofNat (32 + (encodeByteString value.data).length) := by
  constructor
  · exact decodeBytesAt_sound
  · intro ⟨offset, points, stands, isCursor, isSize⟩
    rw [isCursor, isSize]
    exact decodeBytesAt_complete fits points stands

end RiskManagement
