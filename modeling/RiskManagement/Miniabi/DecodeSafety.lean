import RiskManagement.Miniabi.CheckedDecoder
import RiskManagement.Miniabi.WordCodec

/-!
# The ABI decoder does not panic

Every function of the checked decoder returns what the plain one does, for an
input that fits memory.  A slice is in range by the check in front of it or by
what an earlier read has established: a word that was read ends inside of the
input.
-/

namespace RiskManagement

namespace CheckedDecoder

open Panics

/-! ### Words -/

theorem intoArray_returns {size : Nat} {bytes : List UInt8}
    (sized : bytes.length = size) (error : AbiDecodeError) :
    intoArray size bytes error = returns (.ok ⟨bytes, sized⟩) := by
  rw [intoArray, dif_pos sized]
  rfl

theorem unwrapArray_eq {size : Nat} {bytes : List UInt8}
    (sized : bytes.length = size) :
    unwrapArray size bytes = some ⟨bytes, sized⟩ := by
  rw [unwrapArray, dif_pos sized]

theorem slice_front (word : Bytes32) {size : Nat} (atMost : size ≤ 32) :
    slice word.data 0 size = some (word.data.take size) := by
  apply slice_zero
  rw [word.size_eq]
  exact atMost

theorem slice_back (word : Bytes32) {size : Nat} (atMost : size ≤ 32) :
    sliceFrom word.data size = some (word.data.drop size) := by
  apply sliceFrom_eq
  rw [word.size_eq]
  exact atMost

theorem slice_back_32 (word : Bytes32) {size : Nat} (atMost : size ≤ 32) :
    slice word.data size 32 = some (word.data.drop size) := by
  have back := slice_back word atMost
  rw [sliceFrom, word.size_eq] at back
  exact back

theorem length_back (word : Bytes32) (size : Nat) :
    (word.data.drop size).length = 32 - size := by
  rw [List.length_drop, word.size_eq]

theorem length_of_readFirst32Bytes {bytes : List UInt8} {cursor : Nat}
    {word : Bytes32}
    (read : RiskManagement.readFirst32Bytes bytes cursor = .ok word) :
    cursor + 32 ≤ bytes.length := by
  rw [RiskManagement.readFirst32Bytes] at read
  split at read
  · cases read
  · omega

theorem addUsize_word {bytes : List UInt8} (fits : bytes.length < 2 ^ 63)
    {cursor : Nat} (inside : cursor + 32 ≤ bytes.length) :
    addUsize cursor 32 = some (cursor + 32) :=
  addUsize_eq (by omega)

theorem readFirst32Bytes_returns {bytes : List UInt8}
    (fits : bytes.length < 2 ^ 63) (cursor : Nat) :
    readFirst32Bytes bytes cursor =
      returns (RiskManagement.readFirst32Bytes bytes cursor) := by
  rw [readFirst32Bytes, RiskManagement.readFirst32Bytes]
  by_cases short : bytes.length - cursor < 32
  · rw [if_pos short, dif_pos short]
    rfl
  · have inside : cursor + 32 ≤ bytes.length := by omega
    rw [if_neg short, dif_neg short,
      orPanic_bind _ (addUsize_word fits inside),
      orPanic_bind _ (slice_add inside), intoArray_returns]

theorem decodedWord_returns {bytes : List UInt8}
    (fits : bytes.length < 2 ^ 63) {cursor : Nat} {word : Bytes32}
    (read : RiskManagement.readFirst32Bytes bytes cursor = .ok word)
    (value : Value) :
    decodedWord value cursor =
      returns (.ok (RiskManagement.decodedWord value cursor)) := by
  have inside := length_of_readFirst32Bytes read
  rw [decodedWord, orPanic_bind _ (addUsize_word fits inside)]
  rfl

theorem wordHelper_returns {bytes : List UInt8}
    (fits : bytes.length < 2 ^ 63) (cursor : Nat) {α : Type}
    {fromWord : Bytes32 → Decoding α}
    {plain : Bytes32 → Except AbiDecodeError α} (value : α → Value)
    (converts : ∀ word, fromWord word = returns (plain word)) :
    (do
      let word ← readFirst32Bytes bytes cursor
      let converted ← fromWord word
      decodedWord (value converted) cursor) =
      returns (do
        let converted ←
          plain (← RiskManagement.readFirst32Bytes bytes cursor)
        return RiskManagement.decodedWord (value converted) cursor) := by
  apply bind_eq_returns (readFirst32Bytes_returns fits cursor)
  intro word read
  apply bind_eq_returns (converts word)
  intro converted _
  exact decodedWord_returns fits read (value converted)

theorem boolFrom32Bytes_returns (word : Bytes32) :
    boolFrom32Bytes word =
      returns (RiskManagement.boolFrom32Bytes word) := by
  have padding := slice_front word (show 31 ≤ 32 by decide)
  have single : ∃ last, word.data.drop 31 = [last] := by
    apply List.length_eq_one_iff.mp
    exact length_back word 31
  obtain ⟨last, isLast⟩ := single
  have index : word.data[31]? = some last := by
    have first := congrArg List.head? isLast
    rw [List.head?_drop] at first
    exact first
  rw [boolFrom32Bytes, RiskManagement.boolFrom32Bytes, isLast,
    orPanic_bind _ padding]
  split
  · rfl
  · rw [orPanic_bind _ index]
    by_cases isZero : last = 0
    · subst isZero
      rfl
    · by_cases isOne : last = 1
      · subst isOne
        rfl
      · rw [if_neg isZero, if_neg isOne]
        split
        · rename_i zero
          cases zero
          exact absurd rfl isZero
        · rename_i one
          cases one
          exact absurd rfl isOne
        · rfl

theorem fromBeBytes_returns (word : Bytes32) :
    fromBeBytes word = returns (.ok (U256.fromBeBytes word)) := by
  have sixteen : (word.data.take 16).length = 16 := by
    rw [List.length_take, word.size_eq]
    rfl
  rw [fromBeBytes, orPanic_bind _ (slice_front word (by decide)),
    orPanic_bind _ (unwrapArray_eq sixteen),
    orPanic_bind _ (slice_back word (by decide)),
    orPanic_bind _ (unwrapArray_eq (length_back word 16))]
  rfl

theorem decodeUintHelper_returns {bytes : List UInt8}
    (fits : bytes.length < 2 ^ 63) (cursor : Nat) {size : Nat}
    (atMost : size ≤ 32) (ofNat : Nat → Value) :
    decodeUintHelper size ofNat bytes cursor =
      returns (RiskManagement.decodeUintHelper size ofNat bytes
        cursor) := by
  rw [decodeUintHelper, RiskManagement.decodeUintHelper]
  apply bind_eq_returns (readFirst32Bytes_returns fits cursor)
  intro word read
  have sized : (word.data.drop (32 - size)).length = size := by
    rw [length_back]
    omega
  rw [orPanic_bind _ (slice_front word (Nat.sub_le 32 size)),
    orPanic_bind _ (slice_back word (Nat.sub_le 32 size))]
  split
  · rfl
  · rw [orPanic_bind _ (unwrapArray_eq sized)]
    exact decodedWord_returns fits read _

theorem addressFrom32Bytes_returns (word : Bytes32) :
    addressFrom32Bytes word =
      returns (RiskManagement.addressFrom32Bytes word) := by
  rw [addressFrom32Bytes, RiskManagement.addressFrom32Bytes,
    orPanic_bind _ (slice_front word (by decide))]
  split
  · rfl
  · rw [orPanic_bind _ (slice_back_32 word (by decide)),
      intoArray_returns (length_back word 12)]

theorem usizeFrom32Bytes_returns (word : Bytes32) :
    usizeFrom32Bytes word =
      returns (RiskManagement.usizeFrom32Bytes word) := by
  rw [usizeFrom32Bytes, RiskManagement.usizeFrom32Bytes,
    orPanic_bind _ (slice_front word (by decide))]
  split
  · rfl
  · rw [orPanic_bind _ (slice_back_32 word (by decide)),
      intoArray_returns (length_back word 16), ok_bind]
    split
    · rename_i fits
      rw [if_pos fits]
      rfl
    · rename_i large
      rw [if_neg large]
      rfl

/-! ### Byte strings -/

/-- A prefix is in range from any position inside of the input. -/
theorem readPrefixBytes_returns {bytes : List UInt8}
    (fits : bytes.length < 2 ^ 63) {cursor : Nat}
    (inside : cursor ≤ bytes.length) (length : Nat) :
    readPrefixBytes bytes cursor length =
      returns (RiskManagement.readPrefixBytes bytes cursor length) := by
  rw [readPrefixBytes, RiskManagement.readPrefixBytes]
  by_cases short : bytes.length - cursor < length
  · rw [if_pos short, if_pos short]
    rfl
  · have stop : addUsize cursor length = some (cursor + length) :=
      addUsize_eq (by omega)
    have enough : cursor + length ≤ bytes.length := by omega
    rw [if_neg short, if_neg short, orPanic_bind _ stop, slice_add enough]
    rfl

theorem roundUpToMultipleOf32_returns (value : Nat) :
    roundUpToMultipleOf32 value =
      returns (RiskManagement.roundUpToMultipleOf32 value) := by
  rw [roundUpToMultipleOf32, RiskManagement.roundUpToMultipleOf32]
  by_cases large : 2 ^ 64 - 1 - 31 < value
  · rw [if_pos large, if_pos large]
    rfl
  · have sum : addUsize value 31 = some (value + 31) :=
      addUsize_eq (by omega)
    have product : mulUsize ((value + 31) / 32) 32 =
        some ((value + 31) / 32 * 32) :=
      mulUsize_eq (by omega)
    rw [if_neg large, if_neg large, orPanic_bind _ sum, product]
    rfl

theorem le_of_roundUpToMultipleOf32 {value rounded : Nat}
    (rounds : RiskManagement.roundUpToMultipleOf32 value = .ok rounded) :
    value ≤ rounded := by
  rw [RiskManagement.roundUpToMultipleOf32] at rounds
  split at rounds
  · cases rounds
  · rw [Except.ok.injEq] at rounds
    omega

theorem readDataOffset_returns {bytes : List UInt8}
    (fits : bytes.length < 2 ^ 63) (cursor : Nat) :
    readDataOffset bytes cursor =
      returns (RiskManagement.readDataOffset bytes cursor) := by
  rw [readDataOffset, RiskManagement.readDataOffset]
  apply bind_eq_returns (readFirst32Bytes_returns fits cursor)
  intro word _
  apply bind_eq_returns (usizeFrom32Bytes_returns word)
  intro dataOffset _
  split
  · rfl
  · rfl

/-- The word of an offset that is followed ends inside of the input. -/
theorem length_of_readDataOffset {bytes : List UInt8} {cursor offset : Nat}
    (read : RiskManagement.readDataOffset bytes cursor = .ok offset) :
    cursor + 32 ≤ bytes.length := by
  rw [RiskManagement.readDataOffset] at read
  obtain ⟨word, readWord, _⟩ := Checked.bind_eq_ok_iff.mp read
  exact length_of_readFirst32Bytes readWord

theorem length_of_readPrefixBytes {bytes data : List UInt8}
    {cursor length : Nat}
    (read : RiskManagement.readPrefixBytes bytes cursor length = .ok data) :
    data.length = length ∧ length ≤ bytes.length := by
  obtain ⟨isLength, stands⟩ := readPrefixBytes_eq_ok_iff.mp read
  have shorter := List.IsPrefix.length_le stands
  rw [List.length_drop] at shorter
  omega

theorem decodeBytesAt_returns {bytes : List UInt8}
    (fits : bytes.length < 2 ^ 63) (cursor : Nat) :
    decodeBytesAt bytes cursor =
      returns (RiskManagement.decodeBytesAt bytes cursor) := by
  rw [decodeBytesAt, RiskManagement.decodeBytesAt]
  apply bind_eq_returns (readDataOffset_returns fits cursor)
  intro dataOffset readOffset
  have headInside := length_of_readDataOffset readOffset
  apply bind_eq_returns (readFirst32Bytes_returns fits dataOffset)
  intro word readLength
  have lengthInside := length_of_readFirst32Bytes readLength
  apply bind_eq_returns (usizeFrom32Bytes_returns word)
  intro length _
  apply bind_eq_returns (roundUpToMultipleOf32_returns length)
  intro roundedLength rounds
  have notLonger := le_of_roundUpToMultipleOf32 rounds
  rw [orPanic_bind _ (addUsize_word fits lengthInside)]
  apply bind_eq_returns
    (readPrefixBytes_returns fits lengthInside roundedLength)
  intro data readData
  obtain ⟨isLength, dataFits⟩ := length_of_readPrefixBytes readData
  have padding : slice data length roundedLength =
      some (data.drop length) := by
    rw [← isLength] at notLonger ⊢
    exact sliceFrom_eq notLonger
  have front : slice data 0 length = some (data.take length) :=
    slice_zero (by omega)
  have frontFits : (data.take length).length < 2 ^ 64 := by
    rw [List.length_take]
    omega
  have value : toVec (data.take length) =
      some ⟨⟨data.take length, frontFits⟩⟩ := by
    rw [toVec, dif_pos frontFits]
  have sizeInBytes : addUsize 64 roundedLength = some (64 + roundedLength) :=
    addUsize_eq (by omega)
  rw [orPanic_bind _ padding]
  split
  · rfl
  · rw [orPanic_bind _ front, orPanic_bind _ value,
      orPanic_bind _ (addUsize_word fits headInside),
      orPanic_bind _ sizeInBytes, UInt64.ofNat_add]
    rfl

theorem decodeBytesHelper_returns {bytes : List UInt8}
    (fits : bytes.length < 2 ^ 63) (cursor : Nat) :
    decodeBytesHelper bytes cursor =
      returns (RiskManagement.decodeBytesHelper bytes cursor) := by
  rw [decodeBytesHelper, RiskManagement.decodeBytesHelper]
  apply bind_eq_returns (decodeBytesAt_returns fits cursor)
  intro decoded _
  rfl

theorem decodeStringHelper_returns {bytes : List UInt8}
    (fits : bytes.length < 2 ^ 63) (cursor : Nat) :
    decodeStringHelper bytes cursor =
      returns (RiskManagement.decodeStringHelper bytes cursor) := by
  rw [decodeStringHelper, decodeBytesAt_returns fits,
    RiskManagement.decodeStringHelper]
  rfl

/-! ### Arrays and tuples -/

/-- A decoder of one value returns what the plain one does, in every buffer
that fits memory. -/
def Agrees {α : Type} (checked : List UInt8 → Nat → Decoding α)
    (plain : List UInt8 → Nat → Except AbiDecodeError α) : Prop :=
  ∀ bytes, bytes.length < 2 ^ 63 → ∀ cursor,
    checked bytes cursor = returns (plain bytes cursor)

theorem decodeElements_returns
    {checked : List UInt8 → Nat → Decoding DecodeResult}
    {plain : List UInt8 → Nat → Except AbiDecodeError DecodeResult}
    (agrees : Agrees checked plain) {bytes : List UInt8}
    (fits : bytes.length < 2 ^ 63) (length cursor : Nat) :
    decodeElements checked bytes length cursor =
      returns (RiskManagement.decodeElements plain bytes length cursor) := by
  induction length generalizing cursor with
  | zero => rfl
  | succ length ih =>
      rw [decodeElements, RiskManagement.decodeElements]
      apply bind_eq_returns (agrees bytes fits cursor)
      intro item _
      apply bind_eq_returns (ih item.newCursor)
      intro rest _
      rfl

theorem length_drop_lt {bytes : List UInt8} (fits : bytes.length < 2 ^ 63)
    (start : Nat) : (bytes.drop start).length < 2 ^ 63 := by
  rw [List.length_drop]
  omega

theorem decodeDynamicArray_agrees
    {checked : List UInt8 → Nat → Decoding DecodeResult}
    {plain : List UInt8 → Nat → Except AbiDecodeError DecodeResult}
    (agrees : Agrees checked plain) :
    Agrees (decodeDynamicArray checked)
      (RiskManagement.decodeDynamicArray plain) := by
  intro bytes fits cursor
  rw [decodeDynamicArray, RiskManagement.decodeDynamicArray]
  apply bind_eq_returns (readDataOffset_returns fits cursor)
  intro lenOffset readOffset
  have headInside := length_of_readDataOffset readOffset
  apply bind_eq_returns (readFirst32Bytes_returns fits lenOffset)
  intro word readLength
  have lengthInside := length_of_readFirst32Bytes readLength
  apply bind_eq_returns (usizeFrom32Bytes_returns word)
  intro length _
  -- the length word has already been read there
  have tailInside : ¬ lenOffset + 32 > bytes.length :=
    Nat.not_lt.mpr lengthInside
  dsimp only
  rw [orPanic_bind _ (addUsize_word fits lengthInside), if_neg tailInside,
    if_neg tailInside, orPanic_bind _ (sliceFrom_eq lengthInside)]
  apply bind_eq_returns
    (decodeElements_returns agrees (length_drop_lt fits _) length 0)
  intro elements _
  rw [orPanic_bind _ (addUsize_word fits headInside)]
  rfl

theorem decodeTupleHelper_agrees {isEmpty isDynamic : Bool}
    {checked : List UInt8 → Nat → Decoding (List Value × Nat × UInt64)}
    {plain : List UInt8 → Nat →
      Except AbiDecodeError (List Value × Nat × UInt64)}
    (agrees : Agrees checked plain) :
    Agrees (fun bytes cursor =>
        decodeTupleHelper isEmpty checked bytes cursor isDynamic)
      fun bytes cursor => RiskManagement.decodeTupleHelper isEmpty plain
        bytes cursor isDynamic := by
  intro bytes fits cursor
  beta_reduce
  rw [decodeTupleHelper, RiskManagement.decodeTupleHelper]
  split
  · rfl
  · split
    · apply bind_eq_returns (readDataOffset_returns fits cursor)
      intro dataOffset readOffset
      have headInside := length_of_readDataOffset readOffset
      have points := readDataOffset_eq_ok_iff.mp readOffset
      rw [orPanic_bind _ (sliceFrom_eq points.inside)]
      apply bind_eq_returns (agrees _ (length_drop_lt fits _) 0)
      intro decoded _
      obtain ⟨items, _, totalSizeInBytes⟩ := decoded
      simp only
      rw [orPanic_bind _ (addUsize_word fits headInside)]
      rfl
    · apply bind_eq_returns (agrees bytes fits cursor)
      intro decoded _
      rfl

/-! ### Types -/

mutual

theorem decodeHelper_agrees (type : AbiType) (isTopLevel : Bool) :
    Agrees (fun bytes cursor => decodeHelper type bytes cursor isTopLevel)
      fun bytes cursor => type.decodeHelper bytes cursor isTopLevel := by
  intro bytes fits cursor
  beta_reduce
  cases type with
  | bool =>
      rw [decodeHelper, AbiType.decodeHelper]
      exact wordHelper_returns fits cursor .bool boolFrom32Bytes_returns
  | u256 =>
      rw [decodeHelper, AbiType.decodeHelper]
      exact wordHelper_returns fits cursor .u256 fromBeBytes_returns
  | u128 =>
      rw [decodeHelper, AbiType.decodeHelper]
      exact decodeUintHelper_returns fits cursor (by decide) _
  | u64 =>
      rw [decodeHelper, AbiType.decodeHelper]
      exact decodeUintHelper_returns fits cursor (by decide) _
  | u32 =>
      rw [decodeHelper, AbiType.decodeHelper]
      exact decodeUintHelper_returns fits cursor (by decide) _
  | u16 =>
      rw [decodeHelper, AbiType.decodeHelper]
      exact decodeUintHelper_returns fits cursor (by decide) _
  | u8 =>
      rw [decodeHelper, AbiType.decodeHelper]
      exact decodeUintHelper_returns fits cursor (by decide) _
  | address =>
      rw [decodeHelper, AbiType.decodeHelper]
      exact wordHelper_returns fits cursor .address
        addressFrom32Bytes_returns
  | bytes32 =>
      rw [decodeHelper, AbiType.decodeHelper]
      apply bind_eq_returns (readFirst32Bytes_returns fits cursor)
      intro word read
      exact decodedWord_returns fits read (.bytes32 word)
  | bytes =>
      rw [decodeHelper, AbiType.decodeHelper]
      exact decodeBytesHelper_returns fits cursor
  | string =>
      rw [decodeHelper, AbiType.decodeHelper]
      exact decodeStringHelper_returns fits cursor
  | dynamicArray item =>
      rw [decodeHelper, AbiType.decodeHelper]
      exact decodeDynamicArray_agrees (decodeHelper_agrees item false) bytes
        fits cursor
  | tuple items =>
      rw [decodeHelper, AbiType.decodeHelper]
      exact decodeTupleHelper_agrees (decodeItems_agrees items) bytes fits
        cursor

theorem decodeItems_agrees (types : List AbiType) :
    Agrees (decodeItems types) (AbiType.decodeItems types) := by
  intro bytes fits cursor
  cases types with
  | nil =>
      rw [decodeItems, AbiType.decodeItems]
      rfl
  | cons type types =>
      rw [decodeItems, AbiType.decodeItems]
      apply bind_eq_returns (decodeHelper_agrees type false bytes fits cursor)
      intro first _
      apply bind_eq_returns
        (decodeItems_agrees types bytes fits first.newCursor)
      intro rest _
      rfl

end

theorem decode_returns (type : AbiType) {input : List UInt8}
    (fits : input.length < 2 ^ 63) :
    decode type input = returns (type.decode input) := by
  rw [decode, AbiType.decode]
  apply bind_eq_returns (decodeHelper_agrees type true input fits 0)
  intro result _
  split
  · rfl
  · rfl

end CheckedDecoder

end RiskManagement
