import RiskManagement.Miniabi.DecodeEncode

/-!
# Decoding whole encodings

`decode` undoes `encode`.  The other way round it depends on the offsets: the
decoder follows them wherever they point, and only those that are in order
make the input the encoding of what was decoded.
-/

namespace RiskManagement

open Segments

/-- The entries of the tuple that `encode_into` writes. -/
def Value.rootItems : Value → List Value
  | .tuple items => items
  | value => [value]

theorem Value.rootItems_of_ne_tuple {value : Value}
    (noTuple : ∀ items, value ≠ .tuple items) :
    value.rootItems = [value] := by
  cases value with
  | tuple items => exact absurd rfl (noTuple items)
  | _ => rfl

theorem Value.encode_eq (value : Value) :
    value.encode = encodeTuple (encodeItems value.rootItems) := by
  cases value with
  | tuple items => rw [encode, encodeActualData, rootItems]
  | _ =>
      rw [encode_of_ne_tuple (by simp), encodeActualData]
      rfl

namespace AbiType

theorem HasValue.rootItems {type : AbiType} {value : Value}
    (typed : type.HasValue value) :
    HasValues type.rootTypes value.rootItems := by
  cases type with
  | tuple types =>
      obtain ⟨items, rfl, typed⟩ := typed
      exact typed
  | _ =>
      rw [Value.rootItems_of_ne_tuple (typed.ne_tuple (by simp))]
      exact ⟨_, _, rfl, typed, rfl⟩

theorem noneEmptyTuple_rootTypes {type : AbiType}
    (nonempty : type.noEmptyTuple = true) :
    noneEmptyTuple type.rootTypes = true ∧ type.rootTypes ≠ [] := by
  cases type with
  | tuple types =>
      rw [noEmptyTuple, Bool.and_eq_true] at nonempty
      exact ⟨nonempty.2, by simpa [rootTypes] using nonempty.1⟩
  | _ => exact ⟨by simp [rootTypes, noneEmptyTuple, nonempty], by
      simp [rootTypes]⟩

theorem decodeHelper_root_tuple {types : List AbiType}
    (nonempty : types ≠ []) {input : List UInt8} {value : Value}
    {size : UInt64} :
    (∃ newCursor, decodeHelper (.tuple types) input 0 true =
        .ok ⟨value, newCursor, size⟩) ↔
      ∃ items newCursor,
        decodeItems types input 0 = .ok (items, newCursor, size) ∧
          value = .tuple items := by
  have someTypes : types.isEmpty = false := by simpa using nonempty
  rw [decodeHelper, decodeTupleHelper, someTypes]
  simp only [Bool.true_or, Bool.not_true, Bool.false_eq_true, ↓reduceIte,
    Checked.bind_eq_ok_iff, pure, Except.pure, Except.ok.injEq,
    DecodeResult.mk.injEq]
  constructor
  · rintro ⟨newCursor, ⟨items, _, _⟩, decodes, rfl, rfl, rfl⟩
    exact ⟨items, _, decodes, rfl⟩
  · rintro ⟨items, newCursor, decodes, rfl⟩
    exact ⟨newCursor, _, decodes, rfl, rfl, rfl⟩

theorem decodeHelper_root_single {type : AbiType}
    (noTuple : ∀ types, type ≠ .tuple types) {input : List UInt8}
    {value : Value} {size : UInt64} :
    (∃ newCursor, type.decodeHelper input 0 true =
        .ok ⟨value, newCursor, size⟩) ↔
      ∃ newCursor, decodeItems [type] input 0 =
        .ok ([value], newCursor, size) := by
  have noTop : type.decodeHelper input 0 true =
      type.decodeHelper input 0 false := by
    cases type with
    | tuple types => exact absurd rfl (noTuple types)
    | _ => rfl
  simp only [noTop, decodeItems_cons_eq_ok_iff]
  constructor
  · rintro ⟨newCursor, decodes⟩
    refine ⟨newCursor, _, ([], newCursor, 0), decodes, rfl, ?_⟩
    rw [UInt64.add_zero]
  · rintro ⟨newCursor, ⟨first, firstCursor, firstSize⟩, rest, decodes,
      others, same⟩
    cases others
    cases same
    refine ⟨firstCursor, ?_⟩
    rw [UInt64.add_zero]
    exact decodes

/-- At the top level a type is decoded as the tuple of its entries. -/
theorem decodeHelper_root {type : AbiType}
    (nonempty : type.noEmptyTuple = true) {input : List UInt8}
    (fits : input.length < 2 ^ 64) {value : Value} {size : UInt64} :
    (∃ newCursor, type.decodeHelper input 0 true =
        .ok ⟨value, newCursor, size⟩) ↔
      type.HasValue value ∧ ∃ newCursor,
        decodeItems type.rootTypes input 0 =
          .ok (value.rootItems, newCursor, size) := by
  obtain ⟨noneEmpty, someTypes⟩ := noneEmptyTuple_rootTypes nonempty
  have decode := itemsDecodeLayout noneEmpty
  by_cases isTuple : ∃ types, type = .tuple types
  · obtain ⟨types, rfl⟩ := isTuple
    have someTypes : types ≠ [] := someTypes
    rw [decodeHelper_root_tuple someTypes]
    constructor
    · rintro ⟨items, newCursor, decodes, rfl⟩
      have typed := (decode.sound fits decodes).1
      exact ⟨⟨items, rfl, typed⟩, newCursor, decodes⟩
    · rintro ⟨⟨items, rfl, _⟩, newCursor, decodes⟩
      exact ⟨items, newCursor, decodes, rfl⟩
  · push Not at isTuple
    have isRoot : ∀ {value}, type.HasValue value → value.rootItems = [value] :=
      fun typed => Value.rootItems_of_ne_tuple (typed.ne_tuple isTuple)
    have single : type.rootTypes = [type] := by
      cases type with
      | tuple types => exact absurd rfl (isTuple types)
      | _ => rfl
    rw [decodeHelper_root_single isTuple, single]
    rw [single] at decode
    constructor
    · rintro ⟨newCursor, decodes⟩
      obtain ⟨first, _, same, typed, _⟩ := (decode.sound fits decodes).1
      cases same
      exact ⟨typed, newCursor, by rw [isRoot typed]; exact decodes⟩
    · rintro ⟨typed, newCursor, decodes⟩
      rw [isRoot typed] at decodes
      exact ⟨newCursor, decodes⟩

/-- The decoder counts what the encoding of the value takes. -/
theorem decodeHelper_sound {type : AbiType}
    (nonempty : type.noEmptyTuple = true) {input : List UInt8}
    (fits : input.length < 2 ^ 64) {result : DecodeResult}
    (decoded : type.decodeHelper input 0 true = .ok result) :
    type.HasValue result.value ∧
      result.sizeInBytes = .ofNat result.value.encode.length := by
  obtain ⟨typed, newCursor, decodes⟩ :=
    (decodeHelper_root nonempty fits).mp ⟨_, decoded⟩
  have noneEmpty := (noneEmptyTuple_rootTypes nonempty).1
  obtain ⟨_, counted⟩ := (itemsDecodeLayout noneEmpty).sound fits decodes
  injection counted with _ counted
  injection counted with _ counted
  refine ⟨typed, ?_⟩
  rw [counted, Value.encode_eq, length_encodeTuple]

/-- With its offsets in order, an input is decoded to the value whose encoding
it starts with. -/
theorem decodeHelper_inOrder_iff {type : AbiType}
    (nonempty : type.noEmptyTuple = true) {input : List UInt8}
    (fits : input.length < 2 ^ 64) {value : Value}
    (typed : type.HasValue value) :
    (∃ newCursor size, type.decodeHelper input 0 true =
        .ok ⟨value, newCursor, size⟩) ∧ type.OffsetsInOrder input ↔
      StandsAt input 0 value.encode := by
  obtain ⟨noneEmpty, someTypes⟩ := noneEmptyTuple_rootTypes nonempty
  have decode := itemsDecodeLayout noneEmpty
  have tupleIff := fun size => decode.tuple_iff 0 size fits
    (headSizes_ge noneEmpty) typed.rootItems
  rw [List.drop_zero] at tupleIff
  rw [Value.encode_eq, OffsetsInOrder, Option.isSome_iff_exists]
  constructor
  · rintro ⟨⟨newCursor, size, decoded⟩, tailsSize, follows⟩
    obtain ⟨_, lastCursor, decodes⟩ :=
      (decodeHelper_root nonempty fits).mp ⟨newCursor, decoded⟩
    obtain ⟨_, counted⟩ := decode.sound fits decodes
    rw [counted] at decodes
    exact ((tupleIff tailsSize).mp ⟨decodes, follows⟩).1
  · intro stands
    obtain ⟨decodes, follows⟩ := (tupleIff _).mpr ⟨stands, rfl⟩
    obtain ⟨newCursor, decoded⟩ :=
      (decodeHelper_root nonempty fits).mpr ⟨typed, _, decodes⟩
    exact ⟨⟨newCursor, _, decoded⟩, _, follows⟩

theorem decode_eq_ok_iff {type : AbiType} {input : List UInt8}
    {value : Value} :
    type.decode input = .ok value ↔
      ∃ result, type.decodeHelper input 0 true = .ok result ∧
        result.sizeInBytes.toNat = input.length ∧ result.value = value := by
  rw [decode, Checked.bind_eq_ok_iff]
  constructor
  · rintro ⟨result, decoded, sized⟩
    split at sized
    · cases sized
    · rename_i isSize
      cases sized
      exact ⟨result, decoded, not_not.mp isSize, rfl⟩
  · rintro ⟨result, decoded, isSize, rfl⟩
    refine ⟨result, decoded, ?_⟩
    rw [if_neg (not_not.mpr isSize)]
    rfl

/-- ABI decode undoes encode, and the sizes add up to the encoding's. -/
theorem decode_encode {type : AbiType} {value : Value}
    (nonempty : type.noEmptyTuple = true) (typed : type.HasValue value)
    (encoded : Bytes) (encodes : encoded.data = value.encode) :
    type.decode encoded.data = .ok value ∧
      ∃ result, type.decodeHelper encoded.data 0 true = .ok result ∧
        result.sizeInBytes.toNat = encoded.data.length := by
  have fits := encoded.data_length_lt
  have stands : StandsAt encoded.data 0 value.encode := by
    rw [encodes]
    exact List.prefix_rfl
  obtain ⟨⟨newCursor, size, decoded⟩, _⟩ :=
    (decodeHelper_inOrder_iff nonempty fits typed).mpr stands
  obtain ⟨_, isSize⟩ := decodeHelper_sound nonempty fits decoded
  have counted : size.toNat = encoded.data.length := by
    change size = _ at isSize
    rw [isSize, ← encodes]
    exact Nat.mod_eq_of_lt fits
  exact ⟨decode_eq_ok_iff.mpr ⟨_, decoded, counted, rfl⟩, _, decoded, counted⟩

/-- Named lanes and their chains. -/
def lanesType : AbiType :=
  .tuple [.u64, .dynamicArray (.tuple [.string, .address])]

def lanes : Value :=
  .tuple [.u64 2, .dynamicArray
    [.tuple [.string "onramp", .address (.replicate 20 1)],
      .tuple [.string "", .address (.replicate 20 2)]]]

theorem lanes_hasValue : lanesType.HasValue lanes := by
  refine ⟨_, rfl, _, _, rfl, ⟨2, rfl⟩, _, _, rfl, ⟨_, rfl, by decide, ?_⟩, rfl⟩
  intro entry member
  simp only [List.mem_cons, List.not_mem_nil, or_false] at member
  rcases member with rfl | rfl
  · exact ⟨_, rfl, _, _, rfl, ⟨_, rfl, by decide⟩, _, _, rfl, ⟨_, rfl⟩, rfl⟩
  · exact ⟨_, rfl, _, _, rfl, ⟨_, rfl, by decide⟩, _, _, rfl, ⟨_, rfl⟩, rfl⟩

theorem decode_encode_lanes :
    lanesType.decode lanes.encode = .ok lanes ∧
      ∃ result, lanesType.decodeHelper lanes.encode 0 true = .ok result ∧
        result.sizeInBytes.toNat = lanes.encode.length :=
  decode_encode (by decide) lanes_hasValue
    ⟨⟨lanes.encode, by decide +kernel⟩⟩ rfl

/-- What is decoded is a value of the type, as long as the input when encoded.
Its encoding is the input exactly when the input's offsets are in order. -/
theorem decode_strict_iff_inOrder {type : AbiType}
    (nonempty : type.noEmptyTuple = true) (bytes : Bytes) {value : Value}
    (decoded : type.decode bytes.data = .ok value) :
    type.HasValue value ∧
      bytes.data.length = value.encode.length % 2 ^ 64 ∧
      (value.encode = bytes.data ↔ type.OffsetsInOrder bytes.data) ∧
      ∀ other : Bytes, type.decode other.data = .ok value →
        type.OffsetsInOrder bytes.data → type.OffsetsInOrder other.data →
          other = bytes := by
  have encodesIff : ∀ input : Bytes, type.decode input.data = .ok value →
      type.HasValue value ∧
        input.data.length = value.encode.length % 2 ^ 64 ∧
        (value.encode = input.data ↔ type.OffsetsInOrder input.data) := by
    intro input decoded
    have fits := input.data_length_lt
    obtain ⟨result, decodedRoot, sized, rfl⟩ := decode_eq_ok_iff.mp decoded
    obtain ⟨typed, isSize⟩ := decodeHelper_sound nonempty fits decodedRoot
    have inOrderIff := decodeHelper_inOrder_iff nonempty fits typed
    rw [isSize] at sized
    refine ⟨typed, sized.symm, ?_, ?_⟩
    · intro same
      apply (inOrderIff.mpr _).2
      rw [same]
      exact List.prefix_rfl
    · intro inOrder
      have stands := inOrderIff.mp ⟨⟨_, _, decodedRoot⟩, inOrder⟩
      have bound := stands.length_le
      apply stands.eq_of_length_eq
      rw [← sized]
      exact (Nat.mod_eq_of_lt (by omega)).symm
  obtain ⟨typed, sized, strictIff⟩ := encodesIff bytes decoded
  refine ⟨typed, sized, strictIff, ?_⟩
  intro other otherDecoded inOrder otherInOrder
  obtain ⟨_, _, otherIff⟩ := encodesIff other otherDecoded
  apply Bytes.ext
  rw [← otherIff.mpr otherInOrder, strictIff.mpr inOrder]

/-! ### Offsets that are out of order -/

def bytesPair : Except AbiDecodeError Value → Option (Bytes × Bytes)
  | .ok (.tuple [.bytes first, .bytes second]) => some (first, second)
  | _ => none

theorem eq_ok_of_bytesPair {decoded : Except AbiDecodeError Value}
    {first second : Bytes}
    (isPair : bytesPair decoded = some (first, second)) :
    decoded = .ok (.tuple [.bytes first, .bytes second]) := by
  simp only [bytesPair] at isPair
  split at isPair
  · cases isPair
    rfl
  · cases isPair

def twoByteStrings : AbiType := .tuple [.bytes, .bytes]

def oneByte (byte : UInt8) : Bytes := ⟨⟨[byte], by simp⟩⟩

/-- The tail of a byte string of one byte. -/
def oneByteTail (byte : UInt8) : List UInt8 :=
  encodeUsize 1 ++ byte :: List.replicate 31 0

/-- The tails of two byte strings in the other order. -/
def swappedTails : Bytes :=
  ⟨⟨encodeUsize 128 ++ encodeUsize 64 ++ oneByteTail 8 ++ oneByteTail 7,
    by decide +kernel⟩⟩

/-- The tails in the order of the encoder. -/
def orderedTails : Bytes :=
  ⟨⟨encodeUsize 64 ++ encodeUsize 128 ++ oneByteTail 7 ++ oneByteTail 8,
    by decide +kernel⟩⟩

/-- Both offsets point to the tail right behind them; the bytes after it are
never read. -/
def overlappingTails (unread : UInt8) : Bytes :=
  ⟨⟨encodeUsize 64 ++ encodeUsize 64 ++ oneByteTail 7 ++
    List.replicate 64 unread, by simp [oneByteTail]⟩⟩

theorem decode_swappedTails :
    twoByteStrings.decode swappedTails.data =
      .ok (.tuple [.bytes (oneByte 7), .bytes (oneByte 8)]) :=
  eq_ok_of_bytesPair (by decide +kernel)

theorem decode_orderedTails :
    twoByteStrings.decode orderedTails.data =
      .ok (.tuple [.bytes (oneByte 7), .bytes (oneByte 8)]) :=
  eq_ok_of_bytesPair (by decide +kernel)

theorem decode_overlappingTails :
    ∀ unread ∈ [0, 1],
      twoByteStrings.decode (overlappingTails unread).data =
        .ok (.tuple [.bytes (oneByte 7), .bytes (oneByte 7)]) := by
  intro unread member
  apply eq_ok_of_bytesPair
  revert unread member
  decide +kernel

/-- The decoder accepts encodings with other offsets than the encoder's. -/
theorem decode_not_strict :
    ¬(∀ type : AbiType, type.noEmptyTuple = true →
        ∀ (bytes : Bytes) (value : Value),
          type.decode bytes.data = .ok value → value.encode = bytes.data) ∧
      ¬(∀ type : AbiType, type.noEmptyTuple = true →
        ∀ (left right : Bytes) (value : Value),
          type.decode left.data = .ok value →
            type.decode right.data = .ok value → left = right) := by
  constructor
  · intro strict
    have same := strict twoByteStrings rfl _ _ decode_swappedTails
    revert same
    decide +kernel
  · intro injective
    have same := injective twoByteStrings rfl _ _ _
      (decode_overlappingTails 0 (by decide))
      (decode_overlappingTails 1 (by decide))
    revert same
    decide +kernel

/-- Two inputs with one value, which only the first of them encodes. -/
theorem decode_strict_swappedTails :
    let value := Value.tuple [.bytes (oneByte 7), .bytes (oneByte 8)]
    twoByteStrings.HasValue value ∧
      value.encode = orderedTails.data ∧
      value.encode ≠ swappedTails.data ∧
      ∀ other : Bytes, twoByteStrings.decode other.data = .ok value →
        twoByteStrings.OffsetsInOrder other.data → other = orderedTails := by
  obtain ⟨typed, _, orderedIff, unique⟩ :=
    decode_strict_iff_inOrder rfl orderedTails decode_orderedTails
  obtain ⟨_, _, swappedIff, _⟩ :=
    decode_strict_iff_inOrder rfl swappedTails decode_swappedTails
  have inOrder : twoByteStrings.OffsetsInOrder orderedTails.data := by
    decide +kernel
  have outOfOrder : ¬twoByteStrings.OffsetsInOrder swappedTails.data := by
    decide +kernel
  exact ⟨typed, orderedIff.mpr inOrder,
    fun same => outOfOrder (swappedIff.mp same),
    fun other decoded => unique other decoded inOrder⟩

end AbiType

end RiskManagement
