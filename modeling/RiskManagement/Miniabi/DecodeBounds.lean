import RiskManagement.Miniabi.DecodeSafety

/-!
# How much the ABI decoder reads

Each decoded value takes at least one word from the buffer it stands in, so the
elements of an array are no more than the words of its buffer, whatever length
the input claims.
-/

namespace RiskManagement

namespace Value

mutual

/-- Every dynamic array in the value has at most this many elements. -/
def ArraysWithin (limit : Nat) : Value → Prop
  | .bool _ => True
  | .u256 _ => True
  | .u128 _ => True
  | .u64 _ => True
  | .u32 _ => True
  | .u16 _ => True
  | .u8 _ => True
  | .address _ => True
  | .bytes32 _ => True
  | .bytes _ => True
  | .string _ => True
  | .tuple items => ItemsWithin limit items
  | .dynamicArray items => items.length ≤ limit ∧ ItemsWithin limit items

def ItemsWithin (limit : Nat) : List Value → Prop
  | [] => True
  | item :: items => item.ArraysWithin limit ∧ ItemsWithin limit items

end

end Value

namespace AbiType

/-- What was decoded took at least a word, up to a cursor inside of the
buffer. -/
structure TakesWords (limit : Nat) (bytes : List UInt8) (cursor : Nat)
    (result : DecodeResult) : Prop where
  moves : cursor + 32 ≤ result.newCursor
  inside : result.newCursor ≤ bytes.length
  arrays : result.value.ArraysWithin limit

/-- A decoder of one value, on buffers of at most this many words. -/
def Bounded (limit : Nat)
    (decode : List UInt8 → Nat → Except AbiDecodeError DecodeResult) : Prop :=
  ∀ bytes, bytes.length / 32 ≤ limit → ∀ cursor result,
    decode bytes cursor = .ok result → TakesWords limit bytes cursor result

/-- A decoder of the items of a tuple. -/
def ItemsBounded (limit count : Nat)
    (decode : List UInt8 → Nat →
      Except AbiDecodeError (List Value × Nat × UInt64)) : Prop :=
  ∀ bytes, bytes.length / 32 ≤ limit → ∀ cursor items lastCursor size,
    decode bytes cursor = .ok (items, lastCursor, size) →
      cursor + 32 * count ≤ lastCursor ∧
        (0 < count → lastCursor ≤ bytes.length) ∧
        Value.ItemsWithin limit items

theorem words_drop_le {limit : Nat} {bytes : List UInt8}
    (words : bytes.length / 32 ≤ limit) (start : Nat) :
    (bytes.drop start).length / 32 ≤ limit := by
  rw [List.length_drop]
  omega

/-! ### Words and byte strings -/

theorem TakesWords.of_word {limit : Nat} {bytes : List UInt8} {cursor : Nat}
    {word : Bytes32} (read : readFirst32Bytes bytes cursor = .ok word)
    {value : Value} (arrays : value.ArraysWithin limit) :
    TakesWords limit bytes cursor (decodedWord value cursor) where
  moves := Nat.le_refl _
  inside := CheckedDecoder.length_of_readFirst32Bytes read
  arrays := arrays

theorem wordHelper_bounded (limit : Nat) {α : Type}
    (fromWord : Bytes32 → Except AbiDecodeError α) (value : α → Value)
    (arrays : ∀ converted, (value converted).ArraysWithin limit) :
    Bounded limit (fun bytes cursor => do
      let converted ← fromWord (← readFirst32Bytes bytes cursor)
      return decodedWord (value converted) cursor) := by
  intro bytes _ cursor result decoded
  obtain ⟨word, read, decoded⟩ := Checked.bind_eq_ok_iff.mp decoded
  obtain ⟨converted, _, decoded⟩ := Checked.bind_eq_ok_iff.mp decoded
  cases decoded
  exact .of_word read (arrays converted)

theorem decodeUintHelper_bounded (limit size : Nat) (ofNat : Nat → Value)
    (arrays : ∀ number, (ofNat number).ArraysWithin limit) :
    Bounded limit (decodeUintHelper size ofNat) := by
  intro bytes _ cursor result decoded
  rw [decodeUintHelper] at decoded
  obtain ⟨word, read, decoded⟩ := Checked.bind_eq_ok_iff.mp decoded
  split at decoded
  · cases decoded
  · cases decoded
    exact .of_word read (arrays _)

/-- The cursor behind a byte string is behind its offset word. -/
theorem newCursor_of_decodeBytesAt {bytes : List UInt8} {cursor : Nat}
    {value : Bytes} {newCursor : Nat} {size : UInt64}
    (decoded : decodeBytesAt bytes cursor = .ok (value, newCursor, size)) :
    newCursor = cursor + 32 ∧ newCursor ≤ bytes.length := by
  rw [decodeBytesAt] at decoded
  obtain ⟨dataOffset, readOffset, decoded⟩ :=
    Checked.bind_eq_ok_iff.mp decoded
  obtain ⟨word, _, decoded⟩ := Checked.bind_eq_ok_iff.mp decoded
  obtain ⟨length, _, decoded⟩ := Checked.bind_eq_ok_iff.mp decoded
  obtain ⟨roundedLength, _, decoded⟩ := Checked.bind_eq_ok_iff.mp decoded
  obtain ⟨data, _, decoded⟩ := Checked.bind_eq_ok_iff.mp decoded
  have inside := CheckedDecoder.length_of_readDataOffset readOffset
  split at decoded
  · split at decoded
    · cases decoded
    · cases decoded
      exact ⟨rfl, inside⟩
  · split at decoded
    · cases decoded
    · cases decoded

theorem decodeBytesHelper_bounded (limit : Nat) :
    Bounded limit decodeBytesHelper := by
  intro bytes _ cursor result decoded
  rw [decodeBytesHelper] at decoded
  obtain ⟨⟨value, newCursor, size⟩, decodedBytes, decoded⟩ :=
    Checked.bind_eq_ok_iff.mp decoded
  obtain ⟨isNext, inside⟩ := newCursor_of_decodeBytesAt decodedBytes
  cases decoded
  exact ⟨Nat.le_of_eq isNext.symm, inside, trivial⟩

theorem decodeStringHelper_bounded (limit : Nat) :
    Bounded limit decodeStringHelper := by
  intro bytes _ cursor result decoded
  rw [decodeStringHelper.eq_def] at decoded
  split at decoded
  · cases decoded
  · cases decoded
  · rename_i value newCursor size decodedBytes
    obtain ⟨isNext, inside⟩ := newCursor_of_decodeBytesAt decodedBytes
    split at decoded
    · cases decoded
    · cases decoded
      exact ⟨Nat.le_of_eq isNext.symm, inside, trivial⟩

/-! ### Arrays and tuples -/

theorem decodeElements_bounded {limit : Nat}
    {decodeItem : List UInt8 → Nat → Except AbiDecodeError DecodeResult}
    (bounded : Bounded limit decodeItem) {bytes : List UInt8}
    (words : bytes.length / 32 ≤ limit) {length cursor : Nat}
    {items : List Value} {size : UInt64}
    (decoded : decodeElements decodeItem bytes length cursor =
      .ok (items, size)) :
    items.length = length ∧
      (0 < length → cursor + 32 * length ≤ bytes.length) ∧
      Value.ItemsWithin limit items := by
  induction length generalizing cursor items size with
  | zero =>
      cases decoded
      exact ⟨rfl, fun positive => absurd positive (Nat.lt_irrefl 0), trivial⟩
  | succ length ih =>
      rw [decodeElements] at decoded
      obtain ⟨item, decodedItem, decoded⟩ :=
        Checked.bind_eq_ok_iff.mp decoded
      obtain ⟨⟨rest, restSize⟩, decodedRest, decoded⟩ :=
        Checked.bind_eq_ok_iff.mp decoded
      have takes := bounded bytes words cursor item decodedItem
      obtain ⟨restLength, restInside, restWithin⟩ := ih decodedRest
      have moves := takes.moves
      have inside := takes.inside
      cases decoded
      refine ⟨by rw [List.length_cons, restLength], ?_,
        takes.arrays, restWithin⟩
      intro _
      by_cases more : 0 < length
      · have within := restInside more
        omega
      · omega

theorem decodeDynamicArray_bounded {limit : Nat}
    {decodeItem : List UInt8 → Nat → Except AbiDecodeError DecodeResult}
    (bounded : Bounded limit decodeItem) :
    Bounded limit (decodeDynamicArray decodeItem) := by
  intro bytes words cursor result decoded
  rw [decodeDynamicArray] at decoded
  obtain ⟨lenOffset, readOffset, decoded⟩ :=
    Checked.bind_eq_ok_iff.mp decoded
  obtain ⟨word, _, decoded⟩ := Checked.bind_eq_ok_iff.mp decoded
  obtain ⟨length, _, decoded⟩ := Checked.bind_eq_ok_iff.mp decoded
  have inside := CheckedDecoder.length_of_readDataOffset readOffset
  dsimp only at decoded
  split at decoded
  · cases decoded
  · obtain ⟨⟨items, size⟩, decodedItems, decoded⟩ :=
      Checked.bind_eq_ok_iff.mp decoded
    have tailWords := words_drop_le words (lenOffset + 32)
    obtain ⟨isLength, itemsInside, within⟩ :=
      decodeElements_bounded bounded tailWords decodedItems
    cases decoded
    refine ⟨Nat.le_refl _, inside, ?_, within⟩
    change items.length ≤ limit
    by_cases some : 0 < length
    · have fits := itemsInside some
      omega
    · omega

theorem decodeTupleHelper_bounded {limit : Nat} {types : List AbiType}
    {isDynamic : Bool}
    {decodeItems : List UInt8 → Nat →
      Except AbiDecodeError (List Value × Nat × UInt64)}
    (bounded : ItemsBounded limit types.length decodeItems) :
    Bounded limit fun bytes cursor =>
      decodeTupleHelper types.isEmpty decodeItems bytes cursor isDynamic := by
  intro bytes words cursor result decoded
  beta_reduce at decoded
  rw [decodeTupleHelper] at decoded
  split at decoded
  · cases decoded
  · rename_i nonempty
    have positive : 0 < types.length := by
      apply List.length_pos_iff.mpr
      simpa using nonempty
    split at decoded
    · obtain ⟨dataOffset, readOffset, decoded⟩ :=
        Checked.bind_eq_ok_iff.mp decoded
      obtain ⟨⟨items, last, size⟩, decodedItems, decoded⟩ :=
        Checked.bind_eq_ok_iff.mp decoded
      obtain ⟨_, _, within⟩ := bounded _ (words_drop_le words dataOffset) _ _
        _ _ decodedItems
      cases decoded
      exact ⟨Nat.le_refl _,
        CheckedDecoder.length_of_readDataOffset readOffset, within⟩
    · obtain ⟨⟨items, last, size⟩, decodedItems, decoded⟩ :=
        Checked.bind_eq_ok_iff.mp decoded
      obtain ⟨moves, inside, within⟩ :=
        bounded bytes words cursor _ _ _ decodedItems
      cases decoded
      refine ⟨?_, inside positive, within⟩
      change cursor + 32 ≤ last
      omega

mutual

theorem decodeHelper_bounded (limit : Nat) (type : AbiType)
    (isTopLevel : Bool) :
    Bounded limit fun bytes cursor =>
      type.decodeHelper bytes cursor isTopLevel := by
  cases type with
  | bool =>
      simp only [decodeHelper]
      exact wordHelper_bounded limit _ _ fun _ => trivial
  | u256 =>
      simp only [decodeHelper]
      exact wordHelper_bounded limit (fun word => .ok (.fromBeBytes word))
        .u256 fun _ => trivial
  | u128 =>
      simp only [decodeHelper]
      exact decodeUintHelper_bounded limit 16 _ fun _ => trivial
  | u64 =>
      simp only [decodeHelper]
      exact decodeUintHelper_bounded limit 8 _ fun _ => trivial
  | u32 =>
      simp only [decodeHelper]
      exact decodeUintHelper_bounded limit 4 _ fun _ => trivial
  | u16 =>
      simp only [decodeHelper]
      exact decodeUintHelper_bounded limit 2 _ fun _ => trivial
  | u8 =>
      simp only [decodeHelper]
      exact decodeUintHelper_bounded limit 1 _ fun _ => trivial
  | address =>
      simp only [decodeHelper]
      exact wordHelper_bounded limit _ _ fun _ => trivial
  | bytes32 =>
      simp only [decodeHelper]
      exact wordHelper_bounded limit (fun word => .ok word) .bytes32
        fun _ => trivial
  | bytes =>
      simp only [decodeHelper]
      exact decodeBytesHelper_bounded limit
  | string =>
      simp only [decodeHelper]
      exact decodeStringHelper_bounded limit
  | dynamicArray item =>
      simp only [decodeHelper]
      exact decodeDynamicArray_bounded (decodeHelper_bounded limit item false)
  | tuple items =>
      simp only [decodeHelper]
      exact decodeTupleHelper_bounded (decodeItems_bounded limit items)

theorem decodeItems_bounded (limit : Nat) (types : List AbiType) :
    ItemsBounded limit types.length (decodeItems types) := by
  intro bytes words cursor items lastCursor size decoded
  cases types with
  | nil =>
      rw [decodeItems] at decoded
      cases decoded
      exact ⟨Nat.le_refl _, fun positive => absurd positive (Nat.lt_irrefl 0),
        trivial⟩
  | cons type types =>
      rw [decodeItems] at decoded
      obtain ⟨first, decodedFirst, decoded⟩ :=
        Checked.bind_eq_ok_iff.mp decoded
      obtain ⟨⟨rest, last, restSize⟩, decodedRest, decoded⟩ :=
        Checked.bind_eq_ok_iff.mp decoded
      have takes :=
        decodeHelper_bounded limit type false bytes words cursor first
          decodedFirst
      obtain ⟨restMoves, restInside, within⟩ :=
        decodeItems_bounded limit types bytes words _ _ _ _ decodedRest
      have moves := takes.moves
      have inside := takes.inside
      cases decoded
      refine ⟨?_, ?_, takes.arrays, within⟩
      · rw [List.length_cons]
        omega
      · intro _
        cases types with
        | nil =>
            rw [decodeItems] at decodedRest
            cases decodedRest
            exact inside
        | cons next others => exact restInside (Nat.succ_pos _)

end

/-- The arrays of a decoded value are no longer than the input has words. -/
theorem decode_arraysWithin {type : AbiType} {input : List UInt8}
    {value : Value} (decoded : type.decode input = .ok value) :
    value.ArraysWithin (input.length / 32) := by
  rw [decode] at decoded
  obtain ⟨result, decodedResult, decoded⟩ :=
    Checked.bind_eq_ok_iff.mp decoded
  have takes := decodeHelper_bounded (input.length / 32) type true input
    (Nat.le_refl _) 0 result decodedResult
  split at decoded
  · cases decoded
  · cases decoded
    exact takes.arrays

end AbiType

namespace CheckedDecoder

/-- The decoder of a type neither panics nor builds an array that is longer
than the input has words. -/
theorem decode_returns_arraysWithin (type : AbiType) {input : List UInt8}
    (fits : input.length < 2 ^ 63) :
    ∃ result, decode type input = Panics.returns result ∧
      ∀ value, result = .ok value →
        value.ArraysWithin (input.length / 32) := by
  refine ⟨_, decode_returns type fits, ?_⟩
  intro value decoded
  exact AbiType.decode_arraysWithin decoded

/-- The turns that the loop over the elements of an array takes, with one that
fails or panics. -/
def elementTurns (decodeItem : List UInt8 → Nat → Decoding DecodeResult)
    (bytes : List UInt8) : Nat → Nat → Nat
  | 0, _ => 0
  | length + 1, dataCursor =>
      match (decodeItem bytes dataCursor).run with
      | some (.ok item) =>
          1 + elementTurns decodeItem bytes length item.newCursor
      | _ => 1

/-- A claimed length does not keep the loop running: it takes one turn for
each word that is left, and one that fails. -/
theorem elementTurns_le (item : AbiType) {bytes : List UInt8}
    (fits : bytes.length < 2 ^ 63) (length cursor : Nat) :
    elementTurns (fun bytes cursor => decodeHelper item bytes cursor false)
        bytes length cursor ≤
      (bytes.length - cursor) / 32 + 1 := by
  induction length generalizing cursor with
  | zero => exact Nat.zero_le _
  | succ length ih =>
      have agrees := decodeHelper_agrees item false bytes fits cursor
      beta_reduce at agrees
      rw [elementTurns, agrees]
      cases decoded : item.decodeHelper bytes cursor false with
      | error failure => exact Nat.le_add_left 1 _
      | ok result =>
          have takes := AbiType.decodeHelper_bounded (bytes.length / 32) item
            false bytes (Nat.le_refl _) cursor result decoded
          have moves := takes.moves
          have inside := takes.inside
          have later := ih result.newCursor
          change 1 + elementTurns _ bytes length result.newCursor ≤ _
          omega

end CheckedDecoder

end RiskManagement
