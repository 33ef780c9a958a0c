import RiskManagement.Miniabi.CanonicalLayout

/-!
# What the decoder accepts

A decoded value has the decoded type, and the decoder counts what its encoding
takes.  Where the offsets of the input are in order, decoding a value and
finding its encoding laid out are the same.
-/

namespace RiskManagement

open Segments

/-- What the decoder returns for a value with its head at the cursor. -/
def Value.decodedAt (value : Value) (cursor : Nat) : DecodeResult :=
  ⟨value, cursor + headLength value.entry,
    .ofNat (headLength value.entry + tailLength value.entry)⟩

def Value.itemsDecodedAt (items : List Value) (cursor : Nat) :
    List Value × Nat × UInt64 :=
  (items, cursor + headsLength (encodeItems items),
    .ofNat (headsLength (encodeItems items) +
      tailsLength (encodeItems items)))

namespace AbiType

/-- The decoder of a type, as the layout of its values. -/
structure DecodesLayout (type : AbiType) : Prop where
  sound : ∀ {input cursor result}, input.length < 2 ^ 64 →
    type.decodeHelper input cursor false = .ok result →
      type.HasValue result.value ∧ result = result.value.decodedAt cursor
  inOrder_iff : ∀ {input} cursor frontier {value} next,
    input.length < 2 ^ 64 → 32 ≤ frontier → type.HasValue value →
      (type.decodeHelper input cursor false = .ok (value.decodedAt cursor) ∧
          nextFrontier type.isStatic type.tailEnd input cursor frontier =
            some next ↔
        LaidOut input cursor frontier [value.entry] ∧
          next = frontier + tailLength value.entry)

/-! ### Words -/

/-- A type whose values are words is decoded where the word stands. -/
theorem DecodesLayout.of_word {type : AbiType}
    (static : type.isStatic = true) (oneWord : type.headSize = 32)
    (decodes : ∀ {input cursor result},
      type.decodeHelper input cursor false = .ok result ↔
        ∃ value, type.HasValue value ∧
          StandsAt input cursor value.encodeActualData ∧
          result = decodedWord value cursor) :
    type.DecodesLayout := by
  have isWord : ∀ {value cursor}, type.HasValue value →
      value.decodedAt cursor = decodedWord value cursor := by
    intro value cursor typed
    have flag := typed.isStatic
    rw [static] at flag
    rw [Value.decodedAt, typed.headLength, oneWord, Value.entry, flag]
    rfl
  constructor
  · intro input cursor result _ decoded
    obtain ⟨value, typed, _, rfl⟩ := decodes.mp decoded
    exact ⟨typed, (isWord typed).symm⟩
  · intro input cursor frontier value next _ _ typed
    have flag := typed.isStatic
    rw [static] at flag
    rw [isWord typed, decodes, static, nextFrontier, Value.entry, flag]
    simp only [↓reduceIte, Option.some.injEq, LaidOut, and_true, tailLength,
      Nat.add_zero]
    constructor
    · rintro ⟨⟨other, _, stands, same⟩, rfl⟩
      injection same with sameValue
      subst sameValue
      exact ⟨stands, rfl⟩
    · rintro ⟨stands, rfl⟩
      exact ⟨⟨value, typed, stands, rfl⟩, rfl⟩

theorem length_drop_lt {input : List UInt8} (start : Nat)
    (fits : input.length < 2 ^ 64) : (input.drop start).length < 2 ^ 64 := by
  rw [List.length_drop]
  omega

theorem DecodesLayout.of_uint {type : AbiType} {α : Type} (size : Nat)
    (atMost : size ≤ 16) (constructor : α → Value) (ofNat : Nat → α)
    (toNat : α → Nat) (static : type.isStatic = true)
    (oneWord : type.headSize = 32)
    (isHelper : ∀ input cursor, type.decodeHelper input cursor false =
      decodeUintHelper size (fun number => constructor (ofNat number)) input
        cursor)
    (fits : ∀ value, toNat value < 256 ^ size)
    (ofNat_toNat : ∀ value, ofNat (toNat value) = value)
    (toNat_ofNat : ∀ number < 256 ^ size, toNat (ofNat number) = number)
    (typed : ∀ value, type.HasValue value ↔ ∃ v, value = constructor v)
    (encodes : ∀ value,
      (constructor value).encodeActualData = encodeUint (toNat value)) :
    type.DecodesLayout := by
  apply of_word static oneWord
  intro input cursor result
  rw [isHelper,
    decodeUintHelper_eq_ok_iff atMost fits ofNat_toNat toNat_ofNat]
  constructor
  · rintro ⟨value, stands, same⟩
    refine ⟨constructor value, (typed _).mpr ⟨value, rfl⟩, ?_, same⟩
    rw [encodes]
    exact stands
  · rintro ⟨value, isTyped, stands, same⟩
    obtain ⟨v, rfl⟩ := (typed value).mp isTyped
    rw [encodes] at stands
    exact ⟨v, stands, same⟩

theorem DecodesLayout.of_readWord {type : AbiType} {α : Type}
    (constructor : α → Value) (fromWord : Bytes32 → Except AbiDecodeError α)
    (static : type.isStatic = true) (oneWord : type.headSize = 32)
    (isHelper : ∀ input cursor, type.decodeHelper input cursor false = (do
      let value ← fromWord (← readFirst32Bytes input cursor)
      return decodedWord (constructor value) cursor))
    (typed : ∀ value, type.HasValue value ↔ ∃ v, value = constructor v)
    (reads : ∀ {word value}, fromWord word = .ok value ↔
      word.data = (constructor value).encodeActualData)
    (wide : ∀ value, (constructor value).encodeActualData.length = 32) :
    type.DecodesLayout := by
  apply of_word static oneWord
  intro input cursor result
  rw [isHelper]
  simp only [Checked.bind_eq_ok_iff, readFirst32Bytes_eq_ok_iff, reads]
  constructor
  · rintro ⟨word, stands, value, isValue, same⟩
    cases same
    rw [isValue] at stands
    exact ⟨_, (typed _).mpr ⟨value, rfl⟩, stands, rfl⟩
  · rintro ⟨value, isTyped, stands, rfl⟩
    obtain ⟨v, rfl⟩ := (typed value).mp isTyped
    exact ⟨⟨_, wide v⟩, stands, v, rfl, rfl⟩

/-! ### Tails -/

/-- The encoder's offset word is the one the decoder reads. -/
theorem usizeAt_of_pointsTo {input : List UInt8} {cursor offset : Nat}
    (points : PointsTo input cursor offset) :
    usizeAt input cursor = some offset :=
  usizeAt_eq_some_iff.mpr ⟨points.fits, points.stands⟩

/-- A type whose values stand behind an offset.  `Tail` is what its decoder
finds there: the value and the size it counts for it. -/
theorem DecodesLayout.of_tail {type : AbiType}
    (Tail : List UInt8 → Nat → Value → UInt64 → Prop)
    (dynamic : type.isStatic = false)
    (decodes : ∀ {input cursor result}, input.length < 2 ^ 64 →
      (type.decodeHelper input cursor false = .ok result ↔
        ∃ offset, PointsTo input cursor offset ∧
          ∃ value size, Tail input offset value size ∧
            result = ⟨value, cursor + 32, 32 + size⟩))
    (sound : ∀ {input offset value size}, input.length < 2 ^ 64 →
      Tail input offset value size → type.HasValue value ∧
        size = .ofNat value.encodeActualData.length)
    (inOrder : ∀ {input frontier value next}, input.length < 2 ^ 64 →
      type.HasValue value →
        (Tail input frontier value (.ofNat value.encodeActualData.length) ∧
            type.tailEnd input frontier = some next ↔
          StandsAt input frontier value.encodeActualData ∧
            next = frontier + value.encodeActualData.length))
    (wide : ∀ {value}, type.HasValue value →
      0 < value.encodeActualData.length) :
    type.DecodesLayout := by
  have counted : ∀ {value cursor}, type.HasValue value →
      value.decodedAt cursor = ⟨value, cursor + 32,
        32 + .ofNat value.encodeActualData.length⟩ := by
    intro value cursor typed
    have flag := typed.isStatic
    rw [dynamic] at flag
    rw [Value.decodedAt, Value.entry, flag, headLength, tailLength,
      UInt64.ofNat_add]
    rfl
  constructor
  · intro input cursor result fits decoded
    obtain ⟨offset, _, value, size, tail, rfl⟩ := (decodes fits).mp decoded
    obtain ⟨typed, rfl⟩ := sound fits tail
    exact ⟨typed, (counted typed).symm⟩
  · intro input cursor frontier value next fits behindWord typed
    have flag := typed.isStatic
    rw [dynamic] at flag
    rw [counted typed, decodes fits, dynamic, nextFrontier, Value.entry,
      flag]
    simp only [Bool.false_eq_true, ↓reduceIte, LaidOut, and_true, tailLength]
    constructor
    · rintro ⟨⟨offset, points, other, size, tail, same⟩, follows⟩
      split at follows
      · rename_i isFrontier
        rw [usizeAt_of_pointsTo points] at isFrontier
        cases isFrontier
        injection same with sameValue
        subst sameValue
        obtain ⟨_, rfl⟩ := sound fits tail
        obtain ⟨stands, isNext⟩ := (inOrder fits typed).mp ⟨tail, follows⟩
        exact ⟨⟨points.stands, stands⟩, isNext⟩
      · cases follows
    · rintro ⟨⟨offsetStands, stands⟩, isNext⟩
      have bound := stands.length_le
      have nonempty := wide typed
      have points : PointsTo input cursor frontier :=
        ⟨by omega, offsetStands, behindWord, by omega⟩
      obtain ⟨tail, follows⟩ := (inOrder fits typed).mpr ⟨stands, isNext⟩
      refine ⟨⟨frontier, points, value, _, tail, rfl⟩, ?_⟩
      rw [if_pos (usizeAt_of_pointsTo points)]
      exact follows

/-- The padded byte string ends where its length word says. -/
theorem tailEnd_bytes {input : List UInt8} {frontier : Nat}
    {data : List UInt8} (fits : data.length < 2 ^ 64)
    (stands : StandsAt input frontier (encodeByteString data)) :
    tailEnd .bytes input frontier =
      some (frontier + (encodeByteString data).length) := by
  rw [encodeByteString, standsAt_append] at stands
  rw [tailEnd, usizeAt_eq_some_iff.mpr ⟨fits, stands.1⟩,
    length_encodeByteString]
  rfl

theorem bytes_decodesLayout : DecodesLayout .bytes := by
  apply DecodesLayout.of_tail
    fun input offset value size => ∃ data : Bytes,
      value = .bytes data ∧
        StandsAt input offset (encodeByteString data.data) ∧
        size = .ofNat (encodeByteString data.data).length
  · rfl
  · intro input cursor result fits
    rw [decodeHelper, decodeBytesHelper]
    simp only [Checked.bind_eq_ok_iff, Prod.exists,
      decodeBytesAt_eq_ok_iff fits]
    constructor
    · rintro ⟨data, _, _, ⟨offset, points, stands, rfl, rfl⟩, same⟩
      cases same
      refine ⟨offset, points, _, _, ⟨data, rfl, stands, rfl⟩, ?_⟩
      rw [UInt64.ofNat_add]
      rfl
    · rintro ⟨offset, points, _, _, ⟨data, rfl, stands, rfl⟩, rfl⟩
      refine ⟨data, _, _, ⟨offset, points, stands, rfl, rfl⟩, ?_⟩
      rw [UInt64.ofNat_add]
      rfl
  · rintro input offset _ _ _ ⟨data, rfl, _, rfl⟩
    exact ⟨⟨data, rfl⟩, rfl⟩
  · rintro input frontier _ next _ ⟨data, rfl⟩
    rw [Value.encodeActualData]
    constructor
    · rintro ⟨⟨other, same, stands, _⟩, follows⟩
      cases same
      rw [tailEnd_bytes data.data_length_lt stands] at follows
      exact ⟨stands, (Option.some.inj follows).symm⟩
    · rintro ⟨stands, rfl⟩
      exact ⟨⟨data, rfl, stands, rfl⟩,
        tailEnd_bytes data.data_length_lt stands⟩
  · rintro _ ⟨data, rfl⟩
    rw [Value.encodeActualData, length_encodeByteString]
    omega

theorem fromUTF8?_eq_some_iff {data : List UInt8} {text : String} :
    String.fromUTF8? ⟨data.toArray⟩ = some text ↔
      data = text.toUTF8.data.toList := by
  rw [String.fromUTF8?, String.toUTF8_eq_toByteArray]
  split
  · rw [Option.some.injEq, ← String.toByteArray_inj, String.fromUTF8]
    constructor
    · intro same
      rw [← same]
    · intro same
      subst same
      rfl
  · rename_i invalid
    simp only [reduceCtorEq, false_iff]
    intro same
    apply invalid
    rw [same]
    exact text.isValidUTF8

theorem decodeStringHelper_eq_ok_iff {input : List UInt8} {cursor : Nat}
    {result : DecodeResult} :
    decodeStringHelper input cursor = .ok result ↔
      ∃ data newCursor sizeInBytes text,
        decodeBytesAt input cursor = .ok (data, newCursor, sizeInBytes) ∧
          data.data = text.toUTF8.data.toList ∧
          result = ⟨.string text, newCursor, sizeInBytes⟩ := by
  rw [decodeStringHelper]
  cases decodeBytesAt input cursor with
  | error failure => cases failure <;> simp
  | ok decoded =>
      obtain ⟨data, newCursor, sizeInBytes⟩ := decoded
      simp only [← fromUTF8?_eq_some_iff, Except.ok.injEq, Prod.mk.injEq]
      cases isText : String.fromUTF8? ⟨data.data.toArray⟩ with
      | none =>
          simp only [reduceCtorEq, false_iff]
          rintro ⟨_, _, _, _, ⟨rfl, rfl, rfl⟩, isSome, _⟩
          rw [isText] at isSome
          cases isSome
      | some text =>
          simp only [Except.ok.injEq]
          constructor
          · intro same
            exact ⟨data, newCursor, sizeInBytes, text, ⟨rfl, rfl, rfl⟩,
              isText, same.symm⟩
          · rintro ⟨_, _, _, other, ⟨rfl, rfl, rfl⟩, isSome, rfl⟩
            rw [isText] at isSome
            cases isSome
            rfl

theorem string_decodesLayout : DecodesLayout .string := by
  apply DecodesLayout.of_tail
    fun input offset value size => ∃ text : String,
      value = .string text ∧ text.toUTF8.data.toList.length < 2 ^ 64 ∧
        StandsAt input offset (encodeByteString text.toUTF8.data.toList) ∧
        size = .ofNat (encodeByteString text.toUTF8.data.toList).length
  · rfl
  · intro input cursor result fits
    rw [decodeHelper, decodeStringHelper_eq_ok_iff]
    simp only [decodeBytesAt_eq_ok_iff fits]
    constructor
    · rintro ⟨data, _, _, text, ⟨offset, points, stands, rfl, rfl⟩, isText,
        rfl⟩
      have textFits := data.data_length_lt
      rw [isText] at stands textFits
      refine ⟨offset, points, _, _, ⟨text, rfl, textFits, stands, rfl⟩, ?_⟩
      rw [isText, UInt64.ofNat_add]
      rfl
    · rintro ⟨offset, points, _, _, ⟨text, rfl, textFits, stands, rfl⟩, rfl⟩
      refine ⟨⟨⟨_, textFits⟩⟩, _, _, text,
        ⟨offset, points, stands, rfl, rfl⟩, rfl, ?_⟩
      rw [UInt64.ofNat_add]
      rfl
  · rintro input offset _ _ _ ⟨text, rfl, textFits, _, rfl⟩
    exact ⟨⟨text, rfl, textFits⟩, rfl⟩
  · rintro input frontier _ next _ ⟨text, rfl, textFits⟩
    rw [Value.encodeActualData]
    constructor
    · rintro ⟨⟨other, same, _, stands, _⟩, follows⟩
      cases same
      have isEnd : tailEnd .string input frontier = _ :=
        tailEnd_bytes textFits stands
      rw [isEnd] at follows
      exact ⟨stands, (Option.some.inj follows).symm⟩
    · rintro ⟨stands, rfl⟩
      exact ⟨⟨text, rfl, textFits, stands, rfl⟩,
        tailEnd_bytes textFits stands⟩
  · rintro _ ⟨text, rfl, _⟩
    rw [Value.encodeActualData, length_encodeByteString]
    omega

/-! ### Entries in a row -/

/-- The loop over types whose decoders follow the layout. -/
structure ItemsDecodeLayout (types : List AbiType) : Prop where
  sound : ∀ {input cursor result}, input.length < 2 ^ 64 →
    decodeItems types input cursor = .ok result →
      HasValues types result.1 ∧ result = Value.itemsDecodedAt result.1 cursor
  inOrder_iff : ∀ {input} cursor frontier {items} next,
    input.length < 2 ^ 64 → (types ≠ [] → 32 ≤ frontier) →
      HasValues types items →
        (decodeItems types input cursor =
              .ok (Value.itemsDecodedAt items cursor) ∧
            tailsEnd types input cursor frontier = some next ↔
          LaidOut input cursor frontier (Value.encodeItems items) ∧
            next = frontier + tailsLength (Value.encodeItems items))

theorem laidOut_cons {input : List UInt8} {cursor frontier : Nat}
    {entry : Bool × List UInt8} {rest : List (Bool × List UInt8)} :
    LaidOut input cursor frontier (entry :: rest) ↔
      LaidOut input cursor frontier [entry] ∧
        LaidOut input (cursor + headLength entry)
          (frontier + tailLength entry) rest := by
  obtain ⟨isStatic, enc⟩ := entry
  cases isStatic with
  | true =>
      simp only [LaidOut, headLength, tailLength, and_true, Nat.add_zero]
  | false =>
      simp only [LaidOut, headLength, tailLength, and_true, and_assoc]

theorem Value.itemsDecodedAt_cons (first : Value) (rest : List Value)
    (cursor : Nat) :
    Value.itemsDecodedAt (first :: rest) cursor =
      (first :: (Value.itemsDecodedAt rest
          (first.decodedAt cursor).newCursor).1,
        (Value.itemsDecodedAt rest (first.decodedAt cursor).newCursor).2.1,
        (first.decodedAt cursor).sizeInBytes +
          (Value.itemsDecodedAt rest
            (first.decodedAt cursor).newCursor).2.2) := by
  have heads : headsLength (Value.encodeItems (first :: rest)) =
      headLength first.entry + headsLength (Value.encodeItems rest) := by
    rw [Value.encodeItems_cons]
    rfl
  have tails : tailsLength (Value.encodeItems (first :: rest)) =
      tailLength first.entry + tailsLength (Value.encodeItems rest) := by
    rw [Value.encodeItems_cons]
    rfl
  simp only [Value.itemsDecodedAt, Value.decodedAt, heads, tails,
    ← UInt64.ofNat_add, Nat.add_assoc, Nat.add_left_comm]

theorem decodeItems_cons_eq_ok_iff {type : AbiType} {types : List AbiType}
    {input : List UInt8} {cursor : Nat}
    {result : List Value × Nat × UInt64} :
    decodeItems (type :: types) input cursor = .ok result ↔
      ∃ first rest, type.decodeHelper input cursor false = .ok first ∧
        decodeItems types input first.newCursor = .ok rest ∧
        result = (first.value :: rest.1, rest.2.1,
          first.sizeInBytes + rest.2.2) := by
  rw [decodeItems]
  simp only [Checked.bind_eq_ok_iff]
  constructor
  · rintro ⟨first, decoded, rest, others, same⟩
    cases same
    exact ⟨first, rest, decoded, others, rfl⟩
  · rintro ⟨first, rest, decoded, others, rfl⟩
    exact ⟨first, decoded, rest, others, rfl⟩

theorem ItemsDecodeLayout.nil : ItemsDecodeLayout [] := by
  constructor
  · intro input cursor result _ decoded
    rw [decodeItems] at decoded
    cases decoded
    exact ⟨rfl, rfl⟩
  · intro input cursor frontier items next _ _ typed
    cases typed
    rw [decodeItems, tailsEnd]
    constructor
    · rintro ⟨_, isNext⟩
      cases isNext
      exact ⟨trivial, rfl⟩
    · rintro ⟨_, rfl⟩
      exact ⟨rfl, rfl⟩

theorem ItemsDecodeLayout.cons {type : AbiType} {types : List AbiType}
    (first : type.DecodesLayout) (others : ItemsDecodeLayout types) :
    ItemsDecodeLayout (type :: types) := by
  constructor
  · intro input cursor result fits decoded
    obtain ⟨head, rest, decodedFirst, decodedRest, rfl⟩ :=
      decodeItems_cons_eq_ok_iff.mp decoded
    obtain ⟨firstTyped, isFirst⟩ := first.sound fits decodedFirst
    obtain ⟨restTyped, isRest⟩ := others.sound fits decodedRest
    refine ⟨⟨_, _, rfl, firstTyped, restTyped⟩, ?_⟩
    rw [Value.itemsDecodedAt_cons, ← isFirst, ← isRest]
  · intro input cursor frontier items next fits behindWord typed
    obtain ⟨head, rest, rfl, firstTyped, restTyped⟩ := typed
    have behindWord := behindWord (List.cons_ne_nil _ _)
    have firstIff := fun middle =>
      first.inOrder_iff cursor frontier middle fits behindWord firstTyped
    have restIff := others.inOrder_iff (head.decodedAt cursor).newCursor
      (frontier + tailLength head.entry) next fits (fun _ => by omega)
      restTyped
    rw [decodeItems_cons_eq_ok_iff, Value.itemsDecodedAt_cons, tailsEnd,
      Value.encodeItems_cons, laidOut_cons]
    constructor
    · rintro ⟨⟨decodedHead, rest, decodedFirst, decodedRest, same⟩, follows⟩
      obtain ⟨middle, followsFirst, followsRest⟩ :=
        Option.bind_eq_some_iff.mp follows
      obtain ⟨_, isFirst⟩ := first.sound fits decodedFirst
      injection same with sameItems sameRest
      injection sameItems with sameHead sameItems
      rw [← sameHead] at isFirst
      subst isFirst
      obtain ⟨_, isRest⟩ := others.sound fits decodedRest
      rw [← sameItems] at isRest
      subst isRest
      obtain ⟨laidOutFirst, rfl⟩ :=
        (firstIff middle).mp ⟨decodedFirst, followsFirst⟩
      rw [← firstTyped.headLength] at followsRest
      obtain ⟨laidOutRest, rfl⟩ := restIff.mp ⟨decodedRest, followsRest⟩
      refine ⟨⟨laidOutFirst, laidOutRest⟩, ?_⟩
      rw [Nat.add_assoc]
      rfl
    · rintro ⟨⟨laidOutFirst, laidOutRest⟩, isNext⟩
      obtain ⟨decodedFirst, followsFirst⟩ :=
        (firstIff _).mpr ⟨laidOutFirst, rfl⟩
      obtain ⟨decodedRest, followsRest⟩ := restIff.mpr
        ⟨laidOutRest, by rw [isNext, Nat.add_assoc]; rfl⟩
      refine ⟨⟨_, _, decodedFirst, decodedRest, rfl⟩, ?_⟩
      rw [followsFirst, ← firstTyped.headLength]
      exact followsRest

theorem ItemsDecodeLayout.of_forall {types : List AbiType}
    (decodes : ∀ type ∈ types, type.DecodesLayout) :
    ItemsDecodeLayout types := by
  induction types with
  | nil => exact ItemsDecodeLayout.nil
  | cons type types induction =>
      apply ItemsDecodeLayout.cons (decodes type List.mem_cons_self)
      apply induction
      intro other member
      exact decodes other (List.mem_cons_of_mem _ member)

/-- Entries that are read from a suffix of the input, as an encoded tuple. -/
theorem ItemsDecodeLayout.tuple_iff {types : List AbiType}
    (decode : ItemsDecodeLayout types) {input : List UInt8}
    (start size : Nat) (fits : input.length < 2 ^ 64)
    (behindWord : types ≠ [] → 32 ≤ headSizes types) {items : List Value}
    (typed : HasValues types items) :
    decodeItems types (input.drop start) 0 =
          .ok (Value.itemsDecodedAt items 0) ∧
        tailsEnd types (input.drop start) 0 (headSizes types) = some size ↔
      StandsAt input start (encodeTuple (Value.encodeItems items)) ∧
        size = (encodeTuple (Value.encodeItems items)).length := by
  have shorter := length_drop_lt start fits
  rw [decode.inOrder_iff 0 _ size shorter behindWord typed,
    encodeTuple_standsAt_iff, length_encodeTuple, typed.headsLength]

/-! ### Arrays -/

theorem headSizes_replicate (item : AbiType) (length : Nat) :
    headSizes (List.replicate length item) = length * item.headSize := by
  induction length with
  | zero => rw [List.replicate_zero, headSizes, Nat.zero_mul]
  | succ length induction =>
      rw [List.replicate_succ, headSizes, induction, Nat.succ_mul,
        Nat.add_comm]

theorem HasValues.of_replicate {item : AbiType} {length : Nat}
    {items : List Value}
    (typed : HasValues (List.replicate length item) items) :
    items.length = length ∧ ∀ entry ∈ items, item.HasValue entry := by
  induction length generalizing items with
  | zero =>
      cases typed
      simp
  | succ length induction =>
      obtain ⟨first, rest, rfl, firstTyped, restTyped⟩ := typed
      obtain ⟨sameLength, allTyped⟩ := induction restTyped
      refine ⟨by rw [List.length_cons, sameLength], ?_⟩
      intro entry member
      rcases List.mem_cons.mp member with isFirst | inRest
      · rw [isFirst]
        exact firstTyped
      · exact allTyped entry inRest

/-- The loop over an array is the loop over a tuple of equal types. -/
theorem decodeElements_eq_ok_iff {item : AbiType} {input : List UInt8}
    {length cursor : Nat} {items : List Value} {size : UInt64} :
    decodeElements (fun input cursor => item.decodeHelper input cursor false)
        input length cursor = .ok (items, size) ↔
      ∃ lastCursor, decodeItems (List.replicate length item) input cursor =
        .ok (items, lastCursor, size) := by
  induction length generalizing cursor items size with
  | zero =>
      simp only [decodeElements, List.replicate_zero, decodeItems,
        Except.ok.injEq, Prod.mk.injEq, exists_eq_left', and_left_comm]
  | succ length induction =>
      rw [List.replicate_succ, decodeElements]
      simp only [decodeItems_cons_eq_ok_iff, Checked.bind_eq_ok_iff]
      constructor
      · rintro ⟨first, decoded, ⟨rest, restSize⟩, others, same⟩
        cases same
        obtain ⟨lastCursor, others⟩ := induction.mp others
        exact ⟨lastCursor, first, _, decoded, others, rfl⟩
      · rintro ⟨lastCursor, first, ⟨rest, _, restSize⟩, decoded, others,
          same⟩
        cases same
        exact ⟨first, decoded, (rest, restSize),
          induction.mpr ⟨_, others⟩, rfl⟩

/-- What the decoder of an array finds behind the offset. -/
def ArrayTail (item : AbiType) (input : List UInt8) (offset : Nat)
    (value : Value) (size : UInt64) : Prop :=
  ∃ length, usizeAt input offset = some length ∧
    ∃ items lastCursor itemsSize,
      decodeItems (List.replicate length item) (input.drop (offset + 32)) 0 =
          .ok (items, lastCursor, itemsSize) ∧
        value = .dynamicArray items ∧ size = 32 + itemsSize

theorem decodeDynamicArray_eq_ok_iff {item : AbiType} {input : List UInt8}
    {cursor : Nat} {result : DecodeResult} :
    decodeHelper (.dynamicArray item) input cursor false = .ok result ↔
      ∃ offset, PointsTo input cursor offset ∧
        ∃ value size, ArrayTail item input offset value size ∧
          result = ⟨value, cursor + 32, 32 + size⟩ := by
  rw [decodeHelper, decodeDynamicArray]
  constructor
  · intro decoded
    obtain ⟨offset, points, decoded⟩ := Checked.bind_eq_ok_iff.mp decoded
    obtain ⟨word, reads, decoded⟩ := Checked.bind_eq_ok_iff.mp decoded
    obtain ⟨length, isUsize, decoded⟩ := Checked.bind_eq_ok_iff.mp decoded
    have isLength := usizeAt_eq_some_iff.mpr (readUsize_eq_ok_iff.mp
      (Checked.bind_eq_ok_iff.mpr ⟨word, reads, isUsize⟩))
    dsimp only at decoded
    split at decoded
    · cases decoded
    · obtain ⟨⟨items, itemsSize⟩, elements, decoded⟩ :=
        Checked.bind_eq_ok_iff.mp decoded
      cases decoded
      obtain ⟨lastCursor, elements⟩ := decodeElements_eq_ok_iff.mp elements
      refine ⟨offset, readDataOffset_eq_ok_iff.mp points, _, _,
        ⟨length, isLength, items, lastCursor, itemsSize, elements, rfl,
          rfl⟩, ?_⟩
      rw [← UInt64.add_assoc]
      rfl
  · rintro ⟨offset, points, _, _, ⟨length, isLength, items, lastCursor,
      itemsSize, elements, rfl, rfl⟩, rfl⟩
    obtain ⟨lengthFits, lengthStands⟩ := usizeAt_eq_some_iff.mp isLength
    have bound := lengthStands.length_le
    rw [encodeUsize_length] at bound
    obtain ⟨word, reads, isUsize⟩ := Checked.bind_eq_ok_iff.mp
      (readUsize_eq_ok_iff.mpr ⟨lengthFits, lengthStands⟩)
    have inside : ¬(offset + 32 > input.length) := by
      have := points.inside
      omega
    rw [readDataOffset_eq_ok_iff.mpr points]
    simp only [bind, Except.bind, reads, isUsize, inside, ↓reduceIte,
      decodeElements_eq_ok_iff.mpr ⟨_, elements⟩]
    rw [← UInt64.add_assoc]
    rfl

theorem ItemsDecodeLayout.replicate {item : AbiType}
    (decodes : item.DecodesLayout) (length : Nat) :
    ItemsDecodeLayout (List.replicate length item) := by
  apply ItemsDecodeLayout.of_forall
  intro type member
  rw [List.eq_of_mem_replicate member]
  exact decodes

theorem headSizes_replicate_ge {item : AbiType}
    (nonempty : item.noEmptyTuple = true) (length : Nat) :
    List.replicate length item ≠ [] →
      32 ≤ headSizes (List.replicate length item) := by
  apply headSizes_ge
  rw [noneEmptyTuple_iff]
  intro type member
  rw [List.eq_of_mem_replicate member]
  exact nonempty

/-- What an array decoder finds is typed and counted with its length word. -/
theorem ArrayTail.sound {item : AbiType} (decodes : item.DecodesLayout)
    {input : List UInt8} {offset : Nat} {value : Value} {size : UInt64}
    (fits : input.length < 2 ^ 64)
    (tail : ArrayTail item input offset value size) :
    (AbiType.dynamicArray item).HasValue value ∧
      size = .ofNat value.encodeActualData.length := by
  obtain ⟨length, isLength, items, lastCursor, itemsSize, elements, rfl, rfl⟩ :=
    tail
  have shorter := length_drop_lt (offset + 32) fits
  obtain ⟨typed, counted⟩ :=
    (ItemsDecodeLayout.replicate decodes length).sound shorter elements
  obtain ⟨sameLength, allTyped⟩ := typed.of_replicate
  have lengthFits := (usizeAt_eq_some_iff.mp isLength).1
  rw [← sameLength] at lengthFits
  refine ⟨⟨items, rfl, lengthFits, allTyped⟩, ?_⟩
  injection counted with _ counted
  injection counted with _ counted
  rw [counted, Value.encodeActualData, List.length_append,
    encodeUsize_length, length_encodeTuple, UInt64.ofNat_add 32]
  rfl

/-- The tail of an array ends where the encoding of its value does. -/
theorem ArrayTail.inOrder_iff {item : AbiType}
    (nonempty : item.noEmptyTuple = true) (decodes : item.DecodesLayout)
    {input : List UInt8} {frontier next : Nat} {value : Value}
    (fits : input.length < 2 ^ 64)
    (hasValue : (AbiType.dynamicArray item).HasValue value) :
    ArrayTail item input frontier value
          (.ofNat value.encodeActualData.length) ∧
        (AbiType.dynamicArray item).tailEnd input frontier = some next ↔
      StandsAt input frontier value.encodeActualData ∧
        next = frontier + value.encodeActualData.length := by
  obtain ⟨items, rfl, itemsFit, allTyped⟩ := hasValue
  have typed := hasValues_replicate item items allTyped
  have itemsDecode := ItemsDecodeLayout.replicate decodes
  have tupleIff := fun size => (itemsDecode items.length).tuple_iff
    (frontier + 32) size fits (headSizes_replicate_ge nonempty _) typed
  rw [Value.encodeActualData, standsAt_append, List.length_append,
    encodeUsize_length, tailEnd]
  constructor
  · rintro ⟨⟨length, isLength, others, lastCursor, itemsSize, elements,
      same, _⟩, follows⟩
    cases same
    have shorter := length_drop_lt (frontier + 32) fits
    obtain ⟨decodedTyped, counted⟩ :=
      (itemsDecode length).sound shorter elements
    obtain ⟨rfl, _⟩ := decodedTyped.of_replicate
    obtain ⟨_, lengthStands⟩ := usizeAt_eq_some_iff.mp isLength
    rw [counted] at elements
    rw [isLength, Option.bind_eq_bind, Option.bind_some] at follows
    obtain ⟨size, elementsFollow, isNext⟩ :=
      Option.bind_eq_some_iff.mp follows
    rw [elementsEnd_eq, ← headSizes_replicate] at elementsFollow
    obtain ⟨stands, isSize⟩ :=
      (tupleIff size).mp ⟨elements, elementsFollow⟩
    cases isNext
    exact ⟨⟨lengthStands, stands⟩, by rw [isSize]⟩
  · rintro ⟨⟨lengthStands, stands⟩, isNext⟩
    have isLength := usizeAt_eq_some_iff.mpr ⟨itemsFit, lengthStands⟩
    obtain ⟨elements, elementsFollow⟩ := (tupleIff _).mpr ⟨stands, rfl⟩
    refine ⟨⟨items.length, isLength, items, _, _, elements, rfl, ?_⟩, ?_⟩
    · rw [length_encodeTuple, UInt64.ofNat_add 32]
      rfl
    · rw [isLength, Option.bind_eq_bind, Option.bind_some, elementsEnd_eq,
        ← headSizes_replicate, elementsFollow, isNext]
      rfl

theorem DecodesLayout.dynamicArray {item : AbiType}
    (nonempty : item.noEmptyTuple = true) (decodes : item.DecodesLayout) :
    (AbiType.dynamicArray item).DecodesLayout := by
  apply DecodesLayout.of_tail (ArrayTail item)
  · rfl
  · intro input cursor result _
    exact decodeDynamicArray_eq_ok_iff
  · intro input offset value size fits tail
    exact tail.sound decodes fits
  · intro input frontier value next fits hasValue
    exact ArrayTail.inOrder_iff nonempty decodes fits hasValue
  · rintro _ ⟨items, rfl, _⟩
    rw [Value.encodeActualData, List.length_append, encodeUsize_length]
    omega

/-! ### Tuples -/

theorem tailsEnd_of_allStatic {types : List AbiType}
    (static : allStatic types = true) (input : List UInt8)
    (cursor frontier : Nat) :
    tailsEnd types input cursor frontier = some frontier := by
  induction types generalizing cursor with
  | nil => rfl
  | cons type types induction =>
      rw [allStatic, Bool.and_eq_true] at static
      rw [tailsEnd, nextFrontier, if_pos static.1]
      exact induction static.2 _

theorem headsFrom_of_allStatic {items : List Value}
    (static : Value.allStatic items = true) (totalHeadSize : UInt64)
    (written : Nat) :
    headsFrom totalHeadSize written (Value.encodeItems items) =
      (items.map Value.encodeActualData).flatten := by
  induction items with
  | nil => rfl
  | cons item items induction =>
      rw [Value.allStatic, Bool.and_eq_true] at static
      rw [Value.encodeItems, static.1, headsFrom, induction static.2]
      rfl

theorem encodeTuple_of_allStatic {items : List Value}
    (static : Value.allStatic items = true) :
    encodeTuple (Value.encodeItems items) =
      (items.map Value.encodeActualData).flatten := by
  have noTails : tailsOf (Value.encodeItems items) = [] := by
    apply List.eq_nil_of_length_eq_zero
    rw [length_tailsOf, Value.tailsLength_of_allStatic static]
  rw [encodeTuple_eq, noTails, List.append_nil,
    headsFrom_of_allStatic static]

/-- A static tuple stands inline, whatever tails there are. -/
theorem laidOut_of_allStatic {items : List Value}
    (static : Value.allStatic items = true) {input : List UInt8}
    {cursor frontier : Nat} :
    LaidOut input cursor frontier (Value.encodeItems items) ↔
      StandsAt input cursor (encodeTuple (Value.encodeItems items)) := by
  rw [encodeTuple_of_allStatic static]
  induction items generalizing cursor with
  | nil => simp [Value.encodeItems, LaidOut, standsAt_nil]
  | cons item items induction =>
      rw [Value.allStatic, Bool.and_eq_true] at static
      rw [Value.encodeItems, static.1, LaidOut, induction static.2,
        List.map_cons, List.flatten_cons, standsAt_append]

theorem decodedAt_of_staticTuple {items : List Value}
    (static : Value.allStatic items = true) (cursor : Nat) :
    (Value.tuple items).decodedAt cursor =
      ⟨.tuple items, (Value.itemsDecodedAt items cursor).2.1,
        (Value.itemsDecodedAt items cursor).2.2⟩ := by
  have noTails := Value.tailsLength_of_allStatic static
  rw [Value.decodedAt, Value.itemsDecodedAt, Value.entry, Value.isStatic,
    static, headLength, tailLength, Value.encodeActualData,
    length_encodeTuple, noTails]
  rfl

theorem DecodesLayout.staticTuple {types : List AbiType}
    (nonempty : types ≠ []) (static : allStatic types = true)
    (decode : ItemsDecodeLayout types) :
    (AbiType.tuple types).DecodesLayout := by
  have someTypes : types.isEmpty = false := by simpa using nonempty
  have helper : ∀ {input cursor result},
      decodeHelper (.tuple types) input cursor false = .ok result ↔
        ∃ decoded, decodeItems types input cursor = .ok decoded ∧
          result = ⟨.tuple decoded.1, decoded.2.1, decoded.2.2⟩ := by
    intro input cursor result
    rw [decodeHelper, decodeTupleHelper, static, someTypes]
    simp only [Bool.false_eq_true, ↓reduceIte, Bool.false_or, Bool.not_true,
      Checked.bind_eq_ok_iff, pure, Except.pure, Except.ok.injEq]
    constructor
    · rintro ⟨decoded, decodes, same⟩
      exact ⟨decoded, decodes, same.symm⟩
    · rintro ⟨decoded, decodes, same⟩
      exact ⟨decoded, decodes, same.symm⟩
  constructor
  · intro input cursor result fits decoded
    obtain ⟨⟨items, lastCursor, size⟩, decodes, rfl⟩ := helper.mp decoded
    obtain ⟨typed, counted⟩ := decode.sound fits decodes
    have allStatic := typed.allStatic
    rw [static] at allStatic
    refine ⟨⟨items, rfl, typed⟩, ?_⟩
    rw [decodedAt_of_staticTuple allStatic, ← counted]
  · rintro input cursor frontier _ next fits behindWord ⟨items, rfl, typed⟩
    have allStatic := typed.allStatic
    rw [static] at allStatic
    have itemsIff := decode.inOrder_iff cursor frontier next fits
      (fun _ => behindWord) typed
    rw [laidOut_of_allStatic allStatic,
      Value.tailsLength_of_allStatic allStatic] at itemsIff
    have isStatic : (AbiType.tuple types).isStatic = true := by
      rw [AbiType.isStatic, static]
    rw [helper, decodedAt_of_staticTuple allStatic, nextFrontier, isStatic,
      if_pos rfl, Value.entry, Value.isStatic, allStatic, tailLength,
      Value.encodeActualData]
    rw [tailsEnd_of_allStatic static] at itemsIff
    simp only [LaidOut, and_true]
    rw [← itemsIff]
    constructor
    · rintro ⟨⟨decoded, decodes, same⟩, follows⟩
      injection same with sameValue
      injection sameValue with sameItems
      obtain ⟨_, counted⟩ := decode.sound fits decodes
      rw [counted, ← sameItems] at decodes
      exact ⟨decodes, follows⟩
    · rintro ⟨decodes, follows⟩
      exact ⟨⟨_, decodes, rfl⟩, follows⟩

theorem DecodesLayout.dynamicTuple {types : List AbiType}
    (nonempty : types ≠ []) (noneEmpty : noneEmptyTuple types = true)
    (dynamic : allStatic types = false)
    (decode : ItemsDecodeLayout types) :
    (AbiType.tuple types).DecodesLayout := by
  have someTypes : types.isEmpty = false := by simpa using nonempty
  have behindWord : 32 ≤ headSizes types := headSizes_ge noneEmpty nonempty
  apply DecodesLayout.of_tail
    fun input offset value size => ∃ items lastCursor itemsSize,
      decodeItems types (input.drop offset) 0 =
          .ok (items, lastCursor, itemsSize) ∧
        value = .tuple items ∧ size = itemsSize
  · rw [AbiType.isStatic, dynamic]
  · intro input cursor result _
    rw [decodeHelper, decodeTupleHelper, dynamic, someTypes]
    simp only [Bool.false_eq_true, ↓reduceIte, Bool.or_self, Bool.not_false,
      Checked.bind_eq_ok_iff, readDataOffset_eq_ok_iff, pure, Except.pure,
      Except.ok.injEq]
    constructor
    · rintro ⟨offset, points, ⟨items, lastCursor, size⟩, decodes, same⟩
      exact ⟨offset, points, _, _, ⟨items, lastCursor, size, decodes, rfl,
        rfl⟩, same.symm⟩
    · rintro ⟨offset, points, _, _, ⟨items, lastCursor, size, decodes, rfl,
        rfl⟩, same⟩
      exact ⟨offset, points, _, decodes, same.symm⟩
  · rintro input offset _ _ fits ⟨items, lastCursor, size, decodes, rfl,
      rfl⟩
    have shorter := length_drop_lt offset fits
    obtain ⟨typed, counted⟩ := decode.sound shorter decodes
    injection counted with _ counted
    injection counted with _ counted
    refine ⟨⟨items, rfl, typed⟩, ?_⟩
    rw [counted, Value.encodeActualData, length_encodeTuple]
  · rintro input frontier _ next fits ⟨items, rfl, typed⟩
    have tupleIff := fun size => decode.tuple_iff frontier size fits
      (fun _ => behindWord) typed
    rw [Value.encodeActualData, tailEnd]
    constructor
    · rintro ⟨⟨others, lastCursor, size, decodes, same, _⟩, follows⟩
      cases same
      have shorter := length_drop_lt frontier fits
      obtain ⟨_, counted⟩ := decode.sound shorter decodes
      rw [counted] at decodes
      obtain ⟨size, itemsFollow, isNext⟩ :=
        Option.bind_eq_some_iff.mp follows
      obtain ⟨stands, isSize⟩ := (tupleIff size).mp ⟨decodes, itemsFollow⟩
      cases isNext
      exact ⟨stands, by rw [isSize]⟩
    · rintro ⟨stands, isNext⟩
      obtain ⟨decodes, itemsFollow⟩ := (tupleIff _).mpr ⟨stands, rfl⟩
      refine ⟨⟨items, _, _, decodes, rfl, ?_⟩, ?_⟩
      · rw [length_encodeTuple]
      · rw [itemsFollow, isNext]
        rfl
  · rintro _ ⟨items, rfl, typed⟩
    rw [Value.encodeActualData, length_encodeTuple, typed.headsLength]
    omega

/-! ### All types -/

theorem bool_decodesLayout : DecodesLayout .bool :=
  DecodesLayout.of_readWord Value.bool boolFrom32Bytes rfl rfl
    (fun _ _ => rfl) (fun _ => Iff.rfl) boolFrom32Bytes_eq_ok_iff
    fun _ => encodeUint_length _

theorem address_decodesLayout : DecodesLayout .address :=
  DecodesLayout.of_readWord Value.address addressFrom32Bytes rfl rfl
    (fun _ _ => rfl) (fun _ => Iff.rfl) addressFrom32Bytes_eq_ok_iff
    encodeAddress_length

theorem u256_decodesLayout : DecodesLayout .u256 := by
  apply DecodesLayout.of_readWord Value.u256
    (fun word => .ok (.fromBeBytes word)) rfl rfl (fun _ _ => rfl)
    (fun _ => Iff.rfl)
  · intro word value
    rw [Except.ok.injEq, Value.encodeActualData]
    constructor
    · intro same
      rw [← same, U256.toBeBytes_fromBeBytes]
    · intro same
      rw [SizedBytes.ext same, U256.fromBeBytes_toBeBytes]
  · exact fun value => value.toBeBytes.size_eq

theorem bytes32_decodesLayout : DecodesLayout .bytes32 := by
  apply DecodesLayout.of_readWord Value.bytes32 (fun word => .ok word) rfl
    rfl (fun _ _ => rfl) (fun _ => Iff.rfl)
  · intro word value
    rw [Except.ok.injEq, Value.encodeActualData]
    constructor
    · intro same
      rw [same]
    · exact SizedBytes.ext
  · exact fun value => value.size_eq

mutual

theorem decodesLayout : ∀ {type : AbiType}, type.noEmptyTuple = true →
    type.DecodesLayout
  | .bool, _ => bool_decodesLayout
  | .u256, _ => u256_decodesLayout
  | .u128, _ => DecodesLayout.of_uint 16 (by decide) Value.u128
      (BitVec.ofNat 128) BitVec.toNat rfl rfl (fun _ _ => rfl)
      (fun value => value.isLt)
      (fun value => BitVec.ofNat_toNat 128 value)
      (fun number small => Nat.mod_eq_of_lt small) (fun _ => Iff.rfl)
      fun _ => by rw [Value.encodeActualData]
  | .u64, _ => DecodesLayout.of_uint 8 (by decide) Value.u64
      UInt64.ofNat UInt64.toNat rfl rfl (fun _ _ => rfl) UInt64.toNat_lt
      (fun _ => UInt64.ofNat_toNat)
      (fun number small => Nat.mod_eq_of_lt small) (fun _ => Iff.rfl)
      fun _ => by rw [Value.encodeActualData]
  | .u32, _ => DecodesLayout.of_uint 4 (by decide) Value.u32
      UInt32.ofNat UInt32.toNat rfl rfl (fun _ _ => rfl) UInt32.toNat_lt
      (fun _ => UInt32.ofNat_toNat)
      (fun number small => Nat.mod_eq_of_lt small) (fun _ => Iff.rfl)
      fun _ => by rw [Value.encodeActualData]
  | .u16, _ => DecodesLayout.of_uint 2 (by decide) Value.u16
      UInt16.ofNat UInt16.toNat rfl rfl (fun _ _ => rfl) UInt16.toNat_lt
      (fun _ => UInt16.ofNat_toNat)
      (fun number small => Nat.mod_eq_of_lt small) (fun _ => Iff.rfl)
      fun _ => by rw [Value.encodeActualData]
  | .u8, _ => DecodesLayout.of_uint 1 (by decide) Value.u8
      UInt8.ofNat UInt8.toNat rfl rfl (fun _ _ => rfl) UInt8.toNat_lt
      (fun _ => UInt8.ofNat_toNat)
      (fun number small => Nat.mod_eq_of_lt small) (fun _ => Iff.rfl)
      fun _ => by rw [Value.encodeActualData]
  | .address, _ => address_decodesLayout
  | .bytes32, _ => bytes32_decodesLayout
  | .bytes, _ => bytes_decodesLayout
  | .string, _ => string_decodesLayout
  | .dynamicArray _, nonempty => by
      rw [noEmptyTuple] at nonempty
      exact DecodesLayout.dynamicArray nonempty (decodesLayout nonempty)
  | .tuple types, nonempty => by
      rw [noEmptyTuple, Bool.and_eq_true] at nonempty
      have someTypes : types ≠ [] := by simpa using nonempty.1
      have decode := itemsDecodeLayout nonempty.2
      cases static : allStatic types with
      | true => exact DecodesLayout.staticTuple someTypes static decode
      | false =>
          exact DecodesLayout.dynamicTuple someTypes nonempty.2 static decode

theorem itemsDecodeLayout : ∀ {types : List AbiType},
    noneEmptyTuple types = true → ItemsDecodeLayout types
  | [], _ => ItemsDecodeLayout.nil
  | type :: types, noneEmpty => by
      rw [noneEmptyTuple, Bool.and_eq_true] at noneEmpty
      exact ItemsDecodeLayout.cons (decodesLayout noneEmpty.1)
        (itemsDecodeLayout noneEmpty.2)

end

end AbiType

end RiskManagement
