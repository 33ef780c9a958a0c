import RiskManagement.Miniabi.EncodingPrefixFree
import RiskManagement.Miniabi.WordCodec

/-!
# Where the encoder puts heads and tails

The encoder writes all heads of a tuple first, and the tails behind them in
the order of the entries.  `tailsEnd` follows the offset words of an input and
checks that each of them points to where the encoder would have put its tail.
-/

namespace RiskManagement

open Segments

/-! ### Laid out entries -/

/-- The heads of the entries stand from the cursor on, the offsets among them
pointing to the tails, which stand from the frontier on. -/
def LaidOut (input : List UInt8) :
    (cursor frontier : Nat) → List (Bool × List UInt8) → Prop
  | _, _, [] => True
  | cursor, frontier, (true, enc) :: rest =>
      StandsAt input cursor enc ∧
        LaidOut input (cursor + enc.length) frontier rest
  | cursor, frontier, (false, enc) :: rest =>
      StandsAt input cursor (encodeUsize (.ofNat frontier)) ∧
        StandsAt input frontier enc ∧
        LaidOut input (cursor + 32) (frontier + enc.length) rest

/-- What an entry takes among the heads. -/
def headLength : Bool × List UInt8 → Nat
  | (true, enc) => enc.length
  | (false, _) => 32

/-- What an entry takes among the tails. -/
def tailLength : Bool × List UInt8 → Nat
  | (true, _) => 0
  | (false, enc) => enc.length

def headsLength (encodings : List (Bool × List UInt8)) : Nat :=
  (encodings.map headLength).sum

def tailsLength (encodings : List (Bool × List UInt8)) : Nat :=
  (encodings.map tailLength).sum

theorem length_headsFrom (totalHeadSize : UInt64) (written : Nat)
    (encodings : List (Bool × List UInt8)) :
    (headsFrom totalHeadSize written encodings).length =
      headsLength encodings := by
  induction encodings generalizing written with
  | nil => rfl
  | cons entry rest induction =>
      obtain ⟨isStatic, enc⟩ := entry
      cases isStatic <;>
        simp [headsFrom, induction, headsLength, headLength]

theorem length_tailsOf (encodings : List (Bool × List UInt8)) :
    (tailsOf encodings).length = tailsLength encodings := by
  induction encodings with
  | nil => rfl
  | cons entry rest induction =>
      obtain ⟨isStatic, enc⟩ := entry
      cases isStatic <;>
        simp [tailsOf, induction, tailsLength, tailLength]

theorem length_encodeTuple (encodings : List (Bool × List UInt8)) :
    (encodeTuple encodings).length =
      headsLength encodings + tailsLength encodings := by
  rw [encodeTuple_eq, List.length_append, length_headsFrom, length_tailsOf]

theorem totalHeadSizeInBytes_eq (encodings : List (Bool × List UInt8)) :
    totalHeadSizeInBytes encodings = .ofNat (headsLength encodings) := by
  suffices general : ∀ total : Nat,
      encodings.foldl (fun total (entry : Bool × List UInt8) =>
        total + if entry.1 then .ofNat entry.2.length else 32)
          (UInt64.ofNat total) =
        .ofNat (total + headsLength encodings) by
    rw [← Nat.zero_add (headsLength encodings)]
    exact general 0
  induction encodings with
  | nil =>
      intro total
      rfl
  | cons entry rest induction =>
      intro total
      obtain ⟨isStatic, enc⟩ := entry
      have step : (UInt64.ofNat total +
          if isStatic then UInt64.ofNat enc.length else 32) =
            .ofNat (total + headLength (isStatic, enc)) := by
        cases isStatic <;> rw [headLength, UInt64.ofNat_add] <;> rfl
      rw [List.foldl_cons]
      simp only [step, induction, headsLength, List.map_cons, List.sum_cons,
        Nat.add_assoc]

theorem laidOut_iff {input : List UInt8}
    {encodings : List (Bool × List UInt8)} {cursor total written : Nat} :
    LaidOut input cursor (total + written) encodings ↔
      StandsAt input cursor
          (headsFrom (.ofNat total) written encodings) ∧
        StandsAt input (total + written) (tailsOf encodings) := by
  induction encodings generalizing cursor written with
  | nil => simp [LaidOut, headsFrom, tailsOf, standsAt_nil]
  | cons entry rest induction =>
      obtain ⟨isStatic, enc⟩ := entry
      cases isStatic with
      | true =>
          rw [LaidOut, headsFrom, tailsOf, standsAt_append, induction,
            and_assoc]
      | false =>
          rw [LaidOut, headsFrom, tailsOf, standsAt_append, standsAt_append,
            encodeUsize_length, Nat.add_assoc total, induction,
            UInt64.ofNat_add]
          tauto

/-- An encoded tuple stands where its entries are laid out. -/
theorem encodeTuple_standsAt_iff {input : List UInt8} {start : Nat}
    {encodings : List (Bool × List UInt8)} :
    StandsAt input start (encodeTuple encodings) ↔
      LaidOut (input.drop start) 0 (headsLength encodings) encodings := by
  have layout : LaidOut (input.drop start) 0 (headsLength encodings + 0)
      encodings ↔ _ := laidOut_iff
  rw [Nat.add_zero] at layout
  rw [layout, standsAt_drop, standsAt_drop, Nat.add_zero, encodeTuple_eq,
    totalHeadSizeInBytes_eq, standsAt_append, length_headsFrom]

/-! ### Head sizes of types -/

namespace AbiType

mutual

/-- What an entry of the type takes among the heads. -/
def headSize : AbiType → Nat
  | .tuple items => if allStatic items then headSizes items else 32
  | _ => 32

def headSizes : List AbiType → Nat
  | [] => 0
  | item :: items => item.headSize + headSizes items

end

mutual

/-- No tuple in the type is empty. -/
def noEmptyTuple : AbiType → Bool
  | .dynamicArray item => item.noEmptyTuple
  | .tuple items => !items.isEmpty && noneEmptyTuple items
  | _ => true

def noneEmptyTuple : List AbiType → Bool
  | [] => true
  | item :: items => item.noEmptyTuple && noneEmptyTuple items

end

theorem noneEmptyTuple_iff {types : List AbiType} :
    noneEmptyTuple types = true ↔
      ∀ type ∈ types, type.noEmptyTuple = true := by
  induction types with
  | nil => simp [noneEmptyTuple]
  | cons type types induction => simp [noneEmptyTuple, induction]

mutual

theorem headSize_ge : ∀ {type : AbiType}, type.noEmptyTuple = true →
    32 ≤ type.headSize
  | .tuple items, nonempty => by
      rw [noEmptyTuple, Bool.and_eq_true] at nonempty
      rw [headSize]
      split
      · apply headSizes_ge nonempty.2
        simpa using nonempty.1
      · exact Nat.le_refl _
  | .bool, _ => Nat.le_refl _
  | .u256, _ => Nat.le_refl _
  | .u128, _ => Nat.le_refl _
  | .u64, _ => Nat.le_refl _
  | .u32, _ => Nat.le_refl _
  | .u16, _ => Nat.le_refl _
  | .u8, _ => Nat.le_refl _
  | .address, _ => Nat.le_refl _
  | .bytes32, _ => Nat.le_refl _
  | .bytes, _ => Nat.le_refl _
  | .string, _ => Nat.le_refl _
  | .dynamicArray _, _ => Nat.le_refl _

theorem headSizes_ge : ∀ {types : List AbiType},
    noneEmptyTuple types = true → types ≠ [] → 32 ≤ headSizes types
  | [], _, nonempty => absurd rfl nonempty
  | type :: types, noneEmpty, _ => by
      rw [noneEmptyTuple, Bool.and_eq_true] at noneEmpty
      have first := headSize_ge noneEmpty.1
      rw [headSizes]
      omega

end

end AbiType

/-- An entry of a tuple or an array: the value's flag and its encoding. -/
def Value.entry (value : Value) : Bool × List UInt8 :=
  (value.isStatic, value.encodeActualData)

theorem Value.encodeItems_cons (item : Value) (items : List Value) :
    encodeItems (item :: items) = item.entry :: encodeItems items := by
  rw [encodeItems, Value.entry]

theorem Value.tailsLength_of_allStatic {items : List Value}
    (static : Value.allStatic items = true) :
    tailsLength (Value.encodeItems items) = 0 := by
  induction items with
  | nil => rfl
  | cons item items induction =>
      rw [Value.allStatic, Bool.and_eq_true] at static
      rw [Value.encodeItems, static.1, tailsLength, List.map_cons,
        List.sum_cons, tailLength, Nat.zero_add]
      exact induction static.2

namespace AbiType

mutual

theorem HasValue.headLength : ∀ {type : AbiType} {value : Value},
    type.HasValue value → headLength value.entry = type.headSize
  | .bool, _, ⟨_, same⟩ => by
      rw [same]
      exact encodeUint_length _
  | .u256, _, ⟨v, same⟩ => by
      rw [same]
      exact v.toBeBytes.size_eq
  | .u128, _, ⟨_, same⟩ => by
      rw [same]
      exact encodeUint_length _
  | .u64, _, ⟨_, same⟩ => by
      rw [same]
      exact encodeUint_length _
  | .u32, _, ⟨_, same⟩ => by
      rw [same]
      exact encodeUint_length _
  | .u16, _, ⟨_, same⟩ => by
      rw [same]
      exact encodeUint_length _
  | .u8, _, ⟨_, same⟩ => by
      rw [same]
      exact encodeUint_length _
  | .address, _, ⟨v, same⟩ => by
      rw [same]
      exact encodeAddress_length v
  | .bytes32, _, ⟨v, same⟩ => by
      rw [same]
      exact v.size_eq
  | .bytes, _, ⟨_, same⟩ => by
      rw [same]
      rfl
  | .string, _, ⟨_, same, _⟩ => by
      rw [same]
      rfl
  | .dynamicArray _, _, ⟨_, same, _⟩ => by
      rw [same]
      rfl
  | .tuple types, value, ⟨items, same, typed⟩ => by
      have flag := HasValues.allStatic typed
      rw [same, Value.entry, Value.isStatic, headSize, flag]
      cases static : allStatic types with
      | true =>
          rw [static] at flag
          rw [RiskManagement.headLength, Value.encodeActualData,
            length_encodeTuple, Value.tailsLength_of_allStatic flag,
            HasValues.headsLength typed]
          rfl
      | false => rfl

theorem HasValues.headsLength : ∀ {types : List AbiType}
    {items : List Value}, HasValues types items →
      headsLength (Value.encodeItems items) = headSizes types
  | [], _, same => by
      cases same
      rfl
  | _ :: _, _, ⟨_, _, same, typed, rest⟩ => by
      have others := HasValues.headsLength rest
      rw [same, Value.encodeItems_cons, headSizes, ← typed.headLength,
        ← others]
      rfl

end

end AbiType

/-! ### Following the offsets of an input -/

/-- The offset or length word at the cursor. -/
def usizeAt (input : List UInt8) (cursor : Nat) : Option Nat :=
  match do usizeFrom32Bytes (← readFirst32Bytes input cursor) with
  | .ok value => some value
  | .error _ => none

theorem usizeAt_eq_some_iff {input : List UInt8} {cursor value : Nat} :
    usizeAt input cursor = some value ↔
      value < 2 ^ 64 ∧
        StandsAt input cursor (encodeUsize (.ofNat value)) := by
  rw [← readUsize_eq_ok_iff, usizeAt]
  cases (do usizeFrom32Bytes (← readFirst32Bytes input cursor)) with
  | error error => simp
  | ok other => simp

/-- Where the tails go on behind an entry; `none` where its offset does not
point to the end of the tails before it. -/
def nextFrontier (isStatic : Bool)
    (tailEnd : List UInt8 → Nat → Option Nat) (input : List UInt8)
    (cursor frontier : Nat) : Option Nat :=
  if isStatic then
    some frontier
  else if usizeAt input cursor = some frontier then
    tailEnd input frontier
  else
    none

/-- Where the tails of that many entries of one type end. -/
def elementsEnd
    (nextFrontier : List UInt8 → Nat → Nat → Option Nat) (headSize : Nat)
    (input : List UInt8) : Nat → Nat → Nat → Option Nat
  | 0, _, frontier => some frontier
  | length + 1, cursor, frontier => do
      let next ← nextFrontier input cursor frontier
      elementsEnd nextFrontier headSize input length (cursor + headSize) next

namespace AbiType

mutual

/-- Where a tail of the type that starts at the frontier ends, when all the
offsets inside it are the encoder's. -/
def tailEnd : AbiType → List UInt8 → Nat → Option Nat
  | .bytes, input, frontier => do
      let length ← usizeAt input frontier
      return frontier + (32 + (length + 31) / 32 * 32)
  | .string, input, frontier => do
      let length ← usizeAt input frontier
      return frontier + (32 + (length + 31) / 32 * 32)
  | .dynamicArray item, input, frontier => do
      let length ← usizeAt input frontier
      let size ← elementsEnd (nextFrontier item.isStatic (tailEnd item))
        item.headSize (input.drop (frontier + 32)) length 0
        (length * item.headSize)
      return frontier + (32 + size)
  | .tuple items, input, frontier => do
      let size ← tailsEnd items (input.drop frontier) 0 (headSizes items)
      return frontier + size
  | _, _, frontier => some frontier

/-- Where the tails of a tuple end whose heads start at the cursor. -/
def tailsEnd : List AbiType → List UInt8 → Nat → Nat → Option Nat
  | [], _, _, frontier => some frontier
  | item :: items, input, cursor, frontier => do
      let next ← nextFrontier item.isStatic (tailEnd item) input cursor
        frontier
      tailsEnd items input (cursor + item.headSize) next

end

/-- The types of the tuple that `encode_into` writes. -/
def rootTypes : AbiType → List AbiType
  | .tuple items => items
  | type => [type]

/-- Every offset word of the input points right behind the heads and the
tails before it. -/
def OffsetsInOrder (self : AbiType) (input : List UInt8) : Prop :=
  (tailsEnd self.rootTypes input 0 (headSizes self.rootTypes)).isSome

instance (self : AbiType) (input : List UInt8) :
    Decidable (self.OffsetsInOrder input) :=
  inferInstanceAs (Decidable (Option.isSome _ = true))

/-- The loop over an array is the loop over a tuple of equal types. -/
theorem elementsEnd_eq (item : AbiType) (input : List UInt8)
    (length cursor frontier : Nat) :
    elementsEnd (nextFrontier item.isStatic item.tailEnd) item.headSize input
        length cursor frontier =
      tailsEnd (List.replicate length item) input cursor frontier := by
  induction length generalizing cursor frontier with
  | zero => rfl
  | succ length induction =>
      rw [List.replicate_succ, elementsEnd, tailsEnd]
      simp only [induction]

end AbiType

end RiskManagement
