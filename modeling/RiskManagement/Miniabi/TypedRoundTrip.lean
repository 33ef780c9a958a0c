import RiskManagement.Miniabi.AbiRoundTrip
import RiskManagement.Miniabi.CheckedAbiDecode

/-!
# Decoding into a type reads what was encoded for it

A contract encodes the values that the node decodes.  `toValue` says which ABI
value stands for a value of the type; an instance is found for every structure
that is decoded as the tuple of its fields.
-/

namespace RiskManagement

open Panics
open CheckedDecoder (Decoding)

/-- The ABI values that stand for a type's values, and are taken as them. -/
class AbiRoundTrip (α : Type) [CheckedAbiDecode α] where
  toValue : α → Value
  hasValue : ∀ value : α,
    (CheckedAbiDecode.abiTypeToDecode α).HasValue (toValue value)
  noEmptyTuple :
    (CheckedAbiDecode.abiTypeToDecode α).noEmptyTuple = true
  tryFrom_toValue : ∀ value : α,
    CheckedAbiDecode.tryFrom (toValue value) = returns (.ok value)

/-- The same of the components of a tuple, wherever they begin. -/
class FieldsRoundTrip (τ : Type) [TupleFields τ] where
  toItems : τ → List Value
  hasValues : ∀ fields : τ,
    AbiType.HasValues (TupleFields.abiTypes τ) (toItems fields)
  noneEmptyTuple : AbiType.noneEmptyTuple (TupleFields.abiTypes τ) = true
  fromItems_toItems : ∀ (front : List Value) (fields : τ),
    TupleFields.fromItems (front ++ toItems fields) front.length =
      returns (.ok fields)

/-- The bytes that stand for a value. -/
def abiEncoding {α : Type} [CheckedAbiDecode α] [AbiRoundTrip α] (value : α) :
    List UInt8 :=
  (AbiRoundTrip.toValue value).encode

/-! ### Words and byte strings -/

instance : AbiRoundTrip Bool where
  toValue := .bool
  hasValue value := ⟨value, rfl⟩
  noEmptyTuple := rfl
  tryFrom_toValue _ := rfl

instance : AbiRoundTrip U256 where
  toValue := .u256
  hasValue value := ⟨value, rfl⟩
  noEmptyTuple := rfl
  tryFrom_toValue _ := rfl

instance : AbiRoundTrip UInt64 where
  toValue := .u64
  hasValue value := ⟨value, rfl⟩
  noEmptyTuple := rfl
  tryFrom_toValue _ := rfl

instance : AbiRoundTrip UInt32 where
  toValue := .u32
  hasValue value := ⟨value, rfl⟩
  noEmptyTuple := rfl
  tryFrom_toValue _ := rfl

instance : AbiRoundTrip UInt16 where
  toValue := .u16
  hasValue value := ⟨value, rfl⟩
  noEmptyTuple := rfl
  tryFrom_toValue _ := rfl

instance : AbiRoundTrip UInt8 where
  toValue := .u8
  hasValue value := ⟨value, rfl⟩
  noEmptyTuple := rfl
  tryFrom_toValue _ := rfl

instance : AbiRoundTrip Address where
  toValue := .address
  hasValue value := ⟨value, rfl⟩
  noEmptyTuple := rfl
  tryFrom_toValue _ := rfl

instance : AbiRoundTrip Bytes32 where
  toValue := .bytes32
  hasValue value := ⟨value, rfl⟩
  noEmptyTuple := rfl
  tryFrom_toValue _ := rfl

instance : AbiRoundTrip Bytes where
  toValue := .bytes
  hasValue value := ⟨value, rfl⟩
  noEmptyTuple := rfl
  tryFrom_toValue _ := rfl

/-! ### Vectors -/

section Vectors

variable {α : Type} [CheckedAbiDecode α] [AbiRoundTrip α]

theorem collectItems_toValue (items : List α) :
    collectItems CheckedAbiDecode.tryFrom
      (items.map AbiRoundTrip.toValue) = returns (.ok items) := by
  induction items with
  | nil => rfl
  | cons item items ih =>
      rw [List.map_cons, collectItems, AbiRoundTrip.tryFrom_toValue]
      rw [ok_bind, ih]
      rfl

instance : AbiRoundTrip (RustVec α) where
  toValue vec := .dynamicArray (vec.toList.map AbiRoundTrip.toValue)
  hasValue vec := by
    refine ⟨vec.toList.map AbiRoundTrip.toValue, rfl, ?_, ?_⟩
    · rw [List.length_map]
      exact vec.length_lt
    · intro entry member
      obtain ⟨value, _, rfl⟩ := List.mem_map.mp member
      exact AbiRoundTrip.hasValue value
  noEmptyTuple := AbiRoundTrip.noEmptyTuple (α := α)
  tryFrom_toValue vec := by
    change (do
      let collected ← collectItems CheckedAbiDecode.tryFrom
        (vec.toList.map AbiRoundTrip.toValue)
      orPanic (toRustVec collected)) = _
    rw [collectItems_toValue, ok_bind, toRustVec, dif_pos vec.length_lt]
    rfl

end Vectors

/-! ### Tuples -/

instance : FieldsRoundTrip Unit where
  toItems _ := []
  hasValues _ := rfl
  noneEmptyTuple := rfl
  fromItems_toItems _ _ := rfl

instance {α τ : Type} [CheckedAbiDecode α] [AbiRoundTrip α] [TupleFields τ]
    [FieldsRoundTrip τ] : FieldsRoundTrip (α × τ) where
  toItems fields :=
    AbiRoundTrip.toValue fields.1 :: FieldsRoundTrip.toItems fields.2
  hasValues fields :=
    ⟨_, _, rfl, AbiRoundTrip.hasValue fields.1,
      FieldsRoundTrip.hasValues fields.2⟩
  noneEmptyTuple := by
    change (_ && _) = true
    rw [Bool.and_eq_true]
    exact ⟨AbiRoundTrip.noEmptyTuple, FieldsRoundTrip.noneEmptyTuple⟩
  fromItems_toItems front fields := by
    obtain ⟨first, rest⟩ := fields
    have indexed : (front ++ AbiRoundTrip.toValue first ::
        FieldsRoundTrip.toItems rest)[front.length]? =
          some (AbiRoundTrip.toValue first) := by
      simp
    have others := FieldsRoundTrip.fromItems_toItems
      (front ++ [AbiRoundTrip.toValue first]) rest
    rw [List.append_assoc, List.singleton_append, List.length_append,
      List.length_singleton] at others
    change (do
      let item ← orPanic (front ++ AbiRoundTrip.toValue first ::
        FieldsRoundTrip.toItems rest)[front.length]?
      let first ← CheckedAbiDecode.tryFrom item
      let rest ← TupleFields.fromItems _ (front.length + 1)
      return (first, rest)) = _
    rw [orPanic_bind _ indexed, AbiRoundTrip.tryFrom_toValue, ok_bind, others]
    rfl

theorem AbiType.HasValues.length_eq {types : List AbiType}
    {items : List Value} (typed : AbiType.HasValues types items) :
    items.length = types.length := by
  induction types generalizing items with
  | nil =>
      cases typed
      rfl
  | cons type types ih =>
      obtain ⟨first, rest, rfl, _, restTyped⟩ := typed
      rw [List.length_cons, List.length_cons, ih restTyped]

theorem tupleTryFrom_toItems {τ : Type} [TupleFields τ] [FieldsRoundTrip τ]
    (fields : τ) :
    tupleTryFrom τ (.tuple (FieldsRoundTrip.toItems fields)) =
      returns (.ok fields) := by
  have sameLength := (FieldsRoundTrip.hasValues fields).length_eq
  rw [tupleTryFrom, if_pos sameLength]
  exact FieldsRoundTrip.fromItems_toItems [] fields

/-- A structure that is decoded as a tuple, and taken apart into it. -/
@[reducible]
def AbiRoundTrip.ofTuple {α τ : Type} [TupleFields τ] [FieldsRoundTrip τ]
    {build : τ → α} (fields : α → τ)
    (builds : ∀ value, build (fields value) = value)
    (nonempty : (TupleFields.abiTypes τ).isEmpty = false) :
    @AbiRoundTrip α (.ofTuple τ build) :=
  let _ : CheckedAbiDecode α := .ofTuple τ build
  { toValue := fun value => .tuple (FieldsRoundTrip.toItems (fields value))
    hasValue := fun value => ⟨_, rfl, FieldsRoundTrip.hasValues _⟩
    noEmptyTuple := by
      change (!_ && _) = true
      rw [nonempty]
      exact FieldsRoundTrip.noneEmptyTuple
    tryFrom_toValue := by
      intro value
      change (do
        let fields ← tupleTryFrom τ (.tuple (FieldsRoundTrip.toItems _))
        return build fields) = _
      rw [tupleTryFrom_toItems, ok_bind, builds]
      rfl }

instance {τ : Type} [TupleFields τ] [FieldsRoundTrip τ] {α : Type}
    [CheckedAbiDecode α] [AbiRoundTrip α] :
    AbiRoundTrip (AbiTuple (α × τ)) :=
  .ofTuple AbiTuple.fields (fun _ => rfl) rfl

/-! ### Whole inputs -/

theorem AbiType.decode_of_encoding {type : AbiType} {value : Value}
    (nonempty : type.noEmptyTuple = true) (typed : type.HasValue value)
    (fits : value.encode.length < 2 ^ 63) :
    type.decode value.encode = .ok value := by
  have inMemory : value.encode.length < 2 ^ 64 := by omega
  obtain ⟨⟨newCursor, size, decoded⟩, _⟩ :=
    (decodeHelper_inOrder_iff nonempty inMemory typed).mpr List.prefix_rfl
  obtain ⟨_, isSize⟩ := decodeHelper_sound nonempty inMemory decoded
  refine decode_eq_ok_iff.mpr ⟨_, decoded, ?_, rfl⟩
  rw [isSize]
  exact Nat.mod_eq_of_lt inMemory

/-- Decoding what was encoded gives the value back and does not panic. -/
theorem checkedAbiDecode_abiEncoding {α : Type} [CheckedAbiDecode α]
    [AbiRoundTrip α] (value : α)
    (fits : (abiEncoding value).length < 2 ^ 63) :
    checkedAbiDecode α (abiEncoding value) = returns (.ok value) := by
  rw [checkedAbiDecode, CheckedDecoder.decode_returns _ fits, abiEncoding,
    AbiType.decode_of_encoding AbiRoundTrip.noEmptyTuple
      (AbiRoundTrip.hasValue value) fits, ok_bind]
  exact AbiRoundTrip.tryFrom_toValue value

/-- The bytes that stand for the components of a tuple. -/
def fieldsEncoding {τ : Type} [TupleFields τ] [FieldsRoundTrip τ]
    (fields : τ) : List UInt8 :=
  (Value.tuple (FieldsRoundTrip.toItems fields)).encode

/-- A structure that keeps a part of the tuple is built from the encoded
components. -/
theorem checkedAbiDecode_ofTuple {α τ : Type} [TupleFields τ]
    [FieldsRoundTrip τ] (build : τ → α) (fields : τ)
    (nonempty : (TupleFields.abiTypes τ).isEmpty = false)
    (fits : (fieldsEncoding fields).length < 2 ^ 63) :
    @checkedAbiDecode α (.ofTuple τ build) (fieldsEncoding fields) =
      returns (.ok (build fields)) := by
  have noEmptyTuple : (AbiType.tuple (TupleFields.abiTypes τ)).noEmptyTuple =
      true := by
    change (!_ && _) = true
    rw [nonempty]
    exact FieldsRoundTrip.noneEmptyTuple
  have decoded := AbiType.decode_of_encoding noEmptyTuple
    ⟨_, rfl, FieldsRoundTrip.hasValues fields⟩ fits
  rw [checkedAbiDecode, CheckedDecoder.decode_returns _ fits]
  change (returns (AbiType.decode (.tuple (TupleFields.abiTypes τ))
    (Value.tuple (FieldsRoundTrip.toItems fields)).encode) >>= fun value => do
      let fields ← tupleTryFrom τ value
      return build fields) = _
  rw [decoded, ok_bind, tupleTryFrom_toItems, ok_bind]
  rfl

end RiskManagement
