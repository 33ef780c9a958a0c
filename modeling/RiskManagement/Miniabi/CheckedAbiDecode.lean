import RiskManagement.Miniabi.AbiDecode
import RiskManagement.Miniabi.DecodeBounds

/-!
# Decoding into the node's own types, with its panics

A type tells how it is encoded and how it is taken from a decoded value.  The
conversion of a tuple indexes the decoded items behind a check of their number,
so no conversion panics; every instance carries the proof.
-/

namespace RiskManagement

open Panics
open CheckedDecoder (Decoding)

/-- `AbiTypeToDecode` together with `TryFrom<Value>`.  A decoded value has no
array that is longer than memory. -/
class CheckedAbiDecode (α : Type) where
  abiTypeToDecode : AbiType
  tryFrom : Value → Decoding α
  tryFrom_returns : ∀ {limit : Nat} {value : Value}, limit < 2 ^ 64 →
    value.ArraysWithin limit → Returns (tryFrom value)

/-- `abi_decode` with its panics. -/
def checkedAbiDecode (α : Type) [CheckedAbiDecode α] (bytes : List UInt8) :
    Decoding α := do
  let value ← CheckedDecoder.decode (CheckedAbiDecode.abiTypeToDecode α) bytes
  CheckedAbiDecode.tryFrom value

/-- Decoding an input that fits memory ends without a panic. -/
theorem checkedAbiDecode_returns (α : Type) [CheckedAbiDecode α]
    {bytes : List UInt8} (fits : bytes.length < 2 ^ 63) :
    Returns (checkedAbiDecode α bytes) := by
  obtain ⟨result, decoded, arrays⟩ :=
    CheckedDecoder.decode_returns_arraysWithin
      (CheckedAbiDecode.abiTypeToDecode α) fits
  apply Returns.bind ⟨result, decoded⟩
  intro value isValue
  rw [decoded] at isValue
  cases isValue
  have small : bytes.length / 32 < 2 ^ 64 := by omega
  exact CheckedAbiDecode.tryFrom_returns small (arrays value rfl)

/-! ### Words and byte strings -/

/-- The conversion of a value without parts. -/
@[reducible]
def CheckedAbiDecode.ofPrimitive {α : Type} (type : AbiType)
    (unpack : Value → Option α) : CheckedAbiDecode α where
  abiTypeToDecode := type
  tryFrom value :=
    match unpack value with
    | some unpacked => return unpacked
    | none => throw .invalidValueError
  tryFrom_returns {_ value} _ _ := by
    cases unpack value with
    | none => exact ⟨_, rfl⟩
    | some unpacked => exact ⟨_, rfl⟩

instance : CheckedAbiDecode Bool :=
  .ofPrimitive .bool fun
    | .bool value => some value
    | _ => none

instance : CheckedAbiDecode U256 :=
  .ofPrimitive .u256 fun
    | .u256 value => some value
    | _ => none

instance : CheckedAbiDecode UInt64 :=
  .ofPrimitive .u64 fun
    | .u64 value => some value
    | _ => none

instance : CheckedAbiDecode UInt32 :=
  .ofPrimitive .u32 fun
    | .u32 value => some value
    | _ => none

instance : CheckedAbiDecode UInt16 :=
  .ofPrimitive .u16 fun
    | .u16 value => some value
    | _ => none

instance : CheckedAbiDecode UInt8 :=
  .ofPrimitive .u8 fun
    | .u8 value => some value
    | _ => none

instance : CheckedAbiDecode Address :=
  .ofPrimitive .address fun
    | .address value => some value
    | _ => none

instance : CheckedAbiDecode Bytes32 :=
  .ofPrimitive .bytes32 fun
    | .bytes32 value => some value
    | _ => none

instance : CheckedAbiDecode Bytes :=
  .ofPrimitive .bytes fun
    | .bytes value => some value
    | _ => none

/-! ### Vectors -/

section Vectors

variable {α : Type}

/-- `into_iter().map(..).collect()`. -/
def collectItems (tryFrom : Value → Decoding α) :
    List Value → Decoding (List α)
  | [] => return []
  | item :: items => do
      let first ← tryFrom item
      let rest ← collectItems tryFrom items
      return first :: rest

/-- The vector of a list that fits memory. -/
def toRustVec (items : List α) : Option (RustVec α) :=
  if fits : items.length < 2 ^ 64 then some ⟨items, fits⟩ else none

theorem collectItems_returns [CheckedAbiDecode α] {limit : Nat}
    (small : limit < 2 ^ 64) {items : List Value}
    (within : Value.ItemsWithin limit items) :
    Returns (collectItems (@CheckedAbiDecode.tryFrom α _) items) := by
  induction items with
  | nil => exact ⟨_, rfl⟩
  | cons item items ih =>
      rw [collectItems]
      apply Returns.bind (CheckedAbiDecode.tryFrom_returns small within.1)
      intro first _
      apply Returns.bind (ih within.2)
      intro rest _
      exact ⟨_, rfl⟩

theorem length_collectItems {tryFrom : Value → Decoding α}
    {items : List Value} {collected : List α}
    (isCollected : collectItems tryFrom items = returns (.ok collected)) :
    collected.length = items.length := by
  induction items generalizing collected with
  | nil =>
      cases isCollected
      rfl
  | cons item items ih =>
      rw [collectItems] at isCollected
      obtain ⟨first, _, isCollected⟩ := bind_eq_returns_ok isCollected
      obtain ⟨rest, isRest, isCollected⟩ := bind_eq_returns_ok isCollected
      cases isCollected
      rw [List.length_cons, List.length_cons, ih isRest]

instance [CheckedAbiDecode α] : CheckedAbiDecode (RustVec α) where
  abiTypeToDecode := .dynamicArray (CheckedAbiDecode.abiTypeToDecode α)
  tryFrom
    | .dynamicArray items => do
        let collected ← collectItems CheckedAbiDecode.tryFrom items
        orPanic (toRustVec collected)
    | _ => throw .invalidValueError
  tryFrom_returns {limit value} small within := by
    cases value with
    | dynamicArray items =>
        apply Returns.bind (collectItems_returns small within.2)
        intro collected isCollected
        have fits : collected.length < 2 ^ 64 := by
          rw [length_collectItems isCollected]
          exact Nat.lt_of_le_of_lt within.1 small
        rw [toRustVec, dif_pos fits]
        exact ⟨_, rfl⟩
    | _ => exact ⟨_, rfl⟩

end Vectors

/-! ### Tuples -/

/-- The components of a tuple, from a position on. -/
class TupleFields (τ : Type) where
  abiTypes : List AbiType
  fromItems : List Value → Nat → Decoding τ
  fromItems_returns : ∀ {limit : Nat} {items : List Value} {start : Nat},
    limit < 2 ^ 64 → Value.ItemsWithin limit items →
      start + abiTypes.length ≤ items.length →
        Returns (fromItems items start)

theorem itemsWithin_getElem {limit : Nat} {items : List Value}
    (within : Value.ItemsWithin limit items) {index : Nat} {item : Value}
    (indexed : items[index]? = some item) : item.ArraysWithin limit := by
  induction items generalizing index with
  | nil => cases indexed
  | cons first rest ih =>
      cases index with
      | zero =>
          cases indexed
          exact within.1
      | succ index =>
          rw [List.getElem?_cons_succ] at indexed
          exact ih within.2 indexed

instance : TupleFields Unit where
  abiTypes := []
  fromItems _ _ := return ()
  fromItems_returns _ _ _ := ⟨_, rfl⟩

/-- `T::try_from(vec[index].clone())?` for the next component. -/
instance {α τ : Type} [CheckedAbiDecode α] [TupleFields τ] :
    TupleFields (α × τ) where
  abiTypes := CheckedAbiDecode.abiTypeToDecode α :: TupleFields.abiTypes τ
  fromItems items index := do
    let item ← orPanic items[index]?
    let first ← CheckedAbiDecode.tryFrom item
    let rest ← TupleFields.fromItems items (index + 1)
    return (first, rest)
  fromItems_returns {limit items start} small within enough := by
    rw [List.length_cons] at enough
    have inRange : start < items.length := by omega
    have indexed : items[start]? = some items[start] :=
      List.getElem?_eq_getElem inRange
    rw [orPanic_bind _ indexed]
    apply Returns.bind (CheckedAbiDecode.tryFrom_returns small
      (itemsWithin_getElem within indexed))
    intro first _
    apply Returns.bind (TupleFields.fromItems_returns small within (by omega))
    intro rest _
    exact ⟨_, rfl⟩

/-- `TryFrom<Value>` of a tuple. -/
def tupleTryFrom (τ : Type) [TupleFields τ] : Value → Decoding τ
  | .tuple items =>
      if items.length = (TupleFields.abiTypes τ).length then
        TupleFields.fromItems items 0
      else
        throw .invalidValueError
  | _ => throw .invalidValueError

theorem tupleTryFrom_returns (τ : Type) [TupleFields τ] {limit : Nat}
    (small : limit < 2 ^ 64) {value : Value}
    (within : value.ArraysWithin limit) : Returns (tupleTryFrom τ value) := by
  cases value with
  | tuple items =>
      rw [tupleTryFrom]
      split
      · rename_i isLength
        exact TupleFields.fromItems_returns small within (by omega)
      · exact ⟨_, rfl⟩
  | _ => exact ⟨_, rfl⟩

/-- A structure that is encoded as the tuple `τ`. -/
@[reducible]
def CheckedAbiDecode.ofTuple {α : Type} (τ : Type) [TupleFields τ]
    (build : τ → α) : CheckedAbiDecode α where
  abiTypeToDecode := .tuple (TupleFields.abiTypes τ)
  tryFrom value := do
    let fields ← tupleTryFrom τ value
    return build fields
  tryFrom_returns small within := by
    apply Returns.bind (tupleTryFrom_returns τ small within)
    intro fields _
    exact ⟨_, rfl⟩

/-- A tuple that is decoded as it is. -/
structure AbiTuple (τ : Type) where
  fields : τ

instance {τ : Type} [TupleFields τ] : CheckedAbiDecode (AbiTuple τ) :=
  .ofTuple τ AbiTuple.mk

/-! ### The decoding without panics -/

/-- The decoder with its panics does what the plain one does. -/
structure DecodesAlike (α : Type) [CheckedAbiDecode α] [AbiDecode α] :
    Prop where
  sameType : CheckedAbiDecode.abiTypeToDecode α = AbiDecode.abiTypeToDecode α
  sameConversion : ∀ value, (CheckedAbiDecode.tryFrom value : Decoding α) =
    returns (AbiDecode.tryFrom value)

theorem decodesAlike_u64 : DecodesAlike UInt64 where
  sameType := rfl
  sameConversion value := by
    cases value with
    | u64 word => rfl
    | _ => rfl

theorem decodesAlike_u8 : DecodesAlike UInt8 where
  sameType := rfl
  sameConversion value := by
    cases value with
    | u8 byte => rfl
    | _ => rfl

theorem decodesAlike_bytes : DecodesAlike Bytes where
  sameType := rfl
  sameConversion value := by
    cases value with
    | bytes data => rfl
    | _ => rfl

section Alike

variable {α β : Type} [CheckedAbiDecode α] [AbiDecode α]
  [CheckedAbiDecode β] [AbiDecode β]

theorem DecodesAlike.checkedAbiDecode_eq (alike : DecodesAlike α)
    {bytes : List UInt8} (fits : bytes.length < 2 ^ 63) :
    checkedAbiDecode α bytes = returns (abiDecode α bytes) := by
  rw [checkedAbiDecode, abiDecode, alike.sameType]
  apply bind_eq_returns (CheckedDecoder.decode_returns _ fits)
  intro value _
  exact alike.sameConversion value

/-- A tuple of two is a pair. -/
def AbiTuple.ofPair (pair : α × β) : AbiTuple (α × β × Unit) :=
  ⟨(pair.1, pair.2, ())⟩

theorem tupleTryFrom_pair (first : DecodesAlike α) (second : DecodesAlike β)
    (value : Value) :
    (CheckedAbiDecode.tryFrom value : Decoding (AbiTuple (α × β × Unit))) =
      returns (do
        let pair ← (AbiDecode.tryFrom value : Except AbiDecodeError (α × β))
        return AbiTuple.ofPair pair) := by
  cases value with
  | tuple items =>
      match items with
      | [] => rfl
      | [left] => rfl
      | left :: right :: third :: rest => rfl
      | [left, right] =>
          change (do
            let fields ← (do
              let a ← (CheckedAbiDecode.tryFrom left : Decoding α)
              let rest ← (do
                let b ← (CheckedAbiDecode.tryFrom right : Decoding β)
                return (b, ()))
              return (a, rest))
            return AbiTuple.mk fields) = returns (do
              let pair ← (do
                let a ← (AbiDecode.tryFrom left : Except AbiDecodeError α)
                let b ← (AbiDecode.tryFrom right : Except AbiDecodeError β)
                return (a, b))
              return AbiTuple.ofPair pair)
          rw [first.sameConversion left, second.sameConversion right]
          cases (AbiDecode.tryFrom left : Except AbiDecodeError α) with
          | error failure => rfl
          | ok a =>
              cases (AbiDecode.tryFrom right : Except AbiDecodeError β) with
              | error failure => rfl
              | ok b => rfl
  | _ => rfl

theorem checkedAbiDecode_pair (first : DecodesAlike α)
    (second : DecodesAlike β) {bytes : List UInt8}
    (fits : bytes.length < 2 ^ 63) :
    checkedAbiDecode (AbiTuple (α × β × Unit)) bytes = returns (do
      let pair ← abiDecode (α × β) bytes
      return AbiTuple.ofPair pair) := by
  have sameType : CheckedAbiDecode.abiTypeToDecode (AbiTuple (α × β × Unit)) =
      AbiDecode.abiTypeToDecode (α × β) := by
    change AbiType.tuple [_, _] = AbiType.tuple [_, _]
    rw [first.sameType, second.sameType]
  rw [checkedAbiDecode, abiDecode, sameType, bind_assoc]
  apply bind_eq_returns (CheckedDecoder.decode_returns _ fits)
  intro value _
  exact tupleTryFrom_pair first second value

end Alike

end RiskManagement
