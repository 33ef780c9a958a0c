import RiskManagement.Miniabi.EncodingPrefixFree

/-!
# Encoding the node's own types

`IntoValue` is the source's `Into<Value>`.  A type that fills one ABI type
injectively has injective encodings.
-/

namespace RiskManagement

/-- Types whose values fill an ABI value. -/
class IntoValue (α : Type) where
  into : α → Value

export IntoValue (into)

/-- The encoding of the value that a value of the type fills. -/
def abiEncode {α : Type} [IntoValue α] (value : α) : List UInt8 :=
  (into value).encode

/-- The encoding of a Rust tuple, given by its converted components. -/
def abiEncodeTuple (components : List Value) : List UInt8 :=
  (Value.tuple components).encode

instance : IntoValue Bool := ⟨.bool⟩
instance : IntoValue U256 := ⟨.u256⟩
instance : IntoValue UInt64 := ⟨.u64⟩
instance : IntoValue Address := ⟨.address⟩
instance : IntoValue Bytes32 := ⟨.bytes32⟩
instance : IntoValue Bytes := ⟨.bytes⟩

instance {α : Type} [IntoValue α] : IntoValue (RustVec α) :=
  ⟨fun vec => .dynamicArray (vec.toList.map into)⟩

/-- The conversion is injective and stays in one ABI type. -/
class IntoType (α : Type) [IntoValue α] (type : outParam AbiType) : Prop where
  hasValue : ∀ value : α, type.HasValue (into value)
  injective : Function.Injective (into : α → Value)

instance : IntoType Bool .bool :=
  ⟨fun value => ⟨value, rfl⟩, fun _ _ => Value.bool.inj⟩
instance : IntoType U256 .u256 :=
  ⟨fun value => ⟨value, rfl⟩, fun _ _ => Value.u256.inj⟩
instance : IntoType UInt64 .u64 :=
  ⟨fun value => ⟨value, rfl⟩, fun _ _ => Value.u64.inj⟩
instance : IntoType Address .address :=
  ⟨fun value => ⟨value, rfl⟩, fun _ _ => Value.address.inj⟩
instance : IntoType Bytes32 .bytes32 :=
  ⟨fun value => ⟨value, rfl⟩, fun _ _ => Value.bytes32.inj⟩
instance : IntoType Bytes .bytes :=
  ⟨fun value => ⟨value, rfl⟩, fun _ _ => Value.bytes.inj⟩

instance {α : Type} [IntoValue α] {type : AbiType} [IntoType α type] :
    IntoType (RustVec α) (.dynamicArray type) where
  hasValue vec := by
    refine ⟨vec.toList.map into, rfl, ?_, ?_⟩
    · rw [List.length_map]
      exact vec.length_lt
    · intro entry member
      obtain ⟨value, _, rfl⟩ := List.mem_map.mp member
      exact IntoType.hasValue value
  injective left right same := by
    apply RustVec.ext
    apply List.map_injective_iff.mpr IntoType.injective
    exact Value.dynamicArray.inj same

theorem abiEncode_injective {α : Type} [IntoValue α] {type : AbiType}
    [IntoType α type] {left right : α}
    (same : abiEncode left = abiEncode right) : left = right := by
  apply IntoType.injective
  exact Value.encode_injective (IntoType.hasValue left)
    (IntoType.hasValue right) same

/-! ### Tuples -/

namespace AbiType.HasValues

theorem nil : HasValues [] [] := rfl

theorem into {α : Type} [IntoValue α] {type : AbiType} [IntoType α type]
    (value : α) {types : List AbiType} {items : List Value}
    (rest : HasValues types items) :
    HasValues (type :: types) (IntoValue.into value :: items) :=
  ⟨_, _, rfl, IntoType.hasValue value, rest⟩

end AbiType.HasValues

theorem abiEncodeTuple_injective {types : List AbiType}
    {left right : List Value} (leftTyped : AbiType.HasValues types left)
    (rightTyped : AbiType.HasValues types right)
    (same : abiEncodeTuple left = abiEncodeTuple right) : left = right := by
  have leftTuple : (AbiType.tuple types).HasValue (.tuple left) :=
    ⟨left, rfl, leftTyped⟩
  have rightTuple : (AbiType.tuple types).HasValue (.tuple right) :=
    ⟨right, rfl, rightTyped⟩
  exact Value.tuple.inj (Value.encode_injective leftTuple rightTuple same)

/-- The types whose values are one static word. -/
def AbiType.isWord : AbiType → Bool
  | .bytes => false
  | .string => false
  | .dynamicArray _ => false
  | .tuple _ => false
  | _ => true

theorem AbiType.HasValue.length_of_isWord {type : AbiType} {value : Value}
    (typed : type.HasValue value) (word : type.isWord = true) :
    type.isStatic = true ∧ value.encodeActualData.length = 32 := by
  cases type with
  | bytes => cases word
  | string => cases word
  | dynamicArray item => cases word
  | tuple types => cases word
  | address =>
      obtain ⟨v, rfl⟩ := typed
      exact ⟨rfl, encodeAddress_length v⟩
  | bytes32 =>
      obtain ⟨v, rfl⟩ := typed
      exact ⟨rfl, v.size_eq⟩
  | u256 =>
      obtain ⟨v, rfl⟩ := typed
      exact ⟨rfl, v.toBeBytes.size_eq⟩
  | _ =>
      obtain ⟨v, rfl⟩ := typed
      exact ⟨rfl, encodeUint_length _⟩

theorem AbiType.HasValues.length_heads {types : List AbiType}
    {items : List Value} (typed : AbiType.HasValues types items)
    (words : ∀ type ∈ types, type.isWord = true) (totalHeadSize : UInt64)
    (written : Nat) :
    (headsFrom totalHeadSize written (Value.encodeItems items) ++
      tailsOf (Value.encodeItems items)).length = 32 * types.length := by
  induction types generalizing items with
  | nil =>
      cases typed
      rfl
  | cons type types induction =>
      obtain ⟨first, rest, rfl, firstTyped, restTyped⟩ := typed
      obtain ⟨static, width⟩ :=
        firstTyped.length_of_isWord (words type List.mem_cons_self)
      have others := induction restTyped fun other member =>
        words other (List.mem_cons_of_mem _ member)
      rw [Value.encodeItems, firstTyped.isStatic, static, headsFrom, tailsOf,
        List.append_assoc, List.length_append, width, others,
        List.length_cons]
      omega

theorem length_abiEncodeTuple {types : List AbiType}
    {components : List Value}
    (typed : AbiType.HasValues types components)
    (words : ∀ type ∈ types, type.isWord = true) :
    (abiEncodeTuple components).length = 32 * types.length := by
  rw [abiEncodeTuple, Value.encode, Value.encodeActualData, encodeTuple_eq]
  exact typed.length_heads words _ _

end RiskManagement
