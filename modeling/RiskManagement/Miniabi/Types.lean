import RiskManagement.Minieth.U256

/-!
# ABI types and values

Vectors of types and values are lists; `Type` is called `AbiType` here.
-/

namespace RiskManagement

/-- The types of the ABI that the node has a use for. -/
inductive AbiType where
  | bool
  | u256
  | u128
  | u64
  | u32
  | u16
  | u8
  | address
  | bytes32
  | bytes
  | string
  | dynamicArray (item : AbiType)
  | tuple (items : List AbiType)

namespace AbiType

mutual

/-- Whether the values stand in the head of a tuple themselves. -/
def isStatic : AbiType → Bool
  | .bool => true
  | .u256 => true
  | .u128 => true
  | .u64 => true
  | .u32 => true
  | .u16 => true
  | .u8 => true
  | .address => true
  | .bytes32 => true
  | .bytes => false
  | .string => false
  | .dynamicArray _ => false
  | .tuple items => allStatic items

def allStatic : List AbiType → Bool
  | [] => true
  | item :: items => item.isStatic && allStatic items

end

end AbiType

/-- A value of one of the types. -/
inductive Value where
  | bool (value : Bool)
  | u256 (value : U256)
  | u128 (value : BitVec 128)
  | u64 (value : UInt64)
  | u32 (value : UInt32)
  | u16 (value : UInt16)
  | u8 (value : UInt8)
  | address (value : Address)
  | bytes32 (value : Bytes32)
  | bytes (value : Bytes)
  | string (value : String)
  | tuple (items : List Value)
  | dynamicArray (items : List Value)

namespace Value

mutual

/-- Whether the value stands in the head of a tuple itself. -/
def isStatic : Value → Bool
  | .bool _ => true
  | .u256 _ => true
  | .u128 _ => true
  | .u64 _ => true
  | .u32 _ => true
  | .u16 _ => true
  | .u8 _ => true
  | .address _ => true
  | .bytes32 _ => true
  | .bytes _ => false
  | .string _ => false
  | .dynamicArray _ => false
  | .tuple items => allStatic items

def allStatic : List Value → Bool
  | [] => true
  | item :: items => item.isStatic && allStatic items

end

end Value

/-! ### The values of a type -/

namespace AbiType

mutual

/-- A value of the type.  Strings and vectors have a 64-bit length. -/
def HasValue : AbiType → Value → Prop
  | .bool, value => ∃ v, value = .bool v
  | .u256, value => ∃ v, value = .u256 v
  | .u128, value => ∃ v, value = .u128 v
  | .u64, value => ∃ v, value = .u64 v
  | .u32, value => ∃ v, value = .u32 v
  | .u16, value => ∃ v, value = .u16 v
  | .u8, value => ∃ v, value = .u8 v
  | .address, value => ∃ v, value = .address v
  | .bytes32, value => ∃ v, value = .bytes32 v
  | .bytes, value => ∃ v, value = .bytes v
  | .string, value =>
      ∃ v, value = .string v ∧ v.toUTF8.data.toList.length < 2 ^ 64
  | .dynamicArray item, value =>
      ∃ items, value = .dynamicArray items ∧ items.length < 2 ^ 64 ∧
        ∀ entry ∈ items, item.HasValue entry
  | .tuple types, value =>
      ∃ items, value = .tuple items ∧ HasValues types items

def HasValues : List AbiType → List Value → Prop
  | [], items => items = []
  | type :: types, items =>
      ∃ first rest, items = first :: rest ∧ type.HasValue first ∧
        HasValues types rest

end

mutual

theorem HasValue.isStatic : ∀ {type : AbiType} {value : Value},
    type.HasValue value → value.isStatic = type.isStatic
  | .bool, _, ⟨_, same⟩ => by rw [same]; rfl
  | .u256, _, ⟨_, same⟩ => by rw [same]; rfl
  | .u128, _, ⟨_, same⟩ => by rw [same]; rfl
  | .u64, _, ⟨_, same⟩ => by rw [same]; rfl
  | .u32, _, ⟨_, same⟩ => by rw [same]; rfl
  | .u16, _, ⟨_, same⟩ => by rw [same]; rfl
  | .u8, _, ⟨_, same⟩ => by rw [same]; rfl
  | .address, _, ⟨_, same⟩ => by rw [same]; rfl
  | .bytes32, _, ⟨_, same⟩ => by rw [same]; rfl
  | .bytes, _, ⟨_, same⟩ => by rw [same]; rfl
  | .string, _, ⟨_, same, _⟩ => by rw [same]; rfl
  | .dynamicArray _, _, ⟨_, same, _⟩ => by rw [same]; rfl
  | .tuple _, _, ⟨_, same, typed⟩ => by
      rw [same]
      exact HasValues.allStatic typed

theorem HasValues.allStatic : ∀ {types : List AbiType} {items : List Value},
    HasValues types items → Value.allStatic items = AbiType.allStatic types
  | [], _, same => by
      cases same
      rfl
  | _ :: _, _, ⟨_, _, same, typed, rest⟩ => by
      rw [same, Value.allStatic, AbiType.allStatic, typed.isStatic,
        HasValues.allStatic rest]

end

theorem hasValues_replicate (item : AbiType) (items : List Value)
    (typed : ∀ entry ∈ items, item.HasValue entry) :
    HasValues (List.replicate items.length item) items := by
  induction items with
  | nil => rfl
  | cons first rest induction =>
      refine ⟨first, rest, rfl, typed first List.mem_cons_self, ?_⟩
      apply induction
      intro entry member
      exact typed entry (List.mem_cons_of_mem _ member)

end AbiType

end RiskManagement
