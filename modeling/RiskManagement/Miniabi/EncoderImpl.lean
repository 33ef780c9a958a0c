import RiskManagement.Miniabi.Types

/-!
# The ABI encoder

Every `encode_actual_data_into` only appends to its buffer, so the encoders
here return what is appended.  Sizes are `usize` and wrap like one.
-/

namespace RiskManagement

def padRightToMultipleOf32Bytes (v : List UInt8) : List UInt8 :=
  v ++ List.replicate ((32 - v.length % 32) % 32) 0

/-- `U256::from` of an unsigned integer, as its 32 bytes. -/
def encodeUint (value : Nat) : List UInt8 :=
  (U256.ofUint value).toBeBytes.data

/-- `U256::try_from` of a `usize`, which never fails. -/
def encodeUsize (value : UInt64) : List UInt8 := encodeUint value.toNat

/-- An address stands at the end of its word. -/
def encodeAddress (value : Address) : List UInt8 :=
  List.replicate 12 0 ++ value.data

@[simp]
theorem encodeUint_length (value : Nat) : (encodeUint value).length = 32 :=
  (U256.ofUint value).toBeBytes.size_eq

@[simp]
theorem encodeUsize_length (value : UInt64) :
    (encodeUsize value).length = 32 :=
  encodeUint_length value.toNat

/-- A byte string behind its length. -/
def encodeByteString (data : List UInt8) : List UInt8 :=
  encodeUsize (.ofNat data.length) ++ padRightToMultipleOf32Bytes data

/-! ### Tuples -/

/-- What the first loop adds up from the encodings of the entries. -/
def totalHeadSizeInBytes (encodings : List (Bool × List UInt8)) : UInt64 :=
  encodings.foldl (fun total (isStatic, enc) =>
    total + if isStatic then .ofNat enc.length else 32) 0

/-- The two buffers of a tuple while its entries are written. -/
structure HeadsAndTails where
  heads : List UInt8
  tails : List UInt8

/-- The second loop's body. -/
def HeadsAndTails.push (totalHeadSize : UInt64) (self : HeadsAndTails) :
    Bool × List UInt8 → HeadsAndTails
  | (true, enc) => { self with heads := self.heads ++ enc }
  | (false, enc) =>
      { heads := self.heads ++
          encodeUsize (totalHeadSize + .ofNat self.tails.length)
        tails := self.tails ++ enc }

/-- All heads, then all tails. -/
def encodeTuple (encodings : List (Bool × List UInt8)) : List UInt8 :=
  let final := encodings.foldl
    (HeadsAndTails.push (totalHeadSizeInBytes encodings)) ⟨[], []⟩
  final.heads ++ final.tails

namespace Value

mutual

/-- What a value is encoded to at the place where it stands itself. -/
def encodeActualData : Value → List UInt8
  | .bool value => encodeUint value.toNat
  | .u256 value => value.toBeBytes.data
  | .u128 value => encodeUint value.toNat
  | .u64 value => encodeUint value.toNat
  | .u32 value => encodeUint value.toNat
  | .u16 value => encodeUint value.toNat
  | .u8 value => encodeUint value.toNat
  | .address value => encodeAddress value
  | .bytes32 value => value.data
  | .bytes value => encodeByteString value.data
  | .string value => encodeByteString value.toUTF8.data.toList
  | .tuple items => encodeTuple (encodeItems items)
  | .dynamicArray items =>
      encodeUsize (.ofNat items.length) ++ encodeTuple (encodeItems items)

/-- The entries of a tuple or an array with their `is_static` flags. -/
def encodeItems : List Value → List (Bool × List UInt8)
  | [] => []
  | item :: items =>
      (item.isStatic, item.encodeActualData) :: encodeItems items

end

/-- `encode_into`: a value that is no tuple is wrapped into one. -/
def encode : Value → List UInt8
  | .tuple items => encodeActualData (.tuple items)
  | value => encodeActualData (.tuple [value])

end Value

end RiskManagement
