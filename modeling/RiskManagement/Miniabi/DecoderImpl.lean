import RiskManagement.Miniabi.Types

/-!
# The ABI decoder

Cursors and offsets are natural numbers: the checks keep them below the length
of the input, which fits an `isize`.  The running size total is a machine word
and wraps like one.
-/

namespace RiskManagement

/-- Why a byte string is not decoded. -/
inductive AbiDecodeError where
  | invalidFormat
  | invalidEncodingSize
  | invalidBoolEncoding
  | invalidUintEncoding
  | invalidUsizeEncoding
  | invalidAddressEncoding
  | invalidBytesEncoding
  | invalidStringEncoding
  | invalidValueError
  | zeroSizedTypeError
deriving DecidableEq

/-- A value, where its head ends and how large its encoding is. -/
structure DecodeResult where
  value : Value
  newCursor : Nat
  sizeInBytes : UInt64

/-- The word at the cursor. -/
def readFirst32Bytes (bytes : List UInt8) (cursor : Nat) :
    Except AbiDecodeError Bytes32 :=
  if short : bytes.length - cursor < 32 then
    .error .invalidEncodingSize
  else
    .ok ⟨(bytes.drop cursor).take 32, by simp; omega⟩

def areAllZeros (bytes : List UInt8) : Bool :=
  bytes.all fun byte => byte = 0

/-- The result every one-word helper returns. -/
def decodedWord (value : Value) (cursor : Nat) : DecodeResult :=
  ⟨value, cursor + 32, 32⟩

/-- Only 0 and 1 are booleans. -/
def boolFrom32Bytes (word : Bytes32) : Except AbiDecodeError Bool :=
  if !areAllZeros (word.data.take 31) then
    .error .invalidBoolEncoding
  else
    match word.data.drop 31 with
    | [0] => .ok false
    | [1] => .ok true
    | _ => .error .invalidBoolEncoding

def decodeBoolHelper (bytes : List UInt8) (cursor : Nat) :
    Except AbiDecodeError DecodeResult := do
  let value ← boolFrom32Bytes (← readFirst32Bytes bytes cursor)
  return decodedWord (.bool value) cursor

def decodeU256Helper (bytes : List UInt8) (cursor : Nat) :
    Except AbiDecodeError DecodeResult := do
  let word ← readFirst32Bytes bytes cursor
  return decodedWord (.u256 (.fromBeBytes word)) cursor

/-- The unsigned integers share one helper; `size` is their size in bytes. -/
def decodeUintHelper (size : Nat) (ofNat : Nat → Value) (bytes : List UInt8)
    (cursor : Nat) : Except AbiDecodeError DecodeResult := do
  let word ← readFirst32Bytes bytes cursor
  if !areAllZeros (word.data.take (32 - size)) then
    throw .invalidUintEncoding
  return decodedWord
    (ofNat (BigEndian.value (word.data.drop (32 - size)))) cursor

def decodeU128Helper (bytes : List UInt8) (cursor : Nat) :
    Except AbiDecodeError DecodeResult :=
  decodeUintHelper 16 (fun value => .u128 (.ofNat 128 value)) bytes cursor

def decodeU64Helper (bytes : List UInt8) (cursor : Nat) :
    Except AbiDecodeError DecodeResult :=
  decodeUintHelper 8 (fun value => .u64 (.ofNat value)) bytes cursor

def decodeU32Helper (bytes : List UInt8) (cursor : Nat) :
    Except AbiDecodeError DecodeResult :=
  decodeUintHelper 4 (fun value => .u32 (.ofNat value)) bytes cursor

def decodeU16Helper (bytes : List UInt8) (cursor : Nat) :
    Except AbiDecodeError DecodeResult :=
  decodeUintHelper 2 (fun value => .u16 (.ofNat value)) bytes cursor

def decodeU8Helper (bytes : List UInt8) (cursor : Nat) :
    Except AbiDecodeError DecodeResult :=
  decodeUintHelper 1 (fun value => .u8 (.ofNat value)) bytes cursor

/-- The twelve bytes before an address must be zeros. -/
def addressFrom32Bytes (word : Bytes32) : Except AbiDecodeError Address :=
  if !areAllZeros (word.data.take 12) then
    .error .invalidAddressEncoding
  else
    .ok ⟨word.data.drop 12, by simp [word.size_eq]⟩

def decodeAddressHelper (bytes : List UInt8) (cursor : Nat) :
    Except AbiDecodeError DecodeResult := do
  let value ← addressFrom32Bytes (← readFirst32Bytes bytes cursor)
  return decodedWord (.address value) cursor

def decodeBytes32Helper (bytes : List UInt8) (cursor : Nat) :
    Except AbiDecodeError DecodeResult := do
  let word ← readFirst32Bytes bytes cursor
  return decodedWord (.bytes32 word) cursor

/-- The sixteen low bytes are read as a `u128`, which must fit a `usize`. -/
def usizeFrom32Bytes (word : Bytes32) : Except AbiDecodeError Nat :=
  if !areAllZeros (word.data.take 16) then
    .error .invalidUsizeEncoding
  else
    let value := BigEndian.value (word.data.drop 16)
    if value < 2 ^ 64 then .ok value else .error .invalidUsizeEncoding

/-- The bytes from the cursor on. -/
def readPrefixBytes (bytes : List UInt8) (cursor length : Nat) :
    Except AbiDecodeError (List UInt8) :=
  if bytes.length - cursor < length then
    .error .invalidEncodingSize
  else
    .ok ((bytes.drop cursor).take length)

/-- Fails where the sum would overflow. -/
def roundUpToMultipleOf32 (value : Nat) : Except AbiDecodeError Nat :=
  if 2 ^ 64 - 1 - 31 < value then
    .error .invalidUsizeEncoding
  else
    .ok ((value + 31) / 32 * 32)

/-- The offset word of a dynamic value. -/
def readDataOffset (bytes : List UInt8) (cursor : Nat) :
    Except AbiDecodeError Nat := do
  let dataOffset ← usizeFrom32Bytes (← readFirst32Bytes bytes cursor)
  if dataOffset > bytes.length ∨ dataOffset < 32 then
    throw .invalidUsizeEncoding
  return dataOffset

/-- A byte string, the cursor after it and its size. -/
def decodeBytesAt (bytes : List UInt8) (cursor : Nat) :
    Except AbiDecodeError (Bytes × Nat × UInt64) := do
  let dataOffset ← readDataOffset bytes cursor
  let length ← usizeFrom32Bytes (← readFirst32Bytes bytes dataOffset)
  let roundedLength ← roundUpToMultipleOf32 length
  let data ← readPrefixBytes bytes (dataOffset + 32) roundedLength
  if !areAllZeros (data.drop length) then
    throw .invalidBytesEncoding
  if fits : (data.take length).length < 2 ^ 64 then
    return (⟨⟨data.take length, fits⟩⟩, cursor + 32,
      64 + .ofNat roundedLength)
  else
    -- no slice of the input is that long
    throw .invalidUsizeEncoding

def decodeBytesHelper (bytes : List UInt8) (cursor : Nat) :
    Except AbiDecodeError DecodeResult := do
  let (value, newCursor, sizeInBytes) ← decodeBytesAt bytes cursor
  return ⟨.bytes value, newCursor, sizeInBytes⟩

/-- Bytes that are not UTF-8 are not a string. -/
def decodeStringHelper (bytes : List UInt8) (cursor : Nat) :
    Except AbiDecodeError DecodeResult :=
  match decodeBytesAt bytes cursor with
  | .error .invalidBytesEncoding => .error .invalidStringEncoding
  | .error error => .error error
  | .ok (value, newCursor, sizeInBytes) =>
      match String.fromUTF8? ⟨value.data.toArray⟩ with
      | none => .error .invalidValueError
      | some text => .ok ⟨.string text, newCursor, sizeInBytes⟩

/-- The loop over the elements of an array. -/
def decodeElements
    (decodeItem : List UInt8 → Nat → Except AbiDecodeError DecodeResult)
    (bytes : List UInt8) :
    Nat → Nat → Except AbiDecodeError (List Value × UInt64)
  | 0, _ => .ok ([], 0)
  | length + 1, dataCursor => do
      let item ← decodeItem bytes dataCursor
      let (items, sizeInBytes) ←
        decodeElements decodeItem bytes length item.newCursor
      return (item.value :: items, item.sizeInBytes + sizeInBytes)

/-- A length, then the elements, whose offsets count from behind the length. -/
def decodeDynamicArray
    (decodeItem : List UInt8 → Nat → Except AbiDecodeError DecodeResult)
    (bytes : List UInt8) (cursor : Nat) :
    Except AbiDecodeError DecodeResult := do
  let lenOffset ← readDataOffset bytes cursor
  let length ← usizeFrom32Bytes (← readFirst32Bytes bytes lenOffset)
  let tailOffset := lenOffset + 32
  if tailOffset > bytes.length then
    throw .invalidUsizeEncoding
  let (items, totalSizeInBytes) ←
    decodeElements decodeItem (bytes.drop tailOffset) length 0
  return ⟨.dynamicArray items, cursor + 32, 64 + totalSizeInBytes⟩

/-- The decoding of a tuple around the loop over its types. -/
def decodeTupleHelper (isEmpty : Bool)
    (decodeItems : List UInt8 → Nat →
      Except AbiDecodeError (List Value × Nat × UInt64))
    (bytes : List UInt8) (cursor : Nat) (isDynamic : Bool) :
    Except AbiDecodeError DecodeResult := do
  if isEmpty then
    throw .zeroSizedTypeError
  if isDynamic then
    let dataOffset ← readDataOffset bytes cursor
    let (items, _, totalSizeInBytes) ← decodeItems (bytes.drop dataOffset) 0
    return ⟨.tuple items, cursor + 32, 32 + totalSizeInBytes⟩
  else
    let (items, dataCursor, totalSizeInBytes) ← decodeItems bytes cursor
    return ⟨.tuple items, dataCursor, totalSizeInBytes⟩

namespace AbiType

mutual

/-- The value of a type at the cursor. -/
def decodeHelper : AbiType → List UInt8 → Nat → Bool →
    Except AbiDecodeError DecodeResult
  | .bool, input, cursor, _ => decodeBoolHelper input cursor
  | .u256, input, cursor, _ => decodeU256Helper input cursor
  | .u128, input, cursor, _ => decodeU128Helper input cursor
  | .u64, input, cursor, _ => decodeU64Helper input cursor
  | .u32, input, cursor, _ => decodeU32Helper input cursor
  | .u16, input, cursor, _ => decodeU16Helper input cursor
  | .u8, input, cursor, _ => decodeU8Helper input cursor
  | .address, input, cursor, _ => decodeAddressHelper input cursor
  | .bytes32, input, cursor, _ => decodeBytes32Helper input cursor
  | .bytes, input, cursor, _ => decodeBytesHelper input cursor
  | .string, input, cursor, _ => decodeStringHelper input cursor
  | .dynamicArray item, input, cursor, _ =>
      decodeDynamicArray (fun input cursor => decodeHelper item input cursor
        false) input cursor
  | .tuple items, input, cursor, isTopLevel =>
      decodeTupleHelper items.isEmpty (decodeItems items) input cursor
        (!(isTopLevel || allStatic items))

/-- The loop over the types of a tuple. -/
def decodeItems : List AbiType → List UInt8 → Nat →
    Except AbiDecodeError (List Value × Nat × UInt64)
  | [], _, dataCursor => .ok ([], dataCursor, 0)
  | item :: items, input, dataCursor => do
      let first ← decodeHelper item input dataCursor false
      let (rest, lastCursor, sizeInBytes) ←
        decodeItems items input first.newCursor
      return (first.value :: rest, lastCursor,
        first.sizeInBytes + sizeInBytes)

end

/-- All bytes of the input must be accounted for. -/
def decode (self : AbiType) (input : List UInt8) :
    Except AbiDecodeError Value := do
  let result ← self.decodeHelper input 0 true
  if result.sizeInBytes.toNat ≠ input.length then
    throw .invalidEncodingSize
  return result.value

end AbiType

end RiskManagement
