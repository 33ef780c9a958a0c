import RiskManagement.Library.Panics
import RiskManagement.Miniabi.DecoderImpl

/-!
# The ABI decoder with its panics

The functions of the decoder once more, with every slice, every index and
every sum of offsets or lengths as a checked operation.  Only the running size
total wraps.
-/

namespace RiskManagement

namespace CheckedDecoder

open Panics

abbrev Decoding := Run AbiDecodeError

/-- `bytes.try_into()` for an array, with the error of its `or`. -/
def intoArray (size : Nat) (bytes : List UInt8) (error : AbiDecodeError) :
    Decoding (SizedBytes size) :=
  if sized : bytes.length = size then
    return ⟨bytes, sized⟩
  else
    throw error

/-- `bytes.try_into().unwrap()` for an array. -/
def unwrapArray (size : Nat) (bytes : List UInt8) :
    Option (SizedBytes size) :=
  if sized : bytes.length = size then some ⟨bytes, sized⟩ else none

/-- `bytes.to_vec()`. -/
def toVec (bytes : List UInt8) : Option Bytes :=
  if fits : bytes.length < 2 ^ 64 then some ⟨⟨bytes, fits⟩⟩ else none

def readFirst32Bytes (bytes : List UInt8) (cursor : Nat) :
    Decoding Bytes32 :=
  if bytes.length - cursor < 32 then
    throw .invalidEncodingSize
  else do
    let stop ← orPanic (addUsize cursor 32)
    let word ← orPanic (slice bytes cursor stop)
    intoArray 32 word .invalidEncodingSize

/-- The result every one-word helper returns. -/
def decodedWord (value : Value) (cursor : Nat) : Decoding DecodeResult := do
  let newCursor ← orPanic (addUsize cursor 32)
  return ⟨value, newCursor, 32⟩

def boolFrom32Bytes (word : Bytes32) : Decoding Bool := do
  let padding ← orPanic (slice word.data 0 31)
  if !areAllZeros padding then
    throw .invalidBoolEncoding
  else
    let last ← orPanic word.data[31]?
    if last = 0 then
      return false
    else if last = 1 then
      return true
    else
      throw .invalidBoolEncoding

def decodeBoolHelper (bytes : List UInt8) (cursor : Nat) :
    Decoding DecodeResult := do
  let word ← readFirst32Bytes bytes cursor
  let value ← boolFrom32Bytes word
  decodedWord (.bool value) cursor

/-- `U256::from_be_bytes`. -/
def fromBeBytes (word : Bytes32) : Decoding U256 := do
  let high ← orPanic (slice word.data 0 16)
  let hi ← orPanic (unwrapArray 16 high)
  let low ← orPanic (sliceFrom word.data 16)
  let lo ← orPanic (unwrapArray 16 low)
  return ⟨.ofNat 128 (BigEndian.value hi.data),
    .ofNat 128 (BigEndian.value lo.data)⟩

def decodeU256Helper (bytes : List UInt8) (cursor : Nat) :
    Decoding DecodeResult := do
  let word ← readFirst32Bytes bytes cursor
  let value ← fromBeBytes word
  decodedWord (.u256 value) cursor

/-- `split_at` cuts the word in two. -/
def decodeUintHelper (size : Nat) (ofNat : Nat → Value) (bytes : List UInt8)
    (cursor : Nat) : Decoding DecodeResult := do
  let word ← readFirst32Bytes bytes cursor
  let padding ← orPanic (slice word.data 0 (32 - size))
  let data ← orPanic (sliceFrom word.data (32 - size))
  if !areAllZeros padding then
    throw .invalidUintEncoding
  else
    let array ← orPanic (unwrapArray size data)
    decodedWord (ofNat (BigEndian.value array.data)) cursor

def decodeU128Helper (bytes : List UInt8) (cursor : Nat) :
    Decoding DecodeResult :=
  decodeUintHelper 16 (fun value => .u128 (.ofNat 128 value)) bytes cursor

def decodeU64Helper (bytes : List UInt8) (cursor : Nat) :
    Decoding DecodeResult :=
  decodeUintHelper 8 (fun value => .u64 (.ofNat value)) bytes cursor

def decodeU32Helper (bytes : List UInt8) (cursor : Nat) :
    Decoding DecodeResult :=
  decodeUintHelper 4 (fun value => .u32 (.ofNat value)) bytes cursor

def decodeU16Helper (bytes : List UInt8) (cursor : Nat) :
    Decoding DecodeResult :=
  decodeUintHelper 2 (fun value => .u16 (.ofNat value)) bytes cursor

def decodeU8Helper (bytes : List UInt8) (cursor : Nat) :
    Decoding DecodeResult :=
  decodeUintHelper 1 (fun value => .u8 (.ofNat value)) bytes cursor

def addressFrom32Bytes (word : Bytes32) : Decoding Address := do
  let padding ← orPanic (slice word.data 0 12)
  if !areAllZeros padding then
    throw .invalidAddressEncoding
  else
    let bytes ← orPanic (slice word.data 12 32)
    intoArray 20 bytes .invalidAddressEncoding

def decodeAddressHelper (bytes : List UInt8) (cursor : Nat) :
    Decoding DecodeResult := do
  let word ← readFirst32Bytes bytes cursor
  let value ← addressFrom32Bytes word
  decodedWord (.address value) cursor

def decodeBytes32Helper (bytes : List UInt8) (cursor : Nat) :
    Decoding DecodeResult := do
  let word ← readFirst32Bytes bytes cursor
  decodedWord (.bytes32 word) cursor

def usizeFrom32Bytes (word : Bytes32) : Decoding Nat := do
  let padding ← orPanic (slice word.data 0 16)
  if !areAllZeros padding then
    throw .invalidUsizeEncoding
  else
    let low ← orPanic (slice word.data 16 32)
    let bytes ← intoArray 16 low .invalidUsizeEncoding
    if BigEndian.value bytes.data < 2 ^ 64 then
      return BigEndian.value bytes.data
    else
      throw .invalidUsizeEncoding

def readPrefixBytes (bytes : List UInt8) (cursor length : Nat) :
    Decoding (List UInt8) :=
  if bytes.length - cursor < length then
    throw .invalidEncodingSize
  else do
    let stop ← orPanic (addUsize cursor length)
    orPanic (slice bytes cursor stop)

def roundUpToMultipleOf32 (value : Nat) : Decoding Nat :=
  if 2 ^ 64 - 1 - 31 < value then
    throw .invalidUsizeEncoding
  else do
    let sum ← orPanic (addUsize value 31)
    orPanic (mulUsize (sum / 32) 32)

/-- The offset word of a dynamic value. -/
def readDataOffset (bytes : List UInt8) (cursor : Nat) : Decoding Nat := do
  let word ← readFirst32Bytes bytes cursor
  let dataOffset ← usizeFrom32Bytes word
  if dataOffset > bytes.length ∨ dataOffset < 32 then
    throw .invalidUsizeEncoding
  else
    return dataOffset

/-- A byte string, the cursor after it and its size. -/
def decodeBytesAt (bytes : List UInt8) (cursor : Nat) :
    Decoding (Bytes × Nat × UInt64) := do
  let dataOffset ← readDataOffset bytes cursor
  let word ← readFirst32Bytes bytes dataOffset
  let length ← usizeFrom32Bytes word
  let roundedLength ← roundUpToMultipleOf32 length
  let dataStart ← orPanic (addUsize dataOffset 32)
  let data ← readPrefixBytes bytes dataStart roundedLength
  let padding ← orPanic (slice data length roundedLength)
  if !areAllZeros padding then
    throw .invalidBytesEncoding
  else
    let front ← orPanic (slice data 0 length)
    let value ← orPanic (toVec front)
    let newCursor ← orPanic (addUsize cursor 32)
    let sizeInBytes ← orPanic (addUsize 64 roundedLength)
    return (value, newCursor, .ofNat sizeInBytes)

def decodeBytesHelper (bytes : List UInt8) (cursor : Nat) :
    Decoding DecodeResult := do
  let (value, newCursor, sizeInBytes) ← decodeBytesAt bytes cursor
  return ⟨.bytes value, newCursor, sizeInBytes⟩

/-- The string that a decoded byte string is turned into. -/
def stringOf : Except AbiDecodeError (Bytes × Nat × UInt64) →
    Except AbiDecodeError DecodeResult
  | .error .invalidBytesEncoding => .error .invalidStringEncoding
  | .error error => .error error
  | .ok (value, newCursor, sizeInBytes) =>
      match String.fromUTF8? ⟨value.data.toArray⟩ with
      | none => .error .invalidValueError
      | some text => .ok ⟨.string text, newCursor, sizeInBytes⟩

def decodeStringHelper (bytes : List UInt8) (cursor : Nat) :
    Decoding DecodeResult :=
  ExceptT.mk ((decodeBytesAt bytes cursor).run.map stringOf)

/-- The loop over the elements of an array. -/
def decodeElements (decodeItem : List UInt8 → Nat → Decoding DecodeResult)
    (bytes : List UInt8) : Nat → Nat → Decoding (List Value × UInt64)
  | 0, _ => return ([], 0)
  | length + 1, dataCursor => do
      let item ← decodeItem bytes dataCursor
      let (items, sizeInBytes) ←
        decodeElements decodeItem bytes length item.newCursor
      return (item.value :: items, item.sizeInBytes + sizeInBytes)

def decodeDynamicArray
    (decodeItem : List UInt8 → Nat → Decoding DecodeResult)
    (bytes : List UInt8) (cursor : Nat) : Decoding DecodeResult := do
  let lenOffset ← readDataOffset bytes cursor
  let word ← readFirst32Bytes bytes lenOffset
  let length ← usizeFrom32Bytes word
  let tailOffset ← orPanic (addUsize lenOffset 32)
  if tailOffset > bytes.length then
    throw .invalidUsizeEncoding
  else
    let tail ← orPanic (sliceFrom bytes tailOffset)
    let (items, totalSizeInBytes) ← decodeElements decodeItem tail length 0
    let newCursor ← orPanic (addUsize cursor 32)
    return ⟨.dynamicArray items, newCursor, 64 + totalSizeInBytes⟩

/-- The decoding of a tuple around the loop over its types. -/
def decodeTupleHelper (isEmpty : Bool)
    (decodeItems : List UInt8 → Nat → Decoding (List Value × Nat × UInt64))
    (bytes : List UInt8) (cursor : Nat) (isDynamic : Bool) :
    Decoding DecodeResult :=
  if isEmpty then
    throw .zeroSizedTypeError
  else if isDynamic then do
    let dataOffset ← readDataOffset bytes cursor
    let tail ← orPanic (sliceFrom bytes dataOffset)
    let (items, _, totalSizeInBytes) ← decodeItems tail 0
    let newCursor ← orPanic (addUsize cursor 32)
    return ⟨.tuple items, newCursor, 32 + totalSizeInBytes⟩
  else do
    let (items, dataCursor, totalSizeInBytes) ← decodeItems bytes cursor
    return ⟨.tuple items, dataCursor, totalSizeInBytes⟩

mutual

def decodeHelper : AbiType → List UInt8 → Nat → Bool → Decoding DecodeResult
  | .bool, input, cursor, _ => decodeBoolHelper input cursor
  | .u256, input, cursor, _ => decodeU256Helper input cursor
  | .u128, input, cursor, _ => decodeU128Helper input cursor
  | .u64, input, cursor, _ => decodeU64Helper input cursor
  | .u32, input, cursor, _ => decodeU32Helper input cursor
  | .u16, input, cursor, _ => decodeU16Helper input cursor
  | .u8, input, cursor, _ => decodeU8Helper input cursor
  | .address, input, cursor, _ => decodeAddressHelper input cursor
  | .bytes32, input, cursor, _ => decodeBytes32Helper input cursor
  | .bytes, input, cursor, _ => decodeBytesHelper input cursor
  | .string, input, cursor, _ => decodeStringHelper input cursor
  | .dynamicArray item, input, cursor, _ =>
      decodeDynamicArray (fun input cursor => decodeHelper item input cursor
        false) input cursor
  | .tuple items, input, cursor, isTopLevel =>
      decodeTupleHelper items.isEmpty (decodeItems items) input cursor
        (!(isTopLevel || AbiType.allStatic items))

/-- The loop over the types of a tuple. -/
def decodeItems : List AbiType → List UInt8 → Nat →
    Decoding (List Value × Nat × UInt64)
  | [], _, dataCursor => return ([], dataCursor, 0)
  | item :: items, input, dataCursor => do
      let first ← decodeHelper item input dataCursor false
      let (rest, lastCursor, sizeInBytes) ←
        decodeItems items input first.newCursor
      return (first.value :: rest, lastCursor,
        first.sizeInBytes + sizeInBytes)

end

/-- All bytes of the input must be accounted for. -/
def decode (type : AbiType) (input : List UInt8) : Decoding Value := do
  let result ← decodeHelper type input 0 true
  if result.sizeInBytes.toNat ≠ input.length then
    throw .invalidEncodingSize
  else
    return result.value

end CheckedDecoder

end RiskManagement
