import RiskManagement.Minieth.Hex
import RiskManagement.Minieth.JsonRpc
import RiskManagement.Minieth.U256

/-!
# Values as hexadecimal text

The outer `none` of a reader is a panic.  Serde is read as it works for JSON:
a value is a string of its text.
-/

namespace RiskManagement

/-- Why a text is not the hexadecimal text of a value. -/
inductive BytesDecodeError where
  | invalidSize
  | invalidHex
deriving DecidableEq

def BytesDecodeError.message : BytesDecodeError → String
  | invalidSize => "invalid size"
  | invalidHex => "non-hex character encountered"

/-! ### Text -/

/-- The text must spell as many bytes as the size asks for. -/
def SizedBytes.fromStr (size : Nat) (s : String) :
    Option (Except BytesDecodeError (SizedBytes size)) :=
  match Hex.decode s with
  | none => none
  | some none => some (.error .invalidHex)
  | some (some arr) =>
      if sized : arr.length = size then
        some (.ok ⟨arr, sized⟩)
      else
        some (.error .invalidSize)

/-- `Display`. -/
def SizedBytes.toString {size : Nat} (bytes : SizedBytes size) : String :=
  Hex.encode bytes.data

/-- A vector that is longer than memory panics. -/
def Bytes.fromStr (s : String) : Option (Except BytesDecodeError Bytes) :=
  match Hex.decode s with
  | none => none
  | some none => some (.error .invalidHex)
  | some (some arr) =>
      if fits : arr.length < 2 ^ 64 then
        some (.ok ⟨⟨arr, fits⟩⟩)
      else
        none

def Bytes.toString (bytes : Bytes) : String :=
  Hex.encode bytes.data

/-- `buf[32 - bytes.len()..].copy_from_slice(bytes)` on a zeroed `buf`. -/
def U256.padded (bytes : List UInt8) (short : bytes.length ≤ 32) : Bytes32 :=
  ⟨List.replicate (32 - bytes.length) 0 ++ bytes, by simp; omega⟩

/-- The bytes that the text spells, padded to 32. -/
def U256.fromStr (s : String) : Option (Except BytesDecodeError U256) :=
  match Bytes.fromStr s with
  | none => none
  | some (.error error) => some (.error error)
  | some (.ok bytes) =>
      if tooLong : bytes.data.length > 32 then
        some (.error .invalidSize)
      else
        some (.ok (.fromBeBytes (padded bytes.data (by omega))))

/-- `Display`: both halves are printed without leading zeros. -/
def U256.toString (value : U256) : String :=
  if value.hi = 0 then
    "0x" ++ String.ofList (Nat.toDigits 16 value.lo.toNat)
  else
    "0x" ++ String.ofList (Nat.toDigits 16 value.hi.toNat ++
      Nat.toDigits 16 value.lo.toNat)

/-! ### JSON -/

/-- Why `serde` rejects a JSON value. -/
inductive DeserializeError where
  | invalidType
  | custom (message : String)
deriving DecidableEq

/-- `String::deserialize`. -/
def deserializeString : JsonValue → Except DeserializeError String
  | .string text => .ok text
  | _ => .error .invalidType

/-- `FromStr::from_str(&s).map_err(de::Error::custom)` of a string. -/
def deserializeFromStr {α : Type}
    (fromStr : String → Option (Except BytesDecodeError α))
    (json : JsonValue) : Option (Except DeserializeError α) :=
  match deserializeString json with
  | .error error => some (.error error)
  | .ok s =>
      (fromStr s).map fun parsed =>
        parsed.mapError fun error => .custom error.message

theorem deserializeFromStr_string {α : Type}
    {fromStr : String → Option (Except BytesDecodeError α)} {s : String}
    {value : α} (parsed : fromStr s = some (.ok value)) :
    deserializeFromStr fromStr (.string s) = some (.ok value) := by
  rw [deserializeFromStr, deserializeString]
  simp only [parsed]
  rfl

def SizedBytes.serialize {size : Nat} (bytes : SizedBytes size) : JsonValue :=
  .string bytes.toString

def SizedBytes.deserialize (size : Nat) :
    JsonValue → Option (Except DeserializeError (SizedBytes size)) :=
  deserializeFromStr (SizedBytes.fromStr size)

def Bytes.serialize (bytes : Bytes) : JsonValue :=
  .string bytes.toString

def Bytes.deserialize : JsonValue → Option (Except DeserializeError Bytes) :=
  deserializeFromStr Bytes.fromStr

def U256.serialize (value : U256) : JsonValue :=
  .string value.toString

def U256.deserialize : JsonValue → Option (Except DeserializeError U256) :=
  deserializeFromStr U256.fromStr

/-- A number as nodes write it. -/
def serializeHexU64 (num : UInt64) : JsonValue :=
  .string (hexNumber num)

/-- Read as a 256-bit number that must fit 64 bits. -/
def deserializeHexU64 (json : JsonValue) :
    Option (Except DeserializeError UInt64) :=
  (U256.deserialize json).map fun parsed =>
    match parsed with
    | .error error => .error error
    | .ok value =>
        value.tryIntoU64.mapError fun error => .custom error.message

end RiskManagement
