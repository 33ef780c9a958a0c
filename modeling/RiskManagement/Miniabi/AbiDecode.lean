import RiskManagement.Miniabi.DecoderImpl

/-!
# Decoding into the node's own types
-/

namespace RiskManagement

/-- `AbiTypeToDecode` together with `TryFrom<Value>`. -/
class AbiDecode (α : Type) where
  abiTypeToDecode : AbiType
  tryFrom : Value → Except AbiDecodeError α

/-- Decodes a value of the type, then takes it apart. -/
def abiDecode (α : Type) [AbiDecode α] (bytes : List UInt8) :
    Except AbiDecodeError α := do
  AbiDecode.tryFrom (← (AbiDecode.abiTypeToDecode α).decode bytes)

instance : AbiDecode UInt64 where
  abiTypeToDecode := .u64
  tryFrom
    | .u64 value => .ok value
    | _ => .error .invalidValueError

instance : AbiDecode UInt8 where
  abiTypeToDecode := .u8
  tryFrom
    | .u8 value => .ok value
    | _ => .error .invalidValueError

instance : AbiDecode Bytes where
  abiTypeToDecode := .bytes
  tryFrom
    | .bytes value => .ok value
    | _ => .error .invalidValueError

instance {α β : Type} [AbiDecode α] [AbiDecode β] : AbiDecode (α × β) where
  abiTypeToDecode :=
    .tuple [AbiDecode.abiTypeToDecode α, AbiDecode.abiTypeToDecode β]
  tryFrom
    | .tuple [first, second] => do
        return (← AbiDecode.tryFrom first, ← AbiDecode.tryFrom second)
    | _ => .error .invalidValueError

end RiskManagement
