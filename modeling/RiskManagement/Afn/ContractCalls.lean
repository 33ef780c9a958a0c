import RiskManagement.Afn.Config
import RiskManagement.Afn.EventDecoding
import RiskManagement.Miniabi.AbiEncode

/-!
# Calls of contracts

The data of a call is the selector of the function and its encoded arguments.
The node sends votes to the AFN contract, and reads the configuration of that
contract and of the contracts of a lane.
-/

namespace RiskManagement

open Panics

/-- A call of a contract is known by the signature of its function. -/
class ContractCall (Call : Type) where
  contractCallSignature : String
  contractCallParameters : Call → Value

/-- The first four bytes of the hashed signature. -/
def contractCallSelector (keccak : Keccak) (Call : Type) [ContractCall Call] :
    List UInt8 :=
  (keccak (ContractCall.contractCallSignature Call).toUTF8.data.toList).data
    |>.take 4

/-- The selector and the encoded arguments. -/
def encodeContractCall (keccak : Keccak) {Call : Type} [ContractCall Call]
    (call : Call) : List UInt8 :=
  contractCallSelector keccak Call ++
    (ContractCall.contractCallParameters call).encode

/-! ### The AFN contract -/

instance : IntoValue TaggedRoot where
  into v := .tuple [into v.commitStore, into v.root]

/-- `voteToBless((address,bytes32)[])`. -/
structure VoteToBlessCall where
  taggedRoots : RustVec TaggedRoot

/-- `voteToCurse(bytes32)`. -/
structure VoteToCurseCall where
  curseId : Bytes32

/-- `getConfigDetails()`, without arguments. -/
structure GetConfigDetailsCall where

/-- `isCursed()`, without arguments. -/
structure IsCursedCall where

instance : ContractCall VoteToBlessCall where
  contractCallSignature := "voteToBless((address,bytes32)[])"
  contractCallParameters call := .tuple [into call.taggedRoots]

instance : ContractCall VoteToCurseCall where
  contractCallSignature := "voteToCurse(bytes32)"
  contractCallParameters call := .tuple [into call.curseId]

instance : ContractCall GetConfigDetailsCall where
  contractCallSignature := "getConfigDetails()"
  contractCallParameters _ := .tuple []

instance : ContractCall IsCursedCall where
  contractCallSignature := "isCursed()"
  contractCallParameters _ := .tuple []

instance : CheckedAbiDecode Voter :=
  .ofTuple (Address × Address × Address × UInt8 × UInt8 × Unit)
    fun (blessVoteAddr, curseVoteAddr, curseUnvoteAddr, blessWeight,
        curseWeight, ()) =>
      { blessVoteAddr, curseVoteAddr, curseUnvoteAddr, blessWeight,
        curseWeight }

instance : CheckedAbiDecode OnchainConfig :=
  .ofTuple (RustVec Voter × UInt16 × UInt16 × Unit)
    fun (voters, blessWeightThreshold, curseWeightThreshold, ()) =>
      { voters, blessWeightThreshold, curseWeightThreshold }

/-- What the node of a chain answers to `eth_call`. -/
abbrev CallRpc := Address → List UInt8 → Except RpcError (List UInt8)

/-- Why the answer of a contract could not be read. -/
inductive ContractReadError where
  | rpc (error : RpcError)
  | abi (error : AbiDecodeError)
deriving DecidableEq

abbrev ContractReading := Run ContractReadError

/-- `T::abi_decode(rpc.call(contract, data)?)?`. -/
def readContract (α : Type) [CheckedAbiDecode α] (rpc : CallRpc)
    (contract : Address) (data : List UInt8) : ContractReading α :=
  match rpc contract data with
  | .error error => throw (.rpc error)
  | .ok returned => (checkedAbiDecode α returned).adapt .abi

/-- The AFN contract of a chain. -/
structure AFNInterface where
  address : Address

namespace AFNInterface

/-- What `send_transaction` hands to the transaction sender. -/
def sendTransaction (self : AFNInterface) (data : Bytes) (gas : UInt64) :
    TransactionRequest where
  gas := gas
  toAddress := self.address
  value := U256.ofUint 0
  data := data

/-- `none` is call data that does not fit memory. -/
def toBytes (data : List UInt8) : Option Bytes :=
  CheckedDecoder.toVec data

/-- The transaction that a vote to curse is. -/
def sendVoteToCurse (keccak : Keccak) (self : AFNInterface)
    (curseId : Bytes32) : Option TransactionRequest := do
  let data ← toBytes (encodeContractCall keccak (VoteToCurseCall.mk curseId))
  return self.sendTransaction data 200000

/-- The product wraps in a release build. -/
def sendVoteToBless (keccak : Keccak) (self : AFNInterface)
    (votes : RustVec TaggedRoot) : Option TransactionRequest := do
  let gas : UInt64 := 70000 * .ofNat votes.toList.length
  let data ← toBytes (encodeContractCall keccak (VoteToBlessCall.mk votes))
  return self.sendTransaction data gas

/-- Reads the answer of `getConfigDetails`. -/
def getVersionedOnchainConfig (keccak : Keccak) (self : AFNInterface)
    (rpc : CallRpc) : ContractReading VersionedOnchainConfig := do
  let decoded ← readContract
    (AbiTuple (UInt32 × UInt32 × OnchainConfig × Unit)) rpc self.address
      (encodeContractCall keccak GetConfigDetailsCall.mk)
  let (version, blockNumber, config, ()) := decoded.fields
  return { version, blockNumber, config }

end AFNInterface

/-! ### The contracts of a lane -/

/-- What the node checks in the static configuration of an on-ramp. -/
structure OnRampStaticConfig where
  chainSelector : ChainSelector
  destChainSelector : ChainSelector
deriving DecidableEq

/-- What the node checks in the static configuration of an off-ramp. -/
structure OffRampStaticConfig where
  chainSelector : ChainSelector
  srcChainSelector : ChainSelector
  commitStore : Address
  onRamp : Address
deriving DecidableEq

/-- What the node checks in the static configuration of a commit store. -/
structure CommitStoreStaticConfig where
  chainSelector : ChainSelector
  srcChainSelector : ChainSelector
  onRamp : Address
deriving DecidableEq

instance : CheckedAbiDecode (BitVec 128) :=
  .ofPrimitive .u128 fun
    | .u128 value => some value
    | _ => none

instance : CheckedAbiDecode String :=
  .ofPrimitive .string fun
    | .string value => some value
    | _ => none

/-- The link token, the selectors, the default gas limit, the maximal fees, the
previous on-ramp and the proxy. -/
abbrev OnRampStaticConfigAsTuple :=
  Address × UInt64 × UInt64 × UInt64 × BitVec 128 × Address × Address × Unit

/-- The last ones are the previous off-ramp and the proxy. -/
abbrev OffRampStaticConfigAsTuple :=
  Address × UInt64 × UInt64 × Address × Address × Address × Unit

/-- The last one is the proxy. -/
abbrev CommitStoreStaticConfigAsTuple :=
  UInt64 × UInt64 × Address × Address × Unit

def OnRampStaticConfig.ofTuple :
    OnRampStaticConfigAsTuple → OnRampStaticConfig
  | (_, chainSelector, destChainSelector, _, _, _, _, ()) =>
      { chainSelector, destChainSelector }

def OffRampStaticConfig.ofTuple :
    OffRampStaticConfigAsTuple → OffRampStaticConfig
  | (commitStore, chainSelector, srcChainSelector, onRamp, _, _, ()) =>
      { chainSelector, srcChainSelector, commitStore, onRamp }

def CommitStoreStaticConfig.ofTuple :
    CommitStoreStaticConfigAsTuple → CommitStoreStaticConfig
  | (chainSelector, srcChainSelector, onRamp, _, ()) =>
      { chainSelector, srcChainSelector, onRamp }

instance : CheckedAbiDecode OnRampStaticConfig :=
  .ofTuple _ OnRampStaticConfig.ofTuple

instance : CheckedAbiDecode OffRampStaticConfig :=
  .ofTuple _ OffRampStaticConfig.ofTuple

instance : CheckedAbiDecode CommitStoreStaticConfig :=
  .ofTuple _ CommitStoreStaticConfig.ofTuple

/-- `getStaticConfig()`, which all three contracts of a lane have. -/
structure GetStaticConfig where

/-- `typeAndVersion()`, which all three contracts of a lane have. -/
structure TypeAndVersion where

instance : ContractCall GetStaticConfig where
  contractCallSignature := "getStaticConfig()"
  contractCallParameters _ := .tuple []

instance : ContractCall TypeAndVersion where
  contractCallSignature := "typeAndVersion()"
  contractCallParameters _ := .tuple []

/-- Reads the answer of `getStaticConfig`, which each kind of contract encodes
in its own way. -/
def fetchOnchainStaticConfig (α : Type) [CheckedAbiDecode α]
    (keccak : Keccak) (rpc : CallRpc) (contract : Address) :
    ContractReading α :=
  readContract α rpc contract (encodeContractCall keccak GetStaticConfig.mk)

def onchainOnrampStaticConfig : Keccak → CallRpc → Address →
    ContractReading OnRampStaticConfig :=
  fetchOnchainStaticConfig OnRampStaticConfig

def onchainOfframpStaticConfig : Keccak → CallRpc → Address →
    ContractReading OffRampStaticConfig :=
  fetchOnchainStaticConfig OffRampStaticConfig

def onchainCommitStoreStaticConfig : Keccak → CallRpc → Address →
    ContractReading CommitStoreStaticConfig :=
  fetchOnchainStaticConfig CommitStoreStaticConfig

/-- Reads the answer of `typeAndVersion`. -/
def onchainTypeAndVersion (keccak : Keccak) (rpc : CallRpc)
    (contract : Address) : ContractReading String :=
  readContract String rpc contract
    (encodeContractCall keccak TypeAndVersion.mk)

end RiskManagement
