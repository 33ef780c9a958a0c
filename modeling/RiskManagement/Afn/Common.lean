import RiskManagement.Miniabi.AbiDecode
import RiskManagement.Minieth.Rpc

/-!
# Lanes and the decoding of event logs

An event's topic is the keccak256 of its signature, computed outside of this
crate; it is handed to the functions here as a value.
-/

namespace RiskManagement

/-- The chains, without their chain ids. -/
inductive ChainName where
  | arbitrum | avax | base | bsc | celo | ethereum | gnosis | kroma | linea
  | mantle | metis | optimism | polygon | polygonZkEvm | scroll | wemix
  | arbitrumGoerli | arbitrumSepolia | avaxFuji | baseGoerli | baseSepolia
  | bscTestnet | celoAlfajores | fraxtalTestnet | gnosisChiado | goerli
  | kromaSepolia | lineaSepolia | mantleGoerli | mantleSepolia | metisSepolia
  | optimismGoerli | optimismSepolia | polygonMumbai | polygonAmoy
  | polygonZkEvmTestnet | polygonZkEvmSepolia | scrollSepolia | sepolia
  | wemixTestnet | zkSyncGoerli
deriving DecidableEq

/-- A lane goes from one chain to another. -/
structure LaneId where
  sourceChainName : ChainName
  destChainName : ChainName
  name : String
deriving DecidableEq

/-- The versions of the contracts of a lane. -/
inductive LaneType where
  | evm2EvmV1_0
  | evm2EvmV1_2
deriving DecidableEq

/-- The errors of decoding a log, one constructor for each text. -/
inductive DecodeLogError where
  | topicNeeded (eventName : String)
  | topicMismatch (eventName : String) (got expected : Bytes32)
  | topicNeededToParse (eventName : String) (index : Nat) (field : String)
  | unexpectedTopics (topics : List Bytes32)
  | abi (error : AbiDecodeError)
  | unknownState (state : UInt8)
deriving DecidableEq

/-- An event with its signature and the decoding behind the topic check. -/
class UncheckedDecodeLog (Event : Type) where
  logSignature : String
  uncheckedDecodeLog : EVMLog → Except DecodeLogError Event

/-- The first topic of a log is the hash of its event's signature. -/
def checkEventTopic (eventName : String) (logTopic : Bytes32) (log : EVMLog) :
    Except DecodeLogError Unit :=
  match log.topics with
  | [] => .error (.topicNeeded eventName)
  | topic :: _ =>
      if topic ≠ logTopic then
        .error (.topicMismatch eventName topic logTopic)
      else
        .ok ()

/-- The topic is checked before anything is decoded. -/
def decodeLog (Event : Type) [UncheckedDecodeLog Event] (logTopic : Bytes32)
    (log : EVMLog) : Except DecodeLogError Event := do
  checkEventTopic (UncheckedDecodeLog.logSignature Event) logTopic log
  UncheckedDecodeLog.uncheckedDecodeLog log

/-- `?` on an ABI error inside the decoding of a log. -/
def liftAbi {α : Type} : Except AbiDecodeError α → Except DecodeLogError α
  | .error error => .error (.abi error)
  | .ok value => .ok value

end RiskManagement
