import RiskManagement.Library.EntryMap
import RiskManagement.Minieth.TxSender
import RiskManagement.Afn.Common

/-!
# The offchain configuration

The shared file lists chains and lanes, the local file lists chains.  `new`
checks the lists against each other and sorts their entries into maps.
-/

namespace RiskManagement

/-- How a chain tells which of its blocks are final. -/
inductive ChainStability where
  | confirmationDepth (softConfirmations hardConfirmations : UInt64)
  | finalityTag (softConfirmations : UInt64)
deriving DecidableEq

/-- A span of time as the configuration file has it. -/
inductive TimeUnit where
  | seconds (seconds : UInt64)
  | minutes (minutes : UInt64)
deriving DecidableEq

/-- What all nodes agree on about a chain. -/
structure SharedChainConfig where
  name : ChainName
  stability : ChainStability
  blessFeeConfig : TransactionSenderFeeConfig
  curseFeeConfig : TransactionSenderFeeConfig
  maxTaggedRootsPerVoteToBless : UInt64
  afnContract : Address
  inflightTime : TimeUnit
  maxFreshBlockAge : TimeUnit
  uponFinalityViolationVoteToCurseOnOtherChains : Bool
deriving DecidableEq

/-- What all nodes agree on about a lane. -/
structure SharedLaneConfig where
  laneId : LaneId
  laneType : LaneType
  sourceStartBlockNumber : UInt64
  destStartBlockNumber : UInt64
  commitStore : Address
  onRamp : Address
  offRamp : Address
deriving DecidableEq

/-- An address only means something on its chain. -/
structure QualifiedAddress where
  chain : ChainName
  address : Address
deriving DecidableEq

def SharedLaneConfig.qualifiedCommitStore (self : SharedLaneConfig) :
    QualifiedAddress where
  chain := self.laneId.destChainName
  address := self.commitStore

/-- What a node decides for itself about a chain. -/
structure LocalChainConfig where
  name : ChainName
  disabled : Bool
  rpcs : List String
deriving DecidableEq

/-- The configuration that the rest of the node reads, after the two files have
been checked against each other. -/
structure OffchainConfig where
  sharedConfigByEnabledChain : EntryMap ChainName SharedChainConfig
  sharedConfigByDisabledChain : EntryMap ChainName SharedChainConfig
  sharedConfigByEnabledLane : EntryMap LaneId SharedLaneConfig
  localConfigByEnabledChain : EntryMap ChainName LocalChainConfig

/-- The errors of `OffchainConfig::new`, one constructor for each text. -/
inductive ConfigError where
  | duplicateLocalConfig (name : ChainName)
  | duplicateSharedConfig (name : ChainName)
  | noSharedConfig (chain : ChainName)
  | noLocalConfig (chain : ChainName)
  | duplicateLane (laneId : LaneId)
  | duplicateCommitStore (qualifiedCommitStore : QualifiedAddress)
  | unknownChain (laneConfig : SharedLaneConfig) (chain : ChainName)
  | matchingSourceAndDest (laneConfig : SharedLaneConfig)
deriving DecidableEq

section Duplicates

variable {Item Key : Type} [DecidableEq Key] (keyFn : Item → Key)

/-- The loop of `find_duplicate`, with the keys it has met so far. -/
def findDuplicateFrom (keySet : Finset Key) : List Item → Option (Item × Key)
  | [] => none
  | item :: rest =>
      if keyFn item ∈ keySet then
        some (item, keyFn item)
      else
        findDuplicateFrom (insert (keyFn item) keySet) rest

/-- The first item whose key an earlier one has. -/
def findDuplicate (list : List Item) : Option (Item × Key) :=
  findDuplicateFrom keyFn ∅ list

/-- `if let Some((_, key)) = find_duplicate(..)` and its `return`. -/
def checkDuplicates (list : List Item) (error : Key → ConfigError) :
    Except ConfigError Unit :=
  match findDuplicate keyFn list with
  | some (_, key) => .error (error key)
  | none => .ok ()

end Duplicates

/-- Every chain has an entry in the map. -/
def checkKnown {Value : Type} (map : EntryMap ChainName Value)
    (error : ChainName → ConfigError) (chains : List ChainName) :
    Except ConfigError Unit :=
  chains.forM fun chain =>
    if chain ∈ map then .ok () else .error (error chain)

/-- Both ends of a lane are known, and they are not the same chain. -/
def checkLane (sharedConfigByChain : EntryMap ChainName SharedChainConfig)
    (laneConfig : SharedLaneConfig) : Except ConfigError Unit := do
  let laneId := laneConfig.laneId
  checkKnown sharedConfigByChain (.unknownChain laneConfig)
    [laneId.sourceChainName, laneId.destChainName]
  if laneId.sourceChainName = laneId.destChainName then
    .error (.matchingSourceAndDest laneConfig)
  else
    .ok ()

namespace OffchainConfig

/-- What `new` builds from lists that passed its checks. -/
def build (sharedConfigByChain : EntryMap ChainName SharedChainConfig)
    (sharedLaneConfigs : List SharedLaneConfig)
    (localConfigByChain : EntryMap ChainName LocalChainConfig) :
    OffchainConfig :=
  let localConfigByEnabledChain :=
    EntryMap.filter (fun _ c => !c.disabled) localConfigByChain
  let sharedConfigByEnabledChain :=
    EntryMap.filter (fun chain _ => chain ∈ localConfigByEnabledChain)
      sharedConfigByChain
  { sharedConfigByEnabledChain
    sharedConfigByDisabledChain :=
      EntryMap.filter (fun chain _ => chain ∉ localConfigByEnabledChain)
        sharedConfigByChain
    sharedConfigByEnabledLane :=
      EntryMap.collect ((sharedLaneConfigs.filter fun c =>
        c.laneId.sourceChainName ∈ sharedConfigByEnabledChain ∧
          c.laneId.destChainName ∈ sharedConfigByEnabledChain).map
            fun c => (c.laneId, c))
    localConfigByEnabledChain }

/-- Rejects lists that do not fit together. -/
def new (sharedChainConfigs : List SharedChainConfig)
    (sharedLaneConfigs : List SharedLaneConfig)
    (localChainConfigs : List LocalChainConfig) :
    Except ConfigError OffchainConfig := do
  checkDuplicates LocalChainConfig.name localChainConfigs
    .duplicateLocalConfig
  let localConfigByChain :=
    EntryMap.collect (localChainConfigs.map fun c => (c.name, c))
  checkDuplicates SharedChainConfig.name sharedChainConfigs
    .duplicateSharedConfig
  let sharedConfigByChain :=
    EntryMap.collect (sharedChainConfigs.map fun c => (c.name, c))
  checkKnown sharedConfigByChain .noSharedConfig localConfigByChain.keys
  checkKnown localConfigByChain .noLocalConfig sharedConfigByChain.keys
  checkDuplicates SharedLaneConfig.laneId sharedLaneConfigs .duplicateLane
  checkDuplicates SharedLaneConfig.qualifiedCommitStore sharedLaneConfigs
    .duplicateCommitStore
  sharedLaneConfigs.forM (checkLane sharedConfigByChain)
  return build sharedConfigByChain sharedLaneConfigs localConfigByChain

/-- `none` is the panic of the `unwrap`. -/
def destChains (self : OffchainConfig) :
    Option (EntryMap ChainName SharedChainConfig) :=
  self.sharedConfigByEnabledLane.keys.foldlM (fun h laneId => do
    let config ←
      self.sharedConfigByEnabledChain.lookup laneId.destChainName
    return h.insert laneId.destChainName config) ∅

def enabledChains (self : OffchainConfig) : List ChainName :=
  self.sharedConfigByEnabledChain.keys

def enabledLanes (self : OffchainConfig) : List LaneId :=
  self.sharedConfigByEnabledLane.keys

def disabledChains (self : OffchainConfig) : List ChainName :=
  self.sharedConfigByDisabledChain.keys

/-- The lanes that the voting manager of a chain is given. -/
def laneConfigs (self : OffchainConfig) (chainName : ChainName) :
    EntryMap LaneId SharedLaneConfig :=
  EntryMap.filter (fun laneId _ => laneId.destChainName = chainName)
    self.sharedConfigByEnabledLane

end OffchainConfig

/-- The table in which the worker that votes to bless finds a root's lane. -/
def laneIdByCommitStore (laneConfigs : EntryMap LaneId SharedLaneConfig) :
    EntryMap Address LaneId :=
  EntryMap.collect (laneConfigs.entries.map fun entry =>
    (entry.2.commitStore, entry.1))

end RiskManagement
