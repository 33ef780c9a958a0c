import RiskManagement.Library.MapTraversal
import RiskManagement.Afn.CurseNode
import RiskManagement.Afn.LaneValidation
import RiskManagement.Afn.PruningCheck
import RiskManagement.Afn.SignManualTransaction
import RiskManagement.Afn.VoteToCurseWorker

/-!
# Starting the node

`run_afn` gets the keys and `State::new_and_spawn_workers` checks the RPCs, the
contracts and the voters before it spawns the workers.  What a worker does is
modelled with the worker; here is what it is started with.
-/

namespace RiskManagement

open Panics

/-! ### Outcomes -/

/-- A path, as the file system knows it. -/
structure CurseFilePath where
  hasParent : Bool
  isDir : Bool
  openToAppend : Except String Nat

/-- Why the curse file cannot be used. -/
inductive CurseFileError where
  | refused
  | io (detail : String)
deriving DecidableEq

/-- Why no client can be made out of a list of URLs. -/
inductive JsonRpcNewError where
  | urlError (detail : String)
  | notEnoughUrls
deriving DecidableEq

/-- Every error that ends the start of the node. -/
inductive StartupError where
  | keystorePathRequired (mode : VotingMode)
  | keystore (detail : String)
  | missingKeys
  | curseFile (error : CurseFileError)
  | noRpcEndpoint (chain : ChainName)
  | severalRpcEndpoints (chain : ChainName)
  | connecting (error : JsonRpcNewError)
  | prunedRpc (cause : PrunedRpc)
  | onchainConfigs (cause : InvalidLane)
  | onchainConfigNotFound (chain : ChainName)
  | keyNotFound (chain : ChainName)
  | noMatchingVoter (blessAddress curseAddress : Address) (chain : ChainName)
  | sourceChainConfigNotFound (chain : ChainName)
  | destChainConfigNotFound (chain : ChainName)
  | sourceChainStateNotFound (chain : ChainName)
  | destChainStateNotFound (chain : ChainName)
  | destChainOnchainConfigNotFound (chain : ChainName)
  | metricsFile (detail : String)
  | panicked

/-- `none` is a wait that takes longer than the fuel. -/
abbrev Startup := ExceptT StartupError Option

def waitFor {α : Type} (awaited : Option α) : Startup α := orPanic awaited

/-- `unwrap`, and an index into a map. -/
def unwrap {α : Type} : Option α → Startup α
  | none => throw .panicked
  | some value => return value

/-- A check in other threads, whose panic is one of this thread too. -/
def orPanicked {ε α : Type} (fail : ε → StartupError) (run : Run ε α) :
    Startup α :=
  match run.run with
  | none => throw .panicked
  | some (.error error) => throw (fail error)
  | some (.ok value) => return value

/-- `ok_or_else(..)?`. -/
def okOr {α : Type} (error : StartupError) : Option α → Startup α
  | none => throw error
  | some value => return value

/-- `?` on a plain result. -/
def orFail {ε α : Type} (fail : ε → StartupError) : Except ε α → Startup α
  | .error error => throw (fail error)
  | .ok value => return value

/-! ### Keys -/

abbrev BlessCurseKeysByChain := EntryMap ChainName BlessCurseKeys

/-- `BlessCurseKeysByChain::generate`; `draw` answers the random generator. -/
def generateKeys (draw : ChainName → BlessCurseKeys)
    (chains : List ChainName) : BlessCurseKeysByChain :=
  EntryMap.collect (chains.map fun chain => (chain, draw chain))

/-- Every enabled chain has its keys. -/
def ensureKeysForChains (config : OffchainConfig)
    (keys : BlessCurseKeysByChain) : Bool :=
  config.enabledChains.all fun chain => (keys.lookup chain).isSome

/-- The first part of `run_afn`.  The keystore is the file at the path, if one
was given. -/
def keysOfMode (draw : ChainName → BlessCurseKeys) (config : OffchainConfig)
    (keystore : Option (Except String BlessCurseKeysByChain)) :
    VotingMode → Startup BlessCurseKeysByChain
  | .passive => return generateKeys draw config.enabledChains
  | mode => do
      let file ← okOr (.keystorePathRequired mode) keystore
      let keys ← orFail .keystore file
      if !ensureKeysForChains config keys then throw .missingKeys
      return keys

/-! ### Checks -/

/-- Only a node in the mode `unreliableRemote` has a curse file. -/
def openCurseFile (mode : VotingMode) (experimental : Bool)
    (curseFilePath : Option CurseFilePath) :
    Except CurseFileError (Option Nat) :=
  if mode = .unreliableRemote then
    if !experimental then
      .error .refused
    else
      match curseFilePath with
      | none => .error .refused
      | some path =>
          if !path.hasParent then .error .refused
          else if path.isDir then .error .refused
          else (path.openToAppend.mapError .io).map some
  else
    .ok none

/-- `JsonRpc::new_many`; `checkUrl` is `ServerState::new`. -/
def newMany (checkUrl : String → Except String Unit) (rpcUrls : List String) :
    Except JsonRpcNewError Unit :=
  if rpcUrls.isEmpty then .error .notEnoughUrls
  else (rpcUrls.forM checkUrl).mapError .urlError

/-- What a chain's node answers. -/
structure ChainRpc where
  getLogs : GetLogs
  call : CallRpc

/-- A chain has one URL unless several are allowed. -/
def connectRpc (checkUrl : String → Except String Unit)
    (dangerousAllowMultipleRpcs : Bool) (rpc : ChainName → ChainRpc)
    (chainName : ChainName) (localChainConfig : LocalChainConfig) :
    Startup ChainRpc := do
  if localChainConfig.rpcs.isEmpty then throw (.noRpcEndpoint chainName)
  if !dangerousAllowMultipleRpcs && localChainConfig.rpcs.length != 1 then
    throw (.severalRpcEndpoints chainName)
  orFail .connecting (newMany checkUrl localChainConfig.rpcs)
  return rpc chainName

/-- The keys of a chain belong to one of its voters. -/
def checkVoter (keys : BlessCurseKeysByChain)
    (onchainConfigs : EntryMap ChainName VersionedOnchainConfig)
    (chainName : ChainName) : Startup Unit := do
  let versionedOnchainConfig ← okOr (.onchainConfigNotFound chainName)
    (onchainConfigs.lookup chainName)
  let keys ← okOr (.keyNotFound chainName) (keys.lookup chainName)
  let matchingVoterFound := versionedOnchainConfig.config.voters.toList.any
    fun voter => voter.blessVoteAddr = keys.bless.address ∧
      voter.curseVoteAddr = keys.curse.address
  if !matchingVoterFound then
    throw (.noMatchingVoter keys.bless.address keys.curse.address chainName)

/-- The check of all destination chains. -/
def validateVoterAddresses (destChains : List ChainName)
    (keys : BlessCurseKeysByChain)
    (onchainConfigs : EntryMap ChainName VersionedOnchainConfig) :
    Startup Unit :=
  destChains.forM (checkVoter keys onchainConfigs)

/-! ### What is spawned -/

/-- The workers of a chain. -/
structure ChainState where
  name : ChainName
  chainStatusUpdater : ChainStatusUpdater
  latestChainStatus : Option ChainStatus
  configDiscoveryWorker : OnchainConfigDiscoveryWorker

def ChainState.newAndSpawnWorkers (config : SharedChainConfig) :
    ChainState where
  name := config.name
  chainStatusUpdater := config.stability.chainStatusUpdater
  latestChainStatus := none
  configDiscoveryWorker := .spawn config

/-- The workers of a lane. -/
structure LaneState (Bits : Type) where
  laneId : LaneId
  sourceBlessWorker : SourceBlessWorker
  destBlessWorker : DestBlessWorker
  laneBlessStatus : Option LaneBlessStatus
  destOfframpWorker : DestOffRampWorker Bits
  offrampAnomalyDetector : OffRampAnomalyDetectorState

def LaneState.newAndSpawnWorkers {Bits : Type} [BitSet Bits]
    (keccak : Keccak) (laneConfig : SharedLaneConfig)
    (sourceChainConfig destChainConfig : SharedChainConfig)
    (destChainOnchainConfigVersion : UInt32)
    (destChainVoteToBlessAddress : Address) : Startup (LaneState Bits) := do
  let sourceChainSelector ← unwrap (chainSelector sourceChainConfig.name)
  let destChainSelector ← unwrap (chainSelector destChainConfig.name)
  return {
    laneId := laneConfig.laneId
    sourceBlessWorker := .spawn (.new laneConfig.sourceStartBlockNumber
      [laneConfig.onRamp]
      (.new { onrampAddress := laneConfig.onRamp
              sourceChainSelector := sourceChainSelector
              destChainSelector := destChainSelector })
      { laneType := laneConfig.laneType })
    destBlessWorker := .spawn (.new laneConfig.destStartBlockNumber
      [laneConfig.commitStore, destChainConfig.afnContract]
      (.new destChainVoteToBlessAddress laneConfig.commitStore
        destChainOnchainConfigVersion)
      { laneType := laneConfig.laneType })
    laneBlessStatus := none
    destOfframpWorker := .spawn (.new laneConfig.destStartBlockNumber
      [laneConfig.offRamp] .default (executionFilter keccak))
    offrampAnomalyDetector := .default }

/-- `VOTE_TO_BLESS_WORKER_POLL_INTERVAL`, five seconds. -/
def voteToBlessWorkerPollInterval : Nat := 5 * 1000000000

/-- `Duration::from`, in nanoseconds. -/
def TimeUnit.toNanoseconds (time : TimeUnit) : Nat :=
  time.toSeconds.toNat * 1000000000

/-- The two voting workers of a chain and what they were spawned with. -/
structure AFNVotingManager where
  chainName : ChainName
  afnContract : AFNInterface
  onchainConfig : OnchainConfig
  keys : BlessCurseKeys
  voteToBlessConfig : VoteToBlessConfig LaneId
  voteToBlessWorker : VoteToBlessWorker LaneId
  voteToCurseConfig : VoteToCurseConfig
  voteToCurseWorker : VoteToCurseWorker

def AFNVotingManager.newAndSpawnWorkers (config : SharedChainConfig)
    (onchainConfig : OnchainConfig) (keys : BlessCurseKeys)
    (laneConfigs : EntryMap LaneId SharedLaneConfig) (mode : VotingMode)
    (curseFile : Option Nat) : AFNVotingManager :=
  let voteToBlessConfig : VoteToBlessConfig LaneId :=
    { maxTaggedRootsPerVoteToBless :=
        config.maxTaggedRootsPerVoteToBless.toNat
      inflightTime := config.inflightTime.toNanoseconds
      pollInterval := voteToBlessWorkerPollInterval
      laneIdByCommitStore := (laneIdByCommitStore laneConfigs).lookup
      mode := mode }
  { chainName := config.name
    afnContract := ⟨config.afnContract⟩
    onchainConfig := onchainConfig
    keys := keys
    voteToBlessConfig := voteToBlessConfig
    voteToBlessWorker := .start voteToBlessConfig
    voteToCurseConfig :=
      { chainName := config.name
        mode := mode
        hasCurseFile := curseFile.isSome }
    voteToCurseWorker := .start }

/-! ### Names of the workers -/

def ChainName.toString : ChainName → String
  | arbitrum => "Arbitrum"
  | avax => "Avax"
  | base => "Base"
  | bsc => "Bsc"
  | celo => "Celo"
  | ethereum => "Ethereum"
  | gnosis => "Gnosis"
  | kroma => "Kroma"
  | linea => "Linea"
  | mantle => "Mantle"
  | metis => "Metis"
  | optimism => "Optimism"
  | polygon => "Polygon"
  | polygonZkEvm => "PolygonZkEvm"
  | scroll => "Scroll"
  | wemix => "Wemix"
  | arbitrumGoerli => "ArbitrumGoerli"
  | arbitrumSepolia => "ArbitrumSepolia"
  | avaxFuji => "AvaxFuji"
  | baseGoerli => "BaseGoerli"
  | baseSepolia => "BaseSepolia"
  | bscTestnet => "BscTestnet"
  | celoAlfajores => "CeloAlfajores"
  | fraxtalTestnet => "FraxtalTestnet"
  | gnosisChiado => "GnosisChiado"
  | goerli => "Goerli"
  | kromaSepolia => "KromaSepolia"
  | lineaSepolia => "LineaSepolia"
  | mantleGoerli => "MantleGoerli"
  | mantleSepolia => "MantleSepolia"
  | metisSepolia => "MetisSepolia"
  | optimismGoerli => "OptimismGoerli"
  | optimismSepolia => "OptimismSepolia"
  | polygonMumbai => "PolygonMumbai"
  | polygonAmoy => "PolygonAmoy"
  | polygonZkEvmTestnet => "PolygonZkEvmTestnet"
  | polygonZkEvmSepolia => "PolygonZkEvmSepolia"
  | scrollSepolia => "ScrollSepolia"
  | sepolia => "Sepolia"
  | wemixTestnet => "WemixTestnet"
  | zkSyncGoerli => "ZkSyncGoerli"

def LaneId.toString (laneId : LaneId) : String :=
  "Lane(" ++ laneId.sourceChainName.toString ++ "->" ++
    laneId.destChainName.toString ++ "," ++ laneId.name ++ ")"

/-- A worker of something, by the texts that name it. -/
def workerName (worker : String) (texts : List String) : String :=
  worker ++ "(" ++ ",".intercalate texts ++ ")"

def chainWorkerNames (config : SharedChainConfig) : List String :=
  [workerName "ChainStatusWorker" [config.name.toString],
    workerName "ConfigDiscoveryWorker"
      [config.name.toString, config.afnContract.toString],
    workerName "GasFeeMetricsUpdateWorker" [config.name.toString]]

def laneWorkerNames (laneId : LaneId) : List String :=
  ["SourceBlessWorker", "DestBlessWorker", "LaneBlessStatusWorker",
    "DestOffRampWorker", "OffRampAnomalyDetector"].map fun worker =>
      workerName worker [laneId.toString]

def votingWorkerNames (config : SharedChainConfig) : List String :=
  ["VoteToBlessWorker", "VoteToCurseWorker"].map fun worker =>
    workerName worker [config.name.toString, config.afnContract.toString]

/-- The threads are numbered as they are spawned. -/
def spawnThreads (workerNames : List String) : List ShutdownHandle :=
  workerNames.zipIdx.map fun (name, thread) =>
    { workerName := name
      joinHandle := some thread }

/-! ### `State::new_and_spawn_workers` -/

/-- The options of `afn run` that the start depends on. -/
structure StartOptions where
  mode : VotingMode
  manualCurse : Option CurseId
  dangerousAllowMultipleRpcs : Bool
  checkRpcPruning : Bool
  experimental : Bool

/-- What the node meets when it starts.  `metricsFile` is the result of the
checks of `MetricsFileWorker::spawn`. -/
structure StartWorld where
  checkUrl : String → Except String Unit
  rpc : ChainName → ChainRpc
  latest : ChainName → Nat → Option VersionedOnchainConfig
  curseFilePath : Option CurseFilePath
  metricsFile : Except String Unit
  draw : CursableAnomaly → CurseId

/-- `State`. -/
structure AfnState (Bits : Type) where
  destChains : EntryMap ChainName SharedChainConfig
  chainStates : EntryMap ChainName ChainState
  laneStates : EntryMap LaneId (LaneState Bits)
  curseBeacon : CurseBeacon
  afnVotingManagers : EntryMap ChainName AFNVotingManager
  onchainConfigs : EntryMap ChainName VersionedOnchainConfig
  shutdownHandles : List ShutdownHandle

section Start

variable {Bits : Type} [BitSet Bits] (keccak : Keccak)
  (options : StartOptions) (world : StartWorld) (fuel : Nat)
  (config : OffchainConfig) (keys : BlessCurseKeysByChain)

def connectRpcs : Startup (EntryMap ChainName ChainRpc) :=
  EntryMap.traverse
    (connectRpc world.checkUrl options.dangerousAllowMultipleRpcs world.rpc)
    config.localConfigByEnabledChain

/-- Made only where the option asks for it. -/
def checkPruning (rpcs : EntryMap ChainName ChainRpc) : Startup Unit :=
  if options.checkRpcPruning then do
    let result ← waitFor (ensureRpcsNotPruned config
      (fun chain => (rpcs.lookup chain).map ChainRpc.getLogs) fuel)
    orFail .prunedRpc result
  else
    return ()

/-- The contracts of the lanes must be those of the configuration. -/
def checkContracts (rpcs : EntryMap ChainName ChainRpc) : Startup Unit :=
  orPanicked .onchainConfigs (validateOnchainConfigs keccak
    (fun chain => (rpcs.lookup chain).map ChainRpc.call) config)

def spawnChain (rpcs : EntryMap ChainName ChainRpc) (chainName : ChainName)
    (chainConfig : SharedChainConfig) : Startup ChainState := do
  let _ ← unwrap (rpcs.lookup chainName)
  return .newAndSpawnWorkers chainConfig

/-- `get_onchain_configs`, which looks for the worker of each chain. -/
def discoverOnchainConfigs (destChains : List ChainName)
    (chainStates : EntryMap ChainName ChainState) :
    Startup (EntryMap ChainName VersionedOnchainConfig) :=
  destChains.foldlM
    (fun (onchainConfigs : EntryMap ChainName VersionedOnchainConfig)
        chainName => do
      let _ ← unwrap (chainStates.lookup chainName)
      let versioned ←
        waitFor (discoverOnchainConfig (world.latest chainName) fuel)
      return onchainConfigs.insert chainName versioned)
    ∅

/-- A passive node need not be a voter. -/
def checkVoters (destChains : List ChainName)
    (onchainConfigs : EntryMap ChainName VersionedOnchainConfig) :
    Startup Unit :=
  match options.mode with
  | .passive => return ()
  | _ => validateVoterAddresses destChains keys onchainConfigs

def spawnLane (rpcs : EntryMap ChainName ChainRpc)
    (chainStates : EntryMap ChainName ChainState)
    (onchainConfigs : EntryMap ChainName VersionedOnchainConfig)
    (laneId : LaneId) (laneConfig : SharedLaneConfig) :
    Startup (LaneState Bits) := do
  let sourceChainName := laneId.sourceChainName
  let destChainName := laneId.destChainName
  let sourceChainConfig ← okOr (.sourceChainConfigNotFound sourceChainName)
    (config.sharedConfigByEnabledChain.lookup sourceChainName)
  let destChainConfig ← okOr (.destChainConfigNotFound destChainName)
    (config.sharedConfigByEnabledChain.lookup destChainName)
  let _ ← okOr (.sourceChainStateNotFound sourceChainName)
    (chainStates.lookup sourceChainName)
  let _ ← okOr (.destChainStateNotFound destChainName)
    (chainStates.lookup destChainName)
  let destChainOnchainConfig ←
    okOr (.destChainOnchainConfigNotFound destChainName)
      (onchainConfigs.lookup destChainName)
  let _ ← unwrap (rpcs.lookup sourceChainName)
  let _ ← unwrap (rpcs.lookup destChainName)
  let destKeys ← unwrap (keys.lookup destChainName)
  LaneState.newAndSpawnWorkers keccak laneConfig sourceChainConfig
    destChainConfig destChainOnchainConfig.version destKeys.bless.address

/-- The workers that vote on one chain. -/
def spawnVotingManager (curseFile : Option Nat)
    (rpcs : EntryMap ChainName ChainRpc)
    (onchainConfigs : EntryMap ChainName VersionedOnchainConfig)
    (chainName : ChainName) (chainConfig : SharedChainConfig) :
    Startup AFNVotingManager := do
  let _ ← unwrap (rpcs.lookup chainName)
  let onchainConfig ← unwrap (onchainConfigs.lookup chainName)
  let ownKeys ← unwrap (keys.lookup chainName)
  return .newAndSpawnWorkers chainConfig onchainConfig.config ownKeys
    (config.laneConfigs chainName) options.mode curseFile

def workerNames (destChains : EntryMap ChainName SharedChainConfig) :
    List String :=
  (config.sharedConfigByEnabledChain.entries.flatMap fun entry =>
      chainWorkerNames entry.2) ++
    config.enabledLanes.flatMap laneWorkerNames ++
    (destChains.entries.flatMap fun entry => votingWorkerNames entry.2) ++
    ["Reaper", "MetricsFileWorker"]

/-- The whole start; the checks come before the workers that vote. -/
def newAndSpawnWorkers : Startup (AfnState Bits) := do
  let curseFile ← orFail .curseFile
    (openCurseFile options.mode options.experimental world.curseFilePath)
  let rpcs ← connectRpcs options world config
  checkPruning options fuel config rpcs
  checkContracts keccak config rpcs
  let chainStates ← EntryMap.traverse (spawnChain rpcs)
    config.sharedConfigByEnabledChain
  let destChains ← unwrap config.destChains
  let onchainConfigs ←
    discoverOnchainConfigs world fuel destChains.keys chainStates
  checkVoters options keys destChains.keys onchainConfigs
  let laneStates ← EntryMap.traverse
    (spawnLane keccak config keys rpcs chainStates onchainConfigs)
    config.sharedConfigByEnabledLane
  let curseBeacon := CurseBeacon.new chainStates.keys laneStates.keys
    (globalCurseChains config) options.manualCurse world.draw
  let afnVotingManagers ← EntryMap.traverse
    (spawnVotingManager options config keys curseFile rpcs onchainConfigs)
    destChains
  orFail .metricsFile world.metricsFile
  return {
    destChains := destChains
    chainStates := chainStates
    laneStates := laneStates
    curseBeacon := curseBeacon
    afnVotingManagers := afnVotingManagers
    onchainConfigs := onchainConfigs
    shutdownHandles := spawnThreads (workerNames config destChains) }

/-- What `run_afn` does before the monitor. -/
def startNode (drawKeys : ChainName → BlessCurseKeys)
    (keystore : Option (Except String BlessCurseKeysByChain)) :
    Startup (AfnState Bits) := do
  let keys ← keysOfMode drawKeys config keystore options.mode
  newAndSpawnWorkers keccak options world fuel config keys

end Start

end RiskManagement
