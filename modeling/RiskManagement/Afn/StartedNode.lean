import RiskManagement.Afn.NodeSupervision
import RiskManagement.Afn.StartupConditions

/-!
# What the node has when it starts

The state that was started is what the threads that curse, the threads that
bless and the monitor begin with.
-/

namespace RiskManagement

open Panics

variable {Bits : Type}

/-! ### Steps of the start -/

section Steps

variable [BitSet Bits] {keccak : Keccak} {options : StartOptions}
  {world : StartWorld}
  {fuel : Nat} {config : OffchainConfig} {keys : BlessCurseKeysByChain}
  {state : AfnState Bits}

/-- Every step of a start that succeeds. -/
structure StartSteps (keccak : Keccak) (options : StartOptions)
    (world : StartWorld) (fuel : Nat) (config : OffchainConfig)
    (keys : BlessCurseKeysByChain) (state : AfnState Bits)
    (curseFile : Option Nat) (rpcs : EntryMap ChainName ChainRpc) :
    Prop where
  opened : openCurseFile options.mode options.experimental
    world.curseFilePath = .ok curseFile
  connected : connectRpcs options world config = returns (.ok rpcs)
  notPruned : checkPruning options fuel config rpcs = returns (.ok ())
  contracts : checkContracts keccak config rpcs = returns (.ok ())
  chainStates : EntryMap.traverse (spawnChain rpcs)
    config.sharedConfigByEnabledChain = returns (.ok state.chainStates)
  destChains : config.destChains = some state.destChains
  discovered : discoverOnchainConfigs world fuel state.destChains.keys
    state.chainStates = returns (.ok state.onchainConfigs)
  voters : checkVoters options keys state.destChains.keys
    state.onchainConfigs = returns (.ok ())
  laneStates : EntryMap.traverse (spawnLane keccak config keys rpcs
    state.chainStates state.onchainConfigs)
      config.sharedConfigByEnabledLane = returns (.ok state.laneStates)
  curseBeacon : state.curseBeacon =
    .new state.chainStates.keys state.laneStates.keys
      (globalCurseChains config) options.manualCurse world.draw
  votingManagers : EntryMap.traverse (spawnVotingManager options config
    keys curseFile rpcs state.onchainConfigs) state.destChains =
      returns (.ok state.afnVotingManagers)
  metricsFile : world.metricsFile = .ok ()
  shutdownHandles : state.shutdownHandles =
    spawnThreads (workerNames config state.destChains)

theorem newAndSpawnWorkers_eq_ok_iff :
    newAndSpawnWorkers keccak options world fuel config keys =
        returns (.ok state) ↔
      ∃ curseFile rpcs, StartSteps keccak options world fuel config keys state
        curseFile rpcs := by
  rw [newAndSpawnWorkers]
  simp only [bind_eq_ok_iff, orFail_eq_ok_iff, unwrap_eq_ok_iff,
    pure_eq_ok_iff]
  constructor
  · rintro ⟨curseFile, opened, rpcs, connected, _, notPruned, _, contracts,
      chainStates, isChains, destChains, isDest, onchainConfigs, discovered,
      _, voters, laneStates, isLanes, managers, isManagers, _, metricsFile,
      isState⟩
    subst isState
    exact ⟨curseFile, rpcs, opened, connected, notPruned, contracts, isChains,
      isDest, discovered, voters, isLanes, rfl, isManagers, metricsFile, rfl⟩
  · rintro ⟨curseFile, rpcs, steps⟩
    refine ⟨curseFile, steps.opened, rpcs, steps.connected, (),
      steps.notPruned, (), steps.contracts, state.chainStates,
      steps.chainStates, state.destChains, steps.destChains,
      state.onchainConfigs, steps.discovered, (), steps.voters,
      state.laneStates, steps.laneStates, state.afnVotingManagers,
      steps.votingManagers, (), steps.metricsFile, ?_⟩
    rw [← steps.curseBeacon, ← steps.shutdownHandles]

end Steps

/-! ### What was started -/

/-- The part of the state that the monitor reads. -/
def AfnState.nodeState (state : AfnState Bits) : NodeState where
  destChains := state.destChains.keys
  laneStates := state.laneStates.keys
  curseBeacon := state.curseBeacon
  shutdownHandles := state.shutdownHandles
  onchainConfigs := state.onchainConfigs

/-- What a lane has for its detector. -/
def LaneState.detectedLane (lane : LaneState Bits) : DetectedLane Bits where
  sourceBlessWorker := lane.sourceBlessWorker
  destOfframpWorker := lane.destOfframpWorker
  offrampAnomalyDetector := lane.offrampAnomalyDetector
  taken := ∅

def LaneState.laneWorkers (lane : LaneState Bits) : LaneWorkers where
  sourceBlessWorker := lane.sourceBlessWorker
  destBlessWorker := lane.destBlessWorker
  laneBlessStatus := lane.laneBlessStatus

/-- The threads that curse, just after the start. -/
structure CurseNode.Begins (node : CurseNode Bits) (state : AfnState Bits) :
    Prop where
  chains : ∀ chain, node.latestChainStatus chain =
    (state.chainStates.lookup chain).bind ChainState.latestChainStatus
  lanes : ∀ laneId lane, state.laneStates.lookup laneId = some lane →
    node.lanes laneId = lane.detectedLane
  beacon : node.curseBeacon = state.curseBeacon
  idle : node.updating = none

/-- The threads that bless on a chain, just after the start. -/
structure BlessNode.Begins (node : BlessNode) (state : AfnState Bits)
    (destChain : ChainName) (manager : AFNVotingManager) : Prop where
  lanes : ∀ laneId lane, laneId.destChainName = destChain →
    state.laneStates.lookup laneId = some lane →
      node.lanes laneId = lane.laneWorkers
  voter : node.voter = manager.voteToBlessWorker

section Started

variable [BitSet Bits] {keccak : Keccak} {options : StartOptions}
  {world : StartWorld}
  {fuel : Nat} {config : OffchainConfig} {keys : BlessCurseKeysByChain}
  {state : AfnState Bits} {curseFile : Option Nat}
  {rpcs : EntryMap ChainName ChainRpc}

theorem getOnchainConfigs_of_discover {destChains : List ChainName}
    {chainStates : EntryMap ChainName ChainState}
    {onchainConfigs : EntryMap ChainName VersionedOnchainConfig}
    (discovered : discoverOnchainConfigs world fuel destChains chainStates =
      returns (.ok onchainConfigs)) :
    getOnchainConfigs destChains world.latest fuel = some onchainConfigs := by
  rw [discoverOnchainConfigs] at discovered
  rw [getOnchainConfigs]
  generalize (∅ : EntryMap ChainName VersionedOnchainConfig) = known
    at discovered ⊢
  induction destChains generalizing known with
  | nil =>
      cases discovered
      rfl
  | cons chain rest ih =>
      rw [List.foldlM_cons] at discovered ⊢
      simp only [bind_eq_ok_iff, unwrap_eq_ok_iff, waitFor_eq_ok_iff,
        pure_eq_ok_iff] at discovered
      obtain ⟨_, ⟨_, _, versioned, isFound, rfl⟩, others⟩ := discovered
      rw [isFound]
      exact ih _ others

theorem StartSteps.nodeState_started
    (steps : StartSteps keccak options world fuel config keys state curseFile
      rpcs) : state.nodeState.Started config options.manualCurse where
  dest := ⟨state.destChains, steps.destChains, rfl⟩
  lanes := (EntryMap.traverse_sound steps.laneStates).1
  beacon := by
    refine ⟨world.draw, ?_⟩
    rw [startBeacon, OffchainConfig.enabledChains,
      OffchainConfig.enabledLanes,
      ← (EntryMap.traverse_sound steps.chainStates).1,
      ← (EntryMap.traverse_sound steps.laneStates).1]
    exact steps.curseBeacon
  fresh := by
    intro handle member
    rw [AfnState.nodeState, steps.shutdownHandles, spawnThreads] at member
    obtain ⟨_, _, rfl⟩ := List.mem_map.mp member
    rfl
  discovered :=
    ⟨world.latest, fuel, getOnchainConfigs_of_discover steps.discovered⟩

/-- What a lane is started with. -/
structure LaneStart (keccak : Keccak) (config : OffchainConfig)
    (keys : BlessCurseKeysByChain)
    (onchainConfigs : EntryMap ChainName VersionedOnchainConfig)
    (laneId : LaneId) (laneConfig : SharedLaneConfig)
    (lane : LaneState Bits) where
  sourceChainConfig : SharedChainConfig
  destChainConfig : SharedChainConfig
  versioned : VersionedOnchainConfig
  ownKeys : BlessCurseKeys
  isSource : config.sharedConfigByEnabledChain.lookup
    laneId.sourceChainName = some sourceChainConfig
  isDest : config.sharedConfigByEnabledChain.lookup
    laneId.destChainName = some destChainConfig
  isVersioned : onchainConfigs.lookup laneId.destChainName = some versioned
  areKeys : keys.lookup laneId.destChainName = some ownKeys
  spawned : LaneState.newAndSpawnWorkers keccak laneConfig sourceChainConfig
    destChainConfig versioned.version ownKeys.bless.address =
      returns (.ok lane)

theorem exists_laneStart {chainStates : EntryMap ChainName ChainState}
    {onchainConfigs : EntryMap ChainName VersionedOnchainConfig}
    {laneId : LaneId} {laneConfig : SharedLaneConfig} {lane : LaneState Bits}
    (spawned : spawnLane keccak config keys rpcs chainStates onchainConfigs
      laneId laneConfig = returns (.ok lane)) :
    Nonempty (LaneStart keccak config keys onchainConfigs laneId laneConfig
      lane) := by
  simp only [spawnLane, bind_eq_ok_iff, okOr_eq_ok_iff, unwrap_eq_ok_iff]
    at spawned
  obtain ⟨source, isSource, dest, isDest, _, _, _, _, versioned, isVersioned,
    _, _, _, _, ownKeys, areKeys, isLane⟩ := spawned
  exact ⟨source, dest, versioned, ownKeys, isSource, isDest, isVersioned,
    areKeys, isLane⟩

/-- A lane that was spawned has selectors, and the initial states of its
workers are those of the models of the node's parts. -/
theorem LaneState.spawned_parts {laneConfig : SharedLaneConfig}
    {source dest : SharedChainConfig} {version : UInt32} {voter : Address}
    {lane : LaneState Bits}
    (sourceName : source.name = laneConfig.laneId.sourceChainName)
    (destName : dest.name = laneConfig.laneId.destChainName)
    (spawned : newAndSpawnWorkers keccak laneConfig source dest version voter =
      returns (.ok lane)) :
    ∃ messageMetadata, laneConfig.messageMetadata = some messageMetadata ∧
      (∀ setup : CurseSetup, setup.keccak = keccak →
        lane.detectedLane = setup.spawnLane laneConfig messageMetadata) ∧
      ∀ setup : BlessSetup, setup.afnContract = dest.afnContract →
        setup.onchainConfigVersion = version →
          setup.voteToBlessAddress = voter →
            lane.laneWorkers =
              setup.spawnLane laneConfig messageMetadata := by
  simp only [newAndSpawnWorkers, bind_eq_ok_iff, unwrap_eq_ok_iff,
    pure_eq_ok_iff, sourceName, destName] at spawned
  obtain ⟨sourceSelector, isSource, destSelector, isDest, rfl⟩ := spawned
  refine ⟨{ onrampAddress := laneConfig.onRamp
            sourceChainSelector := sourceSelector
            destChainSelector := destSelector },
    messageMetadata_eq_some_iff.mpr ⟨isSource, isDest, rfl⟩, ?_, ?_⟩
  · rintro setup rfl
    rfl
  · rintro setup isContract rfl rfl
    rw [BlessSetup.spawnLane, isContract]
    rfl

theorem StartSteps.lane
    (steps : StartSteps keccak options world fuel config keys state curseFile
      rpcs) {laneId : LaneId} {laneConfig : SharedLaneConfig}
    (found : config.sharedConfigByEnabledLane.lookup laneId =
      some laneConfig) :
    ∃ lane, state.laneStates.lookup laneId = some lane ∧
      Nonempty (LaneStart keccak config keys state.onchainConfigs laneId
        laneConfig lane) := by
  obtain ⟨lane, spawned, isLane⟩ :=
    (EntryMap.traverse_sound steps.laneStates).2 laneId laneConfig found
  exact ⟨lane, isLane, exists_laneStart spawned⟩

theorem StartSteps.curseNode_started (coherent : config.Coherent)
    (steps : StartSteps keccak options world fuel config keys state curseFile
      rpcs) {node : CurseNode Bits} (begins : node.Begins state) :
    node.Started ⟨keccak, config, options.manualCurse⟩ where
  chains := by
    intro chain
    rw [begins.chains]
    cases isChain : state.chainStates.lookup chain with
    | none => rfl
    | some chainState =>
        obtain ⟨chainConfig, _, spawned⟩ :=
          EntryMap.lookup_of_traverse steps.chainStates isChain
        obtain ⟨_, rfl⟩ := spawnChain_eq_ok_iff.mp spawned
        rfl
  lanes := by
    intro laneId laneConfig found
    obtain ⟨lane, isLane, ⟨start⟩⟩ := steps.lane found
    have isId := coherent.laneId found
    obtain ⟨messageMetadata, known, detected, _⟩ := LaneState.spawned_parts
      ((coherent.chainName start.isSource).trans
        (congrArg LaneId.sourceChainName isId.symm))
      ((coherent.chainName start.isDest).trans
        (congrArg LaneId.destChainName isId.symm)) start.spawned
    refine ⟨messageMetadata, known, ?_⟩
    rw [begins.lanes laneId lane isLane]
    exact detected _ rfl
  beacon := by
    obtain ⟨draw, isBeacon⟩ := steps.nodeState_started.beacon
    refine ⟨draw, ?_⟩
    rw [begins.beacon]
    exact isBeacon
  idle := begins.idle

/-- What the voting manager of a chain is started with. -/
structure ManagerStart (options : StartOptions) (config : OffchainConfig)
    (keys : BlessCurseKeysByChain) (state : AfnState Bits)
    (curseFile : Option Nat) (destChain : ChainName)
    (manager : AFNVotingManager) where
  chainConfig : SharedChainConfig
  versioned : VersionedOnchainConfig
  ownKeys : BlessCurseKeys
  isChain : config.sharedConfigByEnabledChain.lookup destChain =
    some chainConfig
  isVersioned : state.onchainConfigs.lookup destChain = some versioned
  areKeys : keys.lookup destChain = some ownKeys
  spawned : manager = .newAndSpawnWorkers chainConfig versioned.config ownKeys
    (config.laneConfigs destChain) options.mode curseFile

theorem StartSteps.manager (coherent : config.Coherent)
    (steps : StartSteps keccak options world fuel config keys state curseFile
      rpcs) {destChain : ChainName} {manager : AFNVotingManager}
    (isManager : state.afnVotingManagers.lookup destChain = some manager) :
    Nonempty (ManagerStart options config keys state curseFile destChain
      manager) := by
  obtain ⟨chainConfig, isDest, spawned⟩ :=
    EntryMap.lookup_of_traverse steps.votingManagers isManager
  simp only [spawnVotingManager, bind_eq_ok_iff, unwrap_eq_ok_iff,
    pure_eq_ok_iff] at spawned
  obtain ⟨_, _, versioned, isVersioned, ownKeys, areKeys, isSpawned⟩ := spawned
  exact ⟨chainConfig, versioned, ownKeys,
    ((coherent.lookup_destChains steps.destChains).mp isDest).1, isVersioned,
    areKeys, isSpawned.symm⟩

/-- The setting of the part of the node that blesses on a chain. -/
def AFNVotingManager.blessSetup (manager : AFNVotingManager) (keccak : Keccak)
    (config : OffchainConfig)
    (accepted : ∃ sharedChainConfigs sharedLaneConfigs localChainConfigs,
      OffchainConfig.new sharedChainConfigs sharedLaneConfigs
        localChainConfigs = .ok config)
    (destChain : ChainName) (onchainConfigVersion : UInt32)
    (world : VotingWorld LaneId) : BlessSetup where
  keccak := keccak
  config := config
  accepted := accepted
  destChain := destChain
  afnContract := manager.afnContract.address
  onchainConfigVersion := onchainConfigVersion
  voteToBlessAddress := manager.keys.bless.address
  maxTaggedRootsPerVoteToBless :=
    manager.voteToBlessConfig.maxTaggedRootsPerVoteToBless
  inflightTime := manager.voteToBlessConfig.inflightTime
  pollInterval := manager.voteToBlessConfig.pollInterval
  mode := manager.voteToBlessConfig.mode
  world := world

theorem StartSteps.blessNode_started (coherent : config.Coherent)
    (steps : StartSteps keccak options world fuel config keys state curseFile
      rpcs) {accepted : ∃ sharedChainConfigs sharedLaneConfigs
        localChainConfigs, OffchainConfig.new sharedChainConfigs
          sharedLaneConfigs localChainConfigs = .ok config}
    {destChain : ChainName} {manager : AFNVotingManager}
    (isManager : state.afnVotingManagers.lookup destChain = some manager)
    {versioned : VersionedOnchainConfig}
    (isVersioned : state.onchainConfigs.lookup destChain = some versioned)
    {votingWorld : VotingWorld LaneId} {node : BlessNode}
    (begins : node.Begins state destChain manager) :
    node.Started (manager.blessSetup keccak config accepted destChain
      versioned.version votingWorld) := by
  obtain ⟨⟨chainConfig, _, ownKeys, isChain, known, areKeys, rfl⟩⟩ :=
    steps.manager coherent isManager
  cases isVersioned.symm.trans known
  constructor
  · intro laneId laneConfig found
    obtain ⟨isLaneConfig, isDest⟩ :=
      OffchainConfig.lookup_laneConfigs.mp found
    obtain ⟨lane, isLane, ⟨start⟩⟩ := steps.lane isLaneConfig
    have isId := coherent.laneId isLaneConfig
    obtain ⟨messageMetadata, known, _, workers⟩ := LaneState.spawned_parts
      ((coherent.chainName start.isSource).trans
        (congrArg LaneId.sourceChainName isId.symm))
      ((coherent.chainName start.isDest).trans
        (congrArg LaneId.destChainName isId.symm)) start.spawned
    refine ⟨messageMetadata, known, ?_⟩
    rw [begins.lanes laneId lane isDest isLane]
    have sameDest := start.isDest
    have sameVersion := start.isVersioned
    have sameKeys := start.areKeys
    rw [isDest] at sameDest sameVersion sameKeys
    apply workers
    · exact congrArg SharedChainConfig.afnContract
        (Option.some.inj (isChain.symm.trans sameDest))
    · exact congrArg VersionedOnchainConfig.version
        (Option.some.inj (isVersioned.symm.trans sameVersion))
    · exact congrArg (fun keys => keys.bless.address)
        (Option.some.inj (areKeys.symm.trans sameKeys))
  · rw [begins.voter]
    rfl

theorem StartSteps.hasCurseFile_iff (coherent : config.Coherent)
    (steps : StartSteps keccak options world fuel config keys state curseFile
      rpcs) {destChain : ChainName} {manager : AFNVotingManager}
    (isManager : state.afnVotingManagers.lookup destChain = some manager) :
    manager.voteToCurseConfig.hasCurseFile = true ↔
      options.mode = .unreliableRemote := by
  obtain ⟨start⟩ := steps.manager coherent isManager
  have opened := openCurseFile_eq_ok_iff.mp steps.opened
  rw [start.spawned]
  change curseFile.isSome = true ↔ _
  split at opened
  · rename_i isRemote
    obtain ⟨_, _, file, _, _, _, _, rfl⟩ := opened
    simp [isRemote]
  · rename_i notRemote
    subst opened
    simp [notRemote]

/-- The settings of a voting manager are those of its chain's configuration in
the file and of the one that was found on the chain, and a node that votes
has the keys of one of the voters there. -/
structure AFNVotingManager.ConfiguredBy (manager : AFNVotingManager)
    (options : StartOptions) (chainConfig : SharedChainConfig)
    (onchainConfig : OnchainConfig)
    (laneConfigs : EntryMap LaneId SharedLaneConfig) : Prop where
  afnContract : manager.afnContract.address = chainConfig.afnContract
  discovered : manager.onchainConfig = onchainConfig
  batch : manager.voteToBlessConfig.maxTaggedRootsPerVoteToBless =
    chainConfig.maxTaggedRootsPerVoteToBless.toNat
  inflight : manager.voteToBlessConfig.inflightTime =
    chainConfig.inflightTime.toNanoseconds
  laneIds : manager.voteToBlessConfig.laneIdByCommitStore =
    (laneIdByCommitStore laneConfigs).lookup
  blessMode : manager.voteToBlessConfig.mode = options.mode
  curseMode : manager.voteToCurseConfig.mode = options.mode
  curseChain : manager.voteToCurseConfig.chainName = chainConfig.name
  curseFile : manager.voteToCurseConfig.hasCurseFile = true ↔
    options.mode = .unreliableRemote
  curseWorker : manager.voteToCurseWorker = .start
  voter : options.mode ≠ .passive → onchainConfig.HasVoter manager.keys

theorem StartSteps.mem_destChains
    (steps : StartSteps keccak options world fuel config keys state curseFile
      rpcs) {destChain : ChainName} {manager : AFNVotingManager}
    (isManager : state.afnVotingManagers.lookup destChain = some manager) :
    destChain ∈ state.destChains := by
  rw [AList.mem_keys, ← (EntryMap.traverse_sound steps.votingManagers).1,
    ← AList.mem_keys]
  exact EntryMap.mem_iff.mpr ⟨manager, isManager⟩

theorem StartSteps.hasVoter
    (steps : StartSteps keccak options world fuel config keys state curseFile
      rpcs) (votes : options.mode ≠ .passive) {destChain : ChainName}
    (isDest : destChain ∈ state.destChains)
    {versioned : VersionedOnchainConfig}
    (isVersioned : state.onchainConfigs.lookup destChain = some versioned)
    {ownKeys : BlessCurseKeys}
    (areKeys : keys.lookup destChain = some ownKeys) :
    versioned.config.HasVoter ownKeys := by
  have voters := steps.voters
  rw [checkVoters_of_votes votes, validateVoterAddresses] at voters
  have passed := forM_eq_ok_iff.mp voters destChain (AList.mem_keys.mp isDest)
  exact hasVoter_of_checkVoter passed isVersioned areKeys

theorem StartSteps.isDiscovered (coherent : config.Coherent)
    (steps : StartSteps keccak options world fuel config keys state curseFile
      rpcs) {destChain : ChainName}
    (isDest : destChain ∈ state.destChains)
    {versioned : VersionedOnchainConfig}
    (isVersioned : state.onchainConfigs.lookup destChain = some versioned) :
    discoveredConfig world fuel destChain = some versioned := by
  have areDest : ∀ chain ∈ state.destChains.keys,
      ∃ laneId ∈ config.enabledLanes, laneId.destChainName = chain := by
    intro chain member
    exact (coherent.mem_destChains steps.destChains).mp
      (AList.mem_keys.mpr member)
  have spawned : ∀ chain ∈ state.destChains.keys,
      chain ∈ state.chainStates := by
    intro chain member
    obtain ⟨laneId, isLane, rfl⟩ := areDest chain member
    rw [AList.mem_keys, (EntryMap.traverse_sound steps.chainStates).1,
      ← AList.mem_keys]
    exact (coherent.laneChains (AList.mem_keys.mpr isLane)).2
  have ended : Ends (StartWaits options world fuel config)
      (StartFailure keccak options world fuel config none) _
      (discoverOnchainConfigs world fuel state.destChains.keys
        state.chainStates) :=
    discoverOnchainConfigs_ends areDest spawned
  obtain ⟨found, isFound, isDiscovered⟩ := ended.gives steps.discovered
    destChain (AList.mem_keys.mp isDest)
  cases isVersioned.symm.trans isFound
  exact isDiscovered

theorem StartSteps.configuredBy (coherent : config.Coherent)
    (steps : StartSteps keccak options world fuel config keys state curseFile
      rpcs) {destChain : ChainName} {manager : AFNVotingManager}
    (isManager : state.afnVotingManagers.lookup destChain = some manager)
    (start : ManagerStart options config keys state curseFile destChain
      manager) :
    manager.ConfiguredBy options start.chainConfig start.versioned.config
      (config.laneConfigs destChain) := by
  have curseFile := steps.hasCurseFile_iff coherent isManager
  have voter : options.mode ≠ .passive →
      start.versioned.config.HasVoter start.ownKeys :=
    fun votes => steps.hasVoter votes (steps.mem_destChains isManager)
      start.isVersioned start.areKeys
  obtain ⟨chainConfig, versioned, ownKeys, _, _, _, rfl⟩ := start
  exact ⟨rfl, rfl, rfl, rfl, rfl, rfl, rfl, rfl, curseFile, rfl, voter⟩

theorem StartSteps.mem_managers (coherent : config.Coherent)
    (steps : StartSteps keccak options world fuel config keys state curseFile
      rpcs) {destChain : ChainName} :
    destChain ∈ state.afnVotingManagers ↔
      ∃ laneId ∈ config.enabledLanes, laneId.destChainName = destChain := by
  rw [AList.mem_keys, (EntryMap.traverse_sound steps.votingManagers).1,
    ← AList.mem_keys]
  exact coherent.mem_destChains steps.destChains

/-- A node that has started is where every model of a part of it begins: the
monitor, the threads that curse, and, for each destination chain of an enabled
lane and no other chain, the threads that bless there.  Each voting manager
has the settings that were checked; one that votes has the keys of the
keystore. -/
theorem started_parts_begin {draw : ChainName → BlessCurseKeys}
    {keystore : Option (Except String BlessCurseKeysByChain)}
    (accepted : ∃ sharedChainConfigs sharedLaneConfigs localChainConfigs,
      OffchainConfig.new sharedChainConfigs sharedLaneConfigs
        localChainConfigs = .ok config)
    (started : startNode keccak options world fuel config draw keystore =
      returns (.ok state)) :
    state.nodeState.Started config options.manualCurse ∧
      (∀ node : CurseNode Bits, node.Begins state →
        node.Started ⟨keccak, config, options.manualCurse⟩) ∧
      (∀ destChain, destChain ∈ state.afnVotingManagers ↔
        ∃ laneId ∈ config.enabledLanes, laneId.destChainName = destChain) ∧
      ∀ destChain manager,
        state.afnVotingManagers.lookup destChain = some manager →
          ∃ chainConfig versioned,
            config.sharedConfigByEnabledChain.lookup destChain =
                some chainConfig ∧
              state.onchainConfigs.lookup destChain = some versioned ∧
                discoveredConfig world fuel destChain = some versioned ∧
                manager.ConfiguredBy options chainConfig versioned.config
                  (config.laneConfigs destChain) ∧
                (options.mode ≠ .passive → ∃ keys,
                  keystore = some (.ok keys) ∧
                    keys.lookup destChain = some manager.keys) ∧
                ∀ votingWorld (node : BlessNode),
                  node.Begins state destChain manager →
                    node.Started (manager.blessSetup keccak config accepted
                      destChain versioned.version votingWorld) := by
  have coherent : config.Coherent := by
    obtain ⟨_, _, _, isConfig⟩ := accepted
    exact OffchainConfig.coherent_of_new isConfig
  obtain ⟨keys, areKeys, spawned⟩ := bind_eq_ok_iff.mp started
  obtain ⟨curseFile, rpcs, steps⟩ :=
    newAndSpawnWorkers_eq_ok_iff.mp spawned
  have ended : Ends (StartWaits options world fuel config)
      (StartFailure keccak options world fuel config keystore)
      (KeysReady options config keystore)
      (keysOfMode draw config keystore options.mode) :=
    keysOfMode_ends draw
  have keysReady := ended.gives areKeys
  refine ⟨steps.nodeState_started,
    fun node begins => steps.curseNode_started coherent begins,
    fun destChain => steps.mem_managers coherent, ?_⟩
  intro destChain manager isManager
  obtain ⟨start⟩ := steps.manager coherent isManager
  refine ⟨start.chainConfig, start.versioned, start.isChain,
    start.isVersioned, steps.isDiscovered coherent
      (steps.mem_destChains isManager) start.isVersioned,
    steps.configuredBy coherent isManager start, ?_, ?_⟩
  · intro votes
    refine ⟨keys, keysReady.ofKeystore votes, ?_⟩
    rw [start.spawned]
    exact start.areKeys
  · intro votingWorld node begins
    exact steps.blessNode_started coherent isManager start.isVersioned begins

end Started

theorem started_parts_begin_sampleStart :
    ∃ (state : AfnState SmallBitSet) (manager : AFNVotingManager),
      state.nodeState.Started SampleStart.config none ∧
        state.afnVotingManagers.lookup .avaxFuji = some manager ∧
        manager.ConfiguredBy SampleStart.options
          (OffchainConfig.sampleChain .avaxFuji) sampleAfnConfig.config
          (SampleStart.config.laneConfigs .avaxFuji) ∧
        manager.keys = SampleStart.keys .avaxFuji ∧
        sampleAfnConfig.config.HasVoter manager.keys := by
  obtain ⟨state, started⟩ := SampleStart.conditions.starts SampleStart.keys
    SmallBitSet (OffchainConfig.coherent_of_new SampleStart.accepted)
  obtain ⟨begins, _, managers, areConfigured⟩ :=
    started_parts_begin ⟨_, _, _, SampleStart.accepted⟩ started
  have member : .avaxFuji ∈ state.afnVotingManagers :=
    (managers _).mpr ⟨SampleLane.laneConfig.laneId, by decide, rfl⟩
  obtain ⟨manager, isManager⟩ := EntryMap.mem_iff.mp member
  obtain ⟨chainConfig, versioned, isChain, _, isDiscovered, configured,
    hasKeys, _⟩ := areConfigured _ _ isManager
  cases isChain
  cases isDiscovered
  obtain ⟨_, isKeystore, areKeys⟩ := hasKeys nofun
  cases isKeystore
  have isOwn : SampleStart.keys .avaxFuji = manager.keys :=
    Option.some.inj areKeys
  exact ⟨state, manager, begins, isManager, configured, isOwn.symm,
    configured.voter nofun⟩

end RiskManagement
