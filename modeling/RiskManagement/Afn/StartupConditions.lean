import RiskManagement.Library.Outcomes
import RiskManagement.Afn.ConfigAcceptance
import RiskManagement.Afn.Startup

/-!
# When the node starts

With a configuration that was accepted the start succeeds exactly when its
checks pass.  A start that fails names a check that does not pass, and it
panics only where the check of the contracts does.
-/

namespace RiskManagement

open Panics

/-! ### Configurations that were accepted -/

namespace OffchainConfig

/-- Every entry is filed under its own key, and the chains of an enabled lane
are enabled in both files. -/
structure Coherent (config : OffchainConfig) : Prop where
  chainName : ∀ {chain c},
    config.sharedConfigByEnabledChain.lookup chain = some c → c.name = chain
  laneId : ∀ {laneId c},
    config.sharedConfigByEnabledLane.lookup laneId = some c →
      c.laneId = laneId
  laneChains : ∀ {laneId}, laneId ∈ config.sharedConfigByEnabledLane →
    laneId.sourceChainName ∈ config.sharedConfigByEnabledChain ∧
      laneId.destChainName ∈ config.sharedConfigByEnabledChain
  localChain : ∀ {chain}, chain ∈ config.sharedConfigByEnabledChain →
    chain ∈ config.localConfigByEnabledChain

theorem coherent_of_new {sharedChainConfigs : List SharedChainConfig}
    {sharedLaneConfigs : List SharedLaneConfig}
    {localChainConfigs : List LocalChainConfig} {config : OffchainConfig}
    (accepted : OffchainConfig.new sharedChainConfigs sharedLaneConfigs
      localChainConfigs = .ok config) : config.Coherent := by
  obtain ⟨acceptable, rfl⟩ := new_eq_ok_iff.mp accepted
  have parts := build_partitions acceptable
  constructor
  · intro chain c found
    exact ((parts.enabledChain chain c).mp found).2.1
  · intro laneId c found
    exact ((parts.enabledLane laneId c).mp found).2.1
  · intro laneId member
    obtain ⟨_, source, dest⟩ := parts.mem_enabledLanes.mp
      (AList.mem_keys.mp member)
    exact ⟨AList.mem_keys.mpr ((parts.mem_enabledChains acceptable).mpr source),
      AList.mem_keys.mpr ((parts.mem_enabledChains acceptable).mpr dest)⟩
  · intro chain member
    obtain ⟨c, isLocal, isName, enabled⟩ :=
      (parts.mem_enabledChains acceptable).mp (AList.mem_keys.mp member)
    exact EntryMap.mem_iff.mpr
      ⟨c, (parts.localConfig chain c).mpr ⟨isLocal, isName, enabled⟩⟩

theorem Coherent.lookup_destChains {config : OffchainConfig}
    (coherent : config.Coherent)
    {destChains : EntryMap ChainName SharedChainConfig}
    (isDest : config.destChains = some destChains) {chain : ChainName}
    {c : SharedChainConfig} :
    destChains.lookup chain = some c ↔
      config.sharedConfigByEnabledChain.lookup chain = some c ∧
        ∃ laneId ∈ config.enabledLanes, laneId.destChainName = chain := by
  obtain ⟨chains, areChains, lookups⟩ := config.destChains_of_known
    fun laneId member => (coherent.laneChains (AList.mem_keys.mpr member)).2
  rw [areChains, Option.some.injEq] at isDest
  subst isDest
  exact lookups chain c

theorem Coherent.mem_destChains {config : OffchainConfig}
    (coherent : config.Coherent)
    {destChains : EntryMap ChainName SharedChainConfig}
    (isDest : config.destChains = some destChains) {chain : ChainName} :
    chain ∈ destChains ↔
      ∃ laneId ∈ config.enabledLanes, laneId.destChainName = chain := by
  rw [EntryMap.mem_iff]
  simp only [coherent.lookup_destChains isDest]
  constructor
  · intro ⟨_, _, isLane⟩
    exact isLane
  · intro ⟨laneId, member, isLane⟩
    obtain ⟨chainConfig, found⟩ := EntryMap.mem_iff.mp
      (coherent.laneChains (AList.mem_keys.mpr member)).2
    rw [isLane] at found
    exact ⟨chainConfig, found, laneId, member, isLane⟩

end OffchainConfig

/-! ### What the checks ask for -/

/-- The RPCs that the node connects. -/
def StartWorld.enabledRpc (world : StartWorld) (config : OffchainConfig)
    (chain : ChainName) : Option ChainRpc :=
  (config.localConfigByEnabledChain.lookup chain).map fun _ => world.rpc chain

/-- The keys vote as one of the voters. -/
def OnchainConfig.HasVoter (onchainConfig : OnchainConfig)
    (keys : BlessCurseKeys) : Prop :=
  ∃ voter ∈ onchainConfig.voters.toList,
    voter.blessVoteAddr = keys.bless.address ∧
      voter.curseVoteAddr = keys.curse.address

theorem OnchainConfig.any_voter_iff {onchainConfig : OnchainConfig}
    {keys : BlessCurseKeys} :
    (onchainConfig.voters.toList.any fun voter =>
      voter.blessVoteAddr = keys.bless.address ∧
        voter.curseVoteAddr = keys.curse.address) = true ↔
      onchainConfig.HasVoter keys := by
  simp [HasVoter]

/-! ### Fallible steps -/

section Lifts

variable {α ε : Type} {value : α} {Nothing : Prop}
  {Fails : StartupError → Prop}

theorem unwrap_eq_ok_iff {wrapped : Option α} :
    unwrap wrapped = returns (.ok value) ↔ wrapped = some value := by
  cases wrapped with
  | none => exact ⟨nofun, nofun⟩
  | some found => exact pure_eq_ok_iff.trans Option.some_inj.symm

theorem okOr_eq_ok_iff {error : StartupError} {wrapped : Option α} :
    okOr error wrapped = returns (.ok value) ↔ wrapped = some value := by
  cases wrapped with
  | none => exact ⟨nofun, nofun⟩
  | some found => exact pure_eq_ok_iff.trans Option.some_inj.symm

theorem waitFor_eq_ok_iff {awaited : Option α} :
    waitFor awaited = returns (.ok value) ↔ awaited = some value :=
  orPanic_eq_ok_iff

theorem orFail_eq_ok_iff {fail : ε → StartupError} {result : Except ε α} :
    orFail fail result = returns (.ok value) ↔ result = .ok value := by
  cases result with
  | error error => exact ⟨nofun, nofun⟩
  | ok found =>
      rw [Except.ok.injEq]
      exact pure_eq_ok_iff

theorem ends_okOr {error : StartupError} {wrapped : Option α}
    (isNone : wrapped = none → Fails error) :
    Ends Nothing Fails (fun value => wrapped = some value)
      (okOr error wrapped) := by
  cases wrapped with
  | none => exact isNone rfl
  | some value => exact ends_ok rfl

theorem ends_waitFor {awaited : Option α} (isNone : awaited = none → Nothing) :
    Ends Nothing Fails (fun value => awaited = some value)
      (waitFor awaited) := by
  cases awaited with
  | none => exact isNone rfl
  | some value => exact ends_ok rfl

theorem ends_orFail {fail : ε → StartupError} {result : Except ε α}
    (isError : ∀ error, result = .error error → Fails (fail error)) :
    Ends Nothing Fails (fun value => result = .ok value)
      (orFail fail result) := by
  cases result with
  | error error => exact isError error rfl
  | ok value => exact ends_ok rfl

end Lifts

section Conditions

variable (keccak : Keccak) (options : StartOptions) (world : StartWorld)
  (fuel : Nat) (config : OffchainConfig)
  (keystore : Option (Except String BlessCurseKeysByChain))

/-- What the check for pruned nodes ends with. -/
def pruningResult : Option (Except PrunedRpc Unit) :=
  ensureRpcsNotPruned config
    (fun chain => (world.enabledRpc config chain).map ChainRpc.getLogs) fuel

/-- What the check of the contracts ends with. -/
def contractsResult : Run InvalidLane Unit :=
  validateOnchainConfigs keccak
    (fun chain => (world.enabledRpc config chain).map ChainRpc.call) config

/-- The configuration that the contract of a chain is found to have. -/
def discoveredConfig (chain : ChainName) : Option VersionedOnchainConfig :=
  discoverOnchainConfig (world.latest chain) fuel

/-- Every check of the start passes. -/
structure StartConditions : Prop where
  keystore : options.mode ≠ .passive →
    ∃ keys, keystore = some (.ok keys) ∧
      (∀ chain ∈ config.enabledChains, chain ∈ keys) ∧
      ∀ laneId ∈ config.enabledLanes, ∀ versioned ownKeys,
        discoveredConfig world fuel laneId.destChainName = some versioned →
          keys.lookup laneId.destChainName = some ownKeys →
            versioned.config.HasVoter ownKeys
  curseFile : options.mode = .unreliableRemote →
    options.experimental = true ∧ ∃ path file,
      world.curseFilePath = some path ∧ path.hasParent = true ∧
        path.isDir = false ∧ path.openToAppend = .ok file
  rpcs : ∀ chain localConfig,
    config.localConfigByEnabledChain.lookup chain = some localConfig →
      localConfig.rpcs ≠ [] ∧
        (options.dangerousAllowMultipleRpcs = true ∨
          localConfig.rpcs.length = 1) ∧
        ∀ url ∈ localConfig.rpcs, world.checkUrl url = .ok ()
  notPruned : options.checkRpcPruning = true →
    pruningResult world fuel config = some (.ok ())
  contracts : contractsResult keccak world config = returns (.ok ())
  discovered : ∀ laneId ∈ config.enabledLanes,
    ∃ versioned, discoveredConfig world fuel laneId.destChainName =
      some versioned
  metricsFile : world.metricsFile = .ok ()

/-- What a start may still wait for. -/
inductive StartWaits : Prop where
  | pruningCheck : options.checkRpcPruning = true →
      pruningResult world fuel config = none → StartWaits
  | discovery {laneId : LaneId} : laneId ∈ config.enabledLanes →
      discoveredConfig world fuel laneId.destChainName = none → StartWaits

/-- Each error of a start, with the check that does not pass. -/
inductive StartFailure : StartupError → Prop where
  | keystorePathRequired : options.mode ≠ .passive → keystore = none →
      StartFailure (.keystorePathRequired options.mode)
  | keystore {detail : String} : options.mode ≠ .passive →
      keystore = some (.error detail) → StartFailure (.keystore detail)
  | missingKeys {keys : BlessCurseKeysByChain} {chain : ChainName} :
      options.mode ≠ .passive → keystore = some (.ok keys) →
        chain ∈ config.enabledChains → chain ∉ keys →
          StartFailure .missingKeys
  | curseFile {error : CurseFileError} :
      openCurseFile options.mode options.experimental world.curseFilePath =
        .error error → StartFailure (.curseFile error)
  | noRpcEndpoint {chain : ChainName} {localConfig : LocalChainConfig} :
      config.localConfigByEnabledChain.lookup chain = some localConfig →
        localConfig.rpcs = [] → StartFailure (.noRpcEndpoint chain)
  | severalRpcEndpoints {chain : ChainName} {localConfig : LocalChainConfig} :
      config.localConfigByEnabledChain.lookup chain = some localConfig →
        options.dangerousAllowMultipleRpcs = false →
          1 < localConfig.rpcs.length →
            StartFailure (.severalRpcEndpoints chain)
  | connecting {chain : ChainName} {localConfig : LocalChainConfig}
      {url detail : String} :
      config.localConfigByEnabledChain.lookup chain = some localConfig →
        url ∈ localConfig.rpcs → world.checkUrl url = .error detail →
          StartFailure (.connecting (.urlError detail))
  | prunedRpc {cause : PrunedRpc} : options.checkRpcPruning = true →
      pruningResult world fuel config = some (.error cause) →
        StartFailure (.prunedRpc cause)
  | onchainConfigs {cause : InvalidLane} :
      contractsResult keccak world config = returns (.error cause) →
        StartFailure (.onchainConfigs cause)
  | panicked : ¬Returns (contractsResult keccak world config) →
      StartFailure .panicked
  | noMatchingVoter {keys : BlessCurseKeysByChain} {laneId : LaneId}
      {versioned : VersionedOnchainConfig} {ownKeys : BlessCurseKeys} :
      options.mode ≠ .passive → keystore = some (.ok keys) →
        laneId ∈ config.enabledLanes →
          discoveredConfig world fuel laneId.destChainName =
            some versioned →
            keys.lookup laneId.destChainName = some ownKeys →
              ¬versioned.config.HasVoter ownKeys →
                StartFailure (.noMatchingVoter ownKeys.bless.address
                  ownKeys.curse.address laneId.destChainName)
  | metricsFile {detail : String} : world.metricsFile = .error detail →
      StartFailure (.metricsFile detail)

end Conditions

section Checks

variable {keccak : Keccak} {options : StartOptions} {world : StartWorld}
  {fuel : Nat} {config : OffchainConfig} {keys : BlessCurseKeysByChain}
  {keystore : Option (Except String BlessCurseKeysByChain)}

theorem openCurseFile_eq_ok_iff {mode : VotingMode} {experimental : Bool}
    {curseFilePath : Option CurseFilePath} {curseFile : Option Nat} :
    openCurseFile mode experimental curseFilePath = .ok curseFile ↔
      if mode = .unreliableRemote then
        experimental = true ∧ ∃ path file, curseFilePath = some path ∧
          path.hasParent = true ∧ path.isDir = false ∧
            path.openToAppend = .ok file ∧ some file = curseFile
      else
        none = curseFile := by
  by_cases isRemote : mode = .unreliableRemote
  · subst isRemote
    rw [if_pos rfl]
    cases experimental with
    | false => simp [openCurseFile]
    | true =>
        cases curseFilePath with
        | none => simp [openCurseFile]
        | some path =>
            obtain ⟨hasParent, isDir, openToAppend⟩ := path
            cases hasParent <;> cases isDir <;> cases openToAppend <;>
              simp [openCurseFile, Except.map, Except.mapError]
  · rw [if_neg isRemote]
    simp [openCurseFile, isRemote]

theorem StartConditions.no_failure
    (conditions : StartConditions keccak options world fuel config keystore)
    (failure : StartupError) :
    ¬StartFailure keccak options world fuel config keystore failure := by
  intro failed
  cases failed with
  | keystorePathRequired votes isNone =>
      obtain ⟨_, isKeystore, _⟩ := conditions.keystore votes
      rw [isNone] at isKeystore
      cases isKeystore
  | keystore votes isError =>
      obtain ⟨_, isKeystore, _⟩ := conditions.keystore votes
      rw [isError] at isKeystore
      cases isKeystore
  | missingKeys votes isOk member missing =>
      obtain ⟨_, isKeystore, covers, _⟩ := conditions.keystore votes
      rw [isOk] at isKeystore
      cases isKeystore
      exact missing (covers _ member)
  | curseFile isError =>
      have opened : ∃ curseFile, openCurseFile options.mode
          options.experimental world.curseFilePath = .ok curseFile := by
        simp only [openCurseFile_eq_ok_iff]
        by_cases isRemote : options.mode = .unreliableRemote
        · obtain ⟨experimental, path, file, isPath, hasParent, noDir,
            isOpen⟩ := conditions.curseFile isRemote
          refine ⟨some file, ?_⟩
          rw [if_pos isRemote]
          exact ⟨experimental, path, file, isPath, hasParent, noDir, isOpen,
            rfl⟩
        · refine ⟨none, ?_⟩
          rw [if_neg isRemote]
      obtain ⟨_, isOk⟩ := opened
      rw [isError] at isOk
      cases isOk
  | noRpcEndpoint found isEmpty =>
      exact (conditions.rpcs _ _ found).1 isEmpty
  | severalRpcEndpoints found notAllowed several =>
      rcases (conditions.rpcs _ _ found).2.1 with allowed | single
      · rw [notAllowed] at allowed
        cases allowed
      · omega
  | connecting found member isError =>
      have isOk := (conditions.rpcs _ _ found).2.2 _ member
      rw [isError] at isOk
      cases isOk
  | prunedRpc checked isError =>
      have isOk := conditions.notPruned checked
      rw [isError] at isOk
      cases isOk
  | onchainConfigs isError =>
      have isOk := conditions.contracts
      rw [isError] at isOk
      cases isOk
  | panicked panics => exact panics ⟨_, conditions.contracts⟩
  | noMatchingVoter votes isOk member isVersioned areKeys noVoter =>
      obtain ⟨_, isKeystore, _, voters⟩ := conditions.keystore votes
      rw [isOk] at isKeystore
      cases isKeystore
      exact noVoter (voters _ member _ _ isVersioned areKeys)
  | metricsFile isError =>
      have isOk := conditions.metricsFile
      rw [isError] at isOk
      cases isOk

theorem StartConditions.no_wait
    (conditions : StartConditions keccak options world fuel config keystore) :
    ¬StartWaits options world fuel config := by
  intro waits
  cases waits with
  | pruningCheck checked isNone =>
      have isOk := conditions.notPruned checked
      rw [isNone] at isOk
      cases isOk
  | discovery member isNone =>
      obtain ⟨_, isSome⟩ := conditions.discovered _ member
      rw [isNone] at isSome
      cases isSome

/-! ### The steps -/

/-- The keys of the node: of the keystore, or made for its chains. -/
structure KeysReady (options : StartOptions) (config : OffchainConfig)
    (keystore : Option (Except String BlessCurseKeysByChain))
    (keys : BlessCurseKeysByChain) : Prop where
  ofKeystore : options.mode ≠ .passive → keystore = some (.ok keys)
  cover : ∀ chain ∈ config.enabledChains, chain ∈ keys

theorem ensureKeysForChains_eq_true_iff :
    ensureKeysForChains config keys = true ↔
      ∀ chain ∈ config.enabledChains, chain ∈ keys := by
  simp [ensureKeysForChains, AList.lookup_isSome]

theorem keysOfMode_ends (draw : ChainName → BlessCurseKeys) :
    Ends (StartWaits options world fuel config)
      (StartFailure keccak options world fuel config keystore)
      (KeysReady options config keystore)
      (keysOfMode draw config keystore options.mode) := by
  by_cases passive : options.mode = .passive
  · rw [passive]
    apply ends_ok
    refine ⟨fun votes => absurd passive votes, ?_⟩
    intro chain member
    apply EntryMap.mem_collect_map.mpr
    rw [List.map_id']
    exact member
  · have votes : keysOfMode draw config keystore options.mode = do
        let file ← okOr (.keystorePathRequired options.mode) keystore
        let keys ← orFail .keystore file
        if !ensureKeysForChains config keys then throw .missingKeys
        return keys := by
      cases isMode : options.mode with
      | passive => exact absurd isMode passive
      | active => rfl
      | dryRun => rfl
      | unreliableRemote => rfl
    rw [votes]
    apply (ends_okOr fun isNone => .keystorePathRequired passive isNone).bind
    intro file isFile
    apply (ends_orFail fun detail isError =>
      .keystore passive (isError ▸ isFile)).bind
    intro keys areKeys
    rw [areKeys] at isFile
    apply ends_guard
    · intro notCovered
      have lacking : ¬∀ chain ∈ config.enabledChains, chain ∈ keys := by
        rw [← ensureKeysForChains_eq_true_iff]
        simpa using notCovered
      push Not at lacking
      obtain ⟨chain, member, missing⟩ := lacking
      exact .missingKeys passive isFile member missing
    · intro covers
      apply ends_ok
      refine ⟨fun _ => isFile, ensureKeysForChains_eq_true_iff.mp ?_⟩
      simpa using covers

/-- The first checks need nothing but the options and the world. -/
theorem openCurseFile_ends :
    Ends (StartWaits options world fuel config)
      (StartFailure keccak options world fuel config keystore)
      (fun _ => options.mode = .unreliableRemote →
        options.experimental = true ∧ ∃ path file,
          world.curseFilePath = some path ∧ path.hasParent = true ∧
            path.isDir = false ∧ path.openToAppend = .ok file)
      (orFail .curseFile (openCurseFile options.mode options.experimental
        world.curseFilePath)) := by
  apply (ends_orFail fun _ isError => .curseFile isError).imp
  intro curseFile isOk isRemote
  have opened := openCurseFile_eq_ok_iff.mp isOk
  rw [if_pos isRemote] at opened
  obtain ⟨experimental, path, file, isPath, hasParent, noDir, isOpen,
    _⟩ := opened
  exact ⟨experimental, path, file, isPath, hasParent, noDir, isOpen⟩

theorem newMany_ends {chain : ChainName} {localConfig : LocalChainConfig}
    (found : config.localConfigByEnabledChain.lookup chain =
      some localConfig) (notEmpty : localConfig.rpcs ≠ []) :
    Ends (StartWaits options world fuel config)
      (StartFailure keccak options world fuel config keystore)
      (fun _ => ∀ url ∈ localConfig.rpcs, world.checkUrl url = .ok ())
      (orFail .connecting (newMany world.checkUrl localConfig.rpcs)) := by
  have isEmpty : localConfig.rpcs.isEmpty = false :=
    List.isEmpty_eq_false_iff.mpr notEmpty
  rw [newMany, isEmpty]
  cases isResult : localConfig.rpcs.forM world.checkUrl with
  | ok checked =>
      exact Checked.forM_eq_ok_iff.mp isResult
  | error detail =>
      obtain ⟨url, member, isError⟩ := Checked.exists_of_forM_error isResult
      exact .connecting found member isError

theorem connectRpc_ends {chain : ChainName} {localConfig : LocalChainConfig}
    (found : config.localConfigByEnabledChain.lookup chain =
      some localConfig) :
    Ends (StartWaits options world fuel config)
      (StartFailure keccak options world fuel config keystore)
      (fun rpc => world.rpc chain = rpc ∧ localConfig.rpcs ≠ [] ∧
        (options.dangerousAllowMultipleRpcs = true ∨
          localConfig.rpcs.length = 1) ∧
        ∀ url ∈ localConfig.rpcs, world.checkUrl url = .ok ())
      (connectRpc world.checkUrl options.dangerousAllowMultipleRpcs world.rpc
        chain localConfig) := by
  rw [connectRpc]
  apply ends_guard
  · intro isEmpty
    exact .noRpcEndpoint found (List.isEmpty_iff.mp isEmpty)
  · intro isEmpty
    have notEmpty : localConfig.rpcs ≠ [] :=
      fun isNil => isEmpty (List.isEmpty_iff.mpr isNil)
    apply ends_guard
    · intro several
      have positive := List.length_pos_of_ne_nil notEmpty
      simp only [Bool.and_eq_true, Bool.not_eq_true', bne_iff_ne, ne_eq]
        at several
      apply StartFailure.severalRpcEndpoints found several.1
      omega
    · intro notSeveral
      have allowed : options.dangerousAllowMultipleRpcs = true ∨
          localConfig.rpcs.length = 1 := by
        by_contra refused
        rw [not_or, Bool.not_eq_true] at refused
        apply notSeveral
        simpa using refused
      apply (newMany_ends found notEmpty).bind
      intro _ urls
      exact ends_ok ⟨rfl, notEmpty, allowed, urls⟩

theorem connectRpcs_ends :
    Ends (StartWaits options world fuel config)
      (StartFailure keccak options world fuel config keystore)
      (fun rpcs =>
        (∀ chain, rpcs.lookup chain = world.enabledRpc config chain) ∧
        ∀ chain localConfig,
          config.localConfigByEnabledChain.lookup chain = some localConfig →
            localConfig.rpcs ≠ [] ∧
              (options.dangerousAllowMultipleRpcs = true ∨
                localConfig.rpcs.length = 1) ∧
              ∀ url ∈ localConfig.rpcs, world.checkUrl url = .ok ())
      (connectRpcs options world config) := by
  apply (EntryMap.ends_traverse fun _ _ found => connectRpc_ends found).imp
  intro rpcs ⟨keys, connected⟩
  constructor
  · intro chain
    rw [StartWorld.enabledRpc]
    cases isLocal : config.localConfigByEnabledChain.lookup chain with
    | none =>
        rw [Option.map_none, AList.lookup_eq_none, AList.mem_keys, keys,
          ← AList.mem_keys, ← AList.lookup_eq_none]
        exact isLocal
    | some localConfig =>
        obtain ⟨rpc, ⟨rfl, _⟩, isRpc⟩ := connected chain localConfig isLocal
        exact isRpc
  · intro chain localConfig found
    obtain ⟨_, ⟨_, allowed⟩, _⟩ := connected chain localConfig found
    exact allowed

theorem checkPruning_ends {rpcs : EntryMap ChainName ChainRpc}
    (connected : ∀ chain, rpcs.lookup chain = world.enabledRpc config chain) :
    Ends (StartWaits options world fuel config)
      (StartFailure keccak options world fuel config keystore)
      (fun _ => options.checkRpcPruning = true →
        pruningResult world fuel config = some (.ok ()))
      (checkPruning options fuel config rpcs) := by
  simp only [checkPruning, connected]
  split
  · rename_i checked
    apply (ends_waitFor fun isNone => .pruningCheck checked isNone).bind
    intro result isResult
    apply (ends_orFail fun _ isError =>
      .prunedRpc checked (isError ▸ isResult)).imp
    intro _ isOk _
    exact isOk ▸ isResult
  · rename_i notChecked
    apply ends_ok
    intro checked
    exact absurd checked notChecked

theorem checkContracts_ends {rpcs : EntryMap ChainName ChainRpc}
    (connected : ∀ chain, rpcs.lookup chain = world.enabledRpc config chain) :
    Ends (StartWaits options world fuel config)
      (StartFailure keccak options world fuel config keystore)
      (fun _ => contractsResult keccak world config = returns (.ok ()))
      (checkContracts keccak config rpcs) := by
  simp only [checkContracts, connected]
  change Ends _ _ _ (orPanicked .onchainConfigs
    (contractsResult keccak world config))
  match isResult : contractsResult keccak world config with
  | none =>
      apply StartFailure.panicked
      rw [isResult]
      intro ⟨_, returned⟩
      cases returned
  | some (.error cause) => exact .onchainConfigs isResult
  | some (.ok checked) => exact ends_ok rfl

/-! ### What is spawned after the checks -/

theorem spawnChain_eq_ok_iff {rpcs : EntryMap ChainName ChainRpc}
    {chainName : ChainName} {chainConfig : SharedChainConfig}
    {chain : ChainState} :
    spawnChain rpcs chainName chainConfig = returns (.ok chain) ↔
      (∃ rpc, rpcs.lookup chainName = some rpc) ∧
        .newAndSpawnWorkers chainConfig = chain := by
  simp only [spawnChain, bind_eq_ok_iff, unwrap_eq_ok_iff, pure_eq_ok_iff,
    exists_and_right]

/-- What is known when the workers are spawned. -/
structure ReadyToSpawn (keccak : Keccak) (options : StartOptions)
    (world : StartWorld) (config : OffchainConfig)
    (keystore : Option (Except String BlessCurseKeysByChain))
    (keys : BlessCurseKeysByChain) (rpcs : EntryMap ChainName ChainRpc) :
    Prop where
  coherent : config.Coherent
  keys : KeysReady options config keystore keys
  connected : ∀ chain, rpcs.lookup chain = world.enabledRpc config chain
  contracts : contractsResult keccak world config = returns (.ok ())

variable {rpcs : EntryMap ChainName ChainRpc}
  {chainStates : EntryMap ChainName ChainState}
  {destChains : EntryMap ChainName SharedChainConfig}
  {onchainConfigs : EntryMap ChainName VersionedOnchainConfig}

namespace ReadyToSpawn

variable
  (ready : ReadyToSpawn keccak options world config keystore keys rpcs)

include ready

theorem exists_rpc {chain : ChainName}
    (enabled : chain ∈ config.sharedConfigByEnabledChain) :
    ∃ rpc, rpcs.lookup chain = some rpc := by
  obtain ⟨localConfig, isLocal⟩ :=
    EntryMap.mem_iff.mp (ready.coherent.localChain enabled)
  refine ⟨world.rpc chain, ?_⟩
  rw [ready.connected, StartWorld.enabledRpc, isLocal]
  rfl

theorem exists_keys {chain : ChainName}
    (enabled : chain ∈ config.sharedConfigByEnabledChain) :
    ∃ ownKeys, keys.lookup chain = some ownKeys :=
  EntryMap.mem_iff.mp (ready.keys.cover chain (AList.mem_keys.mp enabled))

/-- The check of a lane's contracts asks for the selectors of its chains. -/
theorem exists_selectors {laneId : LaneId} {laneConfig : SharedLaneConfig}
    (found : config.sharedConfigByEnabledLane.lookup laneId =
      some laneConfig) :
    ∃ source dest, chainSelector laneId.sourceChainName = some source ∧
      chainSelector laneId.destChainName = some dest := by
  have passed := ready.contracts
  rw [contractsResult, validateOnchainConfigs, joinScoped_eq_ok_iff] at passed
  have lanePassed := passed _
    (List.mem_map_of_mem (EntryMap.mem_entries_iff.mpr found))
  simp only [adapt_eq_ok_iff, validateOnchainLaneConfig, bind_eq_ok_iff,
    orPanic_eq_ok_iff, ready.coherent.laneId found] at lanePassed
  obtain ⟨source, isSource, dest, isDest, _⟩ := lanePassed
  exact ⟨source, dest, isSource, isDest⟩

theorem spawnChains_ends :
    Ends (StartWaits options world fuel config)
      (StartFailure keccak options world fuel config keystore)
      (fun chainStates =>
        chainStates.keys = config.sharedConfigByEnabledChain.keys)
      (EntryMap.traverse (spawnChain rpcs)
        config.sharedConfigByEnabledChain) := by
  apply EntryMap.ends_traverse_of_ok
  intro chain chainConfig found
  have isRpc := ready.exists_rpc (EntryMap.mem_iff.mpr ⟨_, found⟩)
  exact ⟨_, spawnChain_eq_ok_iff.mpr ⟨isRpc, rfl⟩⟩

theorem spawnLane_eq_ok (Bits : Type) [BitSet Bits] {laneId : LaneId}
    {laneConfig : SharedLaneConfig}
    (found : config.sharedConfigByEnabledLane.lookup laneId =
      some laneConfig)
    (sameChains :
      chainStates.keys = config.sharedConfigByEnabledChain.keys)
    (discovered : ∃ versioned,
      onchainConfigs.lookup laneId.destChainName = some versioned) :
    ∃ lane : LaneState Bits,
      spawnLane keccak config keys rpcs chainStates onchainConfigs laneId
        laneConfig = returns (.ok lane) := by
  obtain ⟨isSource, isDest⟩ :=
    ready.coherent.laneChains (EntryMap.mem_iff.mpr ⟨_, found⟩)
  have exists_state : ∀ {chain},
      chain ∈ config.sharedConfigByEnabledChain →
        ∃ chainState, chainStates.lookup chain = some chainState := by
    intro chain member
    rw [← EntryMap.mem_iff, AList.mem_keys, sameChains, ← AList.mem_keys]
    exact member
  obtain ⟨source, sourceFound⟩ := EntryMap.mem_iff.mp isSource
  obtain ⟨dest, destFound⟩ := EntryMap.mem_iff.mp isDest
  obtain ⟨sourceSelector, destSelector, isSelector, isDestSelector⟩ :=
    ready.exists_selectors found
  obtain ⟨sourceState, isSourceState⟩ := exists_state isSource
  obtain ⟨destState, isDestState⟩ := exists_state isDest
  obtain ⟨versioned, isVersioned⟩ := discovered
  obtain ⟨sourceRpc, isSourceRpc⟩ := ready.exists_rpc isSource
  obtain ⟨destRpc, isDestRpc⟩ := ready.exists_rpc isDest
  obtain ⟨ownKeys, areKeys⟩ := ready.exists_keys isDest
  rw [← ready.coherent.chainName sourceFound] at isSelector
  rw [← ready.coherent.chainName destFound] at isDestSelector
  simp only [spawnLane, LaneState.newAndSpawnWorkers, bind_eq_ok_iff,
    okOr_eq_ok_iff, unwrap_eq_ok_iff, pure_eq_ok_iff]
  exact ⟨_, source, sourceFound, dest, destFound, sourceState, isSourceState,
    destState, isDestState, versioned, isVersioned, sourceRpc, isSourceRpc,
    destRpc, isDestRpc, ownKeys, areKeys, sourceSelector, isSelector,
    destSelector, isDestSelector, rfl⟩

theorem spawnLanes_ends (Bits : Type) [BitSet Bits]
    (sameChains :
      chainStates.keys = config.sharedConfigByEnabledChain.keys)
    (discovered : ∀ laneId ∈ config.enabledLanes, ∃ versioned,
      onchainConfigs.lookup laneId.destChainName = some versioned) :
    Ends (StartWaits options world fuel config)
      (StartFailure keccak options world fuel config keystore)
      (fun laneStates : EntryMap LaneId (LaneState Bits) =>
        laneStates.keys = config.sharedConfigByEnabledLane.keys)
      (EntryMap.traverse
        (spawnLane keccak config keys rpcs chainStates onchainConfigs)
        config.sharedConfigByEnabledLane) := by
  apply EntryMap.ends_traverse_of_ok
  intro laneId laneConfig found
  have member : laneId ∈ config.enabledLanes :=
    AList.mem_keys.mp (EntryMap.mem_iff.mpr ⟨_, found⟩)
  exact ready.spawnLane_eq_ok Bits found sameChains (discovered laneId member)

theorem spawnVotingManager_eq_ok {curseFile : Option Nat} {chain : ChainName}
    {chainConfig : SharedChainConfig}
    (enabled : chain ∈ config.sharedConfigByEnabledChain)
    (discovered : ∃ versioned, onchainConfigs.lookup chain = some versioned) :
    ∃ manager, spawnVotingManager options config keys curseFile rpcs
      onchainConfigs chain chainConfig = returns (.ok manager) := by
  obtain ⟨rpc, isRpc⟩ := ready.exists_rpc enabled
  obtain ⟨ownKeys, areKeys⟩ := ready.exists_keys enabled
  obtain ⟨versioned, isVersioned⟩ := discovered
  simp only [spawnVotingManager, bind_eq_ok_iff, unwrap_eq_ok_iff,
    pure_eq_ok_iff]
  exact ⟨_, rpc, isRpc, versioned, isVersioned, ownKeys, areKeys, rfl⟩

theorem spawnVotingManagers_ends {curseFile : Option Nat}
    (dest : ∀ chain ∈ destChains,
      chain ∈ config.sharedConfigByEnabledChain ∧
        ∃ versioned, onchainConfigs.lookup chain = some versioned) :
    Ends (StartWaits options world fuel config)
      (StartFailure keccak options world fuel config keystore)
      (fun managers => managers.keys = destChains.keys)
      (EntryMap.traverse (spawnVotingManager options config keys curseFile
        rpcs onchainConfigs) destChains) := by
  apply EntryMap.ends_traverse_of_ok
  intro chain chainConfig found
  obtain ⟨enabled, discovered⟩ := dest chain (EntryMap.mem_iff.mpr ⟨_, found⟩)
  exact ready.spawnVotingManager_eq_ok enabled discovered

theorem destChains_ends :
    Ends (StartWaits options world fuel config)
      (StartFailure keccak options world fuel config keystore)
      (fun destChains => config.destChains = some destChains)
      (unwrap config.destChains) := by
  obtain ⟨chains, areChains, _⟩ := config.destChains_of_known
    fun laneId member =>
      (ready.coherent.laneChains (AList.mem_keys.mpr member)).2
  exact ends_of_eq_ok (unwrap_eq_ok_iff.mpr areChains) areChains

end ReadyToSpawn

/-- The loop has a configuration of each chain that it has gone over. -/
def Discovered (world : StartWorld) (fuel : Nat) (destChains : List ChainName)
    (rest : List ChainName)
    (onchainConfigs : EntryMap ChainName VersionedOnchainConfig) : Prop :=
  (∀ chain ∈ rest, chain ∈ destChains) ∧
    ∀ chain ∈ destChains, chain ∈ rest ∨
      ∃ versioned, onchainConfigs.lookup chain = some versioned ∧
        discoveredConfig world fuel chain = some versioned

theorem discoverOnchainConfigs_ends {destChains : List ChainName}
    (areDest : ∀ chain ∈ destChains,
      ∃ laneId ∈ config.enabledLanes, laneId.destChainName = chain)
    (spawned : ∀ chain ∈ destChains, chain ∈ chainStates) :
    Ends (StartWaits options world fuel config)
      (StartFailure keccak options world fuel config keystore)
      (fun onchainConfigs => ∀ chain ∈ destChains,
        ∃ versioned, onchainConfigs.lookup chain = some versioned ∧
          discoveredConfig world fuel chain = some versioned)
      (discoverOnchainConfigs world fuel destChains chainStates) := by
  have turn : ∀ chain rest known,
      Discovered world fuel destChains (chain :: rest) known →
        Ends (StartWaits options world fuel config)
          (StartFailure keccak options world fuel config keystore)
          (Discovered world fuel destChains rest) (do
            let _ ← unwrap (chainStates.lookup chain)
            let versioned ←
              waitFor (discoverOnchainConfig (world.latest chain) fuel)
            return known.insert chain versioned) := by
    intro chain rest known ⟨inside, before⟩
    have isDest := inside chain List.mem_cons_self
    obtain ⟨chainState, isState⟩ := EntryMap.mem_iff.mp (spawned chain isDest)
    rw [isState]
    obtain ⟨laneId, isLane, isChain⟩ := areDest chain isDest
    apply (ends_waitFor fun isNone =>
      .discovery isLane (isChain ▸ isNone)).bind
    intro versioned isVersioned
    apply ends_ok
    refine ⟨fun other member => inside other (List.mem_cons_of_mem _ member),
      ?_⟩
    intro other member
    by_cases same : other = chain
    · subst same
      exact .inr ⟨versioned, AList.lookup_insert _, isVersioned⟩
    · rcases before other member with later | ⟨found, isFound, isSame⟩
      · exact .inl ((List.mem_cons.mp later).resolve_left same)
      · refine .inr ⟨found, ?_, isSame⟩
        rw [AList.lookup_insert_ne same]
        exact isFound
  apply (ends_foldlM turn destChains ∅ ⟨fun _ member => member,
    fun _ member => .inl member⟩).imp
  intro onchainConfigs ⟨_, found⟩ chain member
  exact (found chain member).resolve_left List.not_mem_nil

theorem checkVoter_ends (votes : options.mode ≠ .passive)
    (isKeystore : keystore = some (.ok keys)) {laneId : LaneId}
    (member : laneId ∈ config.enabledLanes)
    {versioned : VersionedOnchainConfig} {ownKeys : BlessCurseKeys}
    (isVersioned : onchainConfigs.lookup laneId.destChainName =
      some versioned)
    (isDiscovered : discoveredConfig world fuel laneId.destChainName =
      some versioned)
    (areKeys : keys.lookup laneId.destChainName = some ownKeys) :
    Ends (StartWaits options world fuel config)
      (StartFailure keccak options world fuel config keystore)
      (fun _ => versioned.config.HasVoter ownKeys)
      (checkVoter keys onchainConfigs laneId.destChainName) := by
  rw [checkVoter, isVersioned, areKeys]
  apply ends_guard
  · intro notFound
    apply StartFailure.noMatchingVoter votes isKeystore member isDiscovered
      areKeys
    rw [← OnchainConfig.any_voter_iff]
    simpa using notFound
  · intro found
    apply ends_ok
    rw [← OnchainConfig.any_voter_iff]
    simpa using found

theorem hasVoter_of_checkVoter {chain : ChainName}
    {versioned : VersionedOnchainConfig} {ownKeys : BlessCurseKeys}
    (passed : checkVoter keys onchainConfigs chain = returns (.ok ()))
    (isVersioned : onchainConfigs.lookup chain = some versioned)
    (areKeys : keys.lookup chain = some ownKeys) :
    versioned.config.HasVoter ownKeys := by
  rw [checkVoter, isVersioned, areKeys] at passed
  rw [← OnchainConfig.any_voter_iff]
  by_contra notFound
  simp only [Bool.not_eq_true] at notFound
  simp only [okOr, pure_bind, notFound, Bool.not_false, if_true] at passed
  cases passed

theorem checkVoters_of_votes {destChains : List ChainName}
    (votes : options.mode ≠ .passive) :
    checkVoters options keys destChains onchainConfigs =
      validateVoterAddresses destChains keys onchainConfigs := by
  rw [checkVoters]
  cases isMode : options.mode with
  | passive => exact absurd isMode votes
  | active => rfl
  | dryRun => rfl
  | unreliableRemote => rfl

theorem checkVoters_ends {destChains : List ChainName}
    (ready : ReadyToSpawn keccak options world config keystore keys rpcs)
    (areDest : ∀ chain, chain ∈ destChains ↔
      ∃ laneId ∈ config.enabledLanes, laneId.destChainName = chain)
    (discovered : ∀ chain ∈ destChains,
      ∃ versioned, onchainConfigs.lookup chain = some versioned ∧
        discoveredConfig world fuel chain = some versioned) :
    Ends (StartWaits options world fuel config)
      (StartFailure keccak options world fuel config keystore)
      (fun _ => options.mode ≠ .passive →
        ∀ laneId ∈ config.enabledLanes, ∀ versioned ownKeys,
          discoveredConfig world fuel laneId.destChainName =
              some versioned →
            keys.lookup laneId.destChainName = some ownKeys →
              versioned.config.HasVoter ownKeys)
      (checkVoters options keys destChains onchainConfigs) := by
  by_cases passive : options.mode = .passive
  · rw [checkVoters, passive]
    apply ends_ok
    intro votes
    exact absurd rfl votes
  · rw [checkVoters_of_votes passive, validateVoterAddresses]
    have checks : ∀ chain ∈ destChains,
        Ends (StartWaits options world fuel config)
          (StartFailure keccak options world fuel config keystore)
          (fun _ => ∀ versioned ownKeys,
            discoveredConfig world fuel chain = some versioned →
              keys.lookup chain = some ownKeys →
                versioned.config.HasVoter ownKeys)
          (checkVoter keys onchainConfigs chain) := by
      intro chain member
      obtain ⟨laneId, isLane, rfl⟩ := (areDest chain).mp member
      obtain ⟨versioned, isVersioned, isDiscovered⟩ :=
        discovered _ member
      obtain ⟨ownKeys, areKeys⟩ := ready.exists_keys
        (ready.coherent.laneChains (AList.mem_keys.mpr isLane)).2
      apply (checkVoter_ends passive (ready.keys.ofKeystore passive) isLane
        isVersioned isDiscovered areKeys).imp
      intro _ hasVoter other otherKeys isOther areOther
      rw [isDiscovered] at isOther
      rw [areKeys] at areOther
      cases isOther
      cases areOther
      exact hasVoter
    apply (ends_forM checks).imp
    intro _ hold _ laneId isLane
    exact hold _ ((areDest _).mpr ⟨laneId, isLane, rfl⟩)

/-! ### The whole start -/

variable (keccak options world fuel keystore)
  (draw : ChainName → BlessCurseKeys)

/-- Every end of a start is for a reason. -/
theorem startNode_ends (Bits : Type) [BitSet Bits]
    (coherent : config.Coherent) :
    Ends (StartWaits options world fuel config)
      (StartFailure keccak options world fuel config keystore)
      (fun _ : AfnState Bits =>
        StartConditions keccak options world fuel config keystore)
      (startNode keccak options world fuel config draw keystore) := by
  rw [startNode]
  apply (keysOfMode_ends draw).bind
  intro keys keysReady
  rw [newAndSpawnWorkers]
  apply openCurseFile_ends.bind
  intro curseFile isCurseFile
  apply connectRpcs_ends.bind
  rintro rpcs ⟨connected, allowed⟩
  apply (checkPruning_ends connected).bind
  intro _ notPruned
  apply (checkContracts_ends connected).bind
  intro _ contracts
  have ready : ReadyToSpawn keccak options world config keystore keys rpcs :=
    ⟨coherent, keysReady, connected, contracts⟩
  apply ready.spawnChains_ends.bind
  intro chainStates sameChains
  apply ready.destChains_ends.bind
  intro destChains areChains
  have areDest : ∀ chain, chain ∈ destChains.keys ↔
      ∃ laneId ∈ config.enabledLanes, laneId.destChainName = chain := by
    intro chain
    rw [← AList.mem_keys]
    exact coherent.mem_destChains areChains
  have enabled : ∀ {laneId}, laneId ∈ config.enabledLanes →
      laneId.destChainName ∈ config.sharedConfigByEnabledChain :=
    fun member => (coherent.laneChains (AList.mem_keys.mpr member)).2
  have spawned : ∀ chain ∈ destChains.keys, chain ∈ chainStates := by
    intro chain member
    obtain ⟨laneId, isLane, rfl⟩ := (areDest chain).mp member
    rw [AList.mem_keys, sameChains, ← AList.mem_keys]
    exact enabled isLane
  apply (discoverOnchainConfigs_ends (fun chain => (areDest chain).mp)
    spawned).bind
  intro onchainConfigs discovered
  apply (checkVoters_ends ready areDest discovered).bind
  intro _ voters
  have found : ∀ {laneId}, laneId ∈ config.enabledLanes →
      ∃ versioned,
        onchainConfigs.lookup laneId.destChainName = some versioned ∧
          discoveredConfig world fuel laneId.destChainName =
            some versioned :=
    fun member => discovered _ ((areDest _).mpr ⟨_, member, rfl⟩)
  apply (ready.spawnLanes_ends Bits sameChains fun laneId member =>
    (found member).imp fun _ isFound => isFound.1).bind
  intro laneStates _
  apply (ready.spawnVotingManagers_ends fun chain member => ?_).bind
  · intro managers _
    apply (ends_orFail fun _ isError => .metricsFile isError).bind
    intro _ metricsFile
    apply ends_ok
    refine ⟨fun votes => ⟨keys, keysReady.ofKeystore votes, keysReady.cover,
      voters votes⟩, isCurseFile, allowed, notPruned, contracts, ?_,
      metricsFile⟩
    intro laneId member
    exact (found member).imp fun _ isFound => isFound.2
  · obtain ⟨laneId, isLane, rfl⟩ :=
      (areDest chain).mp (AList.mem_keys.mp member)
    exact ⟨enabled isLane, (found isLane).imp fun _ isFound => isFound.1⟩

variable {keccak options world fuel keystore}

theorem StartConditions.starts (Bits : Type) [BitSet Bits]
    (conditions : StartConditions keccak options world fuel config keystore)
    (coherent : config.Coherent) :
    ∃ state : AfnState Bits,
      startNode keccak options world fuel config draw keystore =
        returns (.ok state) :=
  (startNode_ends keccak options world fuel keystore draw Bits
    coherent).exists_ok conditions.no_wait conditions.no_failure

end Checks

section Outcomes

variable (keccak : Keccak) (options : StartOptions) (world : StartWorld)
  (fuel : Nat) (config : OffchainConfig)
  (keystore : Option (Except String BlessCurseKeysByChain))
  (draw : ChainName → BlessCurseKeys)

end Outcomes

/-! ### A lane in order -/

namespace SampleStart

def config : OffchainConfig :=
  .build
    (EntryMap.collect ([OffchainConfig.sampleChain .sepolia,
      OffchainConfig.sampleChain .avaxFuji].map fun c => (c.name, c)))
    [SampleLane.laneConfig]
    (EntryMap.collect
      ([⟨.sepolia, false, ["sepolia"]⟩, ⟨.avaxFuji, false, ["fuji"]⟩].map
        fun c : LocalChainConfig => (c.name, c)))

theorem accepted :
    OffchainConfig.new [OffchainConfig.sampleChain .sepolia,
        OffchainConfig.sampleChain .avaxFuji] [SampleLane.laneConfig]
      [⟨.sepolia, false, ["sepolia"]⟩, ⟨.avaxFuji, false, ["fuji"]⟩] =
        .ok config :=
  OffchainConfig.new_eq_ok_iff.mpr ⟨
    { localNames := by decide
      sharedNames := by decide
      sameChains := fun chain => by cases chain <;> decide
      laneIds := by decide
      commitStores := by decide
      lanes := by decide }, rfl⟩

def options : StartOptions where
  mode := .active
  manualCurse := none
  dangerousAllowMultipleRpcs := false
  checkRpcPruning := true
  experimental := false

/-- The lane's contracts are in order, and the node is the only voter. -/
def world : StartWorld where
  checkUrl := fun _ => .ok ()
  rpc := fun _ => ⟨storing [genesisLog], SampleLane.rpc⟩
  latest := fun _ _ => some sampleAfnConfig
  curseFilePath := none
  metricsFile := .ok ()
  draw := fun _ => .replicate 32 0

def keys (_ : ChainName) : BlessCurseKeys where
  bless := ⟨fun _ => ⟨.ofUint 0, .ofUint 0, .ofUint 0⟩, .replicate 20 1⟩
  curse := ⟨fun _ => ⟨.ofUint 0, .ofUint 0, .ofUint 0⟩, .replicate 20 2⟩

def keystore : Option (Except String BlessCurseKeysByChain) :=
  some (.ok (generateKeys keys config.enabledChains))

theorem conditions :
    StartConditions lengthHash options world 65 config keystore where
  keystore := by
    intro _
    refine ⟨_, rfl, ?_, ?_⟩
    · intro chain member
      apply EntryMap.mem_collect_map.mpr
      rw [List.map_id']
      exact member
    · intro laneId _ versioned ownKeys isVersioned areKeys
      cases isVersioned
      have isOwn : ownKeys = keys laneId.destChainName := by
        obtain ⟨chain, _, rfl, rfl⟩ :=
          (EntryMap.lookup_collect_map_eq_some_iff (by decide)).mp areKeys
        rfl
      subst isOwn
      exact ⟨_, List.mem_singleton_self _, rfl, rfl⟩
  curseFile := fun isRemote => by cases isRemote
  rpcs := by
    intro chain localConfig found
    have one : ∀ entry ∈ config.localConfigByEnabledChain.entries,
        entry.2.rpcs.length = 1 := by
      decide
    have isOne := one _ (EntryMap.mem_entries_iff.mpr found)
    refine ⟨?_, .inr isOne, fun _ _ => rfl⟩
    intro isEmpty
    rw [isEmpty] at isOne
    cases isOne
  notPruned := fun _ => by rfl
  contracts := by
    rw [contractsResult, validateOnchainConfigs, joinScoped_eq_ok_iff]
    intro thread member
    obtain ⟨entry, isEntry, rfl⟩ := List.mem_map.mp member
    cases List.mem_singleton.mp isEntry
    rw [adapt_eq_ok_iff, validateOnchainLaneConfig_eq_ok_iff rfl rfl
      SampleLane.served rfl]
    exact ⟨⟨⟨rfl, rfl⟩, ⟨rfl, rfl⟩, ⟨rfl, rfl⟩⟩,
      ⟨rfl, by decide, rfl, by decide, rfl, by decide⟩⟩
  discovered := fun _ _ => ⟨_, rfl⟩
  metricsFile := rfl

end SampleStart

section Failures

variable (keccak : Keccak) (options : StartOptions) (world : StartWorld)
  (fuel : Nat) (config : OffchainConfig)
  (keystore : Option (Except String BlessCurseKeysByChain))
  (draw : ChainName → BlessCurseKeys)

end Failures

end RiskManagement
