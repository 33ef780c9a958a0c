import RiskManagement.Library.Checked
import RiskManagement.Afn.BlessNode
import RiskManagement.Afn.OnchainConfigDiscovery

/-!
# The check of the lanes' contracts

Before it starts, the node reads the version and the static configuration of
the three contracts of each lane, and compares them with its own configuration
of the lane.  Every contract is read in a thread of its own.
-/

namespace RiskManagement

open Panics

/-- `thread::scope` around `try_for_each(|handle| handle.join().unwrap())`.
All threads end before the scope does, so the panic of any of them is one of
the scope.  Otherwise the first error counts. -/
def joinScoped {Error : Type} : List (Run Error Unit) → Run Error Unit
  | [] => returns (.ok ())
  | thread :: rest => ExceptT.mk do
      let result ← thread.run
      let others ← (joinScoped rest).run
      return result >>= fun _ => others

section Scope

variable {Error : Type} {threads : List (Run Error Unit)}

theorem joinScoped_cons_eq_iff {thread : Run Error Unit}
    {rest : List (Run Error Unit)} {result : Except Error Unit} :
    joinScoped (thread :: rest) = returns result ↔
      ∃ first others, thread = returns first ∧
        joinScoped rest = returns others ∧
          (first >>= fun _ => others) = result := by
  rw [joinScoped]
  constructor
  · intro ended
    cases isFirst : thread.run with
    | none =>
        rw [isFirst] at ended
        cases ended
    | some first =>
        cases isRest : (joinScoped rest).run with
        | none =>
            rw [isFirst, isRest] at ended
            cases ended
        | some others =>
            rw [isFirst, isRest] at ended
            exact ⟨first, others, isFirst, isRest, Option.some.inj ended⟩
  · rintro ⟨first, others, isFirst, isRest, rfl⟩
    rw [isFirst, isRest]
    rfl

theorem joinScoped_returns_iff :
    Returns (joinScoped threads) ↔ ∀ thread ∈ threads, Returns thread := by
  induction threads with
  | nil => simp [joinScoped, Returns]
  | cons thread rest ih =>
      rw [List.forall_mem_cons, ← ih]
      constructor
      · intro ⟨result, ended⟩
        obtain ⟨first, others, isFirst, isRest, _⟩ :=
          joinScoped_cons_eq_iff.mp ended
        exact ⟨⟨first, isFirst⟩, ⟨others, isRest⟩⟩
      · intro ⟨⟨first, isFirst⟩, ⟨others, isRest⟩⟩
        exact ⟨_, joinScoped_cons_eq_iff.mpr
          ⟨first, others, isFirst, isRest, rfl⟩⟩

theorem joinScoped_eq_ok_iff :
    joinScoped threads = returns (.ok ()) ↔
      ∀ thread ∈ threads, thread = returns (.ok ()) := by
  induction threads with
  | nil => simp [joinScoped]
  | cons thread rest ih =>
      rw [List.forall_mem_cons, ← ih, joinScoped_cons_eq_iff]
      constructor
      · rintro ⟨first, others, rfl, isRest, passed⟩
        obtain ⟨rfl, rfl⟩ := Checked.check_bind_eq_ok_iff.mp passed
        exact ⟨rfl, isRest⟩
      · intro ⟨isFirst, isRest⟩
        exact ⟨_, _, isFirst, isRest, rfl⟩

end Scope

/-! ### The check -/

/-- The errors of the check of a lane, one constructor for each text. -/
inductive LaneCheckError where
  | reading (error : ContractReadError)
  | unexpectedOnrampConfig (expected found : OnRampStaticConfig)
  | unexpectedOnrampTypeAndVersion (found : String) (laneType : LaneType)
  | unexpectedOfframpConfig (expected found : OffRampStaticConfig)
  | unexpectedOfframpTypeAndVersion (found : String) (laneType : LaneType)
  | unexpectedCommitStoreConfig (expected found : CommitStoreStaticConfig)
  | unexpectedCommitStoreTypeAndVersion (found : String) (laneType : LaneType)
deriving DecidableEq

abbrev LaneCheck := Run LaneCheckError

/-- Compares what a contract answers with what the configuration says. -/
def checkStaticConfig {Config : Type} [DecidableEq Config]
    (unexpected : Config → Config → LaneCheckError) (expected : Config)
    (reading : ContractReading Config) : LaneCheck Unit := do
  let found ← reading.adapt .reading
  if found ≠ expected then throw (unexpected expected found)

/-- Compares what a contract says of itself with the versions of the lane's
type. -/
def checkTypeAndVersion (unexpected : String → LaneType → LaneCheckError)
    (versions : LaneType → List String) (laneType : LaneType)
    (reading : ContractReading String) : LaneCheck Unit := do
  let found ← reading.adapt .reading
  if found ∉ versions laneType then throw (unexpected found laneType)

/-- The on-ramps that a lane may have. -/
def onrampVersions : LaneType → List String
  | .evm2EvmV1_0 => ["EVM2EVMOnRamp 1.0.0", "EVM2EVMOnRamp 1.1.0"]
  | .evm2EvmV1_2 => ["EVM2EVMOnRamp 1.2.0"]

/-- The off-ramps that a lane may have. -/
def offrampVersions : LaneType → List String
  | .evm2EvmV1_0 => ["EVM2EVMOffRamp 1.0.0", "EVM2EVMOffRamp 1.1.0"]
  | .evm2EvmV1_2 => ["EVM2EVMOffRamp 1.2.0"]

/-- The commit stores that a lane may have. -/
def commitStoreVersions : LaneType → List String
  | .evm2EvmV1_0 => ["CommitStore 1.0.0", "CommitStore 1.1.0"]
  | .evm2EvmV1_2 => ["CommitStore 1.2.0"]

/-- `rpcs[&chain]` panics for a chain without an RPC. -/
def validateOnchainLaneConfig (keccak : Keccak)
    (rpcs : ChainName → Option CallRpc) (laneConfig : SharedLaneConfig) :
    LaneCheck Unit := do
  let srcChain := laneConfig.laneId.sourceChainName
  let destChain := laneConfig.laneId.destChainName
  let srcChainSelector ← orPanic (chainSelector srcChain)
  let destChainSelector ← orPanic (chainSelector destChain)
  joinScoped
    [do
      let rpc ← orPanic (rpcs srcChain)
      checkStaticConfig .unexpectedOnrampConfig
        { chainSelector := srcChainSelector
          destChainSelector := destChainSelector }
        (onchainOnrampStaticConfig keccak rpc laneConfig.onRamp),
    do
      let rpc ← orPanic (rpcs srcChain)
      checkTypeAndVersion .unexpectedOnrampTypeAndVersion onrampVersions
        laneConfig.laneType
        (onchainTypeAndVersion keccak rpc laneConfig.onRamp),
    do
      let rpc ← orPanic (rpcs destChain)
      checkStaticConfig .unexpectedOfframpConfig
        { chainSelector := destChainSelector
          srcChainSelector := srcChainSelector
          commitStore := laneConfig.commitStore
          onRamp := laneConfig.onRamp }
        (onchainOfframpStaticConfig keccak rpc laneConfig.offRamp),
    do
      let rpc ← orPanic (rpcs destChain)
      checkTypeAndVersion .unexpectedOfframpTypeAndVersion offrampVersions
        laneConfig.laneType
        (onchainTypeAndVersion keccak rpc laneConfig.offRamp),
    do
      let rpc ← orPanic (rpcs destChain)
      checkStaticConfig .unexpectedCommitStoreConfig
        { chainSelector := destChainSelector
          srcChainSelector := srcChainSelector
          onRamp := laneConfig.onRamp }
        (onchainCommitStoreStaticConfig keccak rpc laneConfig.commitStore),
    do
      let rpc ← orPanic (rpcs destChain)
      checkTypeAndVersion .unexpectedCommitStoreTypeAndVersion
        commitStoreVersions laneConfig.laneType
        (onchainTypeAndVersion keccak rpc laneConfig.commitStore)]

/-- The context of the error is the configuration of the lane. -/
structure InvalidLane where
  laneConfig : SharedLaneConfig
  cause : LaneCheckError

/-- Checks all enabled lanes. -/
def validateOnchainConfigs (keccak : Keccak)
    (rpcs : ChainName → Option CallRpc) (config : OffchainConfig) :
    Run InvalidLane Unit :=
  joinScoped (config.sharedConfigByEnabledLane.entries.map fun entry =>
    (validateOnchainLaneConfig keccak rpcs entry.2).adapt
      (InvalidLane.mk entry.2))

/-! ### What is read from a contract that is deployed -/

instance : AbiRoundTrip (BitVec 128) where
  toValue := .u128
  hasValue value := ⟨value, rfl⟩
  noEmptyTuple := rfl
  tryFrom_toValue _ := rfl

/-- A contract with its version and the components of its static
configuration, of which the node reads a part. -/
structure DeployedContract (Fields : Type) where
  typeAndVersion : String
  staticConfig : Fields

namespace DeployedContract

variable {Fields : Type} [TupleFields Fields] [FieldsRoundTrip Fields]

/-- The answer to `typeAndVersion`. -/
def versionEncoding (deployed : DeployedContract Fields) : List UInt8 :=
  (Value.string deployed.typeAndVersion).encode

/-- The answer to `getStaticConfig`. -/
def configEncoding (deployed : DeployedContract Fields) : List UInt8 :=
  fieldsEncoding deployed.staticConfig

/-- When the chain's node answers the two calls, it answers for the contract
that is deployed. -/
structure Served (deployed : DeployedContract Fields) (keccak : Keccak)
    (rpc : CallRpc) (contract : Address) : Prop where
  config : rpc.Serves contract (encodeContractCall keccak GetStaticConfig.mk)
    deployed.configEncoding
  configFits : deployed.configEncoding.length < 2 ^ 63
  version : rpc.Serves contract (encodeContractCall keccak TypeAndVersion.mk)
    deployed.versionEncoding
  versionFits : deployed.versionEncoding.length < 2 ^ 63

end DeployedContract

/-- The chain's node answers the two calls. -/
def CallRpc.AnswersFor (rpc : CallRpc) (keccak : Keccak)
    (contract : Address) : Prop :=
  rpc.answers contract (encodeContractCall keccak GetStaticConfig.mk) = true ∧
    rpc.answers contract (encodeContractCall keccak TypeAndVersion.mk) = true

theorem length_le_encode_string (text : String) :
    text.toUTF8.data.toList.length ≤ (Value.string text).encode.length := by
  change _ ≤ (encodeTuple [(false, encodeByteString _)]).length
  rw [length_encodeTuple]
  simp only [headsLength, tailsLength, headLength, tailLength, List.map_cons,
    List.map_nil, List.sum_cons, List.sum_nil, encodeByteString,
    padRightToMultipleOf32Bytes, List.length_append]
  omega

theorem checkedAbiDecode_string {text : String}
    (fits : (Value.string text).encode.length < 2 ^ 63) :
    checkedAbiDecode String (Value.string text).encode =
      returns (.ok text) := by
  have small := length_le_encode_string text
  have typed : AbiType.HasValue .string (Value.string text) :=
    ⟨text, rfl, by omega⟩
  rw [checkedAbiDecode, CheckedDecoder.decode_returns _ fits]
  change (returns (AbiType.decode .string _) >>= _) = _
  rw [AbiType.decode_of_encoding rfl typed fits]
  rfl

theorem readContract_eq_ok_iff {α : Type} [CheckedAbiDecode α] {rpc : CallRpc}
    {contract : Address} {data encoding : List UInt8} {value found : α}
    (serves : rpc.Serves contract data encoding)
    (decodes : checkedAbiDecode α encoding = returns (.ok value)) :
    readContract α rpc contract data = returns (.ok found) ↔
      rpc.answers contract data = true ∧ value = found := by
  rw [readContract_of_serves serves decodes, CallRpc.answers, returns_inj]
  cases rpc contract data with
  | error error => simp [Except.toBool, Except.mapError, Except.map]
  | ok returned => simp [Except.toBool, Except.mapError, Except.map]

/-! ### The checks of one contract -/

theorem checkStaticConfig_eq_ok_iff {Config : Type} [DecidableEq Config]
    {unexpected : Config → Config → LaneCheckError} {expected : Config}
    {reading : ContractReading Config} :
    checkStaticConfig unexpected expected reading = returns (.ok ()) ↔
      reading = returns (.ok expected) := by
  rw [checkStaticConfig]
  constructor
  · intro passed
    obtain ⟨found, isFound, same⟩ := bind_eq_returns_ok passed
    split at same
    · cases same
    · rename_i isExpected
      rw [Decidable.not_not] at isExpected
      rw [← isExpected]
      exact adapt_eq_ok_iff.mp isFound
  · intro isFound
    rw [adapt_eq_ok_iff.mpr isFound, ok_bind, if_neg (by simp)]
    rfl

theorem checkTypeAndVersion_eq_ok_iff
    {unexpected : String → LaneType → LaneCheckError}
    {versions : LaneType → List String} {laneType : LaneType}
    {reading : ContractReading String} :
    checkTypeAndVersion unexpected versions laneType reading =
        returns (.ok ()) ↔
      ∃ found ∈ versions laneType, reading = returns (.ok found) := by
  rw [checkTypeAndVersion]
  constructor
  · intro passed
    obtain ⟨found, isFound, known⟩ := bind_eq_returns_ok passed
    split at known
    · cases known
    · rename_i isKnown
      rw [Decidable.not_not] at isKnown
      exact ⟨found, isKnown, adapt_eq_ok_iff.mp isFound⟩
  · intro ⟨found, isKnown, isFound⟩
    rw [adapt_eq_ok_iff.mpr isFound, ok_bind, if_neg (by simp [isKnown])]
    rfl

theorem checkStaticConfig_returns {Config : Type} [DecidableEq Config]
    {unexpected : Config → Config → LaneCheckError} {expected : Config}
    {reading : ContractReading Config} (returned : Returns reading) :
    Returns (checkStaticConfig unexpected expected reading) := by
  apply Returns.bind (adapt_returns_iff.mpr returned)
  intro found _
  split
  · exact ⟨_, rfl⟩
  · exact ⟨_, rfl⟩

theorem checkTypeAndVersion_returns
    {unexpected : String → LaneType → LaneCheckError}
    {versions : LaneType → List String} {laneType : LaneType}
    {reading : ContractReading String} (returned : Returns reading) :
    Returns (checkTypeAndVersion unexpected versions laneType reading) := by
  apply Returns.bind (adapt_returns_iff.mpr returned)
  intro found _
  split
  · exact ⟨_, rfl⟩
  · exact ⟨_, rfl⟩

/-! ### One contract -/

section OneContract

variable {Fields : Type} [TupleFields Fields] [FieldsRoundTrip Fields]
  {deployed : DeployedContract Fields} {keccak : Keccak} {rpc : CallRpc}
  {contract : Address}

/-- The two checks of a contract pass exactly when the chain's node answers
both, and the contract is what the lane says. -/
theorem DeployedContract.Served.checks_pass_iff {Config : Type}
    [DecidableEq Config] {build : Fields → Config}
    {unexpectedConfig : Config → Config → LaneCheckError} {expected : Config}
    {unexpectedVersion : String → LaneType → LaneCheckError}
    {versions : LaneType → List String} {laneType : LaneType}
    (nonempty : (TupleFields.abiTypes Fields).isEmpty = false)
    (served : deployed.Served keccak rpc contract) :
    let _ : CheckedAbiDecode Config := .ofTuple Fields build
    (checkStaticConfig unexpectedConfig expected
          (fetchOnchainStaticConfig Config keccak rpc contract) =
        returns (.ok ()) ∧
      checkTypeAndVersion unexpectedVersion versions laneType
          (onchainTypeAndVersion keccak rpc contract) = returns (.ok ())) ↔
      rpc.AnswersFor keccak contract ∧
        build deployed.staticConfig = expected ∧
          deployed.typeAndVersion ∈ versions laneType := by
  intro _
  have readsConfig := checkedAbiDecode_ofTuple build deployed.staticConfig
    nonempty served.configFits
  have readsVersion := checkedAbiDecode_string served.versionFits
  rw [checkStaticConfig_eq_ok_iff, checkTypeAndVersion_eq_ok_iff,
    fetchOnchainStaticConfig, onchainTypeAndVersion,
    readContract_eq_ok_iff served.config readsConfig]
  simp only [readContract_eq_ok_iff served.version readsVersion,
    CallRpc.AnswersFor]
  constructor
  · intro ⟨⟨answersConfig, isExpected⟩, found, known, answersVersion, same⟩
    subst same
    exact ⟨⟨answersConfig, answersVersion⟩, isExpected, known⟩
  · intro ⟨⟨answersConfig, answersVersion⟩, isExpected, known⟩
    exact ⟨⟨answersConfig, isExpected⟩, _, known, answersVersion, rfl⟩

theorem DeployedContract.Served.config_returns {Config : Type}
    [DecidableEq Config] {build : Fields → Config}
    {unexpected : Config → Config → LaneCheckError} {expected : Config}
    (nonempty : (TupleFields.abiTypes Fields).isEmpty = false)
    (served : deployed.Served keccak rpc contract) :
    let _ : CheckedAbiDecode Config := .ofTuple Fields build
    Returns (checkStaticConfig unexpected expected
      (fetchOnchainStaticConfig Config keccak rpc contract)) := by
  intro _
  have reads := checkedAbiDecode_ofTuple build deployed.staticConfig nonempty
    served.configFits
  exact checkStaticConfig_returns
    ⟨_, readContract_of_serves served.config reads⟩

theorem DeployedContract.Served.version_returns
    {unexpected : String → LaneType → LaneCheckError}
    {versions : LaneType → List String} {laneType : LaneType}
    (served : deployed.Served keccak rpc contract) :
    Returns (checkTypeAndVersion unexpected versions laneType
      (onchainTypeAndVersion keccak rpc contract)) := by
  have reads := checkedAbiDecode_string served.versionFits
  exact checkTypeAndVersion_returns
    ⟨_, readContract_of_serves served.version reads⟩

end OneContract

/-! ### The contracts of a lane -/

/-- The three contracts of a lane as they are deployed. -/
structure DeployedLane where
  onRamp : DeployedContract OnRampStaticConfigAsTuple
  offRamp : DeployedContract OffRampStaticConfigAsTuple
  commitStore : DeployedContract CommitStoreStaticConfigAsTuple

namespace DeployedLane

/-- The nodes of the two chains answer for the contracts at the addresses of
the lane, or fail. -/
structure Served (deployed : DeployedLane) (keccak : Keccak)
    (source dest : CallRpc) (laneConfig : SharedLaneConfig) : Prop where
  onRamp : deployed.onRamp.Served keccak source laneConfig.onRamp
  offRamp : deployed.offRamp.Served keccak dest laneConfig.offRamp
  commitStore : deployed.commitStore.Served keccak dest laneConfig.commitStore

/-- The contracts are those of the lane: they refer to each other and to the
chains whose selectors the node hashes messages with, and have a version of
the lane's type. -/
structure Matches (deployed : DeployedLane) (laneConfig : SharedLaneConfig)
    (messageMetadata : MessageMetadata) : Prop where
  onRamp : OnRampStaticConfig.ofTuple deployed.onRamp.staticConfig =
    { chainSelector := messageMetadata.sourceChainSelector
      destChainSelector := messageMetadata.destChainSelector }
  onRampVersion :
    deployed.onRamp.typeAndVersion ∈ onrampVersions laneConfig.laneType
  offRamp : OffRampStaticConfig.ofTuple deployed.offRamp.staticConfig =
    { chainSelector := messageMetadata.destChainSelector
      srcChainSelector := messageMetadata.sourceChainSelector
      commitStore := laneConfig.commitStore
      onRamp := laneConfig.onRamp }
  offRampVersion :
    deployed.offRamp.typeAndVersion ∈ offrampVersions laneConfig.laneType
  commitStore :
    CommitStoreStaticConfig.ofTuple deployed.commitStore.staticConfig =
      { chainSelector := messageMetadata.destChainSelector
        srcChainSelector := messageMetadata.sourceChainSelector
        onRamp := laneConfig.onRamp }
  commitStoreVersion : deployed.commitStore.typeAndVersion ∈
    commitStoreVersions laneConfig.laneType

/-- The nodes of the two chains answer all that is asked about the lane. -/
structure Answered (keccak : Keccak) (source dest : CallRpc)
    (laneConfig : SharedLaneConfig) : Prop where
  onRamp : source.AnswersFor keccak laneConfig.onRamp
  offRamp : dest.AnswersFor keccak laneConfig.offRamp
  commitStore : dest.AnswersFor keccak laneConfig.commitStore

end DeployedLane

section OneLane

variable {keccak : Keccak} {rpcs : ChainName → Option CallRpc}
  {laneConfig : SharedLaneConfig} {source dest : CallRpc}
  {deployed : DeployedLane}

theorem messageMetadata_eq_some_iff {messageMetadata : MessageMetadata} :
    laneConfig.messageMetadata = some messageMetadata ↔
      chainSelector laneConfig.laneId.sourceChainName =
          some messageMetadata.sourceChainSelector ∧
        chainSelector laneConfig.laneId.destChainName =
            some messageMetadata.destChainSelector ∧
          messageMetadata.onrampAddress = laneConfig.onRamp := by
  rw [SharedLaneConfig.messageMetadata]
  cases chainSelector laneConfig.laneId.sourceChainName with
  | none => simp
  | some src =>
      cases chainSelector laneConfig.laneId.destChainName with
      | none => simp
      | some dest =>
          obtain ⟨onrampAddress, sourceSelector, destSelector⟩ :=
            messageMetadata
          simp only [Option.bind_eq_bind, Option.bind_some, Option.pure_def,
            Option.some.injEq, MessageMetadata.mk.injEq]
          constructor
          · rintro ⟨rfl, rfl, rfl⟩
            exact ⟨rfl, rfl, rfl⟩
          · rintro ⟨rfl, rfl, rfl⟩
            exact ⟨rfl, rfl, rfl⟩

theorem validateOnchainLaneConfig_eq_ok_iff
    (isSource : rpcs laneConfig.laneId.sourceChainName = some source)
    (isDest : rpcs laneConfig.laneId.destChainName = some dest)
    (served : deployed.Served keccak source dest laneConfig)
    {messageMetadata : MessageMetadata}
    (known : laneConfig.messageMetadata = some messageMetadata) :
    validateOnchainLaneConfig keccak rpcs laneConfig = returns (.ok ()) ↔
      DeployedLane.Answered keccak source dest laneConfig ∧
        deployed.Matches laneConfig messageMetadata := by
  obtain ⟨isSrcSelector, isDestSelector, _⟩ :=
    messageMetadata_eq_some_iff.mp known
  rw [validateOnchainLaneConfig, orPanic_bind _ isSrcSelector,
    orPanic_bind _ isDestSelector, joinScoped_eq_ok_iff]
  simp only [isSource, isDest, orPanic_some, ok_bind, List.forall_mem_cons]
  constructor
  · intro ⟨onRampConfig, onRampVersion, offRampConfig, offRampVersion,
      commitStoreConfig, commitStoreVersion, _⟩
    obtain ⟨onRampAnswered, isOnRamp, onRampKnown⟩ :=
      (served.onRamp.checks_pass_iff rfl).mp ⟨onRampConfig, onRampVersion⟩
    obtain ⟨offRampAnswered, isOffRamp, offRampKnown⟩ :=
      (served.offRamp.checks_pass_iff rfl).mp ⟨offRampConfig, offRampVersion⟩
    obtain ⟨commitStoreAnswered, isCommitStore, commitStoreKnown⟩ :=
      (served.commitStore.checks_pass_iff rfl).mp
        ⟨commitStoreConfig, commitStoreVersion⟩
    exact ⟨⟨onRampAnswered, offRampAnswered, commitStoreAnswered⟩,
      ⟨isOnRamp, onRampKnown, isOffRamp, offRampKnown, isCommitStore,
        commitStoreKnown⟩⟩
  · intro ⟨answered, isLane⟩
    obtain ⟨onRampConfig, onRampVersion⟩ :=
      (served.onRamp.checks_pass_iff rfl).mpr
        ⟨answered.onRamp, isLane.onRamp, isLane.onRampVersion⟩
    obtain ⟨offRampConfig, offRampVersion⟩ :=
      (served.offRamp.checks_pass_iff rfl).mpr
        ⟨answered.offRamp, isLane.offRamp, isLane.offRampVersion⟩
    obtain ⟨commitStoreConfig, commitStoreVersion⟩ :=
      (served.commitStore.checks_pass_iff rfl).mpr
        ⟨answered.commitStore, isLane.commitStore, isLane.commitStoreVersion⟩
    exact ⟨onRampConfig, onRampVersion, offRampConfig, offRampVersion,
      commitStoreConfig, commitStoreVersion, by simp⟩

theorem validateOnchainLaneConfig_returns_iff
    (isSource : rpcs laneConfig.laneId.sourceChainName = some source)
    (isDest : rpcs laneConfig.laneId.destChainName = some dest)
    (served : deployed.Served keccak source dest laneConfig) :
    Returns (validateOnchainLaneConfig keccak rpcs laneConfig) ↔
      laneConfig.messageMetadata ≠ none := by
  rw [validateOnchainLaneConfig, SharedLaneConfig.messageMetadata]
  cases chainSelector laneConfig.laneId.sourceChainName with
  | none =>
      constructor
      · intro ⟨_, returned⟩
        cases returned
      · intro known
        exact absurd rfl known
  | some src =>
      cases chainSelector laneConfig.laneId.destChainName with
      | none =>
          constructor
          · intro ⟨_, returned⟩
            cases returned
          · intro known
            exact absurd rfl known
      | some destSelector =>
          rw [orPanic_bind _ rfl, orPanic_bind _ rfl, joinScoped_returns_iff]
          simp only [isSource, isDest, orPanic_some, ok_bind,
            List.forall_mem_cons]
          constructor
          · intro _ unknown
            cases unknown
          · intro _
            exact ⟨served.onRamp.config_returns rfl,
              served.onRamp.version_returns,
              served.offRamp.config_returns rfl,
              served.offRamp.version_returns,
              served.commitStore.config_returns rfl,
              served.commitStore.version_returns, by simp⟩

end OneLane

/-! ### All lanes -/

section AllLanes

variable {keccak : Keccak} {rpcs : ChainName → Option CallRpc}
  {config : OffchainConfig}

/-- The two chains of each enabled lane have nodes that answer for what is
deployed, or fail. -/
def LanesServed (keccak : Keccak) (rpcs : ChainName → Option CallRpc)
    (config : OffchainConfig) (deployed : LaneId → DeployedLane) : Prop :=
  ∀ laneId laneConfig,
    config.sharedConfigByEnabledLane.lookup laneId = some laneConfig →
      ∃ source dest, rpcs laneConfig.laneId.sourceChainName = some source ∧
        rpcs laneConfig.laneId.destChainName = some dest ∧
          (deployed laneId).Served keccak source dest laneConfig

/-- The node finds the lane's contracts as they should be. -/
def LaneInOrder (keccak : Keccak) (rpcs : ChainName → Option CallRpc)
    (deployed : DeployedLane) (laneConfig : SharedLaneConfig) : Prop :=
  ∃ messageMetadata source dest,
    laneConfig.messageMetadata = some messageMetadata ∧
      rpcs laneConfig.laneId.sourceChainName = some source ∧
        rpcs laneConfig.laneId.destChainName = some dest ∧
          DeployedLane.Answered keccak source dest laneConfig ∧
            deployed.Matches laneConfig messageMetadata

/-- The check passes exactly when every enabled lane's contracts answer, refer
to each other and to the chains as the node does, and have versions of the
lane's type.  It panics exactly when a chain of a lane has no selector. -/
theorem lane_validation_passes_iff (deployed : LaneId → DeployedLane)
    (served : LanesServed keccak rpcs config deployed) :
    (validateOnchainConfigs keccak rpcs config = returns (.ok ()) ↔
        ∀ laneId laneConfig,
          config.sharedConfigByEnabledLane.lookup laneId = some laneConfig →
            LaneInOrder keccak rpcs (deployed laneId) laneConfig) ∧
      (Returns (validateOnchainConfigs keccak rpcs config) ↔
        ∀ laneId laneConfig,
          config.sharedConfigByEnabledLane.lookup laneId = some laneConfig →
            laneConfig.messageMetadata ≠ none) := by
  constructor
  · rw [validateOnchainConfigs, joinScoped_eq_ok_iff]
    simp only [List.forall_mem_map, adapt_eq_ok_iff]
    constructor
    · intro passed laneId laneConfig found
      obtain ⟨source, dest, isSource, isDest, isServed⟩ :=
        served laneId laneConfig found
      have lanePassed := passed ⟨laneId, laneConfig⟩
        (EntryMap.mem_entries_iff.mpr found)
      have known := (validateOnchainLaneConfig_returns_iff isSource isDest
        isServed).mp ⟨_, lanePassed⟩
      obtain ⟨messageMetadata, isKnown⟩ := Option.ne_none_iff_exists'.mp known
      exact ⟨messageMetadata, source, dest, isKnown, isSource, isDest,
        (validateOnchainLaneConfig_eq_ok_iff isSource isDest isServed
          isKnown).mp lanePassed⟩
    · intro inOrder ⟨laneId, laneConfig⟩ member
      have found := EntryMap.mem_entries_iff.mp member
      obtain ⟨source, dest, isSource, isDest, isServed⟩ :=
        served laneId laneConfig found
      obtain ⟨messageMetadata, answering, answeringDest, isKnown,
        isAnswering, isAnsweringDest, isLane⟩ :=
          inOrder laneId laneConfig found
      rw [isSource, Option.some.injEq] at isAnswering
      rw [isDest, Option.some.injEq] at isAnsweringDest
      subst isAnswering isAnsweringDest
      exact (validateOnchainLaneConfig_eq_ok_iff isSource isDest isServed
        isKnown).mpr isLane
  · rw [validateOnchainConfigs, joinScoped_returns_iff]
    simp only [List.forall_mem_map, adapt_returns_iff]
    constructor
    · intro returned laneId laneConfig found
      obtain ⟨source, dest, isSource, isDest, isServed⟩ :=
        served laneId laneConfig found
      exact (validateOnchainLaneConfig_returns_iff isSource isDest
        isServed).mp (returned ⟨laneId, laneConfig⟩
          (EntryMap.mem_entries_iff.mpr found))
    · intro known ⟨laneId, laneConfig⟩ member
      have found := EntryMap.mem_entries_iff.mp member
      obtain ⟨source, dest, isSource, isDest, isServed⟩ :=
        served laneId laneConfig found
      exact (validateOnchainLaneConfig_returns_iff isSource isDest
        isServed).mpr (known laneId laneConfig found)

end AllLanes

/-! ### A lane whose contracts are in order -/

namespace SampleLane

def laneConfig : SharedLaneConfig where
  laneId := ⟨.sepolia, .avaxFuji, "lane"⟩
  laneType := .evm2EvmV1_2
  sourceStartBlockNumber := 1
  destStartBlockNumber := 1
  commitStore := .replicate 20 3
  onRamp := .replicate 20 1
  offRamp := .replicate 20 2

def messageMetadata : MessageMetadata where
  onrampAddress := .replicate 20 1
  sourceChainSelector := 0xDE41BA4FC9D91AD9
  destChainSelector := 0xCCF0A31A221F3C9B

def deployed : DeployedLane where
  onRamp :=
    { typeAndVersion := "EVM2EVMOnRamp 1.2.0"
      staticConfig := (.replicate 20 9, 0xDE41BA4FC9D91AD9,
        0xCCF0A31A221F3C9B, 200000, 0, .replicate 20 0, .replicate 20 8, ()) }
  offRamp :=
    { typeAndVersion := "EVM2EVMOffRamp 1.2.0"
      staticConfig := (.replicate 20 3, 0xCCF0A31A221F3C9B,
        0xDE41BA4FC9D91AD9, .replicate 20 1, .replicate 20 0, .replicate 20 8,
        ()) }
  commitStore :=
    { typeAndVersion := "CommitStore 1.2.0"
      staticConfig := (0xCCF0A31A221F3C9B, 0xDE41BA4FC9D91AD9,
        .replicate 20 1, .replicate 20 8, ()) }

/-- The node of both chains. -/
def rpc : CallRpc := fun contract data =>
  let isConfig := data = encodeContractCall lengthHash GetStaticConfig.mk
  .ok (if contract = laneConfig.onRamp then
      if isConfig then deployed.onRamp.configEncoding
      else deployed.onRamp.versionEncoding
    else if contract = laneConfig.offRamp then
      if isConfig then deployed.offRamp.configEncoding
      else deployed.offRamp.versionEncoding
    else
      if isConfig then deployed.commitStore.configEncoding
      else deployed.commitStore.versionEncoding)

def config : OffchainConfig where
  sharedConfigByEnabledChain := ∅
  sharedConfigByDisabledChain := ∅
  sharedConfigByEnabledLane := .singleton laneConfig.laneId laneConfig
  localConfigByEnabledChain := ∅

theorem served : deployed.Served lengthHash rpc rpc laneConfig where
  onRamp :=
    { config := fun _ answer => (Except.ok.inj answer).symm
      configFits := by decide +kernel
      version := fun _ answer => (Except.ok.inj answer).symm
      versionFits := by decide +kernel }
  offRamp :=
    { config := fun _ answer => (Except.ok.inj answer).symm
      configFits := by decide +kernel
      version := fun _ answer => (Except.ok.inj answer).symm
      versionFits := by decide +kernel }
  commitStore :=
    { config := fun _ answer => (Except.ok.inj answer).symm
      configFits := by decide +kernel
      version := fun _ answer => (Except.ok.inj answer).symm
      versionFits := by decide +kernel }

end SampleLane

theorem lane_validation_passes_iff_sampleLane :
    validateOnchainConfigs lengthHash (fun _ => some SampleLane.rpc)
      SampleLane.config = returns (.ok ()) := by
  have onlyLane : ∀ laneId laneConfig,
      SampleLane.config.sharedConfigByEnabledLane.lookup laneId =
        some laneConfig → laneConfig = SampleLane.laneConfig := by
    intro laneId laneConfig found
    have isEntry := EntryMap.mem_entries_iff.mpr found
    simp only [SampleLane.config, AList.singleton, List.mem_singleton,
      Sigma.mk.injEq] at isEntry
    exact eq_of_heq isEntry.2
  refine (lane_validation_passes_iff (fun _ => SampleLane.deployed)
    ?_).1.mpr ?_
  · intro laneId laneConfig found
    rw [onlyLane laneId laneConfig found]
    exact ⟨_, _, rfl, rfl, SampleLane.served⟩
  · intro laneId laneConfig found
    rw [onlyLane laneId laneConfig found]
    exact ⟨SampleLane.messageMetadata, SampleLane.rpc, SampleLane.rpc, rfl,
      rfl, rfl, ⟨⟨rfl, rfl⟩, ⟨rfl, rfl⟩, ⟨rfl, rfl⟩⟩,
      ⟨rfl, by decide, rfl, by decide, rfl, by decide⟩⟩

end RiskManagement
