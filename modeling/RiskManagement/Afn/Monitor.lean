import RiskManagement.Library.Loops
import RiskManagement.Afn.AfnContract
import RiskManagement.Afn.Config
import RiskManagement.Afn.CurseBeacon
import RiskManagement.Afn.Worker

/-!
# The monitor of the node

`State::monitor` is the loop of the main thread.  It joins the threads that
ended, updates the curse beacon, and returns when a worker died or when a
contract has a new configuration.  `run_afn` ends the node in the first case
and starts over in the second.  A node that is cursed does neither, but the
monitor of any node panics when it unwraps a lock that is poisoned.
-/

namespace RiskManagement

open Loops (Turn iterate iterate_invariant)
open Relation (ReflTransGen)

/-- Why the monitor returns. -/
inductive MonitorResult where
  | workersDied (finished : List (String × Except JoinError Unit))
  | onchainConfigChanged

/-- Why the monitor fails. -/
inductive MonitorError where
  | onchainConfigNotFound (chainName : ChainName)

/-- The locks of a lane that a worker holds while it computes.  A thread that
panics then poisons the lock, and every later `unwrap` on it panics too.  The
monitor's other locks are held for one assignment, which cannot panic. -/
inductive LaneLock where
  | sourceBlessState
  | destBlessState
  | destOfframpState
  | offrampAnomalyDetectorState
deriving DecidableEq

/-- How the loop ends: it returns, or it panics on a lock of a lane. -/
inductive MonitorExit where
  | returned (result : Except MonitorError MonitorResult)
  | panicked (laneId : LaneId) (lock : LaneLock)

/-- What the monitor reads of `State`. -/
structure NodeState where
  destChains : List ChainName
  laneStates : List LaneId
  curseBeacon : CurseBeacon
  shutdownHandles : List ShutdownHandle
  onchainConfigs : EntryMap ChainName VersionedOnchainConfig

/-- What one turn of the loop finds.  `poisoned` are the locks that are when
the beacon is updated, and `poisonedLater` those when the status is reported.
`latest` answers each attempt to read the configuration that the discovery
worker of a chain has published. -/
structure MonitorView where
  threads : Threads
  poisoned : LaneId → LaneLock → Bool
  beacon : BeaconView
  latest : ChainName → Nat → Option VersionedOnchainConfig
  reportIsDue : Bool
  poisonedLater : LaneId → LaneLock → Bool

/-- The inner `loop` of `get_onchain_configs`. -/
def discoverOnchainConfig (latest : Nat → Option VersionedOnchainConfig)
    (fuel : Nat) : Option VersionedOnchainConfig :=
  iterate
    (fun attempt => some
      (match latest attempt with
      | none => .next (attempt + 1)
      | some configDetails => .exit configDetails))
    fuel 0

/-- The chains are those of `config.dest_chains()`. -/
def getOnchainConfigs (destChains : List ChainName)
    (latest : ChainName → Nat → Option VersionedOnchainConfig) (fuel : Nat) :
    Option (EntryMap ChainName VersionedOnchainConfig) :=
  destChains.foldlM
    (fun (onchainConfigs : EntryMap ChainName VersionedOnchainConfig)
        chainName => do
      let versioned ← discoverOnchainConfig (latest chainName) fuel
      return onchainConfigs.insert chainName versioned)
    ∅

/-- The `for` over the new configurations.  `none` is its end. -/
def compareOnchainConfigs
    (onchainConfigs : EntryMap ChainName VersionedOnchainConfig) :
    List (Sigma fun _ : ChainName => VersionedOnchainConfig) →
      Option (Except MonitorError MonitorResult)
  | [] => none
  | ⟨chainName, versioned⟩ :: rest =>
      match onchainConfigs.lookup chainName with
      | none => some (.error (.onchainConfigNotFound chainName))
      | some initial =>
          if initial ≠ versioned then some (.ok .onchainConfigChanged)
          else compareOnchainConfigs onchainConfigs rest

/-- The first of the locks that is poisoned. -/
def poisonedLock (poisoned : LaneId → LaneLock → Bool)
    (laneStates : List LaneId) (locks : List LaneLock) :
    Option (LaneId × LaneLock) :=
  (laneStates ×ˢ locks).find? fun (laneId, lock) => poisoned laneId lock

/-- What `CurseBeacon::update` locks of each lane. -/
def updateLocks : List LaneLock := [.offrampAnomalyDetectorState]

/-- What `print_status_report` locks of each lane. -/
def reportLocks : List LaneLock :=
  [.sourceBlessState, .destBlessState, .destOfframpState,
    .offrampAnomalyDetectorState]

namespace NodeState

/-- The end of a turn. -/
def printStatusReport (view : MonitorView) (state : NodeState) :
    Turn NodeState (NodeState × MonitorExit) :=
  if view.reportIsDue then
    match poisonedLock view.poisonedLater state.laneStates reportLocks with
    | some (laneId, lock) => .exit (state, .panicked laneId lock)
    | none => .next state
  else .next state

/-- One turn of `loop`.  `none` is a wait for a configuration that takes
longer than the fuel. -/
def monitorTurn (fuel : Nat) (view : MonitorView) (state : NodeState) :
    Option (Turn NodeState (NodeState × MonitorExit)) :=
  let (finished, shutdownHandles) :=
    finishedWorkersAndResults view.threads state.shutdownHandles
  match poisonedLock view.poisoned state.laneStates updateLocks with
  | some (laneId, lock) =>
      some (.exit
        ({ state with shutdownHandles := shutdownHandles },
          .panicked laneId lock))
  | none =>
      let state :=
        { state with
          shutdownHandles := shutdownHandles
          curseBeacon := state.curseBeacon.update view.beacon }
      if state.curseBeacon.isCursed then
        some (state.printStatusReport view)
      else if !finished.isEmpty then
        some (.exit (state, .returned (.ok (.workersDied finished))))
      else
        match getOnchainConfigs state.destChains view.latest fuel with
        | none => none
        | some newOnchainConfigs =>
            match compareOnchainConfigs state.onchainConfigs
                newOnchainConfigs.entries with
            | none => some (state.printStatusReport view)
            | some result => some (.exit (state, .returned result))

end NodeState

/-! ### Starting a node -/

/-- `finality_violation_global_curse_chains`. -/
def globalCurseChains (config : OffchainConfig) : Finset ChainName :=
  ((config.sharedConfigByEnabledChain.entries.filter fun entry =>
    entry.2.uponFinalityViolationVoteToCurseOnOtherChains).map
      fun entry => entry.2.name).toFinset

/-- The beacon of `State::new_and_spawn_workers`. -/
def startBeacon (config : OffchainConfig) (manualCurse : Option CurseId)
    (draw : CursableAnomaly → CurseId) : CurseBeacon :=
  .new config.enabledChains config.enabledLanes (globalCurseChains config)
    manualCurse draw

/-- A state that `State::new_and_spawn_workers` returned.  Every worker has a
thread that was not joined, and the configurations are the first ones that
were discovered. -/
structure NodeState.Started (config : OffchainConfig)
    (manualCurse : Option CurseId) (state : NodeState) : Prop where
  dest : ∃ destChains, config.destChains = some destChains ∧
    state.destChains = destChains.keys
  lanes : state.laneStates = config.enabledLanes
  beacon : ∃ draw, state.curseBeacon = startBeacon config manualCurse draw
  fresh : ∀ handle ∈ state.shutdownHandles,
    handle.joinHandle.isSome = true
  discovered : ∃ latest fuel,
    getOnchainConfigs state.destChains latest fuel = some state.onchainConfigs

/-- A turn of the monitor, or a restart by `run_afn`. -/
inductive NodeStep (config : OffchainConfig) (manualCurse : Option CurseId) :
    NodeState → NodeState → Prop where
  | turn {fuel : Nat} {view : MonitorView} {state after : NodeState}
      (turned : state.monitorTurn fuel view = some (.next after)) :
      NodeStep config manualCurse state after
  | restart {fuel : Nat} {view : MonitorView}
      {state left fresh : NodeState}
      (turned : state.monitorTurn fuel view =
        some (.exit (left, .returned (.ok .onchainConfigChanged))))
      (started : fresh.Started config manualCurse) :
      NodeStep config manualCurse state fresh

end RiskManagement
