import RiskManagement.Afn.ConfigAcceptance
import RiskManagement.Afn.Monitor

/-!
# Supervision of the node

The beacon of a node grows as long as the node lives, and the monitor returns
only from a turn in which the beacon holds nothing.  So no restart and no end
of the node forgets an anomaly.
-/

namespace RiskManagement

open Loops (Turn iterate iterate_invariant)
open Relation (ReflTransGen)

/-! ### The onchain configurations -/

section Discovering

variable {destChains : List ChainName}
  {latest : ChainName → Nat → Option VersionedOnchainConfig} {fuel : Nat}
  {versioned : VersionedOnchainConfig}

theorem discoverInto_lookup (chain : ChainName)
    {known onchainConfigs : EntryMap ChainName VersionedOnchainConfig}
    (discovered : destChains.foldlM
      (fun (onchainConfigs : EntryMap ChainName VersionedOnchainConfig)
          chainName => do
        let versioned ← discoverOnchainConfig (latest chainName) fuel
        return onchainConfigs.insert chainName versioned) known =
      some onchainConfigs) :
    (chain ∈ destChains → onchainConfigs.lookup chain =
        discoverOnchainConfig (latest chain) fuel ∧
          (onchainConfigs.lookup chain).isSome = true) ∧
      (chain ∉ destChains →
        onchainConfigs.lookup chain = known.lookup chain) := by
  induction destChains generalizing known with
  | nil =>
      cases discovered
      simp
  | cons first rest ih =>
      rw [List.foldlM_cons] at discovered
      obtain ⟨inserted, isFirst, fromRest⟩ :=
        Option.bind_eq_some_iff.mp discovered
      obtain ⟨config, isConfig, isInserted⟩ :=
        Option.bind_eq_some_iff.mp isFirst
      cases isInserted
      obtain ⟨listed, notListed⟩ := ih fromRest
      by_cases again : chain ∈ rest
      · exact ⟨fun _ => listed again,
          fun absent => absurd (List.mem_cons_of_mem _ again) absent⟩
      · have unchanged := notListed again
        by_cases same : chain = first
        · subst same
          rw [AList.lookup_insert] at unchanged
          refine ⟨fun _ => ?_, fun absent => absurd List.mem_cons_self absent⟩
          rw [unchanged, isConfig]
          exact ⟨rfl, rfl⟩
        · rw [AList.lookup_insert_ne same] at unchanged
          refine ⟨fun member => ?_, fun _ => unchanged⟩
          simp [same, again] at member

theorem lookup_getOnchainConfigs {chain : ChainName}
    {onchainConfigs : EntryMap ChainName VersionedOnchainConfig}
    (discovered : getOnchainConfigs destChains latest fuel =
      some onchainConfigs)
    (found : onchainConfigs.lookup chain = some versioned) :
    chain ∈ destChains ∧
      discoverOnchainConfig (latest chain) fuel = some versioned := by
  obtain ⟨listed, notListed⟩ :=
    discoverInto_lookup chain discovered
  by_cases isDest : chain ∈ destChains
  · exact ⟨isDest, (listed isDest).1.symm.trans found⟩
  · rw [notListed isDest, AList.lookup_empty] at found
    cases found

end Discovering

theorem compareOnchainConfigs_eq_some
    {onchainConfigs : EntryMap ChainName VersionedOnchainConfig}
    {entries : List (Sigma fun _ : ChainName => VersionedOnchainConfig)}
    {result : Except MonitorError MonitorResult}
    (compared : compareOnchainConfigs onchainConfigs entries = some result) :
    ∃ chain versioned, ⟨chain, versioned⟩ ∈ entries ∧
      (onchainConfigs.lookup chain = none ∨
        result = .ok .onchainConfigChanged ∧
          ∃ initial, onchainConfigs.lookup chain = some initial ∧
            initial ≠ versioned) := by
  induction entries with
  | nil => cases compared
  | cons entry rest ih =>
      obtain ⟨chain, versioned⟩ := entry
      rw [compareOnchainConfigs] at compared
      cases found : onchainConfigs.lookup chain with
      | none => exact ⟨chain, versioned, List.mem_cons_self, .inl found⟩
      | some initial =>
          simp only [found] at compared
          split at compared
          · rename_i different
            cases compared
            exact ⟨chain, versioned, List.mem_cons_self,
              .inr ⟨rfl, initial, found, different⟩⟩
          · obtain ⟨other, config, member, reason⟩ := ih compared
            exact ⟨other, config, List.mem_cons_of_mem _ member, reason⟩

namespace NodeState

variable {config : OffchainConfig} {manualCurse : Option CurseId}
  {fuel : Nat} {view : MonitorView} {state after left : NodeState}
  {result : Except MonitorError MonitorResult}

/-! ### What a turn does -/

/-- The state after the joins and the update. -/
def advance (view : MonitorView) (state : NodeState) : NodeState :=
  { state with
    shutdownHandles :=
      (finishedWorkersAndResults view.threads state.shutdownHandles).2
    curseBeacon := state.curseBeacon.update view.beacon }

/-- The names of the threads that a turn finds ended, with what they ended with.
-/
def finished (view : MonitorView) (state : NodeState) :
    List (String × Except JoinError Unit) :=
  (finishedWorkersAndResults view.threads state.shutdownHandles).1

/-- A worker of the lane has panicked while it held the lock. -/
def FindsPoisoned (state : NodeState) (view : MonitorView)
    (laneId : LaneId) (lock : LaneLock) : Prop :=
  laneId ∈ state.laneStates ∧
    (view.poisoned laneId lock = true ∨ view.poisonedLater laneId lock = true)

theorem poisonedLock_eq_some {poisoned : LaneId → LaneLock → Bool}
    {laneStates : List LaneId} {locks : List LaneLock} {laneId : LaneId}
    {lock : LaneLock}
    (found : poisonedLock poisoned laneStates locks = some (laneId, lock)) :
    laneId ∈ laneStates ∧ poisoned laneId lock = true := by
  have member := List.mem_of_find?_eq_some found
  have isPoisoned := List.find?_some found
  exact ⟨(List.pair_mem_product.mp member).1, isPoisoned⟩

theorem printStatusReport_cases (view : MonitorView) (state : NodeState) :
    state.printStatusReport view = .next state ∨
      ∃ laneId lock, state.FindsPoisoned view laneId lock ∧
        state.printStatusReport view =
          .exit (state, .panicked laneId lock) := by
  rw [printStatusReport]
  split
  · split
    · rename_i laneId lock found
      obtain ⟨isLane, poisoned⟩ := poisonedLock_eq_some found
      exact .inr ⟨laneId, lock, ⟨isLane, .inr poisoned⟩, rfl⟩
    · exact .inl rfl
  · exact .inl rfl

/-- Why the monitor returns. -/
def ReturnsFor (state : NodeState) (fuel : Nat) (view : MonitorView)
    (result : Except MonitorError MonitorResult) : Prop :=
  state.finished view ≠ [] ∧
      result = .ok (.workersDied (state.finished view)) ∨
    state.finished view = [] ∧
      ∃ newOnchainConfigs,
        getOnchainConfigs state.destChains view.latest fuel =
            some newOnchainConfigs ∧
          compareOnchainConfigs state.onchainConfigs
            newOnchainConfigs.entries = some result

/-- What a turn can do. -/
inductive Turned (state : NodeState) (fuel : Nat) (view : MonitorView) :
    Turn NodeState (NodeState × MonitorExit) → Prop where
  | panicked {left : NodeState} {laneId : LaneId} {lock : LaneLock}
      (finds : state.FindsPoisoned view laneId lock) :
      Turned state fuel view (.exit (left, .panicked laneId lock))
  | stays
      (fine : (state.advance view).curseBeacon.isCursed = false →
        state.finished view = []) :
      Turned state fuel view (.next (state.advance view))
  | returns {result : Except MonitorError MonitorResult}
      (notCursed : (state.advance view).curseBeacon.isCursed = false)
      (reason : state.ReturnsFor fuel view result) :
      Turned state fuel view (.exit (state.advance view, .returned result))

theorem turned_printStatusReport
    (fine : (state.advance view).curseBeacon.isCursed = false →
      state.finished view = []) :
    state.Turned fuel view ((state.advance view).printStatusReport view) := by
  rcases printStatusReport_cases view (state.advance view) with
    isNext | ⟨laneId, lock, finds, isExit⟩
  · rw [isNext]
    exact .stays fine
  · rw [isExit]
    exact .panicked finds

theorem monitorTurn_eq (fuel : Nat) (view : MonitorView)
    (state : NodeState) :
    state.monitorTurn fuel view =
      match poisonedLock view.poisoned state.laneStates updateLocks with
      | some (laneId, lock) =>
          some (.exit
            ({ state.advance view with curseBeacon := state.curseBeacon },
              .panicked laneId lock))
      | none =>
          if (state.advance view).curseBeacon.isCursed then
            some ((state.advance view).printStatusReport view)
          else if !(state.finished view).isEmpty then
            some (.exit (state.advance view,
              .returned (.ok (.workersDied (state.finished view)))))
          else
            match getOnchainConfigs state.destChains view.latest fuel with
            | none => none
            | some newOnchainConfigs =>
                match compareOnchainConfigs state.onchainConfigs
                    newOnchainConfigs.entries with
                | none => some ((state.advance view).printStatusReport view)
                | some result =>
                    some (.exit (state.advance view, .returned result)) :=
  rfl

theorem monitorTurn_turned
    {turn : Turn NodeState (NodeState × MonitorExit)}
    (turned : state.monitorTurn fuel view = some turn) :
    state.Turned fuel view turn := by
  rw [monitorTurn_eq] at turned
  split at turned
  · rename_i found
    cases turned
    obtain ⟨isLane, poisoned⟩ := poisonedLock_eq_some found
    exact .panicked ⟨isLane, .inl poisoned⟩
  · split at turned
    · rename_i cursed
      cases turned
      exact turned_printStatusReport fun notCursed =>
        absurd cursed (Bool.eq_false_iff.mp notCursed)
    · rename_i isNot
      have notCursed : (state.advance view).curseBeacon.isCursed = false :=
        Bool.eq_false_iff.mpr isNot
      split at turned
      · rename_i someFinished
        cases turned
        exact .returns notCursed (.inl ⟨by simpa using someFinished, rfl⟩)
      · rename_i isEmpty
        have noneFinished : state.finished view = [] := by
          simpa using isEmpty
        split at turned
        · cases turned
        · rename_i newOnchainConfigs discovered
          split at turned
          · cases turned
            exact turned_printStatusReport fun _ => noneFinished
          · rename_i result compared
            cases turned
            exact .returns notCursed
              (.inr ⟨noneFinished, newOnchainConfigs, discovered, compared⟩)

theorem monitorTurn_next
    (turned : state.monitorTurn fuel view = some (.next after)) :
    after = state.advance view ∧
      (after.curseBeacon.isCursed = false → state.finished view = []) := by
  cases monitorTurn_turned turned with
  | stays fine => exact ⟨rfl, fine⟩

theorem monitorTurn_returned
    (turned : state.monitorTurn fuel view =
      some (.exit (left, .returned result))) :
    left.curseBeacon.isCursed = false ∧ left = state.advance view ∧
      state.ReturnsFor fuel view result := by
  cases monitorTurn_turned turned with
  | returns notCursed reason => exact ⟨notCursed, rfl, reason⟩

/-- A beacon that holds something is not emptied by an update. -/
theorem advance_isCursed (cursed : state.curseBeacon.isCursed = true) :
    (state.advance view).curseBeacon.isCursed = true := by
  obtain ⟨anomaly, curseId, found⟩ :=
    CurseBeacon.isCursed_eq_true_iff.mp cursed
  exact CurseBeacon.isCursed_eq_true_iff.mpr ⟨anomaly, curseId,
    CurseBeacon.update_extends _ view.beacon anomaly curseId found⟩

theorem not_returned_of_cursed (cursed : state.curseBeacon.isCursed = true) :
    state.monitorTurn fuel view ≠ some (.exit (left, .returned result)) := by
  intro turned
  obtain ⟨notCursed, isLeft, _⟩ := monitorTurn_returned turned
  rw [isLeft, advance_isCursed cursed] at notCursed
  cases notCursed

theorem monitorTurn_isSome_of_cursed
    (cursed : state.curseBeacon.isCursed = true) (fuel : Nat)
    (view : MonitorView) :
    (state.monitorTurn fuel view).isSome = true := by
  rw [monitorTurn_eq, if_pos (advance_isCursed cursed)]
  split
  · rfl
  · rfl

theorem monitorTurn_of_cursed (cursed : state.curseBeacon.isCursed = true)
    (fuel : Nat) (view : MonitorView) :
    state.monitorTurn fuel view = some (.next (state.advance view)) ∨
      ∃ left laneId lock, state.FindsPoisoned view laneId lock ∧
        state.monitorTurn fuel view =
          some (.exit (left, .panicked laneId lock)) := by
  obtain ⟨turn, turned⟩ := Option.isSome_iff_exists.mp
    (monitorTurn_isSome_of_cursed cursed fuel view)
  rw [turned]
  cases monitorTurn_turned turned with
  | stays fine => exact .inl rfl
  | panicked finds => exact .inr ⟨_, _, _, finds, rfl⟩
  | returns notCursed reason =>
      exact absurd turned (not_returned_of_cursed cursed)

/-! ### Runs over restarts -/

theorem step_extends (step : NodeStep config manualCurse state after) :
    after.curseBeacon.cursableAnomalies.Extends
      state.curseBeacon.cursableAnomalies := by
  cases step with
  | turn turned =>
      rw [(monitorTurn_next turned).1]
      exact CurseBeacon.update_extends _ _
  | restart turned started =>
      intro anomaly curseId found
      have cursed : state.curseBeacon.isCursed = true :=
        CurseBeacon.isCursed_eq_true_iff.mpr ⟨anomaly, curseId, found⟩
      exact absurd turned (not_returned_of_cursed cursed)

theorem run_extends
    (run : ReflTransGen (NodeStep config manualCurse) state after) :
    after.curseBeacon.cursableAnomalies.Extends
      state.curseBeacon.cursableAnomalies := by
  induction run with
  | refl => exact fun _ _ found => found
  | tail _ step ih =>
      intro anomaly curseId found
      exact step_extends step anomaly curseId (ih anomaly curseId found)

/-- The invariant of the supervision. -/
structure Supervised (state : NodeState) : Prop where
  discovered : ∀ chain ∈ state.destChains,
    (state.onchainConfigs.lookup chain).isSome = true
  fresh : state.curseBeacon.isCursed = false →
    ∀ handle ∈ state.shutdownHandles, handle.joinHandle.isSome = true

theorem Started.supervised (started : state.Started config manualCurse) :
    state.Supervised where
  discovered := by
    intro chain isDest
    obtain ⟨latest, fuel, discovered⟩ := started.discovered
    exact ((discoverInto_lookup chain discovered).1 isDest).2
  fresh := fun _ => started.fresh

theorem step_supervised (step : NodeStep config manualCurse state after)
    (supervised : state.Supervised) : after.Supervised := by
  cases step with
  | turn turned =>
      obtain ⟨rfl, noneFinished⟩ := monitorTurn_next turned
      refine ⟨supervised.discovered, ?_⟩
      intro notCursed
      have wasNot : state.curseBeacon.isCursed = false := by
        cases was : state.curseBeacon.isCursed with
        | false => rfl
        | true => rw [advance_isCursed was] at notCursed; cases notCursed
      rw [advance, finishedWorkersAndResults_none (noneFinished notCursed)]
      exact supervised.fresh wasNot
  | restart turned started => exact started.supervised

theorem run_supervised
    (run : ReflTransGen (NodeStep config manualCurse) state after)
    (supervised : state.Supervised) : after.Supervised := by
  induction run with
  | refl => exact supervised
  | tail _ step ih => exact step_supervised step ih

/-- A manual curse is in the beacon of every start and stays there. -/
theorem run_manualCurse {start : NodeState} {given : CurseId}
    (started : start.Started config (some given))
    (run : ReflTransGen (NodeStep config (some given)) start state) :
    state.curseBeacon.cursableAnomalies.lookup (.manualCurse given) =
      some given := by
  apply run_extends run
  obtain ⟨draw, isBeacon⟩ := started.beacon
  rw [isBeacon]
  exact CurseBeacon.new_lookup_manualCurse given

/-- A node that is cursed neither ends nor starts over, whatever its workers
and the contracts do, unless a worker panics while it holds a lock that the
monitor reads.  When the monitor returns its beacon is empty, so that no curse
is forgotten by a restart, and with a manual curse it never does. -/
theorem cursed_node_never_stops {start : NodeState}
    (started : start.Started config manualCurse)
    (run : ReflTransGen (NodeStep config manualCurse) start state) :
    (state.curseBeacon.isCursed = true → ∀ fuel view,
        state.monitorTurn fuel view = some (.next (state.advance view)) ∨
          ∃ left laneId lock, state.FindsPoisoned view laneId lock ∧
            state.monitorTurn fuel view =
              some (.exit (left, .panicked laneId lock))) ∧
      (∀ later, ReflTransGen (NodeStep config manualCurse) state later →
        later.curseBeacon.cursableAnomalies.Extends
          state.curseBeacon.cursableAnomalies) ∧
      (∀ fuel view left result,
        state.monitorTurn fuel view =
            some (.exit (left, .returned result)) →
          left.curseBeacon.isCursed = false ∧
            state.curseBeacon.isCursed = false ∧ manualCurse = none) := by
  refine ⟨monitorTurn_of_cursed, fun _ => run_extends, ?_⟩
  intro fuel view left result turned
  have wasNot : state.curseBeacon.isCursed = false := by
    apply Bool.eq_false_iff.mpr
    intro cursed
    exact not_returned_of_cursed cursed turned
  refine ⟨(monitorTurn_returned turned).1, wasNot, ?_⟩
  cases manualCurse with
  | none => rfl
  | some given =>
      have cursed := CurseBeacon.isCursed_eq_true_iff.mpr
        ⟨_, _, run_manualCurse started run⟩
      exact absurd turned (not_returned_of_cursed cursed)

/-- Two chains and one lane. -/
def sampleConfig : OffchainConfig where
  sharedConfigByEnabledChain := EntryMap.collect
    [(.sepolia, OffchainConfig.sampleChain .sepolia),
      (.goerli, OffchainConfig.sampleChain .goerli)]
  sharedConfigByDisabledChain := ∅
  sharedConfigByEnabledLane := EntryMap.collect
    [(OffchainConfig.sampleLane.laneId, OffchainConfig.sampleLane)]
  localConfigByEnabledChain := ∅

def sampleVersioned (version : UInt32) : VersionedOnchainConfig where
  version := version
  blockNumber := 1
  config := ⟨⟨[], by decide⟩, 1, 1⟩

def sampleNode (manualCurse : Option CurseId) : NodeState where
  destChains := [.goerli]
  laneStates := [OffchainConfig.sampleLane.laneId]
  curseBeacon := startBeacon sampleConfig manualCurse
    fun _ => SizedBytes.replicate 32 0
  shutdownHandles := [⟨"detector", some 0⟩, ⟨"voter", some 1⟩]
  onchainConfigs := EntryMap.collect [(.goerli, sampleVersioned 1)]

theorem sampleNode_started (manualCurse : Option CurseId) :
    (sampleNode manualCurse).Started sampleConfig manualCurse where
  dest := ⟨EntryMap.collect [(.goerli, OffchainConfig.sampleChain .goerli)],
    rfl, rfl⟩
  lanes := rfl
  beacon := ⟨_, rfl⟩
  fresh := by simp [sampleNode]
  discovered := ⟨fun _ _ => some (sampleVersioned 1), 1, rfl⟩

/-- The workers still run and the contract has a new configuration. -/
def reconfigured : MonitorView where
  threads := ⟨fun _ => false, fun _ => .ok⟩
  poisoned _ _ := false
  beacon := ⟨fun _ => none, fun _ => [], fun _ => SizedBytes.replicate 32 0⟩
  latest _ _ := some (sampleVersioned 2)
  reportIsDue := true
  poisonedLater _ _ := false

/-- The second worker has failed. -/
def halted : MonitorView where
  threads := ⟨fun thread => thread = 1, fun _ => .errored "no server"⟩
  poisoned _ _ := false
  beacon := ⟨fun _ => none, fun _ => [], fun _ => SizedBytes.replicate 32 0⟩
  latest _ _ := none
  reportIsDue := true
  poisonedLater _ _ := false

def sampleCurseId : CurseId := SizedBytes.replicate 32 1

theorem cursed_node_never_stops_sampleNode :
    (sampleNode (some sampleCurseId)).monitorTurn 1 halted =
      some (.next
        ((sampleNode (some sampleCurseId)).advance halted)) := by
  have started := sampleNode_started (some sampleCurseId)
  have cursed :
      (sampleNode (some sampleCurseId)).curseBeacon.isCursed = true :=
    CurseBeacon.isCursed_eq_true_iff.mpr
      ⟨_, _, CurseBeacon.new_lookup_manualCurse sampleCurseId⟩
  rcases (cursed_node_never_stops started .refl).1 cursed 1 halted with
    isNext | ⟨_, _, _, ⟨_, isPoisoned⟩, _⟩
  · exact isNext
  · rcases isPoisoned with isPoisoned | isPoisoned
    · cases isPoisoned
    · cases isPoisoned

/-- The monitor returns for one of two reasons: threads that were not joined
before have ended, or no thread has and a contract is configured otherwise than
when the node was started.  It never fails. -/
theorem monitor_returns_for_a_reason {start : NodeState}
    (started : start.Started config manualCurse)
    (run : ReflTransGen (NodeStep config manualCurse) start state)
    (returned : state.monitorTurn fuel view =
      some (.exit (left, .returned result))) :
    (∃ finished, result = .ok (.workersDied finished) ∧ finished ≠ [] ∧
        finished = endedWorkers view.threads state.shutdownHandles ∧
          ∀ entry ∈ finished, entry.2 ≠ .error .alreadyJoined ∧
            ∃ handle ∈ state.shutdownHandles, entry.1 = handle.workerName ∧
              handle.isFinished view.threads = true) ∨
      result = .ok .onchainConfigChanged ∧
        endedWorkers view.threads state.shutdownHandles = [] ∧
          ∃ chain ∈ state.destChains, ∃ initial found,
            state.onchainConfigs.lookup chain = some initial ∧
              discoverOnchainConfig (view.latest chain) fuel = some found ∧
                initial ≠ found := by
  have supervised := run_supervised run started.supervised
  have wasNot : state.curseBeacon.isCursed = false := by
    apply Bool.eq_false_iff.mpr
    intro cursed
    exact not_returned_of_cursed cursed returned
  have isEnded : state.finished view =
      endedWorkers view.threads state.shutdownHandles :=
    finishedWorkersAndResults_fresh (supervised.fresh wasNot)
  obtain ⟨_, _, reason⟩ := monitorTurn_returned returned
  rw [ReturnsFor, isEnded] at reason
  rcases reason with ⟨someFinished, isResult⟩ | ⟨noneFinished, others⟩
  · exact .inl ⟨_, isResult, someFinished, rfl, fun _ => mem_endedWorkers⟩
  · obtain ⟨onchainConfigs, discovered, compared⟩ := others
    obtain ⟨chain, found, member, different⟩ :=
      compareOnchainConfigs_eq_some compared
    obtain ⟨isDest, isFound⟩ := lookup_getOnchainConfigs discovered
      (EntryMap.mem_entries_iff.mp member)
    have known := supervised.discovered chain isDest
    rcases different with unknown | ⟨isResult, initial, isInitial, changed⟩
    · rw [unknown] at known
      cases known
    · exact .inr ⟨isResult, noneFinished, chain, isDest, initial, found,
        isInitial, isFound, changed⟩

theorem monitor_returns_for_a_reason_sampleNode :
    (∃ left finished, (sampleNode none).monitorTurn 1 halted =
        some (.exit (left, .returned (.ok (.workersDied finished)))) ∧
      finished = [("voter", .error (.errored "no server"))]) ∧
      ∃ chain ∈ (sampleNode none).destChains, ∃ initial found,
        (sampleNode none).onchainConfigs.lookup chain = some initial ∧
          discoverOnchainConfig (reconfigured.latest chain) 1 = some found ∧
            initial ≠ found := by
  constructor
  · have returned : (sampleNode none).monitorTurn 1 halted =
        some (.exit ((sampleNode none).advance halted, .returned
          (.ok (.workersDied ((sampleNode none).finished halted))))) := rfl
    refine ⟨_, _, returned, ?_⟩
    rcases monitor_returns_for_a_reason (sampleNode_started none) .refl
      returned with ⟨_, isResult, _, isEnded, _⟩ | ⟨isResult, _⟩
    · cases isResult
      rw [isEnded]
      rfl
    · cases isResult
  · have returned : (sampleNode none).monitorTurn 1 reconfigured =
        some (.exit ((sampleNode none).advance reconfigured,
          .returned (.ok .onchainConfigChanged))) := rfl
    rcases monitor_returns_for_a_reason (sampleNode_started none) .refl
      returned with ⟨_, isResult, _⟩ | ⟨_, _, changed⟩
    · cases isResult
    · exact changed

end NodeState
end RiskManagement
