import Mathlib.Data.Nat.Log
import RiskManagement.Library.Loops
import RiskManagement.Afn.ConfigAcceptance
import RiskManagement.Minieth.Rpc

/-!
# The check for pruned nodes

Before it starts, the node makes sure that the chains' nodes still have the
logs it replays.  It looks backwards from a block, each time twice as far, for
any log at all.  The block of a chain is the first one that some lane needs.
-/

namespace RiskManagement

open Loops (Turn iterate iterate_invariant iterate_returns)

/-- What a node answers to `get_logs(from_block, to_block, &[], &[])`. -/
abbrev GetLogs := UInt64 → UInt64 → Except RpcError (List EVMLog)

/-- Why the check gives up. -/
inductive PruningError where
  | gettingLogs (fromBlock toBlock : UInt64) (error : RpcError)
  | reachedGenesisBlock

/-- `from_block` of a turn. -/
def pruningCheckFrom (blockNumber blockRange : UInt64) : UInt64 :=
  Word64.saturatingSub blockNumber (Word64.saturatingSub blockRange 1)

/-- One turn of the loop, whose state is `block_range`. -/
def pruningCheckTurn (getLogs : GetLogs) (blockNumber blockRange : UInt64) :
    Turn UInt64 (Except PruningError Unit) :=
  let fromBlock := pruningCheckFrom blockNumber blockRange
  match getLogs fromBlock blockNumber with
  | .error error => .exit (.error (.gettingLogs fromBlock blockNumber error))
  | .ok logs =>
      if !logs.isEmpty then .exit (.ok ())
      else if fromBlock = 0 then .exit (.error .reachedGenesisBlock)
      else .next (Word64.saturatingMul blockRange 2)

/-- The search for any log, block range by block range. -/
def ensureRpcNotPruned (getLogs : GetLogs) (fuel : Nat)
    (blockNumber : UInt64) : Option (Except PruningError Unit) :=
  iterate (fun blockRange => some (pruningCheckTurn getLogs blockNumber
    blockRange)) fuel 1

/-- `try_for_each(|handle| handle.join().unwrap())`.  `none` is a thread that
is still running. -/
def tryForEachJoin {Error : Type} :
    List (Option (Except Error Unit)) → Option (Except Error Unit)
  | [] => some (.ok ())
  | none :: _ => none
  | some (.error error) :: _ => some (.error error)
  | some (.ok ()) :: rest => tryForEachJoin rest

/-- The blocks that a lane starts from, on each of its chains. -/
def SharedLaneConfig.startBlocks (laneConfig : SharedLaneConfig) :
    List (ChainName × UInt64) :=
  [(laneConfig.laneId.sourceChainName, laneConfig.sourceStartBlockNumber),
    (laneConfig.laneId.destChainName, laneConfig.destStartBlockNumber)]

/-- The first block of a chain that any of its lanes replays from. -/
def minBlockNumberRequiredByChain (config : OffchainConfig) :
    EntryMap ChainName UInt64 :=
  EntryMap.combine min
    (config.sharedConfigByEnabledLane.entries.flatMap fun entry =>
      entry.2.startBlocks)

/-- The context of the error names the chain and the block. -/
structure PrunedRpc where
  chain : ChainName
  minBlockNumber : UInt64
  cause : PruningError

/-- A chain without an RPC is passed over. -/
def ensureRpcsNotPruned (config : OffchainConfig)
    (rpcs : ChainName → Option GetLogs) (fuel : Nat) :
    Option (Except PrunedRpc Unit) :=
  tryForEachJoin
    ((minBlockNumberRequiredByChain config).entries.filterMap
      fun ⟨chain, minBlockNumber⟩ => (rpcs chain).map fun getLogs =>
        (ensureRpcNotPruned getLogs fuel minBlockNumber).map
          (Except.mapError (⟨chain, minBlockNumber, ·⟩)))

/-! ### One chain -/

/-- A node that has exactly these logs.  It may fail. -/
def GetLogs.Serves (getLogs : GetLogs) (Stored : EVMLog → Prop) : Prop :=
  ∀ fromBlock toBlock logs, fromBlock ≤ toBlock →
    getLogs fromBlock toBlock = .ok logs →
      ∀ log, log ∈ logs ↔
        Stored log ∧ fromBlock ≤ log.blockNumber ∧ log.blockNumber ≤ toBlock

/-- A node that does not fail. -/
def GetLogs.Answers (getLogs : GetLogs) : Prop :=
  ∀ fromBlock toBlock, fromBlock ≤ toBlock →
    ∃ logs, getLogs fromBlock toBlock = .ok logs

/-- There is a log in the block or before it. -/
def LogsReach (Stored : EVMLog → Prop) (blockNumber : UInt64) : Prop :=
  ∃ log, Stored log ∧ log.blockNumber ≤ blockNumber

section OneChain

variable {getLogs : GetLogs} {Stored : EVMLog → Prop}
  {blockNumber blockRange : UInt64}

theorem toNat_pruningCheckFrom :
    (pruningCheckFrom blockNumber blockRange).toNat =
      blockNumber.toNat - (blockRange.toNat - 1) := by
  rw [pruningCheckFrom, Word64.toNat_saturatingSub,
    Word64.toNat_saturatingSub, UInt64.toNat_one]

theorem pruningCheckFrom_le :
    pruningCheckFrom blockNumber blockRange ≤ blockNumber := by
  rw [UInt64.le_iff_toNat_le, toNat_pruningCheckFrom]
  omega

/-- What the result of the check says of the node. -/
def PruningVerdict (getLogs : GetLogs) (Stored : EVMLog → Prop)
    (blockNumber : UInt64) : Except PruningError Unit → Prop
  | .ok () => LogsReach Stored blockNumber
  | .error .reachedGenesisBlock => ¬LogsReach Stored blockNumber
  | .error (.gettingLogs fromBlock toBlock error) =>
      fromBlock ≤ toBlock ∧ getLogs fromBlock toBlock = .error error

theorem pruningCheckTurn_verdict (serves : getLogs.Serves Stored) :
    (pruningCheckTurn getLogs blockNumber blockRange).Meets (fun _ => True)
      (PruningVerdict getLogs Stored blockNumber) := by
  rw [pruningCheckTurn]
  cases answer : getLogs (pruningCheckFrom blockNumber blockRange)
      blockNumber with
  | error error => exact ⟨pruningCheckFrom_le, answer⟩
  | ok logs =>
      have found := serves _ _ _ pruningCheckFrom_le answer
      simp only
      split
      · rename_i notEmpty
        rw [Bool.not_eq_true', List.isEmpty_eq_false_iff_exists_mem]
          at notEmpty
        obtain ⟨log, member⟩ := notEmpty
        obtain ⟨stored, _, inside⟩ := (found log).mp member
        exact ⟨log, stored, inside⟩
      · rename_i empty
        split
        · rename_i atGenesis
          intro ⟨log, stored, inside⟩
          have member := (found log).mpr
            ⟨stored, by simp [atGenesis, UInt64.le_iff_toNat_le], inside⟩
          simp only [Bool.not_eq_true', Bool.not_eq_false,
            List.isEmpty_iff] at empty
          rw [empty] at member
          cases member
        · trivial

/-- How many more turns there are before the genesis block is in the range. -/
def pruningCheckMeasure (blockRange : UInt64) : Nat :=
  if blockRange = Word64.maxValue then 0
  else 64 - Nat.log 2 blockRange.toNat

theorem saturatingMul_two_measure (positive : 1 ≤ blockRange.toNat)
    (notMax : blockRange ≠ Word64.maxValue) :
    pruningCheckMeasure (Word64.saturatingMul blockRange 2) <
      pruningCheckMeasure blockRange := by
  have small : Nat.log 2 blockRange.toNat < 64 :=
    Nat.log_lt_of_lt_pow (by omega) blockRange.toNat_lt
  rw [pruningCheckMeasure, pruningCheckMeasure, if_neg notMax]
  split
  · omega
  · rename_i fits
    have doubled : (Word64.saturatingMul blockRange 2).toNat =
        blockRange.toNat * 2 := by
      have below := Word64.ne_maxValue_iff.mp fits
      have two : (2 : UInt64).toNat = 2 := rfl
      rw [Word64.toNat_saturatingMul, two] at below ⊢
      omega
    rw [doubled, Nat.log_mul_base (by omega) (by omega)]
    omega

/-- The check ends within 65 turns, but for the largest block number. -/
theorem ensureRpcNotPruned_returns (getLogs : GetLogs)
    (notMax : blockNumber ≠ Word64.maxValue) :
    ∃ result, ensureRpcNotPruned getLogs 65 blockNumber = some result := by
  apply iterate_returns (fun blockRange => 1 ≤ blockRange.toNat)
    pruningCheckMeasure
  · intro blockRange positive
    refine ⟨_, rfl, ?_⟩
    rw [pruningCheckTurn]
    split
    · trivial
    · split
      · trivial
      · split
        · trivial
        · rename_i _ notGenesis
          have below := Word64.ne_maxValue_iff.mp notMax
          rw [← UInt64.toNat_inj, toNat_pruningCheckFrom,
            UInt64.toNat_zero] at notGenesis
          have notLast : blockRange ≠ Word64.maxValue := by
            rw [Word64.ne_maxValue_iff]
            omega
          refine ⟨?_, saturatingMul_two_measure positive notLast⟩
          have two : (2 : UInt64).toNat = 2 := rfl
          rw [Word64.toNat_saturatingMul, two]
          omega
  · rfl
  · decide +kernel

theorem ensureRpcNotPruned_verdict (serves : getLogs.Serves Stored)
    {fuel : Nat} {result : Except PruningError Unit}
    (returned : ensureRpcNotPruned getLogs fuel blockNumber = some result) :
    PruningVerdict getLogs Stored blockNumber result := by
  refine iterate_invariant (fun _ => True) _ ?_ trivial returned
  intro blockRange turn _ turned
  cases turned
  exact pruningCheckTurn_verdict serves

theorem ensureRpcNotPruned_eq_ok (serves : getLogs.Serves Stored)
    (answers : getLogs.Answers) (notMax : blockNumber ≠ Word64.maxValue)
    (reach : LogsReach Stored blockNumber) :
    ensureRpcNotPruned getLogs 65 blockNumber = some (.ok ()) := by
  obtain ⟨result, returned⟩ :=
    ensureRpcNotPruned_returns getLogs notMax
  have verdict := ensureRpcNotPruned_verdict serves returned
  rw [returned]
  match result, verdict with
  | .ok (), _ => rfl
  | .error .reachedGenesisBlock, noLogs => exact absurd reach noLogs
  | .error (.gettingLogs fromBlock toBlock error), failed =>
      obtain ⟨logs, answered⟩ := answers fromBlock toBlock failed.1
      rw [failed.2] at answered
      cases answered

/-- At the largest block number the range stops growing one block short of
the genesis block: a node that has no log keeps the check busy for ever. -/
theorem ensureRpcNotPruned_maxValue (silent : ∀ fromBlock toBlock,
    getLogs fromBlock toBlock = .ok []) (fuel : Nat) :
    ensureRpcNotPruned getLogs fuel Word64.maxValue = none := by
  have endless : ∀ blockRange : UInt64, iterate
      (fun blockRange => some (pruningCheckTurn getLogs Word64.maxValue
        blockRange)) fuel blockRange = none := by
    induction fuel with
    | zero => exact fun _ => rfl
    | succ fuel ih =>
        intro blockRange
        have notGenesis :
            pruningCheckFrom Word64.maxValue blockRange ≠ 0 := by
          rw [Ne, ← UInt64.toNat_inj, toNat_pruningCheckFrom,
            Word64.toNat_maxValue, UInt64.toNat_zero]
          have bound := blockRange.toNat_lt
          omega
        rw [iterate, pruningCheckTurn, silent]
        simp only [List.isEmpty_nil, Bool.not_true, Bool.false_eq_true,
          if_false, if_neg notGenesis]
        exact ih _
  exact endless 1

end OneChain

/-! ### All chains -/

section Join

variable {Error : Type} {results : List (Option (Except Error Unit))}

theorem tryForEachJoin_eq_ok_iff :
    tryForEachJoin results = some (.ok ()) ↔
      ∀ result ∈ results, result = some (.ok ()) := by
  induction results with
  | nil => simp [tryForEachJoin]
  | cons result rest ih =>
      rw [List.forall_mem_cons]
      match result with
      | none => simp [tryForEachJoin]
      | some (.error error) => simp [tryForEachJoin]
      | some (.ok ()) => simp [tryForEachJoin, ih]

theorem tryForEachJoin_returns
    (all : ∀ result ∈ results, ∃ ended, result = some ended) :
    ∃ ended, tryForEachJoin results = some ended := by
  induction results with
  | nil => exact ⟨.ok (), rfl⟩
  | cons result rest ih =>
      obtain ⟨⟨ended, rfl⟩, others⟩ := List.forall_mem_cons.mp all
      match ended with
      | .error error => exact ⟨.error error, rfl⟩
      | .ok () => exact ih others

end Join

theorem logsReach_min {Stored : EVMLog → Prop} {left right : UInt64} :
    LogsReach Stored (min left right) ↔
      LogsReach Stored left ∧ LogsReach Stored right := by
  constructor
  · intro ⟨log, stored, inside⟩
    rw [UInt64.le_iff_toNat_le, Word64.toNat_min] at inside
    refine ⟨⟨log, stored, ?_⟩, ⟨log, stored, ?_⟩⟩
    · rw [UInt64.le_iff_toNat_le]
      omega
    · rw [UInt64.le_iff_toNat_le]
      omega
  · intro ⟨⟨first, firstStored, inLeft⟩, ⟨second, secondStored, inRight⟩⟩
    rw [UInt64.le_iff_toNat_le] at inLeft inRight
    rcases Nat.le_total left.toNat right.toNat with less | less
    · refine ⟨first, firstStored, ?_⟩
      rw [UInt64.le_iff_toNat_le, Word64.toNat_min]
      omega
    · refine ⟨second, secondStored, ?_⟩
      rw [UInt64.le_iff_toNat_le, Word64.toNat_min]
      omega

theorem min_ne_maxValue {left right : UInt64}
    (notMax : left ≠ Word64.maxValue) :
    min left right ≠ Word64.maxValue := by
  rw [Word64.ne_maxValue_iff, Word64.toNat_min]
  have below := Word64.ne_maxValue_iff.mp notMax
  omega

section AllChains

variable {config : OffchainConfig} {rpcs : ChainName → Option GetLogs}
  {Stored : ChainName → EVMLog → Prop}

/-- An enabled lane starts from the block, on one of its chains. -/
def OffchainConfig.StartsFrom (config : OffchainConfig) (chain : ChainName)
    (blockNumber : UInt64) : Prop :=
  ∃ laneId laneConfig,
    config.sharedConfigByEnabledLane.lookup laneId = some laneConfig ∧
      (chain, blockNumber) ∈ laneConfig.startBlocks

theorem startsFrom_iff {chain : ChainName} {blockNumber : UInt64} :
    config.StartsFrom chain blockNumber ↔
      (chain, blockNumber) ∈
        config.sharedConfigByEnabledLane.entries.flatMap
          (fun entry => entry.2.startBlocks) := by
  rw [List.mem_flatMap]
  constructor
  · intro ⟨laneId, laneConfig, found, listed⟩
    exact ⟨⟨laneId, laneConfig⟩, EntryMap.mem_entries_iff.mpr found, listed⟩
  · intro ⟨⟨laneId, laneConfig⟩, member, listed⟩
    exact ⟨laneId, laneConfig, EntryMap.mem_entries_iff.mp member, listed⟩

/-- The first block of a chain reaches logs exactly when every block does that
a lane starts from there. -/
theorem minBlockNumberRequired_reach_iff {chain : ChainName}
    {Stored : EVMLog → Prop} :
    (∀ minBlockNumber,
        (minBlockNumberRequiredByChain config).lookup chain =
          some minBlockNumber → LogsReach Stored minBlockNumber) ↔
      ∀ blockNumber, config.StartsFrom chain blockNumber →
        LogsReach Stored blockNumber := by
  constructor
  · intro reach blockNumber starts
    exact EntryMap.holds_of_mem_combined (LogsReach Stored)
      (fun _ _ => logsReach_min.mp) reach (startsFrom_iff.mp starts)
  · intro reach minBlockNumber isMin
    exact EntryMap.holds_of_lookup_combine (LogsReach Stored)
      (fun _ _ newer older => logsReach_min.mpr ⟨newer, older⟩)
      (fun blockNumber member => reach blockNumber
        (startsFrom_iff.mpr member)) isMin

theorem minBlockNumberRequired_ne_maxValue {chain : ChainName}
    {minBlockNumber : UInt64}
    (notMax : ∀ blockNumber, config.StartsFrom chain blockNumber →
      blockNumber ≠ Word64.maxValue)
    (isMin : (minBlockNumberRequiredByChain config).lookup chain =
      some minBlockNumber) : minBlockNumber ≠ Word64.maxValue :=
  EntryMap.holds_of_lookup_combine (· ≠ Word64.maxValue)
    (fun _ _ newer _ => min_ne_maxValue newer)
    (fun blockNumber member => notMax blockNumber
      (startsFrom_iff.mpr member)) isMin

theorem mem_checks_iff {fuel : Nat}
    {result : Option (Except PrunedRpc Unit)} :
    result ∈ (minBlockNumberRequiredByChain config).entries.filterMap
        (fun entry => (rpcs entry.1).map fun getLogs =>
          (ensureRpcNotPruned getLogs fuel entry.2).map
            (Except.mapError (⟨entry.1, entry.2, ·⟩))) ↔
      ∃ chain minBlockNumber getLogs,
        (minBlockNumberRequiredByChain config).lookup chain =
            some minBlockNumber ∧ rpcs chain = some getLogs ∧
          result = (ensureRpcNotPruned getLogs fuel minBlockNumber).map
            (Except.mapError (⟨chain, minBlockNumber, ·⟩)) := by
  rw [List.mem_filterMap]
  constructor
  · intro ⟨⟨chain, minBlockNumber⟩, isEntry, spawned⟩
    obtain ⟨getLogs, isRpc, rfl⟩ := Option.map_eq_some_iff.mp spawned
    exact ⟨chain, minBlockNumber, getLogs,
      EntryMap.mem_entries_iff.mp isEntry, isRpc, rfl⟩
  · rintro ⟨chain, minBlockNumber, getLogs, isMin, isRpc, rfl⟩
    exact ⟨⟨chain, minBlockNumber⟩, EntryMap.mem_entries_iff.mpr isMin,
      Option.map_eq_some_iff.mpr ⟨getLogs, isRpc, rfl⟩⟩

theorem ensureRpcsNotPruned_eq_ok_iff {fuel : Nat} :
    ensureRpcsNotPruned config rpcs fuel = some (.ok ()) ↔
      ∀ chain minBlockNumber getLogs,
        (minBlockNumberRequiredByChain config).lookup chain =
          some minBlockNumber → rpcs chain = some getLogs →
            ensureRpcNotPruned getLogs fuel minBlockNumber =
              some (.ok ()) := by
  have all := @mem_checks_iff config rpcs fuel
  rw [ensureRpcsNotPruned, tryForEachJoin_eq_ok_iff]
  constructor
  · intro passed chain minBlockNumber getLogs isMin isRpc
    have ok := passed _
      (all.mpr ⟨chain, minBlockNumber, getLogs, isMin, isRpc, rfl⟩)
    obtain ⟨result, returned, isOk⟩ := Option.map_eq_some_iff.mp ok
    cases result with
    | error error => cases isOk
    | ok _ => exact returned
  · intro passed result member
    obtain ⟨chain, minBlockNumber, getLogs, isMin, isRpc, rfl⟩ :=
      all.mp member
    rw [passed chain minBlockNumber getLogs isMin isRpc]
    rfl

/-- Each chain with an RPC still has a log from every block that a lane starts
from there, or from before it. -/
def Unpruned (config : OffchainConfig) (rpcs : ChainName → Option GetLogs)
    (Stored : ChainName → EVMLog → Prop) : Prop :=
  ∀ chain getLogs, rpcs chain = some getLogs →
    ∀ blockNumber, config.StartsFrom chain blockNumber →
      LogsReach (Stored chain) blockNumber

/-- The check ends when no lane starts from the largest block number.  It
passes only when no chain with an RPC is pruned, and does so then unless a
request fails. -/
theorem pruning_check_passes_iff (Stored : ChainName → EVMLog → Prop)
    (serves : ∀ chain getLogs, rpcs chain = some getLogs →
      getLogs.Serves (Stored chain))
    (notMax : ∀ chain getLogs, rpcs chain = some getLogs →
      ∀ blockNumber, config.StartsFrom chain blockNumber →
        blockNumber ≠ Word64.maxValue) :
    (∃ result, ensureRpcsNotPruned config rpcs 65 = some result) ∧
      (ensureRpcsNotPruned config rpcs 65 = some (.ok ()) →
        Unpruned config rpcs Stored) ∧
      ((∀ chain getLogs, rpcs chain = some getLogs → getLogs.Answers) →
        Unpruned config rpcs Stored →
          ensureRpcsNotPruned config rpcs 65 = some (.ok ())) := by
  refine ⟨?_, ?_, ?_⟩
  · apply tryForEachJoin_returns
    intro result member
    obtain ⟨chain, minBlockNumber, getLogs, isMin, isRpc, rfl⟩ :=
      mem_checks_iff.mp member
    obtain ⟨ended, returned⟩ := ensureRpcNotPruned_returns getLogs
      (minBlockNumberRequired_ne_maxValue (notMax chain getLogs isRpc) isMin)
    rw [returned]
    exact ⟨_, rfl⟩
  · intro passed chain getLogs isRpc
    rw [← minBlockNumberRequired_reach_iff]
    intro minBlockNumber isMin
    exact ensureRpcNotPruned_verdict (serves chain getLogs isRpc)
      (ensureRpcsNotPruned_eq_ok_iff.mp passed _ _ _ isMin isRpc)
  · intro answers unpruned
    rw [ensureRpcsNotPruned_eq_ok_iff]
    intro chain minBlockNumber getLogs isMin isRpc
    exact ensureRpcNotPruned_eq_ok (serves chain getLogs isRpc)
      (answers chain getLogs isRpc)
      (minBlockNumberRequired_ne_maxValue (notMax chain getLogs isRpc) isMin)
      (minBlockNumberRequired_reach_iff.mpr (unpruned chain getLogs isRpc)
        minBlockNumber isMin)

end AllChains

/-- A log of the genesis block. -/
def genesisLog : EVMLog where
  logIndex := 0
  address := .replicate 20 0
  data := ⟨.empty⟩
  topics := []
  blockHash := .replicate 32 0
  blockNumber := 0

/-- A node that has no other log than these. -/
def storing (stored : List EVMLog) : GetLogs := fun fromBlock toBlock =>
  .ok (stored.filter fun log =>
    fromBlock ≤ log.blockNumber ∧ log.blockNumber ≤ toBlock)

/-- One lane from Sepolia to Goerli, both from block 1 on. -/
def oneLaneConfig : OffchainConfig where
  sharedConfigByEnabledChain := ∅
  sharedConfigByDisabledChain := ∅
  sharedConfigByEnabledLane :=
    .singleton OffchainConfig.sampleLane.laneId OffchainConfig.sampleLane
  localConfigByEnabledChain := ∅

/-- Only Goerli has an RPC. -/
def oneRpc (stored : List EVMLog) (chain : ChainName) : Option GetLogs :=
  if chain = .goerli then some (storing stored) else none

theorem oneLaneConfig_startsFrom {chain : ChainName} {blockNumber : UInt64}
    (starts : oneLaneConfig.StartsFrom chain blockNumber) :
    blockNumber = 1 := by
  obtain ⟨laneId, laneConfig, found, listed⟩ := starts
  rw [← EntryMap.mem_entries_iff] at found
  cases List.mem_singleton.mp found
  rcases List.mem_pair.mp listed with same | same
  · exact congrArg Prod.snd same
  · exact congrArg Prod.snd same

theorem pruning_check_passes_iff_oneLane :
    ensureRpcsNotPruned oneLaneConfig (oneRpc [genesisLog]) 65 =
        some (.ok ()) ∧
      ensureRpcsNotPruned oneLaneConfig (oneRpc []) 65 ≠ some (.ok ()) := by
  have serves (stored : List EVMLog) (chain : ChainName) (getLogs : GetLogs)
      (isRpc : oneRpc stored chain = some getLogs) :
      getLogs.Serves (· ∈ stored) ∧ getLogs.Answers := by
    rw [oneRpc] at isRpc
    split at isRpc
    · cases isRpc
      refine ⟨?_, fun _ _ _ => ⟨_, rfl⟩⟩
      intro fromBlock toBlock logs _ answered log
      cases answered
      simp
    · cases isRpc
  have checked (stored : List EVMLog) :=
    @pruning_check_passes_iff oneLaneConfig (oneRpc stored)
    (fun _ log => log ∈ stored)
    (fun chain getLogs isRpc => (serves stored chain getLogs isRpc).1)
    (fun _ _ _ blockNumber starts => by
      rw [oneLaneConfig_startsFrom starts]
      decide)
  constructor
  · apply (checked [genesisLog]).2.2
    · exact fun chain getLogs isRpc => (serves _ chain getLogs isRpc).2
    · intro chain getLogs _ blockNumber starts
      rw [oneLaneConfig_startsFrom starts]
      exact ⟨genesisLog, List.mem_singleton_self _, by decide⟩
  · intro passed
    have starts : oneLaneConfig.StartsFrom .goerli 1 :=
      ⟨OffchainConfig.sampleLane.laneId, OffchainConfig.sampleLane, rfl,
        by decide⟩
    obtain ⟨log, stored, _⟩ := (checked []).2.1 passed _ _ rfl _ starts
    cases stored

end RiskManagement
