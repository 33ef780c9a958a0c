import RiskManagement.Library.KeyedWindow
import RiskManagement.Afn.ContractEventStateMachine

/-!
# The logs of a chain

The logs that a filter selects from a chain, in the order of block number and
log index.
-/

namespace RiskManagement

/-- `(block_number, log_index)` order. -/
def EVMLog.NotAfter (earlier later : EVMLog) : Prop :=
  earlier.blockNumber < later.blockNumber ∨
    earlier.blockNumber = later.blockNumber ∧
      earlier.logIndex ≤ later.logIndex

def EVMLog.block (log : EVMLog) : Nat := log.blockNumber.toNat

/-- All logs of a chain that a filter selects. -/
structure LogChain where
  logs : List EVMLog
  ordered : logs.Pairwise EVMLog.NotAfter

namespace LogChain

/-- The logs of the blocks from `first` up to, but not including, `last`. -/
def between (chain : LogChain) (first last : Nat) : List EVMLog :=
  KeyedWindow.window EVMLog.block first last chain.logs

theorem inOrder (chain : LogChain) :
    KeyedWindow.InOrder EVMLog.block chain.logs := by
  apply chain.ordered.imp
  intro earlier later notAfter
  rcases notAfter with below | ⟨same, _⟩
  · exact Nat.le_of_lt (UInt64.lt_iff_toNat_lt.mp below)
  · exact Nat.le_of_eq (congrArg UInt64.toNat same)

theorem between_append (chain : LogChain) {first middle last : Nat}
    (lower : first ≤ middle) (upper : middle ≤ last) :
    chain.between first middle ++ chain.between middle last =
      chain.between first last :=
  chain.inOrder.window_append lower upper

theorem between_self (chain : LogChain) (number : Nat) :
    chain.between number number = [] :=
  KeyedWindow.window_eq_nil_of_le (Nat.le_refl number) chain.logs

theorem mem_between {chain : LogChain} {first last : Nat} {log : EVMLog} :
    log ∈ chain.between first last ↔
      log ∈ chain.logs ∧ first ≤ log.block ∧ log.block < last :=
  KeyedWindow.mem_window

end LogChain

/-- Every page is what the chain holds up to some block of the request. -/
structure LogChain.ServedBy (chain : LogChain)
    (getPartialLogs : GetPartialLogs) : Prop where
  from_le : ∀ fromBlock toBlock cache page, fromBlock ≤ toBlock →
    getPartialLogs fromBlock toBlock cache = .ok page →
      fromBlock ≤ page.toBlock
  le_to : ∀ fromBlock toBlock cache page, fromBlock ≤ toBlock →
    getPartialLogs fromBlock toBlock cache = .ok page →
      page.toBlock ≤ toBlock
  logs_eq : ∀ fromBlock toBlock cache page, fromBlock ≤ toBlock →
    getPartialLogs fromBlock toBlock cache = .ok page →
      page.logs =
        chain.between fromBlock.toNat (page.toBlock.toNat + 1)

/-- Whole requests answered from the chain. -/
def LogChain.serve (chain : LogChain) : GetPartialLogs :=
  fun fromBlock toBlock _ =>
    .ok ⟨toBlock, chain.between fromBlock.toNat (toBlock.toNat + 1)⟩

end RiskManagement
