import RiskManagement.Library.Word64
import RiskManagement.Afn.Merkle
import RiskManagement.Minieth.U256

/-!
# Commit reports and the verification of their roots
-/

namespace RiskManagement

/-- Sequence numbers of messages, both ends included. -/
structure Interval where
  min : UInt64
  max : UInt64
deriving DecidableEq

/-- A price that a report carries along; no check reads it. -/
structure TokenPriceUpdate where
  sourceToken : Address
  usdPerToken : U256
deriving DecidableEq

/-- A gas price that a report carries along; no check reads it. -/
structure GasPriceUpdate where
  destChainSelector : UInt64
  usdPerUnitGas : U256
deriving DecidableEq

/-- A report of version 1.0 has one gas price. -/
structure PriceUpdatesV1_0 where
  tokenPriceUpdates : RustVec TokenPriceUpdate
  destChainSelector : UInt64
  usdPerUnitGas : U256
deriving DecidableEq

/-- A report of version 1.2 has any number of gas prices. -/
structure PriceUpdatesV1_2 where
  tokenPriceUpdates : RustVec TokenPriceUpdate
  gasPriceUpdates : RustVec GasPriceUpdate
deriving DecidableEq

/-- The report of both versions, which differ in their price updates. -/
structure CommitReport (PriceUpdates : Type) where
  priceUpdates : PriceUpdates
  interval : Interval
  merkleRoot : Bytes32
deriving DecidableEq

/-- A commit store of version 1.0 has taken a report. -/
structure ReportAcceptedEventV1_0 where
  report : CommitReport PriceUpdatesV1_0
deriving DecidableEq

/-- A commit store of version 1.2 has taken a report. -/
structure ReportAcceptedEventV1_2 where
  report : CommitReport PriceUpdatesV1_2
deriving DecidableEq

/-- The part of a commit report that is verified. -/
structure RootWithInterval where
  root : Bytes32
  interval : Interval
deriving DecidableEq

/-- `From<CommitReport>`. -/
def CommitReport.toRootWithInterval {PriceUpdates : Type}
    (commitReport : CommitReport PriceUpdates) : RootWithInterval where
  root := commitReport.merkleRoot
  interval := commitReport.interval

/-- Where the hashes of an interval of messages are read from. -/
class OnRampReader (Reader : Type) where
  getMessageHashes : Reader → Interval → Option (List Bytes32)

/-- The errors of `compute_merkle_root`, one for each text. -/
inductive ComputeMerkleRootError where
  | invalidInterval (interval : Interval)
  | failedToGetMessageHashes (interval : Interval)
  | incorrectNumberOfMessages (interval : Interval)
      (expectedNumLeaves : UInt64) (numLeaves : Nat)
  | failedToComputeRoot (leaves : List Bytes32)
deriving DecidableEq

/-- No interval is empty. -/
def isValidInterval (interval : Interval) : Bool :=
  interval.max ≥ interval.min

/-- `hash_node` of a sorted pair. -/
def hashSortedPair (keccak : Keccak) (pair : Bytes32 × Bytes32) : Bytes32 :=
  hashNode keccak pair.1 pair.2

section

variable {Reader : Type} [OnRampReader Reader]

/-- Fails unless the reader holds a hash for each number of the interval. -/
def computeMerkleRoot (keccak : Keccak) (interval : Interval)
    (reader : Reader) : Except ComputeMerkleRootError Bytes32 :=
  if ¬isValidInterval interval then
    .error (.invalidInterval interval)
  else
    match OnRampReader.getMessageHashes reader interval with
    | none => .error (.failedToGetMessageHashes interval)
    | some leaves =>
        let expectedNumLeaves := interval.max - interval.min + 1
        if UInt64.ofNat leaves.length ≠ expectedNumLeaves then
          .error (.incorrectNumberOfMessages interval expectedNumLeaves
            leaves.length)
        else
          match rootFromHashedLeafs (hashSortedPair keccak) leaves with
          | none => .error (.failedToComputeRoot leaves)
          | some root => .ok root

/-- Whether a committed root is the root of the interval's messages. -/
def verifyRootWithInterval (keccak : Keccak) (ri : RootWithInterval)
    (reader : Reader) : Except ComputeMerkleRootError Bool := do
  return ri.root = (← computeMerkleRoot keccak ri.interval reader)

/-- A verified root is the Merkle root of the hashes that the reader holds for
the interval. -/
theorem verifyRootWithInterval_eq_true {keccak : Keccak}
    {ri : RootWithInterval} {reader : Reader}
    (verified : verifyRootWithInterval keccak ri reader = .ok true) :
    ri.interval.min ≤ ri.interval.max ∧ ∃ leaves,
      OnRampReader.getMessageHashes reader ri.interval = some leaves ∧
        rootFromHashedLeafs (hashSortedPair keccak) leaves =
          some ri.root := by
  rw [verifyRootWithInterval, computeMerkleRoot] at verified
  by_cases valid : isValidInterval ri.interval
  · refine ⟨by simpa [isValidInterval] using valid, ?_⟩
    rw [if_neg (not_not.mpr valid)] at verified
    cases found : OnRampReader.getMessageHashes reader ri.interval with
    | none =>
        rw [found] at verified
        cases verified
    | some leaves =>
        rw [found] at verified
        refine ⟨leaves, rfl, ?_⟩
        simp only at verified
        split at verified
        · cases verified
        · split at verified
          · cases verified
          · rename_i root isRoot
            have same : ri.root = root := by
              simpa [bind, Except.bind, pure, Except.pure] using verified
            rw [isRoot, same]
  · rw [if_pos valid] at verified
    cases verified

end

end RiskManagement
