import RiskManagement.Library.Checked
import RiskManagement.Library.KeyedTable
import RiskManagement.Library.Word64
import RiskManagement.Afn.ContractEventStateMachine

/-!
# The SQLite database of cached logs

Two tables: the cached logs, unique by block number and log index, and the
block ranges that can be answered from them.  Columns hold signed integers, so
a block number or log index from 2^63 on cannot be stored or asked for.
-/

namespace RiskManagement

/-- What SQLite and the code around it fail with. -/
inductive DbError where
  | invalidRange (fromBlock toBlock : UInt64)
  | toSqlConversionFailure (value : UInt64)
  | integralValueOutOfRange (value : Int)
  | notNullConstraint (column : String)
deriving DecidableEq

/-- The largest integer of a column. -/
def maxSqlInt : Nat := 2 ^ 63 - 1

/-- Binding a `u64` to a statement. -/
def toSql (value : UInt64) : Except DbError Int :=
  if value.toNat ≤ maxSqlInt then
    .ok value.toNat
  else
    .error (.toSqlConversionFailure value)

/-- Reading a `u64` from a column, which never holds more than `maxSqlInt`. -/
def fromSql (value : Int) : Except DbError UInt64 :=
  if 0 ≤ value ∧ value ≤ maxSqlInt then
    .ok (.ofNat value.toNat)
  else
    .error (.integralValueOutOfRange value)

/-- A row of `queriable_block_ranges`. -/
structure BlockRange where
  fromBlock : Int
  toBlock : Int
deriving DecidableEq

/-- A row of `logs`.  The blobs of fixed size are only written from and read
as arrays of that size. -/
structure LogRow where
  blockNumber : Int
  blockHash : Bytes32
  address : Address
  logIndex : Int
  topic0 : Bytes32
  topic1 : Option Bytes32
  topic2 : Option Bytes32
  topic3 : Option Bytes32
  data : Bytes
deriving DecidableEq

namespace LogRow

/-- The unique key. -/
def key (row : LogRow) : Int × Int := (row.blockNumber, row.logIndex)

/-- `order by block_number, log_index asc`. -/
def notAfter (earlier later : LogRow) : Bool :=
  earlier.blockNumber < later.blockNumber ∨
    earlier.blockNumber = later.blockNumber ∧
      earlier.logIndex ≤ later.logIndex

/-- The parameters of the insert statement; `topic0` must not be null. -/
def ofLog (log : EVMLog) : Except DbError LogRow := do
  let blockNumber ← toSql log.blockNumber
  let logIndex ← toSql log.logIndex
  match log.topics[0]? with
  | none => .error (.notNullConstraint "topic0")
  | some topic0 =>
      return {
        blockNumber := blockNumber
        blockHash := log.blockHash
        address := log.address
        logIndex := logIndex
        topic0 := topic0
        topic1 := log.topics[1]?
        topic2 := log.topics[2]?
        topic3 := log.topics[3]?
        data := log.data }

end LogRow

/-- Reads a row back. -/
def evmLogFromRow (r : LogRow) : Except DbError EVMLog := do
  let blockNumber ← fromSql r.blockNumber
  let logIndex ← fromSql r.logIndex
  let allTopics := [some r.topic0, r.topic1, r.topic2, r.topic3]
  return {
    logIndex := logIndex
    address := r.address
    data := r.data
    topics := allTopics.filterMap id
    blockHash := r.blockHash
    blockNumber := blockNumber }

/-- A page over more than one block has no more logs than this. -/
def maxNumLogsOverManyBlocks : Nat := 1500

/-- The rows of the two tables. -/
structure LogsDb where
  logs : List LogRow
  queriableBlockRanges : List BlockRange
deriving DecidableEq

namespace LogsDb

/-- A new database file. -/
def new : LogsDb := ⟨[], []⟩

/-! ### Reading -/

/-- The largest `to_block` of a range that holds `fromBlock`. -/
def dbToBlock (self : LogsDb) (fromBlock : Int) : Option Int :=
  ((self.queriableBlockRanges.filter fun range =>
    range.fromBlock ≤ fromBlock ∧ range.toBlock ≥ fromBlock).map
      BlockRange.toBlock).max?

/-- The condition on the block number in both queries. -/
def inBlocks (fromBlock toBlock : Int) (row : LogRow) : Bool :=
  row.blockNumber ≥ fromBlock ∧ row.blockNumber ≤ toBlock

/-- The loop of `get_partial_logs`, which halves a range with too many logs
until it is a single block. -/
def selectLogs (self : LogsDb) (fromBlock toBlock : UInt64) :
    Except DbError PartialLogs := do
  let sqlFromBlock ← toSql fromBlock
  let sqlToBlock ← toSql toBlock
  let numLogs := self.logs.countP (inBlocks sqlFromBlock sqlToBlock)
  if _many : fromBlock < toBlock ∧ numLogs > maxNumLogsOverManyBlocks then
    self.selectLogs fromBlock (fromBlock + (toBlock - fromBlock) / 2)
  else
    let rows := KeyedTable.select (inBlocks sqlFromBlock sqlToBlock)
      LogRow.notAfter self.logs
    let logs ← rows.mapM evmLogFromRow
    return { toBlock := toBlock, logs := logs }
termination_by toBlock.toNat - fromBlock.toNat
decreasing_by
  have order := UInt64.lt_iff_toNat_lt.mp _many.1
  rw [Word64.midpoint_toNat (UInt64.le_of_lt _many.1)]
  omega

/-- `None` is a miss. -/
def getPartialLogs (self : LogsDb) (fromBlock toBlock : UInt64) :
    Except DbError (Option PartialLogs) := do
  if ¬fromBlock ≤ toBlock then
    .error (.invalidRange fromBlock toBlock)
  else
    match self.dbToBlock (← toSql fromBlock) with
    | none => return none
    | some dbToBlock =>
        let dbToBlock ← fromSql dbToBlock
        return some (← self.selectLogs fromBlock (min dbToBlock toBlock))

/-! ### Writing -/

/-- The smallest `from_block` of a range that ends at or after the block
before `fromBlockNew`. -/
def minFromBlock (self : LogsDb) (fromBlockNew : Int) : Option Int :=
  ((self.queriableBlockRanges.filter fun range =>
    range.toBlock + 1 ≥ fromBlockNew).map BlockRange.fromBlock).min?

/-- The largest `to_block` of a range that starts at or before the block after
`toBlockNew`. -/
def maxToBlock (self : LogsDb) (toBlockNew : Int) : Option Int :=
  ((self.queriableBlockRanges.filter fun range =>
    range.fromBlock - 1 ≤ toBlockNew).map BlockRange.toBlock).max?

/-- `optional()?.unwrap_or(otherwise)`. -/
def readOr (otherwise : UInt64) : Option Int → Except DbError UInt64
  | none => .ok otherwise
  | some value => fromSql value

/-- The rows of `queriable_block_ranges` after the delete and the insert. -/
def saveRange (self : LogsDb) (fromBlock toBlock : UInt64) :
    Except DbError (List BlockRange) := do
  let minFromBlock ←
    readOr fromBlock (self.minFromBlock (← toSql fromBlock))
  let maxToBlock ← readOr toBlock (self.maxToBlock (← toSql toBlock))
  let sqlMinFromBlock ← toSql minFromBlock
  let sqlMaxToBlock ← toSql maxToBlock
  let insertedFrom ← toSql (min fromBlock minFromBlock)
  let insertedTo ← toSql (max toBlock maxToBlock)
  return (self.queriableBlockRanges.filter fun range =>
      ¬(range.fromBlock ≥ sqlMinFromBlock ∧ range.toBlock ≤ sqlMaxToBlock)) ++
    [⟨insertedFrom, insertedTo⟩]

/-- One turn of the insert loop. -/
def saveLog (rows : List LogRow) (log : EVMLog) :
    Except DbError (List LogRow) := do
  let row ← LogRow.ofLog log
  return KeyedTable.insertOrReplace LogRow.key row rows

/-- The whole transaction; after an error the database stays as it was. -/
def saveLogs (self : LogsDb) (logs : List EVMLog)
    (fromBlock toBlock : UInt64) : Except DbError LogsDb := do
  let ranges ← self.saveRange fromBlock toBlock
  let rows ← logs.foldlM saveLog self.logs
  return { logs := rows, queriableBlockRanges := ranges }

end LogsDb

end RiskManagement
