import RiskManagement.Afn.LogsDb

/-!
# Fetching logs through the cache

A hit is answered from the database alone.  A miss, and any database error,
goes to the node, and what it answers is saved if it can be.
-/

namespace RiskManagement

/-- What the node and SQLite do in one call: the answer of
`SmartGetLogs::get_partial_logs`, and whether a statement fails. -/
structure CachedRpcEnv where
  smartGetLogs : UInt64 → UInt64 → Except String PartialLogs
  readFails : Bool
  saveFails : Bool

/-- The client of one contract; its node is an argument of each call. -/
structure CachedRpc where
  db : LogsDb
deriving DecidableEq

namespace CachedRpc

/-- A failed save leaves the database as it was. -/
def trySaveToCache (self : CachedRpc) (env : CachedRpcEnv)
    (logs : List EVMLog) (fromBlock toBlock : UInt64) : CachedRpc :=
  if env.saveFails then
    self
  else
    match self.db.saveLogs logs fromBlock toBlock with
    | .ok db => { self with db := db }
    | .error _ => self

/-- An error of the database counts as a miss. -/
def tryFetchFromCache (self : CachedRpc) (env : CachedRpcEnv)
    (fromBlock toBlock : UInt64) : Option PartialLogs :=
  if env.readFails then
    none
  else
    match self.db.getPartialLogs fromBlock toBlock with
    | .ok cachedLogs => cachedLogs
    | .error _ => none

/-- What the node answers is returned also where it cannot be saved. -/
def getPartialLogs (self : CachedRpc) (env : CachedRpcEnv)
    (fromBlock toBlock : UInt64) (cache : Bool) :
    CachedRpc × Except String PartialLogs :=
  if ¬fromBlock ≤ toBlock then
    (self, .error
      s!"from_block {fromBlock} must be <= to_block {toBlock}")
  else
    match if cache then self.tryFetchFromCache env fromBlock toBlock
      else none with
    | some partialLogs => (self, .ok partialLogs)
    | none =>
        match env.smartGetLogs fromBlock toBlock with
        | .error detail => (self, .error detail)
        | .ok partialLogs =>
            (if cache then
                self.trySaveToCache env partialLogs.logs fromBlock
                  partialLogs.toBlock
              else
                self,
              .ok partialLogs)

end CachedRpc

end RiskManagement
