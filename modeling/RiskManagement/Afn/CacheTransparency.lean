import RiskManagement.Afn.CachedRpc
import RiskManagement.Afn.DestOffRampState
import RiskManagement.Afn.LogsDbCoverage

/-!
# The log cache is transparent

Every row of the database is a log of the chain, and every log of a covered
block has its row.  Saves of what the node answered keep this, so a hit reads
the logs of the chain.
-/

namespace RiskManagement

/-! ### Chains that can be cached -/

/-- Block number and log index identify a log, and a log has one to four
topics. -/
structure LogChain.Cacheable (chain : LogChain) : Prop where
  uniqueKeys :
    (chain.logs.map fun log => (log.blockNumber, log.logIndex)).Nodup
  topics : ∀ log ∈ chain.logs,
    1 ≤ log.topics.length ∧ log.topics.length ≤ 4

/-- The chain's logs from the first asked block up to some asked block. -/
structure LogChain.IsPage (chain : LogChain) (fromBlock toBlock : UInt64)
    (page : PartialLogs) : Prop where
  from_le : fromBlock ≤ page.toBlock
  le_to : page.toBlock ≤ toBlock
  logs_eq : page.logs =
    chain.between fromBlock.toNat (page.toBlock.toNat + 1)

namespace LogChain

variable {chain : LogChain}

theorem IsPage.widen {fromBlock toBlock bound : UInt64} {page : PartialLogs}
    (isPage : chain.IsPage fromBlock toBlock page) (order : toBlock ≤ bound) :
    chain.IsPage fromBlock bound page :=
  ⟨isPage.from_le, UInt64.le_trans isPage.le_to order, isPage.logs_eq⟩

theorem Cacheable.eq_of_notAfter (cacheable : chain.Cacheable)
    {left right : EVMLog} (leftIn : left ∈ chain.logs)
    (rightIn : right ∈ chain.logs) (before : left.NotAfter right)
    (after : right.NotAfter left) : left = right := by
  apply List.inj_on_of_nodup_map cacheable.uniqueKeys leftIn rightIn
  simp only [EVMLog.NotAfter, UInt64.lt_iff_toNat_lt,
    UInt64.le_iff_toNat_le, ← UInt64.toNat_inj] at before after
  simp only [Prod.mk.injEq, ← UInt64.toNat_inj]
  omega

theorem Cacheable.between_nodup (cacheable : chain.Cacheable)
    (first last : Nat) : (chain.between first last).Nodup :=
  (List.Nodup.of_map _ cacheable.uniqueKeys).filter _

theorem between_ordered (chain : LogChain) (first last : Nat) :
    (chain.between first last).Pairwise EVMLog.NotAfter :=
  chain.ordered.filter _

end LogChain

/-! ### What the database holds of a chain -/

/-- The rows are logs of the chain, all of them in the covered blocks. -/
structure LogsDb.Caches (db : LogsDb) (chain : LogChain) : Prop where
  unique : KeyedTable.UniqueKeys LogRow.key db.logs
  stored : ∀ row ∈ db.logs,
    ∃ log ∈ chain.logs, LogRow.ofLog log = .ok row
  complete : ∀ log ∈ chain.logs,
    Covered db.queriableBlockRanges log.block →
      ∃ row ∈ db.logs, LogRow.ofLog log = .ok row

namespace LogsDb

theorem new_caches (chain : LogChain) : new.Caches chain := by
  constructor
  · exact .nil
  · intro row member
    simp [new] at member
  · intro log _ covered
    obtain ⟨range, member, _⟩ := covered
    simp [new] at member

section Reading

variable {db : LogsDb} {chain : LogChain}

theorem Caches.row_log (caches : db.Caches chain)
    (cacheable : chain.Cacheable) {row : LogRow} (member : row ∈ db.logs) :
    row.log ∈ chain.logs ∧ LogRow.ofLog row.log = .ok row ∧
      evmLogFromRow row = .ok row.log := by
  obtain ⟨log, inChain, made⟩ := caches.stored row member
  obtain ⟨isLog, reads⟩ :=
    LogRow.log_ofLog made (cacheable.topics log inChain).2
  rw [isLog]
  exact ⟨inChain, made, reads⟩

/-- In covered blocks the chain has exactly the logs of the rows. -/
theorem Caches.mem_between_iff (caches : db.Caches chain)
    (cacheable : chain.Cacheable) {fromBlock toBlock : UInt64}
    (covered : ∀ number : Int, fromBlock.toNat ≤ number →
      number ≤ toBlock.toNat → Covered db.queriableBlockRanges number)
    {log : EVMLog} :
    log ∈ chain.between fromBlock.toNat (toBlock.toNat + 1) ↔
      ∃ row ∈ db.logs, inBlocks fromBlock.toNat toBlock.toNat row ∧
        row.log = log := by
  rw [LogChain.mem_between]
  constructor
  · intro inWindow
    obtain ⟨inChain, lower, upper⟩ := inWindow
    have inRange := covered log.block (by omega) (by omega)
    obtain ⟨row, member, made⟩ := caches.complete log inChain inRange
    have number : row.blockNumber = log.block :=
      (LogRow.ofLog_cases made).2.2.1
    refine ⟨row, member, ?_, ?_⟩
    · simp only [inBlocks, decide_eq_true_eq]
      omega
    · exact (LogRow.log_ofLog made (cacheable.topics log inChain).2).1
  · intro hasRow
    obtain ⟨row, member, inRange, isLog⟩ := hasRow
    obtain ⟨inChain, made, _⟩ := caches.row_log cacheable member
    have number : row.blockNumber = row.log.block :=
      (LogRow.ofLog_cases made).2.2.1
    rw [isLog] at inChain number
    simp only [inBlocks, decide_eq_true_eq] at inRange
    exact ⟨inChain, by omega, by omega⟩

/-- The rows selected from covered blocks are the chain's logs. -/
theorem Caches.selected (caches : db.Caches chain)
    (cacheable : chain.Cacheable) {fromBlock toBlock : UInt64}
    (covered : ∀ number : Int, fromBlock.toNat ≤ number →
      number ≤ toBlock.toNat → Covered db.queriableBlockRanges number) :
    (KeyedTable.select (inBlocks fromBlock.toNat toBlock.toNat)
      LogRow.notAfter db.logs).map LogRow.log =
      chain.between fromBlock.toNat (toBlock.toNat + 1) := by
  refine caches.unique.map_select_eq ?_ ?_ ?_ ?_
    (chain.between_ordered _ _) (cacheable.between_nodup _ _) ?_ ?_
  · intro left leftIn right rightIn same
    have leftMade := (caches.row_log cacheable leftIn).2.1
    have rightMade := (caches.row_log cacheable rightIn).2.1
    rw [same, rightMade] at leftMade
    cases leftMade
    rfl
  · exact LogRow.notAfter_trans
  · exact LogRow.notAfter_total
  · intro left leftIn right rightIn order
    have leftMade :=
      LogRow.ofLog_cases (caches.row_log cacheable leftIn).2.1
    have rightMade :=
      LogRow.ofLog_cases (caches.row_log cacheable rightIn).2.1
    simp only [LogRow.notAfter, decide_eq_true_eq] at order
    simp only [EVMLog.NotAfter, UInt64.lt_iff_toNat_lt,
      UInt64.le_iff_toNat_le, ← UInt64.toNat_inj]
    omega
  · intro left leftIn right rightIn
    exact cacheable.eq_of_notAfter (LogChain.mem_between.mp leftIn).1
      (LogChain.mem_between.mp rightIn).1
  · intro log
    exact caches.mem_between_iff cacheable covered

theorem Caches.reads (caches : db.Caches chain)
    (cacheable : chain.Cacheable) (fromBlock toBlock : UInt64) :
    (KeyedTable.select (inBlocks fromBlock.toNat toBlock.toNat)
        LogRow.notAfter db.logs).mapM evmLogFromRow =
      .ok ((KeyedTable.select (inBlocks fromBlock.toNat toBlock.toNat)
        LogRow.notAfter db.logs).map LogRow.log) := by
  apply Checked.mapM_eq_ok
  intro row member
  exact (caches.row_log cacheable (KeyedTable.mem_select.mp member).1).2.2

/-- The loop ends in a page of the chain, of one block or of few logs. -/
theorem Caches.selectLogs (caches : db.Caches chain)
    (cacheable : chain.Cacheable) {fromBlock toBlock : UInt64}
    {page : PartialLogs} (order : fromBlock ≤ toBlock)
    (covered : ∀ number : Int, fromBlock.toNat ≤ number →
      number ≤ toBlock.toNat → Covered db.queriableBlockRanges number)
    (selects : db.selectLogs fromBlock toBlock = .ok page) :
    chain.IsPage fromBlock toBlock page ∧
      (page.toBlock = fromBlock ∨
        page.logs.length ≤ maxNumLogsOverManyBlocks) := by
  induction width : toBlock.toNat - fromBlock.toNat
    using Nat.strong_induction_on generalizing toBlock with
  | _ _ induction =>
      subst width
      rw [LogsDb.selectLogs] at selects
      obtain ⟨sqlFrom, fromBinds, selects⟩ :=
        Checked.bind_eq_ok_iff.mp selects
      obtain ⟨sqlTo, toBinds, selects⟩ := Checked.bind_eq_ok_iff.mp selects
      obtain ⟨_, rfl⟩ := toSql_eq_ok_iff.mp fromBinds
      obtain ⟨_, rfl⟩ := toSql_eq_ok_iff.mp toBinds
      dsimp only at selects
      split at selects
      · -- Too many logs: the lower half of the range is covered as well.
        rename_i many
        have natOrder := UInt64.lt_iff_toNat_lt.mp many.1
        have middle := Word64.midpoint_toNat order
        have lowerHalf : fromBlock ≤
            fromBlock + (toBlock - fromBlock) / 2 := by
          rw [UInt64.le_iff_toNat_le]
          omega
        obtain ⟨isPage, small⟩ := induction _ (by omega) lowerHalf
          (fun number lower upper => covered number lower (by omega))
          selects rfl
        refine ⟨isPage.widen ?_, small⟩
        rw [UInt64.le_iff_toNat_le]
        omega
      · rename_i few
        have rows := caches.selected cacheable covered
        rw [caches.reads cacheable] at selects
        cases selects
        refine ⟨⟨order, UInt64.le_refl _, rows⟩, ?_⟩
        by_cases single : fromBlock < toBlock
        · apply Or.inr
          have count : ¬(db.logs.countP (inBlocks fromBlock.toNat
              toBlock.toNat) > maxNumLogsOverManyBlocks) :=
            fun many => few ⟨single, many⟩
          rw [List.length_map, KeyedTable.length_select]
          omega
        · apply Or.inl
          exact UInt64.le_antisymm (UInt64.not_lt.mp single) order

/-- Whatever the database answers is a page of the chain. -/
theorem Caches.getPartialLogs (caches : db.Caches chain)
    (cacheable : chain.Cacheable) {fromBlock toBlock : UInt64}
    {page : PartialLogs}
    (answers : db.getPartialLogs fromBlock toBlock = .ok (some page)) :
    chain.IsPage fromBlock toBlock page ∧
      (page.toBlock = fromBlock ∨
        page.logs.length ≤ maxNumLogsOverManyBlocks) := by
  obtain ⟨last, lower, upper, covered, selects⟩ :=
    LogsDb.getPartialLogs_hit answers
  obtain ⟨isPage, small⟩ :=
    caches.selectLogs cacheable lower covered selects
  exact ⟨isPage.widen upper, small⟩

end Reading

/-! ### Saving a page -/

section Writing

variable {db next : LogsDb} {chain : LogChain}

/-- Rows of the chain's logs are determined by their keys. -/
theorem row_eq_of_key_eq (cacheable : chain.Cacheable)
    {log other : EVMLog} (logIn : log ∈ chain.logs)
    (otherIn : other ∈ chain.logs) {row otherRow : LogRow}
    (made : LogRow.ofLog log = .ok row)
    (otherMade : LogRow.ofLog other = .ok otherRow)
    (sameKey : row.key = otherRow.key) : row = otherRow := by
  have logRow := LogRow.ofLog_cases made
  have otherLogRow := LogRow.ofLog_cases otherMade
  simp only [LogRow.key, Prod.mk.injEq] at sameKey
  have sameLog : log = other := by
    apply List.inj_on_of_nodup_map cacheable.uniqueKeys logIn otherIn
    simp only [Prod.mk.injEq, ← UInt64.toNat_inj]
    omega
  rw [sameLog, otherMade] at made
  cases made
  rfl

theorem saveLog_eq_ok {rows nextRows : List LogRow} {log : EVMLog}
    (saves : saveLog rows log = .ok nextRows) :
    ∃ row, LogRow.ofLog log = .ok row ∧
      nextRows = KeyedTable.insertOrReplace LogRow.key row rows := by
  obtain ⟨row, made, saves⟩ := Checked.bind_eq_ok_iff.mp saves
  cases saves
  exact ⟨row, made, rfl⟩

/-- Inserting logs of the chain keeps a table of rows of the chain. -/
theorem saveLog_keeps_rows {rows nextRows : List LogRow} {log : EVMLog}
    (logIn : log ∈ chain.logs)
    (rowsOk : KeyedTable.UniqueKeys LogRow.key rows ∧ ∀ row ∈ rows,
      ∃ log ∈ chain.logs, LogRow.ofLog log = .ok row)
    (saves : saveLog rows log = .ok nextRows) :
    KeyedTable.UniqueKeys LogRow.key nextRows ∧ ∀ row ∈ nextRows,
      ∃ log ∈ chain.logs, LogRow.ofLog log = .ok row := by
  obtain ⟨unique, stored⟩ := rowsOk
  obtain ⟨row, made, rfl⟩ := saveLog_eq_ok saves
  refine ⟨unique.insertOrReplace row, ?_⟩
  intro other member
  rcases KeyedTable.mem_insertOrReplace.mp member with isNew | old
  · exact ⟨log, logIn, by rw [isNew]; exact made⟩
  · exact stored other old.1

/-- Inserting logs of the chain loses no row of the chain. -/
theorem saveLog_keeps_log (cacheable : chain.Cacheable)
    {rows nextRows : List LogRow} {log other : EVMLog}
    (logIn : log ∈ chain.logs) (otherIn : other ∈ chain.logs)
    (held : ∃ row ∈ rows, LogRow.ofLog other = .ok row)
    (saves : saveLog rows log = .ok nextRows) :
    ∃ row ∈ nextRows, LogRow.ofLog other = .ok row := by
  obtain ⟨otherRow, member, otherMade⟩ := held
  obtain ⟨row, made, rfl⟩ := saveLog_eq_ok saves
  refine ⟨otherRow, KeyedTable.mem_insertOrReplace.mpr ?_, otherMade⟩
  by_cases sameKey : otherRow.key = row.key
  · exact .inl
      (row_eq_of_key_eq cacheable otherIn logIn otherMade made sameKey)
  · exact .inr ⟨member, sameKey⟩

theorem Caches.saveLogs (caches : db.Caches chain)
    (cacheable : chain.Cacheable) {fromBlock toBlock : UInt64}
    {page : PartialLogs} (isPage : chain.IsPage fromBlock toBlock page)
    (saved : db.saveLogs page.logs fromBlock page.toBlock = .ok next) :
    next.Caches chain := by
  obtain ⟨ranges, savesRange, saved⟩ := Checked.bind_eq_ok_iff.mp saved
  obtain ⟨rows, savesRows, saved⟩ := Checked.bind_eq_ok_iff.mp saved
  cases saved
  have inChain : ∀ log ∈ page.logs, log ∈ chain.logs := by
    intro log member
    rw [isPage.logs_eq] at member
    exact (LogChain.mem_between.mp member).1
  obtain ⟨unique, stored⟩ := Checked.foldlM_preserves
    (fun rows nextRows log member rowsOk saves =>
      saveLog_keeps_rows (inChain log member) rowsOk saves)
    ⟨caches.unique, caches.stored⟩ savesRows
  refine ⟨unique, stored, ?_⟩
  intro other otherIn covered
  have keeps : ∀ rows nextRows, ∀ log ∈ page.logs,
      (∃ row ∈ rows, LogRow.ofLog other = .ok row) →
      saveLog rows log = .ok nextRows →
        ∃ row ∈ nextRows, LogRow.ofLog other = .ok row :=
    fun _ _ log member => saveLog_keeps_log cacheable (inChain log member)
      otherIn
  rcases covered_of_saveRange savesRange covered with old | new
  · exact Checked.foldlM_preserves keeps
      (caches.complete other otherIn old) savesRows
  · have inPage : other ∈ page.logs := by
      rw [isPage.logs_eq]
      exact LogChain.mem_between.mpr ⟨otherIn, by omega, by omega⟩
    refine Checked.foldlM_establishes inPage ?_ keeps savesRows
    intro rows nextRows saves
    obtain ⟨row, made, rfl⟩ := saveLog_eq_ok saves
    exact ⟨row, KeyedTable.mem_insertOrReplace.mpr (.inl rfl), made⟩

end Writing

end LogsDb

/-! ### Calls -/

/-- One call with the cache. -/
structure CachedRpcCall where
  env : CachedRpcEnv
  fromBlock : UInt64
  toBlock : UInt64

/-- The node only answers with pages of the chain. -/
def CachedRpcEnv.Serves (env : CachedRpcEnv) (chain : LogChain) : Prop :=
  ∀ fromBlock toBlock page, fromBlock ≤ toBlock →
    env.smartGetLogs fromBlock toBlock = .ok page →
      chain.IsPage fromBlock toBlock page

/-- An ordered request, served from the chain. -/
structure CachedRpcCall.Served (call : CachedRpcCall) (chain : LogChain) :
    Prop where
  order : call.fromBlock ≤ call.toBlock
  serves : call.env.Serves chain

namespace CachedRpc

def new : CachedRpc := ⟨.new⟩

/-- The client after a call, with the call's answer. -/
def answer (self : CachedRpc) (call : CachedRpcCall) :
    CachedRpc × Except String PartialLogs :=
  self.getPartialLogs call.env call.fromBlock call.toBlock true

/-- The client after several calls. -/
def run (self : CachedRpc) (calls : List CachedRpcCall) : CachedRpc :=
  calls.foldl (fun self call => (self.answer call).1) self

section

variable {rpc : CachedRpc} {chain : LogChain} {env : CachedRpcEnv}

theorem tryFetchFromCache_page (caches : rpc.db.Caches chain)
    (cacheable : chain.Cacheable) {fromBlock toBlock : UInt64}
    {page : PartialLogs}
    (hit : rpc.tryFetchFromCache env fromBlock toBlock = some page) :
    chain.IsPage fromBlock toBlock page ∧
      (page.toBlock = fromBlock ∨
        page.logs.length ≤ maxNumLogsOverManyBlocks) := by
  rw [tryFetchFromCache] at hit
  split at hit
  · cases hit
  · cases answered : rpc.db.getPartialLogs fromBlock toBlock with
    | error failure =>
        rw [answered] at hit
        cases hit
    | ok cachedLogs =>
        rw [answered] at hit
        subst hit
        exact caches.getPartialLogs cacheable answered

theorem trySaveToCache_caches (caches : rpc.db.Caches chain)
    (cacheable : chain.Cacheable) {fromBlock toBlock : UInt64}
    {page : PartialLogs} (isPage : chain.IsPage fromBlock toBlock page) :
    (rpc.trySaveToCache env page.logs fromBlock page.toBlock).db.Caches
      chain := by
  rw [trySaveToCache]
  split
  · exact caches
  · split
    · rename_i db saved
      exact caches.saveLogs cacheable isPage saved
    · exact caches

/-- One call answers from the chain and leaves a cache of it. -/
theorem getPartialLogs_spec (caches : rpc.db.Caches chain)
    (cacheable : chain.Cacheable) (serves : env.Serves chain)
    {fromBlock toBlock : UInt64} (order : fromBlock ≤ toBlock)
    (cache : Bool) :
    (rpc.getPartialLogs env fromBlock toBlock cache).1.db.Caches chain ∧
      ∀ page, (rpc.getPartialLogs env fromBlock toBlock cache).2 =
        .ok page → chain.IsPage fromBlock toBlock page := by
  rw [getPartialLogs]
  rw [if_neg (not_not.mpr order)]
  split
  · rename_i page hit
    refine ⟨caches, ?_⟩
    intro other same
    cases same
    cases cache with
    | false => cases hit
    | true => exact (tryFetchFromCache_page caches cacheable hit).1
  · cases answered : env.smartGetLogs fromBlock toBlock with
    | error detail => exact ⟨caches, fun page same => by cases same⟩
    | ok page =>
        have isPage := serves fromBlock toBlock page order answered
        constructor
        · cases cache with
          | false => exact caches
          | true => exact trySaveToCache_caches caches cacheable isPage
        · intro other same
          cases same
          exact isPage

theorem run_caches (caches : rpc.db.Caches chain)
    (cacheable : chain.Cacheable) {calls : List CachedRpcCall}
    (served : ∀ call ∈ calls, call.Served chain) :
    (rpc.run calls).db.Caches chain := by
  induction calls generalizing rpc with
  | nil => exact caches
  | cons call rest induction =>
      have callServed := served call List.mem_cons_self
      apply induction
      · exact (getPartialLogs_spec caches cacheable callServed.serves
          callServed.order true).1
      · intro other member
        exact served other (List.mem_cons_of_mem _ member)

/-- The cached client is as good a source of logs as the node. -/
theorem getPartialLogs_servedBy (caches : rpc.db.Caches chain)
    (cacheable : chain.Cacheable) (serves : env.Serves chain) :
    chain.ServedBy fun fromBlock toBlock cache =>
      (rpc.getPartialLogs env fromBlock toBlock cache).2 := by
  have isPage : ∀ fromBlock toBlock cache page, fromBlock ≤ toBlock →
      (rpc.getPartialLogs env fromBlock toBlock cache).2 = .ok page →
        chain.IsPage fromBlock toBlock page :=
    fun _ _ cache page order =>
      (getPartialLogs_spec caches cacheable serves order cache).2 page
  constructor
  · intro fromBlock toBlock cache page order answered
    exact (isPage fromBlock toBlock cache page order answered).from_le
  · intro fromBlock toBlock cache page order answered
    exact (isPage fromBlock toBlock cache page order answered).le_to
  · intro fromBlock toBlock cache page order answered
    exact (isPage fromBlock toBlock cache page order answered).logs_eq

end

/-- After any calls, a call answers with exactly the chain's logs of the
blocks up to its end block; what the database serves is one block, or at most
the allowed number of logs. -/
theorem cache_transparent {chain : LogChain} (cacheable : chain.Cacheable)
    {calls : List CachedRpcCall}
    (served : ∀ call ∈ calls, call.Served chain) {call : CachedRpcCall}
    (callServed : call.Served chain) :
    (∀ page, ((new.run calls).answer call).2 = .ok page →
      call.fromBlock ≤ page.toBlock ∧ page.toBlock ≤ call.toBlock ∧
        page.logs = chain.between call.fromBlock.toNat
          (page.toBlock.toNat + 1) ∧
        page.logs.Pairwise EVMLog.NotAfter) ∧
      ∀ page, (new.run calls).tryFetchFromCache call.env call.fromBlock
          call.toBlock = some page →
        page.toBlock = call.fromBlock ∨
          page.logs.length ≤ maxNumLogsOverManyBlocks := by
  have caches : (new.run calls).db.Caches chain :=
    run_caches (LogsDb.new_caches chain) cacheable served
  constructor
  · intro page answered
    have isPage := (getPartialLogs_spec caches cacheable callServed.serves
      callServed.order true).2 page answered
    refine ⟨isPage.from_le, isPage.le_to, isPage.logs_eq, ?_⟩
    rw [isPage.logs_eq]
    exact chain.between_ordered _ _
  · intro page hit
    exact (tryFetchFromCache_page caches cacheable hit).2

end CachedRpc

/-- SQLite never fails and the node answers whole requests. -/
def wholeRequests (chain : LogChain) : CachedRpcEnv where
  smartGetLogs := fun fromBlock toBlock => chain.serve fromBlock toBlock false
  readFails := false
  saveFails := false

theorem wholeRequests_serves (chain : LogChain) :
    (wholeRequests chain).Serves chain := by
  intro fromBlock toBlock page order answered
  cases answered
  exact ⟨order, UInt64.le_refl toBlock, rfl⟩

theorem oneExecution_cacheable (blockNumber : UInt64) :
    (oneExecution blockNumber).Cacheable where
  uniqueKeys := List.nodup_singleton _
  topics := by
    intro log member
    rw [List.mem_singleton.mp member]
    simp [executionLog]

/-- Blocks 0 to 9 are fetched, then blocks 3 to 20 asked for. -/
def firstBlocks : CachedRpcCall :=
  ⟨wholeRequests (oneExecution 5), 0, 9⟩

def laterBlocks : CachedRpcCall :=
  ⟨wholeRequests (oneExecution 5), 3, 20⟩

theorem cache_transparent_oneExecution :
    (CachedRpc.new.run [firstBlocks]).tryFetchFromCache laterBlocks.env 3 20 =
        some ⟨9, (oneExecution 5).logs⟩ ∧
      (∀ page, ((CachedRpc.new.run [firstBlocks]).answer laterBlocks).2 =
          .ok page →
        laterBlocks.fromBlock ≤ page.toBlock ∧
          page.toBlock ≤ laterBlocks.toBlock ∧
          page.logs = (oneExecution 5).between laterBlocks.fromBlock.toNat
            (page.toBlock.toNat + 1) ∧
          page.logs.Pairwise EVMLog.NotAfter) ∧
      ∀ page, (CachedRpc.new.run [firstBlocks]).tryFetchFromCache
          laterBlocks.env laterBlocks.fromBlock laterBlocks.toBlock =
            some page →
        page.toBlock = laterBlocks.fromBlock ∨
          page.logs.length ≤ maxNumLogsOverManyBlocks := by
  have served : ∀ call ∈ [firstBlocks], call.Served (oneExecution 5) := by
    intro call member
    rw [List.mem_singleton.mp member]
    exact ⟨by decide, wholeRequests_serves _⟩
  refine ⟨?_, CachedRpc.cache_transparent
    (oneExecution_cacheable 5) served ?_⟩
  · decide +kernel
  · exact ⟨by decide, wholeRequests_serves _⟩

end RiskManagement
