import RiskManagement.Afn.CachedRpc
import RiskManagement.Afn.LogFetching
import RiskManagement.Afn.LogsDbCoverage

/-!
# Where a client's pages end

The node is never asked for the largest block number, and SQLite holds no such
number.  So the successor of the block that a page ends at never wraps, which
the event state machine relies on without a check of its own.
-/

namespace RiskManagement

/-- What every page of a request to the cached client satisfies.  A request
for the largest block number alone is answered up to the block before it. -/
structure EndsWithin (fromBlock toBlock pageEnd : UInt64) : Prop where
  le_to : pageEnd ≤ toBlock
  ne_maxValue : pageEnd ≠ Word64.maxValue
  from_le_next : fromBlock ≤ pageEnd + 1
  from_le : fromBlock ≠ Word64.maxValue → fromBlock ≤ pageEnd

/-! ### The node -/

namespace SmartGetLogs

/-- What calls that returned leave of a new fetcher. -/
inductive Reached : SmartGetLogs → Prop where
  | new (addresses : List Address) (firstTopics : List Bytes32) :
      Reached (.new addresses firstTopics)
  | call {self : SmartGetLogs} {answer : Nat → GetLogsAnswer} {fuel : Nat}
      {fromBlock toBlock : UInt64} {returned : GetLogsReturn} :
      Reached self →
      self.getPartialLogs answer fuel fromBlock toBlock = some returned →
      Reached { self with blockRange := returned.blockRange }

variable {self : SmartGetLogs} {answer : Nat → GetLogsAnswer}
  {fromBlock toBlock : UInt64}

theorem request_endsWithin (self : SmartGetLogs) {size : UInt64}
    (positive : 1 ≤ size.toNat) (order : fromBlock ≤ toBlock) :
    EndsWithin fromBlock toBlock
      (self.request fromBlock toBlock size).toBlock := by
  have natOrder := UInt64.le_iff_toNat_le.mp order
  have bound := fromBlock.toNat_lt
  have toNat_toBlock :
      (self.request fromBlock toBlock size).toBlock.toNat =
        min toBlock.toNat
          (min (fromBlock.toNat + size.toNat) (2 ^ 64 - 1) - 1) := by
    rw [request, Word64.toNat_min, Word64.toNat_saturatingSub,
      Word64.toNat_saturatingAdd, UInt64.toNat_one]
  have notMax :
      (self.request fromBlock toBlock size).toBlock ≠ Word64.maxValue := by
    rw [Word64.ne_maxValue_iff]
    omega
  constructor
  · rw [UInt64.le_iff_toNat_le]
    omega
  · exact notMax
  · rw [UInt64.le_iff_toNat_le, Word64.toNat_add_one notMax]
    omega
  · intro notMax
    have below := Word64.ne_maxValue_iff.mp notMax
    rw [UInt64.le_iff_toNat_le]
    omega

/-- What a call leaves: a positive size, and a page in its range. -/
structure Answered (fromBlock toBlock : UInt64) (returned : GetLogsReturn) :
    Prop where
  positive : 1 ≤ returned.blockRange.size.toNat
  ends : ∀ page, returned.result = .ok page →
    EndsWithin fromBlock toBlock page.toBlock

theorem getLogsTurn_answered {call : GetLogsCall}
    (positive : 1 ≤ call.blockRange.size.toNat)
    (order : fromBlock ≤ toBlock) :
    (self.getLogsTurn answer fromBlock toBlock call).Meets
      (fun after => 1 ≤ after.blockRange.size.toNat)
      (Answered fromBlock toBlock) := by
  rw [getLogsTurn]
  cases (answer call.attempts.length).rpcLogs with
  | ok rpcLogs =>
      constructor
      · show 1 ≤ (ite _ _ _ : BlockRange).size.toNat
        split
        · rw [BlockRange.onFailure_size]
          omega
        · exact BlockRange.onSuccess_positive positive
      · intro page isPage
        cases isPage
        exact self.request_endsWithin positive order
  | error error =>
      have failed : ∀ attempts error,
          Answered fromBlock toBlock
            ⟨call.blockRange, attempts, .error error⟩ := by
        intro attempts error
        refine ⟨positive, ?_⟩
        intro page isPage
        cases isPage
      by_cases isRetryable : error.isRetryable = true
      · by_cases isOne : call.blockRange.size = 1
        · simp only [if_pos isRetryable, if_pos isOne]
          exact failed _ _
        · simp only [if_pos isRetryable, if_neg isOne]
          show 1 ≤ (BlockRange.onFailure _ _).size.toNat
          rw [BlockRange.onFailure_size]
          omega
      · simp only [if_neg isRetryable]
        exact failed _ _

theorem getPartialLogs_answered {fuel : Nat} {returned : GetLogsReturn}
    (positive : 1 ≤ self.blockRange.size.toNat)
    (returns : self.getPartialLogs answer fuel fromBlock toBlock =
      some returned) : Answered fromBlock toBlock returned := by
  rw [getPartialLogs] at returns
  split at returns
  · cases returns
    refine ⟨positive, ?_⟩
    intro page isPage
    cases isPage
  · rename_i order
    refine Loops.iterate_invariant
      (fun call : GetLogsCall => 1 ≤ call.blockRange.size.toNat) _ ?_ positive
      returns
    intro state turn sizeOk turned
    cases turned
    exact getLogsTurn_answered sizeOk (not_not.mp order)

theorem Reached.positive (reached : Reached self) :
    1 ≤ self.blockRange.size.toNat := by
  induction reached with
  | new _ _ => exact Nat.le_refl 1
  | call _ returns induction =>
      exact (getPartialLogs_answered induction returns).positive

end SmartGetLogs

/-! ### The database -/

namespace LogsDb

theorem selectLogs_toBlock {db : LogsDb} {fromBlock toBlock : UInt64}
    {page : PartialLogs} (order : fromBlock ≤ toBlock)
    (selects : db.selectLogs fromBlock toBlock = .ok page) :
    fromBlock ≤ page.toBlock ∧ page.toBlock ≤ toBlock ∧
      page.toBlock.toNat ≤ maxSqlInt := by
  induction width : toBlock.toNat - fromBlock.toNat
    using Nat.strong_induction_on generalizing toBlock with
  | _ _ induction =>
      subst width
      rw [LogsDb.selectLogs] at selects
      obtain ⟨_, _, selects⟩ := Checked.bind_eq_ok_iff.mp selects
      obtain ⟨_, toBinds, selects⟩ := Checked.bind_eq_ok_iff.mp selects
      simp only at selects
      split at selects
      · rename_i many
        have less := UInt64.lt_iff_toNat_lt.mp many.1
        have middle := Word64.midpoint_toNat (UInt64.le_of_lt many.1)
        obtain ⟨lower, upper, bound⟩ := induction _ (by omega)
          (by rw [UInt64.le_iff_toNat_le]; omega) selects rfl
        refine ⟨lower, UInt64.le_trans upper ?_, bound⟩
        rw [UInt64.le_iff_toNat_le]
        omega
      · obtain ⟨logs, _, selects⟩ := Checked.bind_eq_ok_iff.mp selects
        cases selects
        exact ⟨order, UInt64.le_refl _, (toSql_eq_ok_iff.mp toBinds).1⟩

theorem getPartialLogs_endsWithin {db : LogsDb} {fromBlock toBlock : UInt64}
    {page : PartialLogs}
    (answers : db.getPartialLogs fromBlock toBlock = .ok (some page)) :
    EndsWithin fromBlock toBlock page.toBlock := by
  obtain ⟨last, order, lastLe, _, selects⟩ := getPartialLogs_hit answers
  obtain ⟨lower, upper, bound⟩ := selectLogs_toBlock order selects
  have notMax : page.toBlock ≠ Word64.maxValue := by
    rw [Word64.ne_maxValue_iff]
    rw [maxSqlInt] at bound
    omega
  refine ⟨UInt64.le_trans upper lastLe, notMax, ?_, fun _ => lower⟩
  rw [UInt64.le_iff_toNat_le] at lower ⊢
  rw [Word64.toNat_add_one notMax]
  omega

end LogsDb

/-! ### The cached client -/

/-- The node is asked through a fetcher that calls have made of a new one. -/
def CachedRpcEnv.Fetches (env : CachedRpcEnv) : Prop :=
  ∀ fromBlock toBlock page, env.smartGetLogs fromBlock toBlock = .ok page →
    ∃ fetcher answer fuel returned, SmartGetLogs.Reached fetcher ∧
      fetcher.getPartialLogs answer fuel fromBlock toBlock = some returned ∧
        returned.result = .ok page

/-- The answers of a client with this database to the calls of a moment. -/
def CachedRpc.answers (self : CachedRpc) (env : CachedRpcEnv) :
    GetPartialLogs :=
  fun fromBlock toBlock cache =>
    (self.getPartialLogs env fromBlock toBlock cache).2

/-- The answers are those of some cached client. -/
def GetPartialLogs.FromClient (getPartialLogs : GetPartialLogs) : Prop :=
  ∃ (rpc : CachedRpc) (env : CachedRpcEnv), env.Fetches ∧
    getPartialLogs = rpc.answers env

/-- Whatever the node answers and the database holds, a page of the client
ends within its request and below the largest block number. -/
theorem GetPartialLogs.FromClient.endsWithin
    {getPartialLogs : GetPartialLogs}
    (fromClient : getPartialLogs.FromClient) {fromBlock toBlock : UInt64}
    {cache : Bool} {page : PartialLogs}
    (answered : getPartialLogs fromBlock toBlock cache = .ok page) :
    EndsWithin fromBlock toBlock page.toBlock := by
  obtain ⟨rpc, env, fetches, rfl⟩ := fromClient
  rw [CachedRpc.answers, CachedRpc.getPartialLogs] at answered
  split at answered
  · cases answered
  · split at answered
    · rename_i hit
      cases answered
      split at hit
      · rw [CachedRpc.tryFetchFromCache] at hit
        split at hit
        · cases hit
        · split at hit
          · rename_i read
            rw [hit] at read
            exact LogsDb.getPartialLogs_endsWithin read
          · cases hit
      · cases hit
    · split at answered
      · cases answered
      · rename_i fetched
        cases answered
        obtain ⟨fetcher, _, _, _, reached, returns, isPage⟩ :=
          fetches _ _ _ fetched
        exact (SmartGetLogs.getPartialLogs_answered reached.positive
          returns).ends _ isPage

end RiskManagement
