import Mathlib.Logic.Relation
import RiskManagement.Minieth.TxSender

/-!
# The time budget of sending

A turn of `send` retries for one of three reasons, and two of them are given up
after `MAX_BLOCKING_TIME`.  The third is taken whenever too many transactions
are in flight, however late it is.
-/

namespace RiskManagement

open Loops (Turn)
open Relation (ReflTransGen)

namespace TransactionSender

section Run

variable (keccak : Keccak) (world : SendWorld) (txReq : TransactionRequest)

/-- The loop goes round from one head to the next. -/
def Retries (loop after : SendLoop) : Prop :=
  sendTurn keccak world txReq loop = .next after

/-- The heads of the loop that the call gets to. -/
def Reaches (sender : TransactionSender) (loop : SendLoop) : Prop :=
  ReflTransGen (Retries keccak world txReq) (.new sender) loop

/-- No turn begins after a decision to retry that came too late, and a turn
that begins too late returns. -/
structure RespectsBudget (sender : TransactionSender) : Prop where
  inTime : ∀ loop, Reaches keccak world txReq sender loop →
    ∀ retry ∈ loop.retries, world.canRetry retry.decidedAt = true
  returns : ∀ loop, Reaches keccak world txReq sender loop →
    world.canRetry (world.now loop.turn .stallCheck) = false →
      ∃ returned, sendTurn keccak world txReq loop = .exit returned

end Run

/-- The sender has a nonce that the stall check will not take away. -/
def KeepsNonce (world : SendWorld) (loop : SendLoop)
    (latestTransactionCount : UInt64) : Prop :=
  loop.sender.nonce ≠ none ∧
    ∀ previousTransactionCount previousTimestamp,
      loop.sender.previousTransactionCountWithTimestamp =
          some (previousTransactionCount, previousTimestamp) →
        isStalled world loop.turn latestTransactionCount
          previousTransactionCount previousTimestamp = false

/-- The turn will find more than `MAX_TXS_INFLIGHT` transactions in flight for
a nonce it keeps, at a time when nothing may be retried any more. -/
def CongestedLate (world : SendWorld) (loop : SendLoop) : Prop :=
  ∃ latest pending, world.latestTransactionCount loop.turn = .ok latest ∧
    world.pendingTransactionCount loop.turn = .ok pending ∧
    KeepsNonce world loop latest ∧
    latest.toNat + maxTxsInflight.toNat < pending.toNat ∧
    world.canRetry (world.now loop.turn .inflight) = false

variable {keccak : Keccak} {world : SendWorld} {txReq : TransactionRequest}
  {sender : TransactionSender} {loop after : SendLoop}

/-! ### One turn -/

theorem now_le (world : SendWorld) (turn : Nat) (reading : ClockReading) :
    world.now turn .stallCheck ≤ world.now turn reading := by
  apply world.monotone
  cases reading <;> simp [ClockReading.place]

theorem notePreviousCount_nonce {turn : Nat} {latest : UInt64} :
    (sender.notePreviousCount world turn latest).nonce = sender.nonce := by
  rw [notePreviousCount]
  split
  · rfl
  · rfl

theorem checkStall_nonce_ne_none_iff {latest : UInt64} :
    (loop.sender.checkStall world loop.turn latest).nonce ≠ none ↔
      KeepsNonce world loop latest := by
  rw [checkStall, KeepsNonce]
  cases loop.sender.previousTransactionCountWithTimestamp with
  | none => simp
  | some previous =>
      obtain ⟨previousTransactionCount, previousTimestamp⟩ := previous
      cases stalled : isStalled world loop.turn latest
          previousTransactionCount previousTimestamp with
      | true => simp [stalled]
      | false =>
          simp only [stalled, Bool.false_eq_true, if_false]
          split
          · simp [stalled]
          · simp [stalled]

/-- What a turn that goes round again adds to the retries. -/
def AddsRetry (world : SendWorld) (loop after : SendLoop) (retry : Retry) :
    Prop :=
  after.retries = loop.retries ++ [retry] ∧
    world.now loop.turn .stallCheck ≤ retry.decidedAt

theorem sendRaw_next {gas nonce : UInt64}
    (next : sender.sendRaw keccak world txReq loop gas nonce = .next after) :
    ∃ retry, AddsRetry world loop after retry ∧
      world.canRetry retry.decidedAt = true := by
  rw [sendRaw] at next
  split at next
  · cases next
  · split at next
    · rename_i inTime
      split at next
      · cases next
        exact ⟨_, ⟨rfl, now_le world loop.turn .sendRetry⟩, inTime⟩
      · cases next
    · cases next
  · cases next

theorem estimateAndSend_next {nonce : UInt64}
    (next : sender.estimateAndSend keccak world txReq loop nonce =
      .next after) :
    ∃ retry, AddsRetry world loop after retry ∧
      world.canRetry retry.decidedAt = true := by
  rw [estimateAndSend] at next
  split at next
  · exact sendRaw_next next
  · split at next
    · rename_i inTime
      cases next
      exact ⟨_, ⟨rfl, now_le world loop.turn .estimateRetry⟩, inTime⟩
    · cases next

theorem saturatingSub_gt_iff {minuend subtrahend bound : UInt64} :
    Word64.saturatingSub minuend subtrahend > bound ↔
      subtrahend.toNat + bound.toNat < minuend.toNat := by
  rw [gt_iff_lt, UInt64.lt_iff_toNat_lt, Word64.toNat_saturatingSub]
  omega

/-- The only retry that may come too late is the one of a congested turn. -/
theorem sendTurn_next
    (next : sendTurn keccak world txReq loop = .next after) :
    ∃ retry, AddsRetry world loop after retry ∧
      (world.canRetry retry.decidedAt = true ∨ CongestedLate world loop) := by
  have early : (∃ retry, AddsRetry world loop after retry ∧
      world.canRetry retry.decidedAt = true) → ∃ retry,
        AddsRetry world loop after retry ∧
          (world.canRetry retry.decidedAt = true ∨
            CongestedLate world loop) := by
    intro ⟨retry, adds, inTime⟩
    exact ⟨retry, adds, .inl inTime⟩
  rw [sendTurn] at next
  cases isLatest : world.latestTransactionCount loop.turn with
  | error error =>
      simp only [isLatest] at next
      cases next
  | ok latest =>
      cases isPending : world.pendingTransactionCount loop.turn with
      | error error =>
          simp only [isLatest, isPending] at next
          cases next
      | ok pending =>
          simp only [isLatest, isPending, notePreviousCount_nonce] at next
          cases isNonce :
              (loop.sender.checkStall world loop.turn latest).nonce with
          | none =>
              simp only [isNonce] at next
              exact early (estimateAndSend_next next)
          | some nonce =>
              simp only [isNonce] at next
              split at next
              · rename_i congested
                cases next
                refine ⟨_, ⟨rfl, now_le world loop.turn .inflight⟩, ?_⟩
                cases inTime :
                    world.canRetry (world.now loop.turn .inflight) with
                | true => exact .inl rfl
                | false =>
                    refine .inr ⟨latest, pending, isLatest, isPending, ?_,
                      saturatingSub_gt_iff.mp congested, inTime⟩
                    apply checkStall_nonce_ne_none_iff.mp
                    rw [isNonce]
                    exact Option.some_ne_none nonce
              · exact early (estimateAndSend_next next)

theorem sendTurn_of_congested {latest pending : UInt64}
    (isLatest : world.latestTransactionCount loop.turn = .ok latest)
    (isPending : world.pendingTransactionCount loop.turn = .ok pending)
    (keepsNonce : KeepsNonce world loop latest)
    (congested : latest.toNat + maxTxsInflight.toNat < pending.toNat) :
    sendTurn keccak world txReq loop =
      loop.retry ((loop.sender.checkStall world loop.turn
        latest).notePreviousCount world loop.turn latest) .tooManyInflight
          (world.now loop.turn .inflight) := by
  have hasNonce := checkStall_nonce_ne_none_iff.mpr keepsNonce
  obtain ⟨nonce, isNonce⟩ := Option.ne_none_iff_exists'.mp hasNonce
  rw [sendTurn]
  simp only [isLatest, isPending, notePreviousCount_nonce, isNonce]
  exact if_pos (saturatingSub_gt_iff.mpr congested)

/-! ### Runs -/

/-- A retry decided after a time is no earlier than that time in the budget. -/
theorem canRetry_mono {earlier later : Nat} (order : earlier ≤ later)
    (inTime : world.canRetry later = true) : world.canRetry earlier = true := by
  have bound : later - world.start < maxBlockingTime :=
    of_decide_eq_true inTime
  exact decide_eq_true (show earlier - world.start < maxBlockingTime by omega)

theorem retries_inTime
    (uncongested : ∀ loop, Reaches keccak world txReq sender loop →
      ¬ CongestedLate world loop)
    (reached : Reaches keccak world txReq sender loop) :
    ∀ retry ∈ loop.retries, world.canRetry retry.decidedAt = true := by
  induction reached with
  | refl => simp [SendLoop.new]
  | tail before next ih =>
      obtain ⟨last, ⟨adds, _⟩, decided⟩ := sendTurn_next next
      intro retry member
      rw [adds, List.mem_append, List.mem_singleton] at member
      rcases member with old | isLast
      · exact ih retry old
      · subst isLast
        exact decided.resolve_right (uncongested _ before)

/-- The retry of a congested turn breaks the budget once the time is up. -/
theorem not_respectsBudget_of_congestedLate
    (reached : Reaches keccak world txReq sender loop)
    (congested : CongestedLate world loop) :
    ¬ RespectsBudget keccak world txReq sender := by
  intro respects
  obtain ⟨latest, pending, isLatest, isPending, keepsNonce, tooMany, late⟩ :=
    congested
  have next : sendTurn keccak world txReq loop = _ :=
    sendTurn_of_congested isLatest isPending keepsNonce tooMany
  have inTime := respects.inTime _ (reached.tail next)
    ⟨.tooManyInflight, world.now loop.turn .inflight⟩ (by simp)
  rw [late] at inTime
  cases inTime

/-- `send` keeps to its time budget exactly when no turn of the call finds too
many transactions in flight, for a nonce it keeps, once the time is up. -/
theorem respectsBudget_iff (keccak : Keccak) (world : SendWorld)
    (txReq : TransactionRequest) (sender : TransactionSender) :
    RespectsBudget keccak world txReq sender ↔
      ∀ loop, Reaches keccak world txReq sender loop →
        ¬ CongestedLate world loop := by
  constructor
  · intro respects loop reached congested
    exact not_respectsBudget_of_congestedLate reached congested respects
  · intro uncongested
    refine ⟨fun loop reached => retries_inTime uncongested reached, ?_⟩
    intro loop reached late
    cases turned : sendTurn keccak world txReq loop with
    | exit returned => exact ⟨returned, rfl⟩
    | next after =>
        obtain ⟨retry, ⟨_, notBefore⟩, decided⟩ := sendTurn_next turned
        have inTime := canRetry_mono notBefore
          (decided.resolve_right (uncongested loop reached))
        rw [late] at inTime
        cases inTime

/-! ### A busy account -/

def busyRequest : TransactionRequest where
  gas := 200000
  toAddress := SizedBytes.replicate 20 2
  value := .ofUint 0
  data := Bytes.empty

/-- A node that takes the transaction of an account with four others. -/
def quietWorld : SendWorld where
  latestTransactionCount _ := .ok 4
  pendingTransactionCount _ := .ok 4
  estimateGas _ _ _ _ := .ok 200000
  sendRawTransaction _ _ := .ok (SizedBytes.replicate 32 3)
  newNonce _ := .error .notFound
  clock _ := 0
  monotone _ _ _ := Nat.le_refl 0

/-- From then on one transaction is mined every turn and 17 are pending; the
clock is read once a second. -/
def busyWorld : SendWorld where
  latestTransactionCount turn := .ok (.ofNat (turn + 5))
  pendingTransactionCount turn := .ok (.ofNat (turn + 22))
  estimateGas _ _ _ _ := .error .notFound
  sendRawTransaction _ _ := .error .notFound
  newNonce _ := .error .notFound
  clock reading := reading * 1000000000
  monotone _ _ order := Nat.mul_le_mul_right _ order

def newSender : TransactionSender :=
  .new 1 (.legacy (.gwei 30))
    { signHashed := fun _ => ⟨.ofUint 0, .ofUint 1, .ofUint 1⟩
      address := SizedBytes.replicate 20 1 }

/-- The sender after its first transaction. -/
def busySender : TransactionSender :=
  { newSender with
    previousTransactionCountWithTimestamp := some (4, 0)
    nonce := some 5 }

example (keccak : Keccak) :
    sendTurn keccak quietWorld busyRequest (.new newSender) =
      .exit ⟨busySender, [], .ok (SizedBytes.replicate 32 3)⟩ :=
  rfl

/-- The sender has its nonce, and the count it remembers is an old one. -/
structure BusyLoop (turn : Nat) (loop : SendLoop) : Prop where
  isTurn : loop.turn = turn
  nonce : loop.sender.nonce = some 5
  previous : ∀ count timestamp,
    loop.sender.previousTransactionCountWithTimestamp =
      some (count, timestamp) → count.toNat < turn + 5

theorem BusyLoop.notStalled {turn : Nat} (busy : BusyLoop turn loop)
    (small : turn + 5 < 2 ^ 64) {count : UInt64} {timestamp : Nat}
    (isPrevious : loop.sender.previousTransactionCountWithTimestamp =
      some (count, timestamp)) :
    isStalled busyWorld loop.turn (.ofNat (turn + 5)) count timestamp =
      false := by
  have old := busy.previous count timestamp isPrevious
  have toNat_latest : (UInt64.ofNat (turn + 5)).toNat = turn + 5 :=
    Nat.mod_eq_of_lt small
  rw [isStalled, decide_eq_false_iff_not, gt_iff_lt, UInt64.lt_iff_toNat_lt,
    ← UInt64.toNat_inj, toNat_latest]
  omega

theorem BusyLoop.keepsNonce {turn : Nat} (busy : BusyLoop turn loop)
    (small : turn + 5 < 2 ^ 64) :
    KeepsNonce busyWorld loop (.ofNat (turn + 5)) := by
  constructor
  · rw [busy.nonce]
    exact Option.some_ne_none 5
  · intro count timestamp isPrevious
    exact busy.notStalled small isPrevious

/-- An old count is forgotten, whether or not there was one. -/
theorem BusyLoop.checkStall_eq {turn : Nat} (busy : BusyLoop turn loop)
    (small : turn + 5 < 2 ^ 64) :
    loop.sender.checkStall busyWorld loop.turn (.ofNat (turn + 5)) =
      { loop.sender with previousTransactionCountWithTimestamp := none } := by
  have toNat_latest : (UInt64.ofNat (turn + 5)).toNat = turn + 5 :=
    Nat.mod_eq_of_lt small
  rw [checkStall]
  cases isPrevious : loop.sender.previousTransactionCountWithTimestamp with
  | none =>
      change loop.sender = _
      rw [← isPrevious]
  | some previous =>
      obtain ⟨count, timestamp⟩ := previous
      have notStalled := busy.notStalled small isPrevious
      have older : count < .ofNat (turn + 5) := by
        rw [UInt64.lt_iff_toNat_lt, toNat_latest]
        exact busy.previous count timestamp isPrevious
      simp only [notStalled, Bool.false_eq_true, if_false, if_pos older]

/-- However many turns the loop has gone round, it goes round again. -/
theorem BusyLoop.next {turn : Nat} (busy : BusyLoop turn loop)
    (small : turn + 22 < 2 ^ 64) (keccak : Keccak) :
    ∃ after, Retries keccak busyWorld busyRequest loop after ∧
      BusyLoop (turn + 1) after := by
  have toNat_latest : (UInt64.ofNat (turn + 5)).toNat = turn + 5 :=
    Nat.mod_eq_of_lt (by omega)
  have toNat_pending : (UInt64.ofNat (turn + 22)).toNat = turn + 22 :=
    Nat.mod_eq_of_lt small
  have isLatest : busyWorld.latestTransactionCount loop.turn =
      .ok (.ofNat (turn + 5)) := by
    rw [busy.isTurn]
    rfl
  have isPending : busyWorld.pendingTransactionCount loop.turn =
      .ok (.ofNat (turn + 22)) := by
    rw [busy.isTurn]
    rfl
  have tooMany : (UInt64.ofNat (turn + 5)).toNat + maxTxsInflight.toNat <
      (UInt64.ofNat (turn + 22)).toNat := by
    have atMost : maxTxsInflight.toNat = 16 := rfl
    omega
  refine ⟨_, sendTurn_of_congested isLatest isPending
    (busy.keepsNonce (by omega)) tooMany, ?_⟩
  rw [busy.checkStall_eq (by omega)]
  refine ⟨congrArg (· + 1) busy.isTurn, busy.nonce, ?_⟩
  intro count timestamp isPrevious
  cases isPrevious
  rw [toNat_latest]
  omega

theorem reaches_busyLoop (keccak : Keccak) {turn : Nat}
    (small : turn + 22 < 2 ^ 64) :
    ∃ loop, Reaches keccak busyWorld busyRequest busySender loop ∧
      BusyLoop turn loop := by
  induction turn with
  | zero =>
      refine ⟨.new busySender, .refl, rfl, rfl, ?_⟩
      intro count timestamp isPrevious
      obtain ⟨rfl, _⟩ := Prod.mk.inj (Option.some.inj isPrevious)
      exact show (4 : UInt64).toNat < 0 + 5 by decide
  | succ turn ih =>
      obtain ⟨loop, reached, busy⟩ := ih (by omega)
      obtain ⟨after, next, busyAfter⟩ := busy.next (by omega) keccak
      exact ⟨after, reached.tail next, busyAfter⟩

/-- Two minutes later the sender still goes round its loop. -/
theorem busySender_exceeds_budget :
    ¬ RespectsBudget (fun _ => SizedBytes.replicate 32 0) busyWorld
      busyRequest busySender := by
  obtain ⟨loop, reached, busy⟩ := reaches_busyLoop
    (fun _ => SizedBytes.replicate 32 0) (show 24 + 22 < 2 ^ 64 by decide)
  apply not_respectsBudget_of_congestedLate reached
  refine ⟨.ofNat 29, .ofNat 46, ?_, ?_, busy.keepsNonce (by decide), by decide,
    ?_⟩
  · rw [busy.isTurn]
    rfl
  · rw [busy.isTurn]
    rfl
  · rw [busy.isTurn]
    decide

end TransactionSender
end RiskManagement
