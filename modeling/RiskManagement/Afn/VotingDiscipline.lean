import RiskManagement.Afn.VotedBatches

/-!
# The voting discipline

Both loops of a poll end, since a turn that goes on has popped a root from the
queue.  With the invariant of the batches this gives all that a run of polls
keeps to.
-/

namespace RiskManagement

open Loops (Turn iterate iterate_invariant iterate_returns iterate_more)

variable {LaneId : Type} {world : VotingWorld LaneId}
  {config : VoteToBlessConfig LaneId}

/-! ### The loops end -/

def VoteToBlessWorker.queued (worker : VoteToBlessWorker LaneId) : Nat :=
  worker.queue.queuedTaggedRoots.length

namespace Filling

variable {votable : List TaggedRoot}

/-- The roots still queued or already in the batch. -/
def size (filling : Filling LaneId) : Nat :=
  filling.batch.length + filling.worker.queued

theorem consider_size (filling : Filling LaneId) (sendTime popped : Nat)
    (taggedRoot : TaggedRoot) (laneId : LaneId) :
    (consider world votable filling sendTime taggedRoot laneId
        popped).worker.queued = filling.worker.queued ∧
      (consider world votable filling sendTime taggedRoot laneId
        popped).size ≤ filling.size + 1 := by
  unfold consider
  split
  · simp only
    split
    · exact ⟨rfl, Nat.le_succ _⟩
    · split
      · exact ⟨rfl, Nat.le_succ _⟩
      · refine ⟨rfl, ?_⟩
        rw [size, List.length_append]
        exact Nat.le_of_eq (Nat.add_right_comm _ _ _)
  · exact ⟨rfl, Nat.le_succ _⟩

/-- A turn that goes on has popped a root, which is dropped or batched. -/
theorem fillTurn_size (filling : Filling LaneId) :
    (fillTurn world config votable filling).Meets
      (fun after => after.worker.queued < filling.worker.queued ∧
        after.size ≤ filling.size)
      (fun left => left.1.size ≤ filling.size) := by
  unfold fillTurn
  split
  · simp only
    cases popped : filling.worker.queue.pop
        (world.now filling.worker.asked) with
    | none => exact Nat.le_refl _
    | some taken =>
        obtain ⟨⟨sendTime, taggedRoot⟩, queue⟩ := taken
        simp only
        generalize taken : Filling.mk
          (.ask { filling.worker with queue := queue }) filling.batch = rest
        have shorter : filling.worker.queued = rest.worker.queued + 1 := by
          rw [← taken, VoteToBlessWorker.queued,
            (VoteQueue.pop_eq_some popped).1]
          rfl
        have smaller : filling.size = rest.size + 1 := by
          rw [size, shorter, size, ← taken]
          rfl
        cases config.laneIdByCommitStore taggedRoot.commitStore with
        | some laneId =>
            constructor
            · rw [shorter]
              exact Nat.lt_succ_of_le
                (Nat.le_of_eq (consider_size rest _ _ _ laneId).1)
            · apply Nat.le_trans (consider_size rest _ _ _ laneId).2
              omega
        | none =>
            show rest.size ≤ filling.size
            omega
  · exact Nat.le_refl _

/-- Filling a batch ends, with no more roots than there were. -/
theorem filling_returns (world : VotingWorld LaneId)
    (config : VoteToBlessConfig LaneId) (votable : List TaggedRoot)
    (filling : Filling LaneId) {fuel : Nat}
    (enough : filling.worker.queued < fuel) :
    ∃ left, iterate
        (fun filling => some (fillTurn world config votable filling))
        fuel filling = some left ∧ left.1.size ≤ filling.size := by
  obtain ⟨left, returned⟩ : ∃ left, iterate
      (fun filling => some (fillTurn world config votable filling))
      fuel filling = some left := by
    apply iterate_returns (fun _ => True)
      (fun filling : Filling LaneId => filling.worker.queued) ?_ trivial enough
    intro filling _
    refine ⟨_, rfl, ?_⟩
    apply (fillTurn_size filling).imp
    · intro after smaller
      exact ⟨trivial, smaller.1⟩
    · intro left _
      trivial
  refine ⟨left, returned, ?_⟩
  refine iterate_invariant (fun after => after.size ≤ filling.size)
    (fun left => left.1.size ≤ filling.size) ?_ (Nat.le_refl _) returned
  intro before turn notMore turned
  rw [← Option.some.inj turned]
  apply (fillTurn_size before).imp
  · intro after smaller
    exact Nat.le_trans smaller.2 notMore
  · intro left smaller
    exact Nat.le_trans smaller notMore

theorem vote_queued (filling : Filling LaneId) :
    (filling.vote world config votable).Meets
      (fun after => after.queued = filling.worker.queued) (fun _ => True) := by
  have close : ∀ (filling : Filling LaneId) (outcome : VoteOutcome),
      (filling.close world votable outcome).queued =
        filling.worker.queued := by
    intro filling outcome
    exact congrArg (fun queue => queue.queuedTaggedRoots.length)
      (VoteToBlessWorker.markInflight_queue filling.roots filling.worker)
  unfold vote
  cases config.mode with
  | dryRun => exact close filling .notSent
  | passive => exact close filling .notSent
  | active =>
      simp only
      split
      · exact close _ .sent
      · trivial
  | unreliableRemote =>
      simp only
      split
      · exact close _ .sent
      · trivial

end Filling

namespace VoteToBlessWorker

variable {votable : List TaggedRoot}

/-- A turn of the outer loop that goes on has popped a root. -/
theorem batchTurn_returns (world : VotingWorld LaneId)
    (config : VoteToBlessConfig LaneId) (votable : List TaggedRoot)
    (worker : VoteToBlessWorker LaneId) {fuel : Nat}
    (enough : worker.queued < fuel) :
    ∃ turn, batchTurn world config votable fuel worker = some turn ∧
      turn.Meets (fun after => after.queued < worker.queued)
        (fun _ => True) := by
  obtain ⟨⟨filled, error⟩, returned, notMore⟩ :=
    Filling.filling_returns world config votable
      { worker := worker.ask, batch := [] } enough
  unfold batchTurn
  split
  · exact ⟨_, rfl, trivial⟩
  · rw [returned]
    cases error with
    | some error => exact ⟨_, rfl, trivial⟩
    | none =>
        simp only
        split
        · exact ⟨_, rfl, trivial⟩
        · rename_i nonempty
          refine ⟨_, rfl, ?_⟩
          apply (Filling.vote_queued filled).imp
          · intro after sameQueued
            have atLeastOne := Filling.length_roots_of_not_isEmpty nonempty
            rw [Filling.roots, List.length_map] at atLeastOne
            have batched : filled.batch.length + filled.worker.queued ≤
                [].length + worker.queued := notMore
            rw [List.length_nil] at batched
            omega
          · intro left _
            trivial

/-- More fuel changes nothing about a turn that had enough. -/
theorem batchTurn_more {worker : VoteToBlessWorker LaneId} {fuel more : Nat}
    (notLess : fuel ≤ more)
    {turn : Turn (VoteToBlessWorker LaneId) (Left (VoteToBlessWorker LaneId))}
    (turned : batchTurn world config votable fuel worker = some turn) :
    batchTurn world config votable more worker = some turn := by
  unfold batchTurn at turned ⊢
  split at turned
  · rename_i done
    rw [if_pos done]
    exact turned
  · rename_i notDone
    rw [if_neg notDone]
    cases returned : iterate
        (fun filling => some (fillTurn world config votable filling))
        fuel { worker := worker.ask, batch := [] } with
    | none => simp [returned] at turned
    | some left =>
        rw [returned] at turned
        rw [iterate_more (fun _ _ same => same) notLess returned]
        exact turned

theorem queued_enqueue_le (sendTime : Nat) (votable : List TaggedRoot)
    (worker : VoteToBlessWorker LaneId) :
    (enqueue world sendTime votable worker).queued ≤
      worker.queued + votable.length := by
  induction votable generalizing worker with
  | nil => exact Nat.le_refl _
  | cons taggedRoot votable ih =>
      have sameQueue : (worker.isInflight world taggedRoot).2.queue =
          worker.queue := rfl
      rw [enqueue, List.length_cons]
      generalize worker.isInflight world taggedRoot = answer at sameQueue ⊢
      obtain ⟨isInflight, checked⟩ := answer
      simp only at sameQueue
      have sameQueued : checked.queued = worker.queued := by
        rw [queued, sameQueue, queued]
      cases isInflight with
      | true =>
          apply Nat.le_trans (ih checked)
          omega
      | false =>
          apply Nat.le_trans (ih _)
          have pushed := VoteQueue.length_push_le checked.queue sendTime
            taggedRoot
          have grown : queued { checked with
              queue := checked.queue.push sendTime taggedRoot } ≤
                checked.queued + 1 := pushed
          simp only [Bool.false_eq_true, if_false]
          omega

theorem queued_queueVotable_le (world : VotingWorld LaneId)
    (votable : List TaggedRoot) (delay : Option Nat)
    (worker : VoteToBlessWorker LaneId) :
    (worker.queueVotable world votable delay).queued ≤
      worker.queued + votable.length := by
  cases delay with
  | none => exact Nat.le_add_right _ _
  | some delay => exact queued_enqueue_le _ votable worker.ask

/-- Every poll returns, with a result that no further fuel changes. -/
theorem poll_returns (world : VotingWorld LaneId)
    (config : VoteToBlessConfig LaneId) (worker : VoteToBlessWorker LaneId)
    (votable : List TaggedRoot) (delay : Option Nat) :
    ∃ result, ∀ fuel, worker.queued + votable.length < fuel →
      worker.poll world config fuel votable delay = some result := by
  have started := queued_queueVotable_le world votable delay worker
  generalize enough : worker.queued + votable.length = needed at started ⊢
  obtain ⟨left, returned⟩ : ∃ left, iterate
      (batchTurn world config votable (needed + 1)) (needed + 1)
      (worker.queueVotable world votable delay) = some left := by
    apply iterate_returns
      (fun worker : VoteToBlessWorker LaneId => worker.queued ≤ needed) queued
      ?_ started (by omega)
    intro worker notMore
    obtain ⟨turn, turned, shrinks⟩ := batchTurn_returns world config votable
      worker (show worker.queued < needed + 1 by omega)
    refine ⟨turn, turned, ?_⟩
    apply shrinks.imp
    · intro after smaller
      exact ⟨by omega, smaller⟩
    · intro left _
      trivial
  have returns : ∀ fuel, needed < fuel →
      iterate (batchTurn world config votable fuel) fuel
        (worker.queueVotable world votable delay) = some left := by
    intro fuel more
    exact iterate_more (fun _ _ turned => batchTurn_more more turned) more
      returned
  obtain ⟨batched, error⟩ := left
  cases error with
  | some error =>
      refine ⟨(batched, .error error), ?_⟩
      intro fuel more
      rw [poll, returns fuel more]
  | none =>
      refine ⟨((batched.sleepTime world config).1,
        .ok (batched.sleepTime world config).2), ?_⟩
      intro fuel more
      rw [poll, returns fuel more]

/-- What a worker has kept to so far, and that its next poll ends whatever it
finds votable. -/
structure Disciplined (world : VotingWorld LaneId)
    (config : VoteToBlessConfig LaneId) (worker : VoteToBlessWorker LaneId) :
    Prop where
  queuedOnce : (worker.queue.queuedTaggedRoots.map Prod.snd).Nodup
  heapMatchesSet : ∀ taggedRoot,
    taggedRoot ∈ worker.queue.queuedTaggedRootsSet ↔
      taggedRoot ∈ worker.queue.queuedTaggedRoots.map Prod.snd
  batches : ∀ vote ∈ worker.votes, vote.Disciplined world config
  spaced : worker.votes.Pairwise fun earlier later =>
    earlier.outcome = .sent → later.outcome = .sent →
      ∀ admission ∈ later.admissions, admission.taggedRoot ∈ earlier.batch →
        ∃ marked, (admission.taggedRoot, marked) ∈ earlier.marks ∧
          world.now marked + config.inflightTime < world.now admission.checked
  pollReturns : ∀ votable delay, ∃ result, ∀ fuel,
    worker.queued + votable.length < fuel →
      worker.poll world config fuel votable delay = some result

theorem voting_discipline {world : VotingWorld LaneId}
    {config : VoteToBlessConfig LaneId} {worker : VoteToBlessWorker LaneId}
    (reachable : Reachable world config worker) :
    worker.Disciplined world config where
  queuedOnce := worker.queue.nodup
  heapMatchesSet := worker.queue.mem_set_iff
  batches := reachable.sound.disciplined
  spaced := by
    apply reachable.sound.spaced.imp_of_mem
    intro earlier later earlierIn _ spaced isSent _ admission member shared
    have marked := (reachable.sound.disciplined earlier earlierIn).marked isSent
    rw [← marked] at shared
    obtain ⟨mark, isMark, same⟩ := List.mem_map.mp shared
    refine ⟨mark.2, ?_, spaced mark isMark admission member same.symm⟩
    rw [← same]
    exact isMark
  pollReturns := poll_returns world config worker

/-- A clock that ticks a hundred times from one question to the next. -/
def tickingWorld : VotingWorld Unit where
  now := fun question => 100 * question
  monotone := fun _ _ notLater => Nat.mul_le_mul_left 100 notLater
  isDone := fun _ => false
  laneIsCursed := fun _ _ => false
  sendVoteToBless := fun _ _ => true

def oneLaneConfig : VoteToBlessConfig Unit where
  maxTaggedRootsPerVoteToBless := 2
  inflightTime := 150
  pollInterval := 1
  laneIdByCommitStore := fun _ => some ()
  mode := .active

def zeroTaggedRoot : TaggedRoot := ⟨.replicate 20 0, .replicate 32 0⟩

/-- Two polls that find one root votable, the first one twice, vote for it
two times. -/
theorem voting_discipline_votedAgain : ∃ worker : VoteToBlessWorker Unit,
    (worker.votes.map VotedBatch.batch = [[zeroTaggedRoot], [zeroTaggedRoot]] ∧
      worker.votes.map VotedBatch.outcome = [.sent, .sent]) ∧
      worker.Disciplined tickingWorld oneLaneConfig := by
  exact ⟨_, by decide, voting_discipline (.poll (.poll .start
    (rfl : poll tickingWorld oneLaneConfig 4 [zeroTaggedRoot, zeroTaggedRoot]
      (some 0) (start oneLaneConfig) = some (_, _)))
    (rfl : poll tickingWorld oneLaneConfig 4 [zeroTaggedRoot]
      (some 0) _ = some (_, _)))⟩

end VoteToBlessWorker

end RiskManagement
