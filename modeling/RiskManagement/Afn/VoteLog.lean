import RiskManagement.Afn.VotedBatches

/-!
# What one poll adds to the votes

The batches of a poll join the log behind the earlier ones, and every question
about their roots was asked in that poll.
-/

namespace RiskManagement

open Loops (Turn iterate iterate_invariant)

variable {LaneId : Type} {world : VotingWorld LaneId}
  {config : VoteToBlessConfig LaneId}

/-- The lane of a root was asked for a curse under one of these numbers. -/
def Admission.AskedWithin (first last : Nat) (admission : Admission LaneId) :
    Prop :=
  first ≤ admission.curseChecked ∧ admission.curseChecked < last

/-- A batch of a poll that found these roots votable and asked the questions
with these numbers. -/
structure VotedBatch.MadeBy (votable : List TaggedRoot) (first last : Nat)
    (vote : VotedBatch LaneId) : Prop where
  sameVotable : vote.votable = votable
  askedNow : ∀ admission ∈ vote.admissions, admission.AskedWithin first last

theorem VotedBatch.MadeBy.later {votable : List TaggedRoot}
    {first last later : Nat} {vote : VotedBatch LaneId}
    (made : vote.MadeBy votable first last) (notBefore : last ≤ later) :
    vote.MadeBy votable first later :=
  ⟨made.sameVotable, fun admission member =>
    ⟨(made.askedNow admission member).1,
      Nat.lt_of_lt_of_le (made.askedNow admission member).2 notBefore⟩⟩

namespace VoteToBlessWorker

/-- The worker has gone on from `start`, within a poll. -/
structure Advanced (votable : List TaggedRoot)
    (start worker : VoteToBlessWorker LaneId) : Prop where
  asked : start.asked ≤ worker.asked
  logged : ∃ votes, worker.votes = start.votes ++ votes ∧
    ∀ vote ∈ votes, vote.MadeBy votable start.asked worker.asked

variable {start worker after : VoteToBlessWorker LaneId}
  {votable : List TaggedRoot}

theorem Advanced.refl (worker : VoteToBlessWorker LaneId) :
    Advanced votable worker worker :=
  ⟨Nat.le_refl _, [], by simp⟩

theorem Advanced.quietly (advanced : Advanced votable start worker)
    (asked : worker.asked ≤ after.asked) (votes : after.votes = worker.votes) :
    Advanced votable start after :=
  by
  obtain ⟨log, isLog, allMade⟩ := advanced.logged
  refine ⟨Nat.le_trans advanced.asked asked, log, votes.trans isLog, ?_⟩
  exact fun vote member => (allMade vote member).later asked

theorem Advanced.log (advanced : Advanced votable start worker)
    {vote : VotedBatch LaneId}
    (made : vote.MadeBy votable start.asked worker.asked)
    (asked : worker.asked ≤ after.asked)
    (votes : after.votes = worker.votes ++ [vote]) :
    Advanced votable start after where
  asked := Nat.le_trans advanced.asked asked
  logged := by
    obtain ⟨earlier, isLog, allMade⟩ := advanced.logged
    refine ⟨earlier ++ [vote], ?_, ?_⟩
    · rw [votes, isLog, List.append_assoc]
    · intro other member
      rcases List.mem_append.mp member with old | new
      · exact (allMade other old).later asked
      · rw [List.mem_singleton.mp new]
        exact made.later asked

theorem isInflight_frame (world : VotingWorld LaneId)
    (worker : VoteToBlessWorker LaneId) (taggedRoot : TaggedRoot) :
    (worker.isInflight world taggedRoot).2.asked = worker.asked + 1 ∧
      (worker.isInflight world taggedRoot).2.votes = worker.votes :=
  ⟨rfl, rfl⟩

theorem enqueue_advanced (world : VotingWorld LaneId) (sendTime : Nat)
    (roots : List TaggedRoot) (worker : VoteToBlessWorker LaneId) :
    worker.asked ≤ (enqueue world sendTime roots worker).asked ∧
      (enqueue world sendTime roots worker).votes = worker.votes := by
  induction roots generalizing worker with
  | nil => exact ⟨Nat.le_refl _, rfl⟩
  | cons taggedRoot roots ih =>
      obtain ⟨asked, votes⟩ := isInflight_frame world worker taggedRoot
      rw [enqueue]
      generalize worker.isInflight world taggedRoot = answer at asked votes ⊢
      obtain ⟨isInflight, checked⟩ := answer
      simp only at asked votes
      cases isInflight with
      | true =>
          have rest := ih checked
          exact ⟨by simp only [if_true]; omega, rest.2.trans votes⟩
      | false =>
          have rest := ih { checked with
            queue := checked.queue.push sendTime taggedRoot }
          simp only at rest
          refine ⟨?_, rest.2.trans votes⟩
          simp only [Bool.false_eq_true, if_false]
          omega

theorem queueVotable_advanced (roots : List TaggedRoot) (delay : Option Nat)
    (worker : VoteToBlessWorker LaneId) :
    Advanced votable worker (worker.queueVotable world roots delay) := by
  cases delay with
  | none => exact Advanced.refl worker
  | some delay =>
      obtain ⟨asked, votes⟩ := enqueue_advanced world
        (world.now worker.asked + delay) roots worker.ask
      exact (Advanced.refl worker).quietly
        (Nat.le_trans (Nat.le_succ _) asked) votes

theorem markInflight_advanced (world : VotingWorld LaneId)
    (batch : List TaggedRoot) (worker : VoteToBlessWorker LaneId) :
    worker.asked ≤ (markInflight world batch worker).1.asked ∧
      (markInflight world batch worker).1.votes = worker.votes := by
  induction batch generalizing worker with
  | nil => exact ⟨Nat.le_refl _, rfl⟩
  | cons taggedRoot batch ih =>
      obtain ⟨asked, votes⟩ := ih (worker.mark world taggedRoot)
      exact ⟨Nat.le_trans (Nat.le_succ _) asked, votes⟩

end VoteToBlessWorker

namespace Filling

variable {start : VoteToBlessWorker LaneId} {filling : Filling LaneId}
  {votable : List TaggedRoot}

/-- The same while a batch is filled. -/
structure Advanced (votable : List TaggedRoot)
    (start : VoteToBlessWorker LaneId) (filling : Filling LaneId) : Prop where
  worker : VoteToBlessWorker.Advanced votable start filling.worker
  batch : ∀ admission ∈ filling.batch,
    admission.AskedWithin start.asked filling.worker.asked

theorem Advanced.quietly (advanced : Advanced votable start filling)
    {after : VoteToBlessWorker LaneId}
    (asked : filling.worker.asked ≤ after.asked)
    (votes : after.votes = filling.worker.votes) :
    Advanced votable start { filling with worker := after } :=
  ⟨advanced.worker.quietly asked votes, fun admission member =>
    ⟨(advanced.batch admission member).1,
      Nat.lt_of_lt_of_le (advanced.batch admission member).2 asked⟩⟩

theorem Advanced.consider (advanced : Advanced votable start filling)
    (roots : List TaggedRoot) (sendTime popped : Nat)
    (taggedRoot : TaggedRoot) (laneId : LaneId) :
    Advanced votable start
      (consider world roots filling sendTime taggedRoot laneId popped) := by
  obtain ⟨asked, votes⟩ := VoteToBlessWorker.isInflight_frame world
    filling.worker taggedRoot
  unfold Filling.consider
  generalize filling.worker.isInflight world taggedRoot = answer
    at asked votes
  obtain ⟨isInflight, checked⟩ := answer
  simp only at asked votes ⊢
  split
  · split
    · exact advanced.quietly (by omega) votes
    · split
      · exact advanced.quietly (Nat.le_trans (by omega) (Nat.le_succ _)) votes
      · have before := advanced.worker.asked
        have asking : Advanced votable start
            { filling with worker := checked.ask } :=
          advanced.quietly (Nat.le_trans (by omega) (Nat.le_succ _)) votes
        refine ⟨asking.worker, ?_⟩
        simp only [List.forall_mem_append, List.forall_mem_singleton]
        refine ⟨asking.batch, ?_, Nat.lt_succ_self _⟩
        show start.asked ≤ checked.asked
        omega
  · exact advanced

theorem Advanced.fillTurn (advanced : Advanced votable start filling)
    (roots : List TaggedRoot) :
    (fillTurn world config roots filling).Meets
      (Advanced votable start)
      (fun left => left.1.Advanced votable start) := by
  unfold RiskManagement.fillTurn
  by_cases room : filling.batch.length < config.maxTaggedRootsPerVoteToBless
  · rw [if_pos room]
    simp only
    cases filling.worker.queue.pop (world.now filling.worker.asked) with
    | none => exact advanced.quietly (Nat.le_succ _) rfl
    | some taken =>
        obtain ⟨⟨sendTime, taggedRoot⟩, queue⟩ := taken
        have popped : Advanced votable start
            { filling with
              worker := .ask { filling.worker with queue := queue } } :=
          advanced.quietly (Nat.le_succ _) rfl
        simp only
        cases config.laneIdByCommitStore taggedRoot.commitStore with
        | some laneId => exact popped.consider roots _ _ _ _
        | none => exact popped
  · rw [if_neg room]
    exact advanced

theorem advanced_filled {worker : VoteToBlessWorker LaneId} {fuel : Nat}
    {left : Left (Filling LaneId)} (roots : List TaggedRoot)
    (advanced : VoteToBlessWorker.Advanced votable start worker)
    (returned : iterate
      (fun filling => some (RiskManagement.fillTurn world config roots filling))
      fuel { worker := worker, batch := [] } = some left) :
    left.1.Advanced votable start := by
  refine iterate_invariant (Advanced votable start)
    (fun left => left.1.Advanced votable start) ?_ ⟨advanced, by simp⟩
    returned
  intro filling turn advanced turned
  rw [← Option.some.inj turned]
  exact advanced.fillTurn roots

theorem Advanced.close (advanced : Advanced votable start filling)
    (outcome : VoteOutcome) :
    VoteToBlessWorker.Advanced votable start
      (filling.close world votable outcome) := by
  obtain ⟨asked, votes⟩ := VoteToBlessWorker.markInflight_advanced
    world (filling.batch.map Admission.taggedRoot) filling.worker
  unfold Filling.close
  generalize filling.worker.markInflight world
    (filling.batch.map Admission.taggedRoot) = marking at asked votes
  obtain ⟨marked, marks⟩ := marking
  simp only at asked votes ⊢
  have made : VotedBatch.MadeBy votable start.asked filling.worker.asked
      ⟨votable, filling.batch, outcome, marks⟩ := ⟨rfl, advanced.batch⟩
  apply advanced.worker.log made
  · exact asked
  · rw [votes]

theorem Advanced.lose (advanced : Advanced votable start filling) :
    VoteToBlessWorker.Advanced votable start (filling.lose votable) :=
  have made : VotedBatch.MadeBy votable start.asked filling.worker.asked
      ⟨votable, filling.batch, .failed, []⟩ := ⟨rfl, advanced.batch⟩
  advanced.worker.log made (Nat.le_refl _) rfl

theorem Advanced.vote (advanced : Advanced votable start filling) :
    (filling.vote world config votable).Meets
      (VoteToBlessWorker.Advanced votable start)
      (fun left => VoteToBlessWorker.Advanced votable start left.1) := by
  have asked : Advanced votable start
      { filling with worker := filling.worker.ask } :=
    advanced.quietly (Nat.le_succ _) rfl
  unfold Filling.vote
  cases config.mode with
  | dryRun => exact advanced.close .notSent
  | passive => exact advanced.close .notSent
  | active =>
      simp only
      split
      · exact asked.close .sent
      · exact asked.lose
  | unreliableRemote =>
      simp only
      split
      · exact asked.close .sent
      · exact asked.lose

end Filling

namespace VoteToBlessWorker

variable {start worker after : VoteToBlessWorker LaneId}
  {votable : List TaggedRoot}

theorem Advanced.batchTurn (advanced : Advanced votable start worker)
    {fuel : Nat}
    {turn : Turn (VoteToBlessWorker LaneId) (Left (VoteToBlessWorker LaneId))}
    (turned : batchTurn world config votable fuel worker = some turn) :
    turn.Meets (Advanced votable start)
      (fun left => Advanced votable start left.1) := by
  have asked : Advanced votable start worker.ask :=
    advanced.quietly (Nat.le_succ _) rfl
  unfold RiskManagement.batchTurn at turned
  split at turned
  · cases turned
    exact asked
  · split at turned
    · cases turned
    · rename_i filled error returned
      cases turned
      exact (Filling.advanced_filled votable asked returned).worker
    · rename_i filled returned
      have filledAdvanced := Filling.advanced_filled votable asked returned
      split at turned
      · cases turned
        exact filledAdvanced.worker
      · cases turned
        exact filledAdvanced.vote

/-- The votes of a poll stand behind the earlier ones, and each of its roots
was found votable, and its lane asked for a curse, in this poll. -/
theorem poll_advanced {fuel : Nat} {delay : Option Nat}
    {result : Except VoteToBlessError Nat}
    (polled : worker.poll world config fuel votable delay =
      some (after, result)) : Advanced votable worker after := by
  have queued : Advanced votable worker
      (worker.queueVotable world votable delay) :=
    queueVotable_advanced votable delay worker
  unfold VoteToBlessWorker.poll at polled
  cases returned : iterate
      (RiskManagement.batchTurn world config votable fuel) fuel
      (worker.queueVotable world votable delay) with
  | none => simp [returned] at polled
  | some left =>
      have kept : Advanced votable worker left.1 :=
        iterate_invariant (Advanced votable worker)
          (fun left => Advanced votable worker left.1)
          (fun _ _ advanced turned => advanced.batchTurn turned) queued
          returned
      obtain ⟨batched, error⟩ := left
      cases error with
      | some error =>
          simp only [returned, Option.some.injEq, Prod.mk.injEq] at polled
          obtain ⟨rfl, _⟩ := polled
          exact kept
      | none =>
          simp only [returned, Option.some.injEq, Prod.mk.injEq] at polled
          obtain ⟨rfl, _⟩ := polled
          apply kept.quietly
          · unfold sleepTime
            split
            · exact Nat.le_succ _
            · exact Nat.le_refl _
          · unfold sleepTime
            split
            · rfl
            · rfl

end VoteToBlessWorker
end RiskManagement
