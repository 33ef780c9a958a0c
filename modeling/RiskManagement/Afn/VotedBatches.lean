import RiskManagement.Afn.VoteToBlessWorker

/-!
# The batches a worker votes for

Every batch is made of distinct roots that passed the checks of their poll,
and a root that was marked in flight passes them again only when it has been
in flight for longer than `inflightTime`.  The argument carries what the cache
remembers of every mark through the questions a poll asks.
-/

namespace RiskManagement

open Loops (Turn iterate iterate_invariant)

variable {LaneId : Type} {world : VotingWorld LaneId}
  {config : VoteToBlessConfig LaneId}

/-- What the batching loop has checked of a root it admits. -/
structure Admission.Passed (world : VotingWorld LaneId)
    (config : VoteToBlessConfig LaneId) (votable : List TaggedRoot)
    (admission : Admission LaneId) : Prop where
  votable : admission.taggedRoot ∈ votable
  due : admission.sendTime ≤ world.now admission.popped
  lane : config.laneIdByCommitStore admission.taggedRoot.commitStore =
    some admission.laneId
  notCursed :
    world.laneIsCursed admission.curseChecked admission.laneId = false

namespace VotedBatch

/-- What holds of each single batch. -/
structure Disciplined (world : VotingWorld LaneId)
    (config : VoteToBlessConfig LaneId) (vote : VotedBatch LaneId) : Prop where
  nonempty : 1 ≤ vote.batch.length
  bounded : vote.batch.length ≤ config.maxTaggedRootsPerVoteToBless
  distinct : vote.batch.Nodup
  passed : ∀ admission ∈ vote.admissions,
    admission.Passed world config vote.votable
  marked : vote.outcome = .sent → vote.marks.map Prod.fst = vote.batch

/-- From marking a root in flight to the check that admits it again more than
`inflightTime` passes. -/
def Spaced (world : VotingWorld LaneId) (config : VoteToBlessConfig LaneId)
    (earlier later : VotedBatch LaneId) : Prop :=
  ∀ mark ∈ earlier.marks, ∀ admission ∈ later.admissions,
    admission.taggedRoot = mark.1 →
      world.now mark.2 + config.inflightTime < world.now admission.checked

end VotedBatch

namespace VoteToBlessWorker

/-- The cache's memory of a mark, at the next question. -/
def Remembers (world : VotingWorld LaneId) (worker : VoteToBlessWorker LaneId)
    (mark : TaggedRoot × Nat) : Prop :=
  worker.inflight.Remembers (world.now worker.asked) mark.1 (world.now mark.2)

/-! ### Steps that vote for nothing -/

/-- A step that logs no batch and forgets no mark. -/
structure Quietly (world : VotingWorld LaneId)
    (worker after : VoteToBlessWorker LaneId) : Prop where
  votes : after.votes = worker.votes
  inflightTime : after.inflight.inflightTime = worker.inflight.inflightTime
  remembers : ∀ mark, worker.Remembers world mark → after.Remembers world mark

section Steps

variable {worker after last : VoteToBlessWorker LaneId}

theorem Quietly.refl (worker : VoteToBlessWorker LaneId) :
    Quietly world worker worker :=
  ⟨rfl, rfl, fun _ remembers => remembers⟩

theorem Quietly.trans (first : Quietly world worker after)
    (second : Quietly world after last) : Quietly world worker last where
  votes := second.votes.trans first.votes
  inflightTime := second.inflightTime.trans first.inflightTime
  remembers := fun mark remembers =>
    second.remembers mark (first.remembers mark remembers)

theorem quietly_setQueue (worker : VoteToBlessWorker LaneId)
    (queue : VoteQueue) : Quietly world worker { worker with queue := queue } :=
  ⟨rfl, rfl, fun _ remembers => remembers⟩

theorem quietly_ask (worker : VoteToBlessWorker LaneId) :
    Quietly world worker worker.ask where
  votes := rfl
  inflightTime := rfl
  remembers := by
    intro mark remembers
    apply InflightRootCache.Remembers.later remembers
    exact world.monotone (Nat.le_succ worker.asked)

/-- What popping does to the worker: the queue changes, the clock was asked. -/
theorem quietly_pop (worker : VoteToBlessWorker LaneId) (queue : VoteQueue) :
    Quietly world worker (ask { worker with queue := queue }) :=
  (quietly_setQueue worker queue).trans (quietly_ask _)

theorem quietly_isInflight (worker : VoteToBlessWorker LaneId)
    (taggedRoot : TaggedRoot) :
    Quietly world worker (worker.isInflight world taggedRoot).2 := by
  have pruned : Quietly world worker { worker with
      inflight := worker.inflight.prune (world.now worker.asked) } := by
    refine ⟨rfl, rfl, ?_⟩
    intro mark remembers
    exact InflightRootCache.Remembers.prune remembers
  exact pruned.trans (quietly_ask _)

theorem quietly_mark (worker : VoteToBlessWorker LaneId)
    (taggedRoot : TaggedRoot) :
    Quietly world worker (worker.mark world taggedRoot) := by
  have added : Quietly world worker
      { worker with inflight :=
          worker.inflight.add (world.now worker.asked) taggedRoot } := by
    refine ⟨rfl, rfl, ?_⟩
    intro mark remembers
    exact InflightRootCache.Remembers.add remembers taggedRoot
  exact added.trans (quietly_ask _)

theorem remembers_mark (worker : VoteToBlessWorker LaneId)
    (taggedRoot : TaggedRoot) :
    (worker.mark world taggedRoot).Remembers world
      (taggedRoot, worker.asked) := by
  apply InflightRootCache.Remembers.later
    (InflightRootCache.remembers_added worker.inflight
      (world.now worker.asked) taggedRoot)
  exact world.monotone (Nat.le_succ worker.asked)

theorem quietly_markInflight (batch : List TaggedRoot)
    (worker : VoteToBlessWorker LaneId) :
    Quietly world worker (markInflight world batch worker).1 := by
  induction batch generalizing worker with
  | nil => exact Quietly.refl worker
  | cons taggedRoot batch ih =>
      exact (quietly_mark worker taggedRoot).trans (ih _)

@[simp] theorem markInflight_queue (batch : List TaggedRoot)
    (worker : VoteToBlessWorker LaneId) :
    (markInflight world batch worker).1.queue = worker.queue := by
  induction batch generalizing worker with
  | nil => rfl
  | cons taggedRoot batch ih => exact ih _

@[simp] theorem markInflight_marks (batch : List TaggedRoot)
    (worker : VoteToBlessWorker LaneId) :
    (markInflight world batch worker).2.map Prod.fst = batch := by
  induction batch generalizing worker with
  | nil => rfl
  | cons taggedRoot batch ih =>
      exact congrArg (taggedRoot :: ·) (ih _)

theorem remembers_markInflight (batch : List TaggedRoot)
    (worker : VoteToBlessWorker LaneId) :
    ∀ mark ∈ (markInflight world batch worker).2,
      (markInflight world batch worker).1.Remembers world mark := by
  induction batch generalizing worker with
  | nil =>
      intro mark member
      cases member
  | cons taggedRoot batch ih =>
      intro mark member
      rcases List.mem_cons.mp member with first | later
      · subst first
        apply (quietly_markInflight batch _).remembers
        exact remembers_mark worker taggedRoot
      · exact ih _ mark later

theorem quietly_enqueue (sendTime : Nat) (votable : List TaggedRoot)
    (worker : VoteToBlessWorker LaneId) :
    Quietly world worker (enqueue world sendTime votable worker) := by
  induction votable generalizing worker with
  | nil => exact Quietly.refl worker
  | cons taggedRoot votable ih =>
      have asking : Quietly world worker
          (worker.isInflight world taggedRoot).2 :=
        quietly_isInflight worker taggedRoot
      rw [enqueue]
      generalize worker.isInflight world taggedRoot = answer at asking ⊢
      obtain ⟨isInflight, checked⟩ := answer
      cases isInflight with
      | true => exact asking.trans (ih checked)
      | false =>
          exact (asking.trans (quietly_setQueue checked _)).trans (ih _)

theorem quietly_queueVotable (votable : List TaggedRoot) (delay : Option Nat)
    (worker : VoteToBlessWorker LaneId) :
    Quietly world worker (worker.queueVotable world votable delay) := by
  cases delay with
  | none => exact Quietly.refl worker
  | some delay => exact (quietly_ask worker).trans (quietly_enqueue _ _ _)

theorem quietly_sleepTime (worker : VoteToBlessWorker LaneId) :
    Quietly world worker (worker.sleepTime world config).1 := by
  unfold sleepTime
  split
  · exact quietly_ask worker
  · exact Quietly.refl worker

end Steps

/-! ### The worker's invariant -/

/-- The invariant of a worker between its polls. -/
structure Sound (world : VotingWorld LaneId) (config : VoteToBlessConfig LaneId)
    (worker : VoteToBlessWorker LaneId) : Prop where
  inflightTime : worker.inflight.inflightTime = config.inflightTime
  disciplined : ∀ vote ∈ worker.votes, vote.Disciplined world config
  spaced : worker.votes.Pairwise (VotedBatch.Spaced world config)
  remembers : ∀ vote ∈ worker.votes, ∀ mark ∈ vote.marks,
    worker.Remembers world mark

theorem sound_start : (start config).Sound world config where
  inflightTime := rfl
  disciplined := by
    intro vote member
    cases member
  spaced := List.Pairwise.nil
  remembers := by
    intro vote member
    cases member

theorem Sound.quietly {worker after : VoteToBlessWorker LaneId}
    (sound : worker.Sound world config) (quietly : Quietly world worker after) :
    after.Sound world config where
  inflightTime := quietly.inflightTime.trans sound.inflightTime
  disciplined := by
    rw [quietly.votes]
    exact sound.disciplined
  spaced := by
    rw [quietly.votes]
    exact sound.spaced
  remembers := by
    rw [quietly.votes]
    intro vote member mark marked
    exact quietly.remembers mark (sound.remembers vote member mark marked)

/-- A batch joins the log when it is disciplined, spaced from the earlier ones
and its marks are remembered. -/
theorem Sound.log {worker : VoteToBlessWorker LaneId}
    {vote : VotedBatch LaneId} (sound : worker.Sound world config)
    (disciplined : vote.Disciplined world config)
    (spaced : ∀ earlier ∈ worker.votes, earlier.Spaced world config vote)
    (remembers : ∀ mark ∈ vote.marks, worker.Remembers world mark) :
    Sound world config { worker with votes := worker.votes ++ [vote] } where
  inflightTime := sound.inflightTime
  disciplined := by
    intro logged member
    rcases List.mem_append.mp member with earlier | last
    · exact sound.disciplined logged earlier
    · rw [List.mem_singleton.mp last]
      exact disciplined
  spaced := by
    apply List.pairwise_append.mpr
    refine ⟨sound.spaced, List.pairwise_singleton _ _, ?_⟩
    intro earlier member last same
    rw [List.mem_singleton.mp same]
    exact spaced earlier member
  remembers := by
    intro logged member mark marked
    rcases List.mem_append.mp member with earlier | last
    · exact sound.remembers logged earlier mark marked
    · rw [List.mem_singleton.mp last] at marked
      exact remembers mark marked

end VoteToBlessWorker

/-! ### Filling a batch -/

namespace Filling

open VoteToBlessWorker (Quietly quietly_ask quietly_pop quietly_isInflight)

variable {votable : List TaggedRoot} {filling : Filling LaneId}

def roots (filling : Filling LaneId) : List TaggedRoot :=
  filling.batch.map Admission.taggedRoot

/-- What holds at every turn of the inner loop.  A root in the batch is
neither there twice nor queued any more. -/
structure Sound (world : VotingWorld LaneId) (config : VoteToBlessConfig LaneId)
    (votable : List TaggedRoot) (filling : Filling LaneId) : Prop where
  worker : filling.worker.Sound world config
  bounded : filling.batch.length ≤ config.maxTaggedRootsPerVoteToBless
  distinct : (filling.roots ++
    filling.worker.queue.queuedTaggedRoots.map Prod.snd).Nodup
  passed : ∀ admission ∈ filling.batch, admission.Passed world config votable
  spaced : ∀ vote ∈ filling.worker.votes, ∀ mark ∈ vote.marks,
    ∀ admission ∈ filling.batch, admission.taggedRoot = mark.1 →
      world.now mark.2 + config.inflightTime < world.now admission.checked

theorem sound_empty {worker : VoteToBlessWorker LaneId}
    (sound : worker.Sound world config) :
    Sound world config votable { worker := worker, batch := [] } where
  worker := sound
  bounded := Nat.zero_le _
  distinct := worker.queue.nodup
  passed := by
    intro admission member
    cases member
  spaced := by
    intro vote member mark marked admission batched
    cases batched

/-- A step of the worker alone that may drop queued roots. -/
theorem Sound.quietly (sound : filling.Sound world config votable)
    {after : VoteToBlessWorker LaneId}
    (quietly : Quietly world filling.worker after)
    (fewer : List.Sublist after.queue.queuedTaggedRoots
      filling.worker.queue.queuedTaggedRoots) :
    Sound world config votable { filling with worker := after } where
  worker := sound.worker.quietly quietly
  bounded := sound.bounded
  distinct := by
    apply List.Nodup.sublist ?_ sound.distinct
    exact (List.Sublist.refl _).append (fewer.map Prod.snd)
  passed := sound.passed
  spaced := by
    rw [quietly.votes]
    exact sound.spaced

/-- A root that passed every check, was in the heap before and has left it
joins the batch. -/
theorem Sound.join (sound : filling.Sound world config votable)
    (room : filling.batch.length < config.maxTaggedRootsPerVoteToBless)
    {after : VoteToBlessWorker LaneId} {admission : Admission LaneId}
    (quietly : Quietly world filling.worker after)
    (left : filling.worker.queue.queuedTaggedRoots.map Prod.snd =
      admission.taggedRoot :: after.queue.queuedTaggedRoots.map Prod.snd)
    (passed : admission.Passed world config votable)
    (expired : ∀ mark, filling.worker.Remembers world mark →
      admission.taggedRoot = mark.1 →
        world.now mark.2 + filling.worker.inflight.inflightTime <
          world.now admission.checked) :
    Sound world config votable
      { worker := after, batch := filling.batch ++ [admission] } where
  worker := sound.worker.quietly quietly
  bounded := by
    rw [List.length_append]
    exact room
  distinct := by
    have distinct := sound.distinct
    rw [left] at distinct
    simpa [roots] using distinct
  passed := by
    intro batched member
    rcases List.mem_append.mp member with before | joined
    · exact sound.passed batched before
    · rw [List.mem_singleton.mp joined]
      exact passed
  spaced := by
    rw [quietly.votes]
    intro vote member mark marked batched inBatch
    rcases List.mem_append.mp inBatch with before | joined
    · exact sound.spaced vote member mark marked batched before
    · rw [List.mem_singleton.mp joined, ← sound.worker.inflightTime]
      exact expired mark (sound.worker.remembers vote member mark marked)

/-- A popped root is dropped, or joins the batch once its checks have passed. -/
theorem Sound.consider (sound : filling.Sound world config votable)
    (room : filling.batch.length < config.maxTaggedRootsPerVoteToBless)
    {sendTime : Nat} {taggedRoot : TaggedRoot} {queue : VoteQueue}
    {laneId : LaneId}
    (popped : filling.worker.queue.pop (world.now filling.worker.asked) =
      some ((sendTime, taggedRoot), queue))
    (lane : config.laneIdByCommitStore taggedRoot.commitStore = some laneId) :
    Sound world config votable
      (Filling.consider world votable
        { filling with worker := .ask { filling.worker with queue := queue } }
        sendTime taggedRoot laneId filling.worker.asked) := by
  obtain ⟨first, due⟩ := VoteQueue.pop_eq_some popped
  have popping : Quietly world filling.worker
      (.ask { filling.worker with queue := queue }) :=
    quietly_pop filling.worker queue
  generalize hWorker : VoteToBlessWorker.ask
    { filling.worker with queue := queue } = worker at popping ⊢
  have sameQueue : worker.queue = queue := by
    rw [← hWorker]
    rfl
  have fewer : List.Sublist worker.queue.queuedTaggedRoots
      filling.worker.queue.queuedTaggedRoots := by
    rw [first, sameQueue]
    exact List.sublist_cons_self _ _
  have asking : Quietly world worker (worker.isInflight world taggedRoot).2 :=
    quietly_isInflight worker taggedRoot
  have checking := popping.trans asking
  unfold Filling.consider
  split
  · rename_i isVotable
    simp only
    split
    · exact sound.quietly checking fewer
    · rename_i notInflight
      split
      · exact sound.quietly (checking.trans (quietly_ask _)) fewer
      · rename_i notCursed
        refine sound.join room (checking.trans (quietly_ask _)) ?_ ?_ ?_
        · rw [first, ← sameQueue]
          rfl
        · exact ⟨isVotable, due, lane, Bool.eq_false_iff.mpr notCursed⟩
        · intro mark remembers same
          have held := popping.remembers mark remembers
          rw [VoteToBlessWorker.Remembers, ← same] at held
          rw [← popping.inflightTime]
          exact held.expired (Bool.eq_false_iff.mpr notInflight)
  · exact sound.quietly popping fewer

/-- A turn of the inner loop keeps the invariant, and so does leaving it. -/
theorem Sound.fillTurn (sound : filling.Sound world config votable) :
    (fillTurn world config votable filling).Meets
      (Sound world config votable)
      (fun left => left.1.Sound world config votable) := by
  unfold RiskManagement.fillTurn
  by_cases room : filling.batch.length < config.maxTaggedRootsPerVoteToBless
  · rw [if_pos room]
    simp only
    cases popped : filling.worker.queue.pop
        (world.now filling.worker.asked) with
    | none =>
        exact sound.quietly (quietly_ask _) (List.Sublist.refl _)
    | some taken =>
        obtain ⟨⟨sendTime, taggedRoot⟩, queue⟩ := taken
        simp only
        cases lane : config.laneIdByCommitStore taggedRoot.commitStore with
        | some laneId => exact sound.consider room popped lane
        | none =>
            apply sound.quietly (quietly_pop filling.worker queue)
            rw [(VoteQueue.pop_eq_some popped).1]
            exact List.sublist_cons_self _ _
  · rw [if_neg room]
    exact sound

theorem sound_filled {worker : VoteToBlessWorker LaneId} {fuel : Nat}
    {filled : Filling LaneId} {error : Option VoteToBlessError}
    (sound : worker.Sound world config)
    (returned : iterate
      (fun filling =>
        some (RiskManagement.fillTurn world config votable filling))
      fuel { worker := worker, batch := [] } = some (filled, error)) :
    filled.Sound world config votable := by
  refine iterate_invariant (Sound world config votable)
    (fun left => left.1.Sound world config votable) ?_ (sound_empty sound)
    returned
  intro filling turn sound turned
  rw [← Option.some.inj turned]
  exact sound.fillTurn

theorem Sound.nodup_roots (sound : filling.Sound world config votable) :
    filling.roots.Nodup :=
  (List.nodup_append.mp sound.distinct).1

theorem length_roots_of_not_isEmpty
    (nonempty : ¬ filling.batch.isEmpty = true) : 1 ≤ filling.roots.length := by
  rw [roots, List.length_map]
  cases batch : filling.batch with
  | nil => simp [batch] at nonempty
  | cons admission batch => simp

/-- The batch a filling ends with is disciplined whatever became of it, when a
vote that was sent marked every root. -/
theorem Sound.disciplined (sound : filling.Sound world config votable)
    (nonempty : ¬ filling.batch.isEmpty = true) {outcome : VoteOutcome}
    {marks : List (TaggedRoot × Nat)}
    (marked : outcome = .sent → marks.map Prod.fst = filling.roots) :
    VotedBatch.Disciplined world config
      { votable := votable
        admissions := filling.batch
        outcome := outcome
        marks := marks } where
  nonempty := length_roots_of_not_isEmpty nonempty
  bounded := by
    rw [VotedBatch.batch, List.length_map]
    exact sound.bounded
  distinct := sound.nodup_roots
  passed := sound.passed
  marked := marked

theorem Sound.close (sound : filling.Sound world config votable)
    (nonempty : ¬ filling.batch.isEmpty = true) (outcome : VoteOutcome) :
    (filling.close world votable outcome).Sound world config := by
  have marking : Quietly world filling.worker
      (VoteToBlessWorker.markInflight world filling.roots filling.worker).1 :=
    VoteToBlessWorker.quietly_markInflight filling.roots filling.worker
  apply (sound.worker.quietly marking).log
  · apply sound.disciplined nonempty
    intro _
    exact VoteToBlessWorker.markInflight_marks filling.roots filling.worker
  · rw [marking.votes]
    exact sound.spaced
  · exact VoteToBlessWorker.remembers_markInflight filling.roots filling.worker

theorem Sound.lose (sound : filling.Sound world config votable)
    (nonempty : ¬ filling.batch.isEmpty = true) :
    (filling.lose votable).Sound world config := by
  apply sound.worker.log
  · apply sound.disciplined nonempty
    intro isSent
    cases isSent
  · exact sound.spaced
  · intro mark member
    cases member

theorem Sound.vote (sound : filling.Sound world config votable)
    (nonempty : ¬ filling.batch.isEmpty = true) :
    (filling.vote world config votable).Meets
      (VoteToBlessWorker.Sound world config)
      (fun left => left.1.Sound world config) := by
  have asked : Sound world config votable
      { filling with worker := filling.worker.ask } :=
    sound.quietly (quietly_ask _) (List.Sublist.refl _)
  have voting : (if world.sendVoteToBless filling.worker.asked
          (filling.batch.map Admission.taggedRoot) then
        Turn.next (Filling.close world votable
          { filling with worker := filling.worker.ask } .sent)
      else
        Turn.exit (Filling.lose votable
          { filling with worker := filling.worker.ask },
            some VoteToBlessError.sendVoteToBless)).Meets
      (VoteToBlessWorker.Sound world config)
      (fun left => left.1.Sound world config) := by
    split
    · exact asked.close nonempty .sent
    · exact asked.lose nonempty
  unfold Filling.vote
  cases config.mode with
  | active => exact voting
  | unreliableRemote => exact voting
  | dryRun => exact sound.close nonempty .notSent
  | passive => exact sound.close nonempty .notSent

end Filling

/-! ### Polls and runs -/

namespace VoteToBlessWorker

variable {worker after : VoteToBlessWorker LaneId} {votable : List TaggedRoot}

theorem Sound.batchTurn (sound : worker.Sound world config) {fuel : Nat}
    {turn : Turn (VoteToBlessWorker LaneId) (Left (VoteToBlessWorker LaneId))}
    (turned : batchTurn world config votable fuel worker = some turn) :
    turn.Meets (Sound world config)
      (fun left => left.1.Sound world config) := by
  unfold RiskManagement.batchTurn at turned
  split at turned
  · cases turned
    exact sound.quietly (quietly_ask worker)
  · split at turned
    · cases turned
    · rename_i filled error returned
      cases turned
      exact (Filling.sound_filled (sound.quietly (quietly_ask worker))
        returned).worker
    · rename_i filled returned
      have filledSound := Filling.sound_filled
        (sound.quietly (quietly_ask worker)) returned
      split at turned
      · cases turned
        exact filledSound.worker
      · rename_i nonempty
        cases turned
        exact filledSound.vote nonempty

theorem Sound.poll (sound : worker.Sound world config) {fuel : Nat}
    {delay : Option Nat} {result : Except VoteToBlessError Nat}
    (polled : worker.poll world config fuel votable delay =
      some (after, result)) : after.Sound world config := by
  have queued : Sound world config (worker.queueVotable world votable delay) :=
    sound.quietly (quietly_queueVotable votable delay worker)
  unfold VoteToBlessWorker.poll at polled
  cases returned : iterate (RiskManagement.batchTurn world config votable fuel)
      fuel (worker.queueVotable world votable delay) with
  | none => simp [returned] at polled
  | some left =>
      have kept : left.1.Sound world config :=
        iterate_invariant (Sound world config)
          (fun left => left.1.Sound world config)
          (fun _ _ sound turned => sound.batchTurn turned) queued returned
      obtain ⟨batched, error⟩ := left
      cases error with
      | some error =>
          simp only [returned, Option.some.injEq, Prod.mk.injEq] at polled
          obtain ⟨rfl, _⟩ := polled
          exact kept
      | none =>
          simp only [returned, Option.some.injEq, Prod.mk.injEq] at polled
          obtain ⟨rfl, _⟩ := polled
          exact kept.quietly (quietly_sleepTime batched)

/-- The invariant of every run. -/
theorem Reachable.sound (reachable : Reachable world config worker) :
    worker.Sound world config := by
  induction reachable with
  | start => exact sound_start
  | poll _ polled ih => exact ih.poll polled

end VoteToBlessWorker

end RiskManagement
