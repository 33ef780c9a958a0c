import RiskManagement.Afn.VoteLog
import RiskManagement.Afn.VotingDiscipline

/-!
# Every votable root is dealt with

A root that a poll finds votable waits in the queue for its time, and the
first poll that begins later votes for it, unless it is in flight or its lane
is cursed.  The argument follows the entries of the queue through the two
loops of a poll.
-/

namespace RiskManagement

open Loops (Turn iterate iterate_invariant)
open Relation (ReflTransGen)

variable {LaneId : Type} {world : VotingWorld LaneId}
  {config : VoteToBlessConfig LaneId}

/-! ### What becomes of a root -/

/-- In a mode that sends, the sender was given the batch and took it. -/
def VotedBatch.Accepted (world : VotingWorld LaneId)
    (config : VoteToBlessConfig LaneId) (vote : VotedBatch LaneId) : Prop :=
  match config.mode with
  | .active | .unreliableRemote => vote.outcome = .sent ∧
      ∃ question, world.sendVoteToBless question vote.batch = true
  | .dryRun | .passive => vote.outcome = .notSent

/-- An accepted vote marked the root, and under one of these numbers the mark
was not older than `inflightTime`. -/
def VotedRecently (world : VotingWorld LaneId)
    (config : VoteToBlessConfig LaneId) (votes : List (VotedBatch LaneId))
    (first last : Nat) (taggedRoot : TaggedRoot) : Prop :=
  ∃ vote ∈ votes, vote.Accepted world config ∧
    ∃ marked, (taggedRoot, marked) ∈ vote.marks ∧ ∃ asked, first ≤ asked ∧
      asked < last ∧ world.now asked ≤ world.now marked + config.inflightTime

theorem VotedRecently.mono {votes more : List (VotedBatch LaneId)}
    {first earlier last later : Nat} {taggedRoot : TaggedRoot}
    (recently : VotedRecently world config votes first last taggedRoot)
    (kept : votes ⊆ more) (notLater : earlier ≤ first)
    (notEarlier : last ≤ later) :
    VotedRecently world config more earlier later taggedRoot := by
  obtain ⟨vote, member, accepted, marked, isMark, asked, low, high, fresh⟩ :=
    recently
  exact ⟨vote, kept member, accepted, marked, isMark, asked, by omega,
    by omega, fresh⟩

/-- The beacon answered that the root's lane is cursed. -/
def LaneFoundCursed (world : VotingWorld LaneId)
    (config : VoteToBlessConfig LaneId) (first last : Nat)
    (taggedRoot : TaggedRoot) : Prop :=
  ∃ laneId, config.laneIdByCommitStore taggedRoot.commitStore = some laneId ∧
    ∃ asked, first ≤ asked ∧ asked < last ∧
      world.laneIsCursed asked laneId = true

/-- What becomes of a root that was due. -/
inductive Settled (world : VotingWorld LaneId)
    (config : VoteToBlessConfig LaneId) (votes : List (VotedBatch LaneId))
    (first last : Nat) (taggedRoot : TaggedRoot) : Prop where
  | voted (recently :
      VotedRecently world config votes first last taggedRoot)
  | cursed (found : LaneFoundCursed world config first last taggedRoot)

theorem Settled.mono {votes more : List (VotedBatch LaneId)}
    {first earlier last later : Nat} {taggedRoot : TaggedRoot}
    (settled : Settled world config votes first last taggedRoot)
    (kept : votes ⊆ more) (notLater : earlier ≤ first)
    (notEarlier : last ≤ later) :
    Settled world config more earlier later taggedRoot := by
  cases settled with
  | voted recently => exact .voted (recently.mono kept notLater notEarlier)
  | cursed found =>
      obtain ⟨laneId, lane, asked, low, high, isCursed⟩ := found
      exact .cursed ⟨laneId, lane, asked, by omega, by omega, isCursed⟩

/-! ### The queue -/

namespace VoteQueue

/-- The heap gives its entries in the order of their times. -/
def InOrder (queue : VoteQueue) : Prop :=
  queue.queuedTaggedRoots.Pairwise fun entry later => entry.1 ≤ later.1

theorem pairwise_orderedInsert {heap : List (Nat × TaggedRoot)}
    (ordered : heap.Pairwise fun entry later => entry.1 ≤ later.1)
    (pushed : Nat × TaggedRoot) :
    (heap.orderedInsert NotAfter pushed).Pairwise
      fun entry later => entry.1 ≤ later.1 := by
  induction heap with
  | nil => exact List.pairwise_singleton _ _
  | cons first rest ih =>
      rw [List.pairwise_cons] at ordered
      rw [List.orderedInsert_cons]
      by_cases before : NotAfter pushed first
      · have notLater : pushed.1 ≤ first.1 := by
          rcases before with earlier | ⟨same, _⟩ <;> omega
        rw [if_pos before, List.pairwise_cons, List.forall_mem_cons]
        refine ⟨⟨notLater, ?_⟩, List.pairwise_cons.mpr ordered⟩
        intro later member
        exact Nat.le_trans notLater (ordered.1 later member)
      · have notBefore : first.1 ≤ pushed.1 := by
          by_contra earlier
          exact before (.inl (Nat.lt_of_not_le earlier))
        rw [if_neg before, List.pairwise_cons]
        refine ⟨?_, ih ordered.2⟩
        intro later member
        rcases (List.mem_orderedInsert _).mp member with isPushed | inRest
        · rw [isPushed]
          exact notBefore
        · exact ordered.1 later inRest

variable {queue rest : VoteQueue} {now sendTime : Nat}
  {taggedRoot : TaggedRoot}

theorem InOrder.push (ordered : queue.InOrder) (sendTime : Nat)
    (taggedRoot : TaggedRoot) : (queue.push sendTime taggedRoot).InOrder := by
  unfold VoteQueue.push
  split
  · exact ordered
  · exact pairwise_orderedInsert ordered (sendTime, taggedRoot)

theorem mem_push {entry : Nat × TaggedRoot} :
    entry ∈ (queue.push sendTime taggedRoot).queuedTaggedRoots ↔
      entry ∈ queue.queuedTaggedRoots ∨
        entry = (sendTime, taggedRoot) ∧
          taggedRoot ∉ queue.queuedTaggedRoots.map Prod.snd := by
  unfold push
  split
  · rename_i queued
    simp [(queue.mem_set_iff taggedRoot).mp queued]
  · rename_i notQueued
    rw [queue.mem_set_iff] at notQueued
    rw [List.mem_orderedInsert, or_comm, and_iff_left notQueued]

theorem InOrder.pop (ordered : queue.InOrder)
    (popped : queue.pop now = some ((sendTime, taggedRoot), rest)) :
    rest.InOrder := by
  rw [InOrder, (pop_eq_some popped).1, List.pairwise_cons] at ordered
  exact ordered.2

/-- A heap that has nothing to pop holds only entries for later. -/
theorem InOrder.later_of_pop_eq_none (ordered : queue.InOrder)
    (nothing : queue.pop now = none) :
    ∀ entry ∈ queue.queuedTaggedRoots, now < entry.1 := by
  unfold VoteQueue.pop at nothing
  unfold InOrder at ordered
  split at nothing
  · rename_i empty
    rw [empty]
    intro entry member
    cases member
  · rename_i sendTime taggedRoot rest first
    split at nothing
    · cases nothing
    · rename_i notDue
      rw [first, List.pairwise_cons] at ordered
      rw [first, List.forall_mem_cons]
      refine ⟨by omega, ?_⟩
      intro entry member
      have notEarlier := ordered.1 entry member
      simp only at notEarlier
      omega

end VoteQueue

namespace VoteToBlessWorker

/-! ### What every worker keeps -/

/-- The queue is in order, and everything in flight was marked by a vote. -/
structure Orderly (world : VotingWorld LaneId)
    (config : VoteToBlessConfig LaneId) (worker : VoteToBlessWorker LaneId) :
    Prop where
  inflightTime : worker.inflight.inflightTime = config.inflightTime
  marked : ∀ entry ∈ worker.inflight.inflightRoots, ∃ vote ∈ worker.votes,
    vote.Accepted world config ∧ ∃ marked,
      (entry.1, marked) ∈ vote.marks ∧ world.now marked = entry.2
  inOrder : worker.queue.InOrder

section Orderly

variable {worker after : VoteToBlessWorker LaneId}

theorem orderly_start : (start config).Orderly world config where
  inflightTime := rfl
  marked := by
    intro entry member
    cases member
  inOrder := List.Pairwise.nil

theorem Orderly.ask (orderly : worker.Orderly world config) :
    worker.ask.Orderly world config :=
  ⟨orderly.inflightTime, orderly.marked, orderly.inOrder⟩

theorem Orderly.setQueue (orderly : worker.Orderly world config)
    {queue : VoteQueue} (inOrder : queue.InOrder) :
    Orderly world config { worker with queue := queue } :=
  ⟨orderly.inflightTime, orderly.marked, inOrder⟩

theorem Orderly.isInflight (orderly : worker.Orderly world config)
    (taggedRoot : TaggedRoot) :
    (worker.isInflight world taggedRoot).2.Orderly world config where
  inflightTime := orderly.inflightTime
  marked := by
    intro entry member
    exact orderly.marked entry (InflightRootCache.mem_prune.mp member).1
  inOrder := orderly.inOrder

theorem Orderly.sleepTime (orderly : worker.Orderly world config) :
    (worker.sleepTime world config).1.Orderly world config := by
  unfold VoteToBlessWorker.sleepTime
  split
  · exact orderly.ask
  · exact orderly

theorem Orderly.votedRecently (orderly : worker.Orderly world config)
    {taggedRoot : TaggedRoot}
    (inflight : (worker.isInflight world taggedRoot).1 = true) :
    VotedRecently world config worker.votes worker.asked (worker.asked + 1)
      taggedRoot := by
  obtain ⟨⟨root, entryTime⟩, member, same⟩ := List.any_eq_true.mp inflight
  obtain ⟨held, recent⟩ := InflightRootCache.mem_prune.mp member
  obtain ⟨vote, isVote, accepted, marked, isMark, isTime⟩ :=
    orderly.marked (root, entryTime) held
  have isRoot : root = taggedRoot := of_decide_eq_true same
  subst isRoot
  refine ⟨vote, isVote, accepted, marked, isMark, worker.asked, Nat.le_refl _,
    Nat.lt_succ_self _, ?_⟩
  rw [isTime, ← orderly.inflightTime]
  simp only
  omega

theorem mem_inflight_markInflight {batch : List TaggedRoot}
    {worker : VoteToBlessWorker LaneId} {entry : TaggedRoot × Nat}
    (member : entry ∈
      (markInflight world batch worker).1.inflight.inflightRoots) :
    entry ∈ worker.inflight.inflightRoots ∨
      ∃ marked, (entry.1, marked) ∈ (markInflight world batch worker).2 ∧
        world.now marked = entry.2 := by
  induction batch generalizing worker with
  | nil => exact .inl member
  | cons taggedRoot batch ih =>
      rcases ih member with before | ⟨marked, isMark, isTime⟩
      · rcases InflightRootCache.mem_add.mp before with isNew | ⟨old, _⟩
        · obtain ⟨root, entryTime⟩ := entry
          cases isNew
          exact .inr ⟨worker.asked, List.mem_cons_self, rfl⟩
        · exact .inl old
      · exact .inr ⟨marked, List.mem_cons_of_mem _ isMark, isTime⟩

theorem marks_within {batch : List TaggedRoot}
    {worker : VoteToBlessWorker LaneId} {mark : TaggedRoot × Nat}
    (member : mark ∈ (markInflight world batch worker).2) :
    worker.asked ≤ mark.2 ∧
      mark.2 < (markInflight world batch worker).1.asked := by
  induction batch generalizing worker with
  | nil => cases member
  | cons taggedRoot batch ih =>
      have asked := (markInflight_advanced world batch
        (worker.mark world taggedRoot)).1
      rcases List.mem_cons.mp member with isFirst | later
      · rw [isFirst]
        exact ⟨Nat.le_refl _, asked⟩
      · obtain ⟨low, high⟩ := ih later
        exact ⟨Nat.le_trans (Nat.le_succ _) low, high⟩

end Orderly

/-! ### Queueing the votable roots -/

/-- What `enqueue` leaves in the queue, and which roots it passes over. -/
structure Enqueued (world : VotingWorld LaneId)
    (config : VoteToBlessConfig LaneId) (sendTime : Nat)
    (votable : List TaggedRoot) (worker after : VoteToBlessWorker LaneId) :
    Prop where
  orderly : after.Orderly world config
  asked : worker.asked ≤ after.asked
  votes : after.votes = worker.votes
  kept : ∀ entry ∈ worker.queue.queuedTaggedRoots,
    entry ∈ after.queue.queuedTaggedRoots
  fewer : ∀ entry ∈ after.queue.queuedTaggedRoots,
    entry ∈ worker.queue.queuedTaggedRoots ∨
      entry.1 = sendTime ∧
        entry.2 ∉ worker.queue.queuedTaggedRoots.map Prod.snd
  queued : ∀ taggedRoot ∈ votable,
    VotedRecently world config after.votes worker.asked after.asked
        taggedRoot ∨
      ∃ entry ∈ after.queue.queuedTaggedRoots, entry.2 = taggedRoot

section Enqueue

variable {worker after : VoteToBlessWorker LaneId}
  {votable : List TaggedRoot}

theorem Enqueued.nil (orderly : worker.Orderly world config)
    (sendTime : Nat) :
    Enqueued world config sendTime [] worker worker where
  orderly := orderly
  asked := Nat.le_refl _
  votes := rfl
  kept := fun _ member => member
  fewer := fun _ member => .inl member
  queued := fun _ member => nomatch member

theorem enqueue_enqueued (sendTime : Nat)
    (orderly : worker.Orderly world config) (votable : List TaggedRoot) :
    Enqueued world config sendTime votable worker
      (enqueue world sendTime votable worker) := by
  induction votable generalizing worker with
  | nil => exact .nil orderly sendTime
  | cons taggedRoot votable ih =>
      have checked := orderly.isInflight taggedRoot
      rw [enqueue]
      simp only
      split
      · rename_i inflight
        have rest := ih checked
        have recently := orderly.votedRecently inflight
        refine ⟨rest.orderly, Nat.le_trans (Nat.le_succ _) rest.asked,
          rest.votes, rest.kept, rest.fewer, ?_⟩
        rw [List.forall_mem_cons]
        constructor
        · left
          rw [rest.votes]
          exact recently.mono (fun _ => id) (Nat.le_refl _) rest.asked
        · intro later member
          exact (rest.queued later member).imp_left fun recently =>
            recently.mono (fun _ => id) (Nat.le_succ _) (Nat.le_refl _)
      · have pushed := checked.setQueue
          (checked.inOrder.push sendTime taggedRoot)
        have rest := ih pushed
        refine ⟨rest.orderly, Nat.le_trans (Nat.le_succ _) rest.asked,
          rest.votes, ?_, ?_, ?_⟩
        · intro entry member
          exact rest.kept entry (VoteQueue.mem_push.mpr (.inl member))
        · intro entry member
          rcases rest.fewer entry member with pushedIn | ⟨isTime, notQueued⟩
          · rcases VoteQueue.mem_push.mp pushedIn with old | ⟨rfl, isNew⟩
            · exact .inl old
            · exact .inr ⟨rfl, isNew⟩
          · refine .inr ⟨isTime, ?_⟩
            intro queued
            obtain ⟨other, isOther, sameRoot⟩ := List.mem_map.mp queued
            apply notQueued
            rw [← sameRoot]
            exact List.mem_map_of_mem (VoteQueue.mem_push.mpr (.inl isOther))
        · rw [List.forall_mem_cons]
          constructor
          · right
            by_cases queued : taggedRoot ∈
                worker.queue.queuedTaggedRoots.map Prod.snd
            · obtain ⟨entry, isEntry, isRoot⟩ := List.mem_map.mp queued
              exact ⟨entry, rest.kept entry
                (VoteQueue.mem_push.mpr (.inl isEntry)), isRoot⟩
            · exact ⟨(sendTime, taggedRoot), rest.kept _
                (VoteQueue.mem_push.mpr (.inr ⟨rfl, queued⟩)), rfl⟩
          · intro later member
            exact (rest.queued later member).imp_left fun recently =>
              recently.mono (fun _ => id) (Nat.le_succ _) (Nat.le_refl _)

end Enqueue

/-! ### The loops of a poll -/

/-- Where the roots are that were queued when the loops began: settled, held
in a batch, or still queued. -/
structure Drains (world : VotingWorld LaneId)
    (config : VoteToBlessConfig LaneId) (votable : List TaggedRoot)
    (first : Nat) (queued : List (Nat × TaggedRoot)) (held : List TaggedRoot)
    (worker : VoteToBlessWorker LaneId) : Prop where
  orderly : worker.Orderly world config
  later : first ≤ worker.asked
  fewer : ∀ entry ∈ worker.queue.queuedTaggedRoots, entry ∈ queued
  dealt : ∀ entry ∈ queued, entry.2 ∈ votable →
    Settled world config worker.votes first worker.asked entry.2 ∨
      entry.2 ∈ held ∨ entry ∈ worker.queue.queuedTaggedRoots

section Draining

variable {worker after : VoteToBlessWorker LaneId}
  {votable : List TaggedRoot} {first : Nat}
  {queued : List (Nat × TaggedRoot)} {held : List TaggedRoot}

theorem Drains.next
    (drains : worker.Drains world config votable first queued held)
    (orderly : after.Orderly world config)
    (asked : worker.asked ≤ after.asked) (votes : worker.votes ⊆ after.votes)
    (queue : after.queue = worker.queue) :
    after.Drains world config votable first queued held where
  orderly := orderly
  later := Nat.le_trans drains.later asked
  fewer := by
    rw [queue]
    exact drains.fewer
  dealt := by
    intro entry member isVotable
    rw [queue]
    exact (drains.dealt entry member isVotable).imp_left fun settled =>
      settled.mono votes (Nat.le_refl _) asked

theorem Drains.pop
    (drains : worker.Drains world config votable first queued held)
    {sendTime : Nat} {taggedRoot : TaggedRoot} {queue : VoteQueue}
    (popped : worker.queue.pop (world.now worker.asked) =
      some ((sendTime, taggedRoot), queue)) :
    Drains world config votable first queued (held ++ [taggedRoot])
      (VoteToBlessWorker.ask { worker with queue := queue }) where
  orderly := (drains.orderly.setQueue
    (drains.orderly.inOrder.pop popped)).ask
  later := Nat.le_trans drains.later (Nat.le_succ _)
  fewer := by
    intro entry member
    apply drains.fewer
    rw [(VoteQueue.pop_eq_some popped).1]
    exact List.mem_cons_of_mem _ member
  dealt := by
    intro entry member isVotable
    rcases drains.dealt entry member isVotable with settled | isHeld | inQueue
    · exact .inl (settled.mono (fun _ => id) (Nat.le_refl _) (Nat.le_succ _))
    · exact .inr (.inl (List.mem_append_left _ isHeld))
    · rw [(VoteQueue.pop_eq_some popped).1] at inQueue
      rcases List.mem_cons.mp inQueue with isFirst | inRest
      · right
        left
        rw [isFirst]
        exact List.mem_append_right _ (List.mem_singleton_self _)
      · exact .inr (.inr inRest)

/-- A held root need not be held any more when it is settled. -/
theorem Drains.settle {taggedRoot : TaggedRoot}
    (drains : worker.Drains world config votable first queued
      (held ++ [taggedRoot]))
    (settled : taggedRoot ∈ votable →
      Settled world config worker.votes first worker.asked taggedRoot) :
    worker.Drains world config votable first queued held where
  orderly := drains.orderly
  later := drains.later
  fewer := drains.fewer
  dealt := by
    intro entry member isVotable
    rcases drains.dealt entry member isVotable with isSettled | isHeld | waits
    · exact .inl isSettled
    · rcases List.mem_append.mp isHeld with before | isLast
      · exact .inr (.inl before)
      · left
        rw [List.mem_singleton.mp isLast] at isVotable ⊢
        exact settled isVotable
    · exact .inr (.inr waits)

end Draining
end VoteToBlessWorker

namespace Filling

variable {filling : Filling LaneId} {votable : List TaggedRoot} {first : Nat}
  {queued : List (Nat × TaggedRoot)}

/-- A popped root joins the batch, or is settled, or was not votable. -/
theorem drains_consider {sendTime popped : Nat} {taggedRoot : TaggedRoot}
    {laneId : LaneId}
    (drains : filling.worker.Drains world config votable first queued
      (filling.roots ++ [taggedRoot]))
    (lane : config.laneIdByCommitStore taggedRoot.commitStore = some laneId) :
    (consider world votable filling sendTime taggedRoot laneId
        popped).worker.Drains world config votable first queued
      (consider world votable filling sendTime taggedRoot laneId
        popped).roots := by
  have checked := drains.next (drains.orderly.isInflight taggedRoot)
    (Nat.le_succ _) (fun _ => id) rfl
  have asked := checked.next checked.orderly.ask (Nat.le_succ _)
    (fun _ => id) rfl
  unfold consider
  split
  · simp only
    split
    · rename_i inflight
      apply checked.settle
      intro _
      exact .voted ((drains.orderly.votedRecently inflight).mono
        (fun _ => id) drains.later (Nat.le_refl _))
    · split
      · rename_i isCursed
        apply asked.settle
        intro _
        exact .cursed ⟨laneId, lane, _, checked.later, Nat.lt_succ_self _,
          isCursed⟩
      · rw [roots, List.map_append]
        exact asked
  · rename_i notVotable
    apply drains.settle
    intro isVotable
    exact absurd isVotable notVotable

/-- A filling that ends without an error has a root in its batch or has left
nothing that was due. -/
structure Filled (world : VotingWorld LaneId)
    (config : VoteToBlessConfig LaneId) (votable : List TaggedRoot)
    (first : Nat) (queued : List (Nat × TaggedRoot))
    (left : Left (Filling LaneId)) : Prop where
  orderly : left.1.worker.Orderly world config
  drained : left.2 = none →
    left.1.worker.Drains world config votable first queued left.1.roots ∧
      (left.1.batch ≠ [] ∨
        ∀ entry ∈ left.1.worker.queue.queuedTaggedRoots,
          world.now first < entry.1)

theorem drains_fillTurn (room : 0 < config.maxTaggedRootsPerVoteToBless)
    (drains : filling.worker.Drains world config votable first queued
      filling.roots) :
    (fillTurn world config votable filling).Meets
      (fun after =>
        after.worker.Drains world config votable first queued after.roots)
      (Filled world config votable first queued) := by
  unfold fillTurn
  split
  · simp only
    cases popped : filling.worker.queue.pop
        (world.now filling.worker.asked) with
    | none =>
        refine ⟨drains.orderly.ask, fun _ => ⟨drains.next drains.orderly.ask
          (Nat.le_succ _) (fun _ => id) rfl, .inr ?_⟩⟩
        intro entry member
        have notLater := world.monotone drains.later
        have isLater := drains.orderly.inOrder.later_of_pop_eq_none popped
          entry member
        omega
    | some taken =>
        obtain ⟨⟨sendTime, taggedRoot⟩, queue⟩ := taken
        simp only
        have taken := drains.pop popped
        cases lane : config.laneIdByCommitStore taggedRoot.commitStore with
        | some laneId =>
            have popping : (Filling.mk (.ask
                { filling.worker with queue := queue })
                filling.batch).worker.Drains world config votable first queued
                  (filling.roots ++ [taggedRoot]) := taken
            exact drains_consider popping lane
        | none => exact ⟨taken.orderly, nofun⟩
  · rename_i full
    refine ⟨drains.orderly, fun _ => ⟨drains, .inl ?_⟩⟩
    intro empty
    rw [empty] at full
    exact full room

theorem filled_of_iterate {worker : VoteToBlessWorker LaneId} {fuel : Nat}
    {left : Left (Filling LaneId)}
    (room : 0 < config.maxTaggedRootsPerVoteToBless)
    (drains : worker.Drains world config votable first queued [])
    (returned : iterate
      (fun filling => some (fillTurn world config votable filling))
      fuel { worker := worker, batch := [] } = some left) :
    Filled world config votable first queued left := by
  refine iterate_invariant (fun filling : Filling LaneId =>
      filling.worker.Drains world config votable first queued filling.roots)
    (Filled world config votable first queued) ?_ ?_ returned
  · intro filling turn drains turned
    rw [← Option.some.inj turned]
    exact drains_fillTurn room drains
  · exact drains

/-- After a vote that did not fail every root of the batch is settled. -/
theorem drains_close
    (drains : filling.worker.Drains world config votable first queued
      filling.roots) (outcome : VoteOutcome)
    (accepted : ∀ marks, VotedBatch.Accepted world config
      ⟨votable, filling.batch, outcome, marks⟩) :
    (filling.close world votable outcome).Drains world config votable first
      queued [] := by
  have marking : VoteToBlessWorker.Quietly world filling.worker
      (VoteToBlessWorker.markInflight world filling.roots filling.worker).1 :=
    VoteToBlessWorker.quietly_markInflight filling.roots filling.worker
  have advanced := VoteToBlessWorker.markInflight_advanced world filling.roots
    filling.worker
  have kept : filling.worker.votes ⊆
      (filling.close world votable outcome).votes := by
    intro vote member
    apply List.mem_append_left
    change vote ∈ (VoteToBlessWorker.markInflight world filling.roots
      filling.worker).1.votes
    rw [advanced.2]
    exact member
  have logged : ∃ vote ∈ (filling.close world votable outcome).votes,
      vote.Accepted world config ∧
        vote.marks = (VoteToBlessWorker.markInflight world filling.roots
          filling.worker).2 :=
    ⟨_, List.mem_append_right _ (List.mem_singleton_self _), accepted _, rfl⟩
  obtain ⟨vote, isVote, accepted, areMarks⟩ := logged
  have queue : (filling.close world votable outcome).queue =
      filling.worker.queue :=
    VoteToBlessWorker.markInflight_queue filling.roots filling.worker
  have orderly : (filling.close world votable outcome).Orderly world
      config := by
    refine ⟨marking.inflightTime.trans drains.orderly.inflightTime, ?_, ?_⟩
    · intro entry member
      rcases VoteToBlessWorker.mem_inflight_markInflight member with
        old | ⟨marked, isMark, isTime⟩
      · obtain ⟨earlier, isEarlier, marked⟩ := drains.orderly.marked entry old
        exact ⟨earlier, kept isEarlier, marked⟩
      · refine ⟨vote, isVote, accepted, marked, ?_, isTime⟩
        rw [areMarks]
        exact isMark
    · rw [queue]
      exact drains.orderly.inOrder
  have closed := drains.next orderly advanced.1 kept queue
  refine ⟨orderly, closed.later, closed.fewer, ?_⟩
  intro entry member isVotable
  rcases closed.dealt entry member isVotable with settled | isHeld | waits
  · exact .inl settled
  · rw [← VoteToBlessWorker.markInflight_marks filling.roots
      filling.worker] at isHeld
    obtain ⟨mark, isMark, isRoot⟩ := List.mem_map.mp isHeld
    obtain ⟨low, high⟩ := VoteToBlessWorker.marks_within isMark
    left
    refine .voted ⟨vote, isVote, accepted, mark.2, ?_, mark.2,
      Nat.le_trans drains.later low, high, Nat.le_add_right _ _⟩
    rw [areMarks, ← isRoot]
    exact isMark
  · exact .inr (.inr waits)

theorem orderly_lose (orderly : filling.worker.Orderly world config) :
    (filling.lose votable).Orderly world config where
  inflightTime := orderly.inflightTime
  marked := by
    intro entry member
    obtain ⟨vote, isVote, marked⟩ := orderly.marked entry member
    exact ⟨vote, List.mem_append_left _ isVote, marked⟩
  inOrder := orderly.inOrder

theorem drains_vote
    (drains : filling.worker.Drains world config votable first queued
      filling.roots) :
    (filling.vote world config votable).Meets
      (VoteToBlessWorker.Drains world config votable first queued [])
      (fun left => left.1.Orderly world config ∧ left.2 ≠ none) := by
  have asked : Filling.worker { filling with worker := filling.worker.ask }
      |>.Drains world config votable first queued filling.roots :=
    drains.next drains.orderly.ask (Nat.le_succ _) (fun _ => id) rfl
  unfold Filling.vote
  cases isMode : config.mode with
  | dryRun =>
      exact drains_close drains .notSent fun _ => by
        simp [VotedBatch.Accepted, isMode]
  | passive =>
      exact drains_close drains .notSent fun _ => by
        simp [VotedBatch.Accepted, isMode]
  | active =>
      simp only
      split
      · rename_i took
        exact drains_close asked .sent fun _ => by
          simpa [VotedBatch.Accepted, isMode] using ⟨_, took⟩
      · exact ⟨orderly_lose asked.orderly, nofun⟩
  | unreliableRemote =>
      simp only
      split
      · rename_i took
        exact drains_close asked .sent fun _ => by
          simpa [VotedBatch.Accepted, isMode] using ⟨_, took⟩
      · exact ⟨orderly_lose asked.orderly, nofun⟩

end Filling

/-! ### Polls and runs -/

namespace VoteToBlessWorker

variable {worker after : VoteToBlessWorker LaneId}
  {votable : List TaggedRoot} {first : Nat}
  {queued : List (Nat × TaggedRoot)}

/-- Loops that end without an error were cancelled or have left nothing that
was due. -/
structure Drained (world : VotingWorld LaneId)
    (config : VoteToBlessConfig LaneId) (votable : List TaggedRoot)
    (first : Nat) (queued : List (Nat × TaggedRoot))
    (left : Left (VoteToBlessWorker LaneId)) : Prop where
  orderly : left.1.Orderly world config
  drained : left.2 = none →
    left.1.Drains world config votable first queued [] ∧
      ((∃ asked, first ≤ asked ∧ asked < left.1.asked ∧
          world.isDone asked = true) ∨
        ∀ entry ∈ left.1.queue.queuedTaggedRoots,
          world.now first < entry.1)

theorem Drains.batchTurn (room : 0 < config.maxTaggedRootsPerVoteToBless)
    (drains : worker.Drains world config votable first queued []) {fuel : Nat}
    {turn : Turn (VoteToBlessWorker LaneId) (Left (VoteToBlessWorker LaneId))}
    (turned : batchTurn world config votable fuel worker = some turn) :
    turn.Meets (Drains world config votable first queued [])
      (Drained world config votable first queued) := by
  have asked := drains.next drains.orderly.ask (Nat.le_succ _)
    (fun _ => id) rfl
  unfold RiskManagement.batchTurn at turned
  split at turned
  · rename_i isDone
    cases turned
    exact ⟨asked.orderly, fun _ => ⟨asked, .inl ⟨worker.asked, drains.later,
      Nat.lt_succ_self _, isDone⟩⟩⟩
  · split at turned
    · cases turned
    · rename_i filled error returned
      cases turned
      exact ⟨(Filling.filled_of_iterate room asked returned).orderly, nofun⟩
    · rename_i filled returned
      have isFilled := Filling.filled_of_iterate room asked returned
      obtain ⟨filledDrains, ended⟩ := isFilled.drained rfl
      split at turned
      · rename_i isEmpty
        cases turned
        have empty : filled.batch = [] := List.isEmpty_iff.mp isEmpty
        refine ⟨isFilled.orderly, fun _ => ⟨?_, .inr ?_⟩⟩
        · have held : filled.roots = [] := by
            rw [Filling.roots, empty]
            rfl
          rw [← held]
          exact filledDrains
        · exact ended.resolve_left fun notEmpty => notEmpty empty
      · cases turned
        apply (Filling.drains_vote filledDrains).imp
        · intro after closed
          exact closed
        · rintro left ⟨orderly, failed⟩
          exact ⟨orderly, fun ended => absurd ended failed⟩

theorem Orderly.queueVotable (orderly : worker.Orderly world config)
    (votable : List TaggedRoot) (delay : Option Nat) :
    (worker.queueVotable world votable delay).Orderly world config ∧
      worker.asked ≤ (worker.queueVotable world votable delay).asked := by
  cases delay with
  | none => exact ⟨orderly, Nat.le_refl _⟩
  | some delay =>
      have enqueued := enqueue_enqueued (world.now worker.asked + delay)
        orderly.ask votable
      exact ⟨enqueued.orderly, Nat.le_trans (Nat.le_succ _) enqueued.asked⟩

theorem sleepTime_frame (world : VotingWorld LaneId)
    (config : VoteToBlessConfig LaneId) (worker : VoteToBlessWorker LaneId) :
    worker.asked ≤ (worker.sleepTime world config).1.asked ∧
      (worker.sleepTime world config).1.votes = worker.votes ∧
        (worker.sleepTime world config).1.queue = worker.queue := by
  unfold sleepTime
  split
  · exact ⟨Nat.le_succ _, rfl, rfl⟩
  · exact ⟨Nat.le_refl _, rfl, rfl⟩

theorem poll_drained (room : 0 < config.maxTaggedRootsPerVoteToBless)
    (orderly : worker.Orderly world config) {fuel : Nat}
    {delay : Option Nat} {result : Except VoteToBlessError Nat}
    (polled : worker.poll world config fuel votable delay =
      some (after, result)) :
    after.Orderly world config ∧ ∀ sleep, result = .ok sleep →
      let start := worker.queueVotable world votable delay
      after.Drains world config votable start.asked
          start.queue.queuedTaggedRoots [] ∧
        ((∃ asked, start.asked ≤ asked ∧ asked < after.asked ∧
            world.isDone asked = true) ∨
          ∀ entry ∈ after.queue.queuedTaggedRoots,
            world.now start.asked < entry.1) := by
  obtain ⟨queueOrderly, _⟩ := orderly.queueVotable votable delay
  unfold VoteToBlessWorker.poll at polled
  generalize worker.queueVotable world votable delay = start
    at queueOrderly polled ⊢
  have begins : start.Drains world config votable start.asked
      start.queue.queuedTaggedRoots [] :=
    ⟨queueOrderly, Nat.le_refl _, fun _ => id,
      fun _ member _ => .inr (.inr member)⟩
  cases returned : iterate (RiskManagement.batchTurn world config votable fuel)
      fuel start with
  | none => simp [returned] at polled
  | some left =>
      have drained : Drained world config votable start.asked
          start.queue.queuedTaggedRoots left :=
        iterate_invariant (Drains world config votable start.asked _ [])
          (Drained world config votable start.asked _)
          (fun _ _ drains turned => drains.batchTurn room turned) begins
          returned
      obtain ⟨batched, error⟩ := left
      cases error with
      | some error =>
          simp only [returned, Option.some.injEq, Prod.mk.injEq] at polled
          obtain ⟨rfl, rfl⟩ := polled
          exact ⟨drained.orderly, nofun⟩
      | none =>
          simp only [returned, Option.some.injEq, Prod.mk.injEq] at polled
          obtain ⟨rfl, rfl⟩ := polled
          obtain ⟨drains, ended⟩ := drained.drained rfl
          obtain ⟨later, votes, queue⟩ := sleepTime_frame world config batched
          have slept := drained.orderly.sleepTime
          refine ⟨slept, fun _ _ => ⟨drains.next slept later ?_ queue, ?_⟩⟩
          · rw [votes]
            exact fun _ => id
          · rw [queue]
            apply ended.imp_left
            rintro ⟨question, low, high, isDone⟩
            exact ⟨question, low, Nat.lt_of_lt_of_le high later, isDone⟩

/-- The invariant of every run. -/
theorem Reachable.orderly (room : 0 < config.maxTaggedRootsPerVoteToBless)
    (reachable : Reachable world config worker) :
    worker.Orderly world config := by
  induction reachable with
  | start => exact orderly_start
  | poll _ polled ih => exact (poll_drained room ih polled).1

/-- A poll finds the root votable, and ends well while the node runs. -/
structure Finds (world : VotingWorld LaneId)
    (config : VoteToBlessConfig LaneId) (taggedRoot : TaggedRoot)
    (delay : Nat) (worker after : VoteToBlessWorker LaneId) : Prop where
  polled : ∃ fuel votable sleep, taggedRoot ∈ votable ∧
    worker.poll world config fuel votable (some delay) =
      some (after, .ok sleep)
  running : ∀ asked, worker.asked ≤ asked → asked < after.asked →
    world.isDone asked = false

section Runs

variable {taggedRoot : TaggedRoot} {delay : Nat}
  {before finished : VoteToBlessWorker LaneId}

/-- After one poll the root is settled or waits for its time, which does not
change while it waits. -/
theorem Finds.dealt (room : 0 < config.maxTaggedRootsPerVoteToBless)
    (orderly : worker.Orderly world config)
    (finds : worker.Finds world config taggedRoot delay after) :
    Settled world config after.votes worker.asked after.asked taggedRoot ∨
      ∃ sendTime,
        (sendTime, taggedRoot) ∈ after.queue.queuedTaggedRoots ∧
          world.now worker.asked < sendTime ∧
          ((sendTime, taggedRoot) ∈ worker.queue.queuedTaggedRoots ∨
            sendTime = world.now worker.asked + delay ∧
              taggedRoot ∉ worker.queue.queuedTaggedRoots.map Prod.snd) := by
  obtain ⟨fuel, votable, sleep, isVotable, polled⟩ := finds.polled
  obtain ⟨_, ended⟩ := poll_drained room orderly polled
  obtain ⟨drains, cancelledOrLater⟩ := ended sleep rfl
  have enqueued := enqueue_enqueued (world.now worker.asked + delay)
    orderly.ask votable
  have notBefore : worker.asked ≤
      (worker.queueVotable world votable (some delay)).asked :=
    Nat.le_trans (Nat.le_succ _) enqueued.asked
  have later : ∀ entry ∈ after.queue.queuedTaggedRoots,
      world.now worker.asked < entry.1 := by
    rcases cancelledOrLater with ⟨asked, low, high, isDone⟩ | later
    · rw [finds.running asked (by omega) high] at isDone
      cases isDone
    · intro entry member
      exact Nat.lt_of_le_of_lt (world.monotone notBefore) (later entry member)
  rcases enqueued.queued taggedRoot isVotable with
    recently | ⟨entry, isEntry, rfl⟩
  · left
    rw [enqueued.votes] at recently
    obtain ⟨votes, isLog, _⟩ := (poll_advanced polled).logged
    refine .voted (recently.mono ?_ (Nat.le_succ _) drains.later)
    rw [isLog]
    exact List.subset_append_left _ _
  · rcases drains.dealt entry isEntry isVotable with settled | isHeld | waits
    · exact .inl (settled.mono (fun _ => id) notBefore (Nat.le_refl _))
    · cases isHeld
    · right
      exact ⟨entry.1, waits, later entry waits, enqueued.fewer entry isEntry⟩

/-- What is known of the root after some polls that found it votable. -/
structure Follows (world : VotingWorld LaneId)
    (config : VoteToBlessConfig LaneId) (taggedRoot : TaggedRoot)
    (delay : Nat) (worker after : VoteToBlessWorker LaneId) : Prop where
  orderly : after.Orderly world config
  asked : worker.asked ≤ after.asked
  dealt : Settled world config after.votes worker.asked after.asked
      taggedRoot ∨
    ∃ sendTime, (sendTime, taggedRoot) ∈ after.queue.queuedTaggedRoots ∧
      ((sendTime, taggedRoot) ∈ worker.queue.queuedTaggedRoots ∨
        sendTime = world.now worker.asked + delay)

theorem Finds.orderly (room : 0 < config.maxTaggedRootsPerVoteToBless)
    (orderly : worker.Orderly world config)
    (finds : worker.Finds world config taggedRoot delay after) :
    after.Orderly world config ∧ worker.asked ≤ after.asked ∧
      worker.votes ⊆ after.votes := by
  obtain ⟨_, _, _, _, polled⟩ := finds.polled
  obtain ⟨asked, votes, isLog, _⟩ := poll_advanced polled
  refine ⟨(poll_drained room orderly polled).1, asked, ?_⟩
  rw [isLog]
  exact List.subset_append_left _ _

theorem Finds.follows (room : 0 < config.maxTaggedRootsPerVoteToBless)
    (orderly : worker.Orderly world config)
    (finds : worker.Finds world config taggedRoot delay after) :
    Follows world config taggedRoot delay worker after := by
  obtain ⟨afterOrderly, asked, _⟩ := finds.orderly room orderly
  refine ⟨afterOrderly, asked, (finds.dealt room orderly).imp_right ?_⟩
  rintro ⟨sendTime, waits, _, origin⟩
  exact ⟨sendTime, waits, origin.imp_right And.left⟩

/-- A root that waits still waits for the same time after the next poll, which
begins before that time. -/
theorem Follows.dealt_next (room : 0 < config.maxTaggedRootsPerVoteToBless)
    (follows : Follows world config taggedRoot delay worker before)
    {otherDelay : Nat}
    (finds : before.Finds world config taggedRoot otherDelay after) :
    Settled world config after.votes worker.asked after.asked taggedRoot ∨
      ∃ sendTime, (sendTime, taggedRoot) ∈ after.queue.queuedTaggedRoots ∧
        world.now before.asked < sendTime ∧
        ((sendTime, taggedRoot) ∈ worker.queue.queuedTaggedRoots ∨
          sendTime = world.now worker.asked + delay) := by
  obtain ⟨_, asked, kept⟩ := finds.orderly room follows.orderly
  rcases follows.dealt with settled | ⟨sendTime, waits, origin⟩
  · exact .inl (settled.mono kept (Nat.le_refl _) asked)
  · rcases finds.dealt room follows.orderly with
      settled | ⟨later, stillWaits, notDue, fromBefore⟩
    · exact .inl (settled.mono (fun _ => id) follows.asked (Nat.le_refl _))
    · right
      refine ⟨later, stillWaits, notDue, ?_⟩
      rcases fromBefore with sameEntry | ⟨_, notQueued⟩
      · have sameTime : (later, taggedRoot) = (sendTime, taggedRoot) :=
          List.inj_on_of_nodup_map before.queue.nodup sameEntry waits rfl
        cases sameTime
        exact origin
      · exact absurd (List.mem_map_of_mem waits) notQueued

theorem Follows.next (room : 0 < config.maxTaggedRootsPerVoteToBless)
    (follows : Follows world config taggedRoot delay worker before)
    {otherDelay : Nat}
    (finds : before.Finds world config taggedRoot otherDelay after) :
    Follows world config taggedRoot delay worker after := by
  obtain ⟨orderly, asked, _⟩ := finds.orderly room follows.orderly
  refine ⟨orderly, Nat.le_trans follows.asked asked,
    (follows.dealt_next room finds).imp_right ?_⟩
  rintro ⟨sendTime, waits, _, origin⟩
  exact ⟨sendTime, waits, origin⟩

theorem Follows.run (room : 0 < config.maxTaggedRootsPerVoteToBless)
    (follows : Follows world config taggedRoot delay worker after)
    (run : ReflTransGen
      (fun before after => ∃ delay,
        before.Finds world config taggedRoot delay after) after before) :
    Follows world config taggedRoot delay worker before := by
  induction run with
  | refl => exact follows
  | tail _ finds ih =>
      obtain ⟨_, finds⟩ := finds
      exact ih.next room finds

/-- No votable root is forgotten.  A root that one poll and all later ones
find votable is voted for at the latest by the first poll that begins a delay
after that poll, unless it is in flight already or its lane is found cursed. -/
theorem votable_root_is_voted_for_in_time
    (room : 0 < config.maxTaggedRootsPerVoteToBless)
    (reachable : Reachable world config worker)
    (first : worker.Finds world config taggedRoot delay after)
    (run : ReflTransGen
      (fun before after => ∃ delay,
        before.Finds world config taggedRoot delay after) after before)
    (last : ∃ delay, before.Finds world config taggedRoot delay finished)
    (due : world.now worker.asked + delay ≤ world.now before.asked)
    (queuedDue : ∀ sendTime,
      (sendTime, taggedRoot) ∈ worker.queue.queuedTaggedRoots →
        sendTime ≤ world.now before.asked) :
    Settled world config finished.votes worker.asked finished.asked
      taggedRoot := by
  have orderly := reachable.orderly room
  have follows := (first.follows room orderly).run room run
  obtain ⟨_, last⟩ := last
  rcases follows.dealt_next room last with
    settled | ⟨sendTime, _, notDue, origin⟩
  · exact settled
  · rcases origin with queued | isDelayed
    · have isDue := queuedDue sendTime queued
      omega
    · omega

end Runs

/-- The first poll queues the root for a time five ticks later; the second one
begins at that time and sends the vote. -/
theorem votable_root_is_voted_for_in_time_afterDelay :
    ∃ finished : VoteToBlessWorker Unit,
      finished.votes.map VotedBatch.batch = [[zeroTaggedRoot]] ∧
        Settled tickingWorld oneLaneConfig finished.votes 0 finished.asked
          zeroTaggedRoot := by
  have first : Finds tickingWorld oneLaneConfig zeroTaggedRoot 500
      (start oneLaneConfig) _ :=
    ⟨⟨2, [zeroTaggedRoot], 1, List.mem_singleton_self _, rfl⟩,
      fun _ _ _ => rfl⟩
  exact ⟨_, by decide, votable_root_is_voted_for_in_time (by decide)
    .start first .refl
    ⟨500, ⟨⟨2, [zeroTaggedRoot], 1, List.mem_singleton_self _, rfl⟩,
      fun _ _ _ => rfl⟩⟩ (by decide) (fun _ member => nomatch member)⟩

end VoteToBlessWorker
end RiskManagement
