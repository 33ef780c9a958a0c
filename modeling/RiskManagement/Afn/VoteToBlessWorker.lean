import Mathlib.Data.Finset.Insert
import Mathlib.Data.List.Sort
import Mathlib.Order.Monotone.Basic
import RiskManagement.Library.Loops
import RiskManagement.Afn.InflightRootCache

/-!
# The worker that votes to bless

A poll queues the votable roots that are not in flight, each with the time at
which it may be sent, then pops due roots into batches and votes for each
batch.  A root that was voted for is marked in flight.

The clock, the curse beacon, the transaction sender and the shutdown flag
belong to the world.  The worker asks them one question after the other;
`asked` counts the questions and every answer is looked up by that number.
-/

namespace RiskManagement

open Loops (Turn iterate)

/-- What a node does with the votes it finds due. -/
inductive VotingMode where
  | active
  | dryRun
  | passive
  | unreliableRemote
deriving DecidableEq

/-- `permutation::DELTA_STAGE`, two minutes in nanoseconds. -/
def deltaStage : Nat := 2 * 60 * 1000000000

/-! ### The queue -/

/-- Tagged roots are ordered by commit store, then by root. -/
def TaggedRoot.IsBefore (taggedRoot other : TaggedRoot) : Prop :=
  taggedRoot.commitStore < other.commitStore ∨
    taggedRoot.commitStore = other.commitStore ∧ taggedRoot.root < other.root

instance (taggedRoot other : TaggedRoot) :
    Decidable (taggedRoot.IsBefore other) :=
  inferInstanceAs (Decidable (_ ∨ _))

/-- The heap is the list of its entries, the least one first.  It holds each
root at most once and the same roots as the set. -/
structure VoteQueue where
  queuedTaggedRoots : List (Nat × TaggedRoot)
  queuedTaggedRootsSet : Finset TaggedRoot
  nodup : (queuedTaggedRoots.map Prod.snd).Nodup
  mem_set_iff : ∀ taggedRoot, taggedRoot ∈ queuedTaggedRootsSet ↔
    taggedRoot ∈ queuedTaggedRoots.map Prod.snd

namespace VoteQueue

/-- `(Instant, TaggedRoot)` is ordered by time, then by root. -/
def NotAfter (entry other : Nat × TaggedRoot) : Prop :=
  entry.1 < other.1 ∨ entry.1 = other.1 ∧ ¬ other.2.IsBefore entry.2

instance : DecidableRel NotAfter :=
  fun _ _ => inferInstanceAs (Decidable (_ ∨ _))

def empty : VoteQueue where
  queuedTaggedRoots := []
  queuedTaggedRootsSet := ∅
  nodup := List.nodup_nil
  mem_set_iff := by simp

theorem mem_orderedInsert_roots {heap : List (Nat × TaggedRoot)}
    {sendTime : Nat} {pushed taggedRoot : TaggedRoot} :
    taggedRoot ∈ (heap.orderedInsert NotAfter (sendTime, pushed)).map Prod.snd ↔
      taggedRoot = pushed ∨ taggedRoot ∈ heap.map Prod.snd := by
  have reordered := (heap.perm_orderedInsert NotAfter (sendTime, pushed)).map
    Prod.snd
  rw [reordered.mem_iff, List.map_cons, List.mem_cons]

/-- A root that is queued is not queued again. -/
def push (queue : VoteQueue) (sendTime : Nat) (taggedRoot : TaggedRoot) :
    VoteQueue :=
  if queued : taggedRoot ∈ queue.queuedTaggedRootsSet then
    queue
  else
    { queuedTaggedRoots :=
        queue.queuedTaggedRoots.orderedInsert NotAfter (sendTime, taggedRoot)
      queuedTaggedRootsSet := insert taggedRoot queue.queuedTaggedRootsSet
      nodup := by
        have reordered := (queue.queuedTaggedRoots.perm_orderedInsert NotAfter
          (sendTime, taggedRoot)).map Prod.snd
        rw [reordered.nodup_iff, List.map_cons, List.nodup_cons]
        exact ⟨fun member => queued ((queue.mem_set_iff _).mpr member),
          queue.nodup⟩
      mem_set_iff := by
        intro other
        rw [Finset.mem_insert, queue.mem_set_iff, mem_orderedInsert_roots] }

/-- The root with the earliest time. -/
def peek (queue : VoteQueue) : Option (Nat × TaggedRoot) :=
  queue.queuedTaggedRoots.head?

/-- The queue without its first entry: the root leaves the set, then the
entry leaves the heap. -/
def removeFirst (queue : VoteQueue) (entry : Nat × TaggedRoot)
    (rest : List (Nat × TaggedRoot))
    (first : queue.queuedTaggedRoots = entry :: rest) : VoteQueue where
  queuedTaggedRoots := rest
  queuedTaggedRootsSet := queue.queuedTaggedRootsSet.erase entry.2
  nodup := by
    have nodup := queue.nodup
    rw [first, List.map_cons, List.nodup_cons] at nodup
    exact nodup.2
  mem_set_iff := by
    intro taggedRoot
    have nodup := queue.nodup
    rw [first, List.map_cons, List.nodup_cons] at nodup
    rw [Finset.mem_erase, queue.mem_set_iff, first, List.map_cons,
      List.mem_cons]
    constructor
    · intro ⟨different, member⟩
      exact member.resolve_left different
    · intro member
      refine ⟨?_, Or.inr member⟩
      intro same
      rw [same] at member
      exact nodup.1 member

/-- The popped root comes with the time it was queued for. -/
def pop (queue : VoteQueue) (now : Nat) :
    Option ((Nat × TaggedRoot) × VoteQueue) :=
  match first : queue.queuedTaggedRoots with
  | [] => none
  | (sendTime, taggedRoot) :: rest =>
      if now ≥ sendTime then
        some ((sendTime, taggedRoot),
          queue.removeFirst (sendTime, taggedRoot) rest first)
      else
        none

theorem pop_eq_some {queue rest : VoteQueue} {now sendTime : Nat}
    {taggedRoot : TaggedRoot}
    (popped : queue.pop now = some ((sendTime, taggedRoot), rest)) :
    queue.queuedTaggedRoots =
        (sendTime, taggedRoot) :: rest.queuedTaggedRoots ∧
      sendTime ≤ now := by
  unfold pop at popped
  split at popped
  · cases popped
  · rename_i first
    split at popped
    · rename_i due
      cases popped
      exact ⟨first, due⟩
    · cases popped

theorem length_push_le (queue : VoteQueue) (sendTime : Nat)
    (taggedRoot : TaggedRoot) :
    (queue.push sendTime taggedRoot).queuedTaggedRoots.length ≤
      queue.queuedTaggedRoots.length + 1 := by
  unfold push
  split
  · omega
  · exact Nat.le_of_eq (List.orderedInsert_length _ _ _)

end VoteQueue

/-! ### Worker, configuration and world -/

/-- What the worker is spawned with. -/
structure VoteToBlessConfig (LaneId : Type) where
  maxTaggedRootsPerVoteToBless : Nat
  inflightTime : Nat
  pollInterval : Nat
  laneIdByCommitStore : Address → Option LaneId
  mode : VotingMode

/-- The answer to each question, by its number.  Only the clock promises
anything: it never goes back. -/
structure VotingWorld (LaneId : Type) where
  now : Nat → Nat
  monotone : Monotone now
  isDone : Nat → Bool
  laneIsCursed : Nat → LaneId → Bool
  sendVoteToBless : Nat → List TaggedRoot → Bool

/-- A root that passed every check of the batching loop, with the time it was
queued for, its lane, and the numbers of the three questions asked about it:
the clock when it was popped, the clock when it was looked up among the roots
in flight, and the curse beacon. -/
structure Admission (LaneId : Type) where
  taggedRoot : TaggedRoot
  sendTime : Nat
  laneId : LaneId
  popped : Nat
  checked : Nat
  curseChecked : Nat

/-- What became of a batch. -/
inductive VoteOutcome where
  | sent
  | failed
  | notSent
deriving DecidableEq

/-- A batch that left the inner loop with a root in it: the votable roots of
its poll, what became of it, and the roots marked in flight afterwards, each
with the number of its clock reading. -/
structure VotedBatch (LaneId : Type) where
  votable : List TaggedRoot
  admissions : List (Admission LaneId)
  outcome : VoteOutcome
  marks : List (TaggedRoot × Nat)

/-- The roots that were sent. -/
def VotedBatch.batch {LaneId : Type} (vote : VotedBatch LaneId) :
    List TaggedRoot :=
  vote.admissions.map Admission.taggedRoot

/-- What the polls share.  The code keeps the queue and the roots in flight;
`votes` is the log of the batches. -/
structure VoteToBlessWorker (LaneId : Type) where
  queue : VoteQueue
  inflight : InflightRootCache
  asked : Nat
  votes : List (VotedBatch LaneId)

/-- What a poll fails with. -/
inductive VoteToBlessError where
  | noMatchingLane (taggedRoot : TaggedRoot)
  | sendVoteToBless
deriving DecidableEq

variable {LaneId : Type}

namespace VoteToBlessWorker

/-- The worker before its first poll. -/
def start (config : VoteToBlessConfig LaneId) : VoteToBlessWorker LaneId where
  queue := .empty
  inflight := .new config.inflightTime
  asked := 0
  votes := []

/-- Each question to the world has a number of its own. -/
def ask (worker : VoteToBlessWorker LaneId) : VoteToBlessWorker LaneId :=
  { worker with asked := worker.asked + 1 }

/-- `inflight.contains(tagged_root)`, which also prunes. -/
def isInflight (world : VotingWorld LaneId)
    (worker : VoteToBlessWorker LaneId) (taggedRoot : TaggedRoot) :
    Bool × VoteToBlessWorker LaneId :=
  let (isInflight, inflight) :=
    worker.inflight.contains (world.now worker.asked) taggedRoot
  (isInflight, ask { worker with inflight := inflight })

/-- The votable roots that are not in flight join the queue. -/
def enqueue (world : VotingWorld LaneId) (sendTime : Nat) :
    List TaggedRoot → VoteToBlessWorker LaneId → VoteToBlessWorker LaneId
  | [], worker => worker
  | taggedRoot :: votable, worker =>
      let (isInflight, worker) := worker.isInflight world taggedRoot
      enqueue world sendTime votable
        (if isInflight then worker
        else { worker with queue := worker.queue.push sendTime taggedRoot })

/-- `inflight.add(*tagged_root)`. -/
def mark (world : VotingWorld LaneId) (worker : VoteToBlessWorker LaneId)
    (taggedRoot : TaggedRoot) : VoteToBlessWorker LaneId :=
  let inflight := worker.inflight.add (world.now worker.asked) taggedRoot
  ask { worker with inflight := inflight }

/-- Every root of a batch is marked, each with its own clock reading. -/
def markInflight (world : VotingWorld LaneId) :
    List TaggedRoot → VoteToBlessWorker LaneId →
      VoteToBlessWorker LaneId × List (TaggedRoot × Nat)
  | [], worker => (worker, [])
  | taggedRoot :: batch, worker =>
      let (marked, marks) :=
        markInflight world batch (worker.mark world taggedRoot)
      (marked, (taggedRoot, worker.asked) :: marks)

end VoteToBlessWorker

/-! ### The batching loop -/

/-- The worker while it fills a batch. -/
structure Filling (LaneId : Type) where
  worker : VoteToBlessWorker LaneId
  batch : List (Admission LaneId)

/-- What a loop leaves with: the state and the error of a `bail!` or a `?`. -/
abbrev Left (State : Type) := State × Option VoteToBlessError

section Batching

variable (world : VotingWorld LaneId) (config : VoteToBlessConfig LaneId)
  (votable : List TaggedRoot)

/-- A popped root joins the batch when it is votable, not in flight and its
lane not cursed; `&&` asks each question only when the previous check passed. -/
def Filling.consider (filling : Filling LaneId) (sendTime : Nat)
    (taggedRoot : TaggedRoot) (laneId : LaneId) (popped : Nat) :
    Filling LaneId :=
  if taggedRoot ∈ votable then
    let (isInflight, checked) := filling.worker.isInflight world taggedRoot
    if isInflight then
      { filling with worker := checked }
    else if world.laneIsCursed checked.asked laneId then
      { filling with worker := checked.ask }
    else
      { worker := checked.ask
        batch := filling.batch ++
          [{ taggedRoot := taggedRoot
             sendTime := sendTime
             laneId := laneId
             popped := popped
             checked := filling.worker.asked
             curseChecked := checked.asked }] }
  else
    filling

/-- A turn of `while batch.len() < max_tagged_roots_per_vote_to_bless`. -/
def fillTurn (filling : Filling LaneId) :
    Turn (Filling LaneId) (Left (Filling LaneId)) :=
  if filling.batch.length < config.maxTaggedRootsPerVoteToBless then
    let popped := filling.worker.asked
    match filling.worker.queue.pop (world.now popped) with
    -- an empty heap is popped without a look at the clock, so that the number
    -- counted here may be one that nobody asked
    | none => .exit ({ filling with worker := filling.worker.ask }, none)
    | some ((sendTime, taggedRoot), queue) =>
        let worker := VoteToBlessWorker.ask
          { filling.worker with queue := queue }
        match config.laneIdByCommitStore taggedRoot.commitStore with
        | some laneId =>
            .next (Filling.consider world votable
              { filling with worker := worker } sendTime taggedRoot laneId
              popped)
        | none =>
            .exit ({ filling with worker := worker },
              some (.noMatchingLane taggedRoot))
  else
    .exit (filling, none)

/-- After a vote that did not fail every root of the batch is in flight. -/
def Filling.close (filling : Filling LaneId) (outcome : VoteOutcome) :
    VoteToBlessWorker LaneId :=
  let (marked, marks) := filling.worker.markInflight world
    (filling.batch.map Admission.taggedRoot)
  { marked with votes := marked.votes ++
      [{ votable := votable
         admissions := filling.batch
         outcome := outcome
         marks := marks }] }

/-- A batch whose vote could not be sent is lost. -/
def Filling.lose (filling : Filling LaneId) : VoteToBlessWorker LaneId :=
  { filling.worker with votes := filling.worker.votes ++
      [{ votable := votable
         admissions := filling.batch
         outcome := .failed
         marks := [] }] }

/-- Only two of the modes hand the batch to `send_vote_to_bless`. -/
def Filling.vote (filling : Filling LaneId) :
    Turn (VoteToBlessWorker LaneId) (Left (VoteToBlessWorker LaneId)) :=
  match config.mode with
  | .active | .unreliableRemote =>
      let asked := { filling with worker := filling.worker.ask }
      if world.sendVoteToBless filling.worker.asked
          (filling.batch.map Admission.taggedRoot) then
        .next (asked.close world votable .sent)
      else
        .exit (asked.lose votable, some .sendVoteToBless)
  | .dryRun | .passive => .next (filling.close world votable .notSent)

/-- A turn of `while !ctx.is_done()`. -/
def batchTurn (fuel : Nat) (worker : VoteToBlessWorker LaneId) :
    Option (Turn (VoteToBlessWorker LaneId)
      (Left (VoteToBlessWorker LaneId))) :=
  if world.isDone worker.asked then
    some (.exit (worker.ask, none))
  else
    match iterate (fun filling => some (fillTurn world config votable filling))
        fuel { worker := worker.ask, batch := [] } with
    | none => none
    | some (filling, some error) => some (.exit (filling.worker, some error))
    | some (filling, none) =>
        if filling.batch.isEmpty then
          some (.exit (filling.worker, none))
        else
          some (filling.vote world config votable)

end Batching

namespace VoteToBlessWorker

/-- The roots a poll finds votable are queued when a delay can be derived. -/
def queueVotable (world : VotingWorld LaneId) (votable : List TaggedRoot)
    (delay : Option Nat) (worker : VoteToBlessWorker LaneId) :
    VoteToBlessWorker LaneId :=
  match delay with
  | some delay =>
      enqueue world (world.now worker.asked + delay) votable worker.ask
  | none => worker

/-- The time a poll sleeps at its end. -/
def sleepTime (world : VotingWorld LaneId) (config : VoteToBlessConfig LaneId)
    (worker : VoteToBlessWorker LaneId) : VoteToBlessWorker LaneId × Nat :=
  match worker.queue.peek with
  | some (sendTime, _) =>
      (worker.ask, min config.pollInterval (sendTime - world.now worker.asked))
  | none => (worker, min config.pollInterval deltaStage)

/-- One call of the closure that `ctx.repeat` runs.  The state outlives an
error, since the next poll goes on with it. -/
def poll (world : VotingWorld LaneId) (config : VoteToBlessConfig LaneId)
    (fuel : Nat) (votable : List TaggedRoot) (delay : Option Nat)
    (worker : VoteToBlessWorker LaneId) :
    Option (VoteToBlessWorker LaneId × Except VoteToBlessError Nat) :=
  match iterate (batchTurn world config votable fuel) fuel
      (worker.queueVotable world votable delay) with
  | none => none
  | some (worker, some error) => some (worker, .error error)
  | some (worker, none) =>
      let (worker, sleep) := worker.sleepTime world config
      some (worker, .ok sleep)

/-- The workers some sequence of polls leads to. -/
inductive Reachable (world : VotingWorld LaneId)
    (config : VoteToBlessConfig LaneId) : VoteToBlessWorker LaneId → Prop where
  | start : Reachable world config (start config)
  | poll {worker after : VoteToBlessWorker LaneId} {fuel : Nat}
      {votable : List TaggedRoot} {delay : Option Nat}
      {result : Except VoteToBlessError Nat} :
      Reachable world config worker →
      worker.poll world config fuel votable delay = some (after, result) →
      Reachable world config after

end VoteToBlessWorker

end RiskManagement
