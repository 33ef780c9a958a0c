import Mathlib.Order.Monotone.Basic
import RiskManagement.Library.Cooldown
import RiskManagement.Afn.CurseBeacon
import RiskManagement.Afn.VoteToBlessWorker

/-!
# The worker that votes to curse

Each chain has one such worker.  A poll goes through the anomalies that curse
the chain and votes for the id of each, unless a vote for that id was sent too
recently.  As with the votes to bless, the clock, the transaction sender and
the curse file belong to the world, which is asked one question after the
other.  The beacon is updated by another thread between any two polls; a poll
works on the copy it takes when it starts.
-/

namespace RiskManagement

open Relation (ReflTransGen)

/-- `VOTE_TO_CURSE_SEND_INTERVAL_PER_CURSE_ID`, in nanoseconds. -/
def voteToCurseSendIntervalPerCurseId : Nat := 30 * 1000000000

/-- What the worker is spawned with. -/
structure VoteToCurseConfig where
  chainName : ChainName
  mode : VotingMode
  hasCurseFile : Bool

/-- The answer to each question, by its number.  `writeCurseFile` stands for
the write and the flush. -/
structure CursingWorld where
  now : Nat → Nat
  monotone : Monotone now
  sendVoteToCurse : Nat → CurseId → Bool
  writeCurseFile : Nat → CursableAnomaly → Bool

/-- What became of an anomaly that a poll has looked at. -/
inductive CurseVoteOutcome where
  | tooRecent
  | sent
  | failed
  | recorded
  | notSent
deriving DecidableEq

/-- What became of one anomaly in one poll.  The clock is read under the
number `checked` if there was a vote for the id before, and under the number
`voted` once a vote is sent.  The sender is asked under the number
`requested`. -/
structure CurseVote where
  anomaly : CursableAnomaly
  curseId : CurseId
  checked : Nat
  outcome : CurseVoteOutcome
  requested : Option Nat
  voted : Nat
deriving DecidableEq

/-- What the polls share.  The code keeps the table; `votes` is the log. -/
structure VoteToCurseWorker where
  doNotSendVoteForCurseIdUntil : Cooldown CurseId
  asked : Nat
  votes : List CurseVote

/-- What a poll fails with. -/
inductive VoteToCurseError where
  | curseFile
deriving DecidableEq

namespace VoteToCurseWorker

/-- The worker before its first poll. -/
def start : VoteToCurseWorker where
  doNotSendVoteForCurseIdUntil := ∅
  asked := 0
  votes := []

def ask (worker : VoteToCurseWorker) : VoteToCurseWorker :=
  { worker with asked := worker.asked + 1 }

def log (worker : VoteToCurseWorker) (vote : CurseVote) :
    VoteToCurseWorker :=
  { worker with votes := worker.votes ++ [vote] }

section Polling

variable (world : CursingWorld) (config : VoteToCurseConfig)

/-- `Instant::now() < *do_not_send_until`, asked only of an id that is in the
table. -/
def votedTooRecently (worker : VoteToCurseWorker) (curseId : CurseId) :
    Bool × VoteToCurseWorker :=
  match worker.doNotSendVoteForCurseIdUntil.lookup curseId with
  | none => (false, worker)
  | some doNotSendUntil =>
      (world.now worker.asked < doNotSendUntil, worker.ask)

/-- The `match mode`. -/
def vote (worker : VoteToCurseWorker) (anomaly : CursableAnomaly)
    (curseId : CurseId) (checked : Nat) :
    VoteToCurseWorker × Except VoteToCurseError Unit :=
  let logged (worker : VoteToCurseWorker) (outcome : CurseVoteOutcome)
      (requested : Option Nat) (voted : Nat) :
      VoteToCurseWorker × Except VoteToCurseError Unit :=
    (worker.log
      { anomaly := anomaly
        curseId := curseId
        checked := checked
        outcome := outcome
        requested := requested
        voted := voted }, .ok ())
  match config.mode with
  | .dryRun | .passive => logged worker .notSent none checked
  | .unreliableRemote =>
      if config.hasCurseFile then
        if world.writeCurseFile worker.asked anomaly then
          logged worker.ask .recorded none worker.asked
        else
          (worker.ask, .error .curseFile)
      else
        logged worker .notSent none checked
  | .active =>
      if world.sendVoteToCurse worker.asked curseId then
        let marked := worker.ask
        logged
          { marked.ask with
            doNotSendVoteForCurseIdUntil :=
              marked.doNotSendVoteForCurseIdUntil.mark
                voteToCurseSendIntervalPerCurseId curseId
                (world.now marked.asked) }
          .sent (some worker.asked) marked.asked
      else
        logged worker.ask .failed (some worker.asked) worker.asked

/-- One turn of the loop over the anomalies. -/
def consider (worker : VoteToCurseWorker)
    (due : CursableAnomaly × CurseId) :
    VoteToCurseWorker × Except VoteToCurseError Unit :=
  let (tooRecently, checked) := worker.votedTooRecently world due.2
  if tooRecently then
    (checked.log
      { anomaly := due.1
        curseId := due.2
        checked := worker.asked
        outcome := .tooRecent
        requested := none
        voted := worker.asked }, .ok ())
  else
    checked.vote world config due.1 due.2 worker.asked

/-- One call of the closure that `ctx.repeat` runs, on what
`get_anomalies_and_curse_ids_for_chain` returned.  A `?` leaves the poll, and
the anomalies behind it wait for the next one. -/
def poll : List (CursableAnomaly × CurseId) → VoteToCurseWorker →
    VoteToCurseWorker × Except VoteToCurseError Unit
  | [], worker => (worker, .ok ())
  | due :: dues, worker =>
      match worker.consider world config due with
      | (considered, .ok ()) => poll dues considered
      | (considered, .error error) => (considered, .error error)

end Polling
end VoteToCurseWorker

/-! ### The worker beside the beacon -/

/-- The worker next to the beacon that it reads. -/
structure CurseVoting where
  beacon : CurseBeacon
  worker : VoteToCurseWorker

namespace CurseVoting

section System

variable (world : CursingWorld) (config : VoteToCurseConfig)

/-- What a poll has to go through. -/
def due (system : CurseVoting) : List (CursableAnomaly × CurseId) :=
  system.beacon.getAnomaliesAndCurseIdsForChain config.chainName

def poll (system : CurseVoting) :
    VoteToCurseWorker × Except VoteToCurseError Unit :=
  system.worker.poll world config (system.due config)

/-- The monitor updates the beacon, or the worker polls. -/
inductive Step : CurseVoting → CurseVoting → Prop where
  | update (system : CurseVoting) (view : BeaconView) :
      Step system { system with beacon := system.beacon.update view }
  | poll (system : CurseVoting) :
      Step system { system with worker := (system.poll world config).1 }

/-- A run from a beacon that was just made. -/
def Reachable (started : CurseBeacon) (system : CurseVoting) : Prop :=
  ReflTransGen (Step world config) ⟨started, .start⟩ system

end System
end CurseVoting
end RiskManagement
