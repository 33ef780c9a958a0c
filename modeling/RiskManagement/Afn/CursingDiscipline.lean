import RiskManagement.Afn.VoteToCurseWorker

/-!
# The cursing discipline

What a run of the worker and the beacon keeps to.  Nothing but anomalies that
the beacon holds is voted for, votes for one id are spaced, and a poll leaves
no due anomaly without a vote or a recent one.
-/

namespace RiskManagement

open Relation (ReflTransGen)

variable {world : CursingWorld} {config : VoteToCurseConfig}

/-- The mark that a vote left in the table. -/
def CurseVote.mark? (world : CursingWorld) (vote : CurseVote) :
    Option (CurseId × Nat) :=
  if vote.outcome = .sent then some (vote.curseId, world.now vote.voted)
  else none

theorem CurseVote.mark?_eq_some {vote : CurseVote} {curseId : CurseId}
    {now : Nat} (marked : vote.mark? world = some (curseId, now)) :
    vote.outcome = .sent ∧ vote.curseId = curseId ∧
      world.now vote.voted = now := by
  rw [mark?] at marked
  split at marked
  · rename_i isSent
    cases marked
    exact ⟨isSent, rfl, rfl⟩
  · cases marked

/-- What the vote is about. -/
def CurseVote.subject (vote : CurseVote) : CursableAnomaly × CurseId :=
  (vote.anomaly, vote.curseId)

/-- Only the mode in which the node is active hands a vote to the chain, and
only the remote one writes the file. -/
def CurseVoteOutcome.AllowedBy (config : VoteToCurseConfig) :
    CurseVoteOutcome → Prop
  | .tooRecent => True
  | .sent => config.mode = .active
  | .failed => config.mode = .active
  | .recorded => config.mode = .unreliableRemote ∧ config.hasCurseFile = true
  | .notSent => config.mode ≠ .active

/-- Where the sender was asked, under a number in the range, the outcome is its
answer. -/
def CurseVote.AnsweredWithin (world : CursingWorld) (first next : Nat)
    (vote : CurseVote) : Prop :=
  match vote.requested with
  | none => vote.outcome ≠ .sent ∧ vote.outcome ≠ .failed
  | some question => first ≤ question ∧ question < next ∧
      vote.outcome =
        if world.sendVoteToCurse question vote.curseId then .sent else .failed

theorem CurseVote.AnsweredWithin.widen {vote : CurseVote}
    {first next earlier later : Nat}
    (answered : vote.AnsweredWithin world first next)
    (before : earlier ≤ first) (behind : next ≤ later) :
    vote.AnsweredWithin world earlier later := by
  rw [AnsweredWithin] at answered ⊢
  cases requested : vote.requested with
  | none =>
      rw [requested] at answered
      exact answered
  | some question =>
      rw [requested] at answered
      obtain ⟨notBefore, inTime, answer⟩ := answered
      exact ⟨Nat.le_trans before notBefore, Nat.lt_of_lt_of_le inTime behind,
        answer⟩

/-- The later of two votes for one id was not due before the interval was
over, unless nothing came of it. -/
def CurseVote.Spaced (world : CursingWorld) (earlier later : CurseVote) :
    Prop :=
  earlier.outcome = .sent → later.curseId = earlier.curseId →
    later.outcome ≠ .tooRecent →
    world.now earlier.voted + voteToCurseSendIntervalPerCurseId ≤
      world.now later.checked

/-- A vote that was sent shortly before the clock reading of that number. -/
def CurseVote.RecentAt (world : CursingWorld) (curseId : CurseId)
    (checked : Nat) (vote : CurseVote) : Prop :=
  vote.outcome = .sent ∧ vote.curseId = curseId ∧ vote.voted < checked ∧
    world.now checked <
      world.now vote.voted + voteToCurseSendIntervalPerCurseId

namespace VoteToCurseWorker

/-- The invariant.  `Due` is what the beacon holds for the chain. -/
structure Sound (world : CursingWorld) (config : VoteToCurseConfig)
    (Due : CursableAnomaly → CurseId → Prop)
    (worker : VoteToCurseWorker) : Prop where
  due : ∀ vote ∈ worker.votes, Due vote.anomaly vote.curseId
  allowed : ∀ vote ∈ worker.votes, vote.outcome.AllowedBy config
  past : ∀ vote ∈ worker.votes, vote.outcome = .sent →
    vote.voted < worker.asked
  records : Cooldown.Records voteToCurseSendIntervalPerCurseId
    worker.doNotSendVoteForCurseIdUntil
    (worker.votes.filterMap (CurseVote.mark? world))
  spaced : worker.votes.Pairwise (CurseVote.Spaced world)
  explained : ∀ vote ∈ worker.votes, vote.outcome = .tooRecent →
    ∃ sent ∈ worker.votes, sent.RecentAt world vote.curseId vote.checked

variable {Due More : CursableAnomaly → CurseId → Prop}
  {worker : VoteToCurseWorker} {anomaly : CursableAnomaly} {curseId : CurseId}
  {checked : Nat}

theorem sound_start : start.Sound world config Due where
  due := by simp [start]
  allowed := by simp [start]
  past := by simp [start]
  records := Cooldown.records_empty
  spaced := List.Pairwise.nil
  explained := by simp [start]

theorem Sound.weaken (sound : worker.Sound world config Due)
    (grown : ∀ anomaly curseId, Due anomaly curseId → More anomaly curseId) :
    worker.Sound world config More :=
  { sound with
    due := fun vote member => grown _ _ (sound.due vote member) }

theorem Sound.ask (sound : worker.Sound world config Due) :
    worker.ask.Sound world config Due :=
  { sound with
    past := fun vote member isSent =>
      Nat.lt_succ_of_lt (sound.past vote member isSent) }

theorem Sound.explained_append (sound : worker.Sound world config Due)
    {vote : CurseVote}
    (explained : vote.outcome = .tooRecent →
      ∃ sent ∈ worker.votes, sent.RecentAt world vote.curseId vote.checked) :
    ∀ other ∈ worker.votes ++ [vote], other.outcome = .tooRecent →
      ∃ sent ∈ worker.votes ++ [vote],
        sent.RecentAt world other.curseId other.checked := by
  intro other member isTooRecent
  have known : ∃ sent ∈ worker.votes,
      sent.RecentAt world other.curseId other.checked := by
    rcases List.mem_append.mp member with old | new
    · exact sound.explained other old isTooRecent
    · cases List.mem_singleton.mp new
      exact explained isTooRecent
  obtain ⟨sent, isLogged, recent⟩ := known
  exact ⟨sent, List.mem_append_left _ isLogged, recent⟩

theorem Sound.log (sound : worker.Sound world config Due) {vote : CurseVote}
    (due : Due vote.anomaly vote.curseId)
    (allowed : vote.outcome.AllowedBy config) (notSent : vote.outcome ≠ .sent)
    (spaced : ∀ earlier ∈ worker.votes, earlier.Spaced world vote)
    (explained : vote.outcome = .tooRecent →
      ∃ sent ∈ worker.votes, sent.RecentAt world vote.curseId vote.checked) :
    (worker.log vote).Sound world config Due where
  due := by
    simp only [VoteToCurseWorker.log, List.forall_mem_append,
      List.forall_mem_singleton]
    exact ⟨sound.due, due⟩
  allowed := by
    simp only [VoteToCurseWorker.log, List.forall_mem_append,
      List.forall_mem_singleton]
    exact ⟨sound.allowed, allowed⟩
  past := by
    simp only [VoteToCurseWorker.log, List.forall_mem_append,
      List.forall_mem_singleton]
    exact ⟨sound.past, fun isSent => absurd isSent notSent⟩
  records := by
    have noMark : vote.mark? world = none := if_neg notSent
    simpa [VoteToCurseWorker.log, noMark] using sound.records
  spaced := by
    apply List.pairwise_append.mpr
    refine ⟨sound.spaced, List.pairwise_singleton _ _, ?_⟩
    simpa using spaced
  explained := sound.explained_append explained

theorem Sound.spaced_of_awake (sound : worker.Sound world config Due)
    (awake : worker.doNotSendVoteForCurseIdUntil.rests curseId
      (world.now checked) = false) (vote : CurseVote)
    (ofId : vote.curseId = curseId) (isChecked : vote.checked = checked) :
    ∀ earlier ∈ worker.votes, earlier.Spaced world vote := by
  intro earlier member isSent sameId _
  rw [isChecked]
  apply sound.records.apart awake
  apply List.mem_filterMap.mpr
  refine ⟨earlier, member, ?_⟩
  rw [CurseVote.mark?, if_pos isSent, ← sameId, ofId]

/-- A vote that was sent joins the log and leaves its mark. -/
theorem Sound.send (sound : worker.Sound world config Due) {marked : Nat}
    (due : Due anomaly curseId) (active : config.mode = .active)
    (awake : worker.doNotSendVoteForCurseIdUntil.rests curseId
      (world.now checked) = false)
    (later : checked ≤ marked) (asked : worker.asked ≤ marked)
    (requested : Option Nat) :
    Sound world config Due
      { doNotSendVoteForCurseIdUntil :=
          worker.doNotSendVoteForCurseIdUntil.mark
            voteToCurseSendIntervalPerCurseId curseId (world.now marked)
        asked := marked + 1
        votes := worker.votes ++
          [{ anomaly := anomaly
             curseId := curseId
             checked := checked
             outcome := .sent
             requested := requested
             voted := marked }] } where
  due := by
    simp only [List.forall_mem_append, List.forall_mem_singleton]
    exact ⟨sound.due, due⟩
  allowed := by
    simp only [List.forall_mem_append, List.forall_mem_singleton]
    exact ⟨sound.allowed, active⟩
  past := by
    simp only [List.forall_mem_append, List.forall_mem_singleton]
    refine ⟨?_, fun _ => Nat.lt_succ_self marked⟩
    intro vote member isSent
    have before := sound.past vote member isSent
    omega
  records := by
    have recorded := sound.records.mark awake (world.monotone later)
    simpa [CurseVote.mark?] using recorded
  spaced := by
    apply List.pairwise_append.mpr
    refine ⟨sound.spaced, List.pairwise_singleton _ _, ?_⟩
    simpa using sound.spaced_of_awake awake
      ⟨anomaly, curseId, checked, .sent, requested, marked⟩ rfl rfl
  explained := sound.explained_append nofun

/-- Whether the clock was asked or not, the answer is that of the table. -/
theorem votedTooRecently_spec (world : CursingWorld)
    (worker : VoteToCurseWorker) (curseId : CurseId) :
    (worker.votedTooRecently world curseId).1 =
        worker.doNotSendVoteForCurseIdUntil.rests curseId
          (world.now worker.asked) ∧
      ((worker.votedTooRecently world curseId).2 = worker ∨
        (worker.votedTooRecently world curseId).2 = worker.ask) := by
  rw [votedTooRecently, Cooldown.rests]
  cases worker.doNotSendVoteForCurseIdUntil.lookup curseId with
  | none => exact ⟨rfl, .inl rfl⟩
  | some doNotSendUntil => exact ⟨rfl, .inr rfl⟩

/-- All that one vote can do. -/
inductive VoteStep (world : CursingWorld) (config : VoteToCurseConfig)
    (worker : VoteToCurseWorker) (anomaly : CursableAnomaly)
    (curseId : CurseId) (checked : Nat) :
    VoteToCurseWorker × Except VoteToCurseError Unit → Prop where
  | notSent : config.mode ≠ .active →
      VoteStep world config worker anomaly curseId checked
        (worker.log ⟨anomaly, curseId, checked, .notSent, none, checked⟩,
          .ok ())
  | recorded : config.mode = .unreliableRemote → config.hasCurseFile = true →
      VoteStep world config worker anomaly curseId checked
        (worker.ask.log ⟨anomaly, curseId, checked, .recorded, none,
          worker.asked⟩, .ok ())
  | notRecorded : config.mode = .unreliableRemote →
      VoteStep world config worker anomaly curseId checked
        (worker.ask, .error .curseFile)
  | sent : config.mode = .active →
      world.sendVoteToCurse worker.asked curseId = true →
      VoteStep world config worker anomaly curseId checked
        ({ doNotSendVoteForCurseIdUntil :=
             worker.doNotSendVoteForCurseIdUntil.mark
               voteToCurseSendIntervalPerCurseId curseId
               (world.now (worker.asked + 1))
           asked := worker.asked + 1 + 1
           votes := worker.votes ++ [⟨anomaly, curseId, checked, .sent,
             some worker.asked, worker.asked + 1⟩] }, .ok ())
  | failed : config.mode = .active →
      world.sendVoteToCurse worker.asked curseId = false →
      VoteStep world config worker anomaly curseId checked
        (worker.ask.log ⟨anomaly, curseId, checked, .failed,
          some worker.asked, worker.asked⟩, .ok ())

theorem vote_step (world : CursingWorld) (config : VoteToCurseConfig)
    (worker : VoteToCurseWorker) (anomaly : CursableAnomaly)
    (curseId : CurseId) (checked : Nat) :
    VoteStep world config worker anomaly curseId checked
      (worker.vote world config anomaly curseId checked) := by
  unfold VoteToCurseWorker.vote
  cases mode : config.mode with
  | dryRun => exact .notSent (by simp [mode])
  | passive => exact .notSent (by simp [mode])
  | unreliableRemote =>
      simp only
      split
      · rename_i hasFile
        split
        · exact .recorded mode hasFile
        · exact .notRecorded mode
      · exact .notSent (by simp [mode])
  | active =>
      simp only
      split
      · rename_i accepted
        exact .sent mode accepted
      · rename_i refused
        exact .failed mode (Bool.eq_false_iff.mpr refused)

theorem Sound.vote (sound : worker.Sound world config Due)
    (due : Due anomaly curseId)
    (awake : worker.doNotSendVoteForCurseIdUntil.rests curseId
      (world.now checked) = false)
    (before : checked ≤ worker.asked) :
    (worker.vote world config anomaly curseId checked).1.Sound world config
      Due := by
  have step := vote_step world config worker anomaly curseId checked
  generalize worker.vote world config anomaly curseId checked = result at step
  have spaced (vote : CurseVote) (ofId : vote.curseId = curseId)
      (isChecked : vote.checked = checked) :
      ∀ earlier ∈ worker.votes, earlier.Spaced world vote :=
    sound.spaced_of_awake awake vote ofId isChecked
  cases step with
  | notSent notActive =>
      exact sound.log due notActive (by simp) (spaced _ rfl rfl) nofun
  | recorded mode hasFile =>
      exact sound.ask.log due ⟨mode, hasFile⟩ (by simp) (spaced _ rfl rfl)
        nofun
  | notRecorded _ => exact sound.ask
  | sent mode _ =>
      exact sound.send due mode awake (Nat.le_succ_of_le before)
        (Nat.le_succ _) (some worker.asked)
  | failed mode _ =>
      exact sound.ask.log due mode (by simp) (spaced _ rfl rfl) nofun

theorem Sound.consider (sound : worker.Sound world config Due)
    (due : Due anomaly curseId) :
    (worker.consider world config (anomaly, curseId)).1.Sound world config
      Due := by
  obtain ⟨answer, asking⟩ := votedTooRecently_spec world worker curseId
  unfold VoteToCurseWorker.consider
  generalize worker.votedTooRecently world curseId = asked at answer asking
  obtain ⟨tooRecently, checked⟩ := asked
  simp only at answer asking ⊢
  have kept : checked.Sound world config Due ∧
      checked.doNotSendVoteForCurseIdUntil =
        worker.doNotSendVoteForCurseIdUntil ∧
      checked.votes = worker.votes ∧ worker.asked ≤ checked.asked := by
    rcases asking with rfl | rfl
    · exact ⟨sound, rfl, rfl, Nat.le_refl _⟩
    · exact ⟨sound.ask, rfl, rfl, Nat.le_succ _⟩
  obtain ⟨checkedSound, sameTable, sameVotes, later⟩ := kept
  split
  · rename_i isTooRecent
    apply checkedSound.log
    · exact due
    · trivial
    · simp
    · intro earlier _ _ _ notSkipped
      exact absurd rfl notSkipped
    · intro _
      rw [isTooRecent] at answer
      obtain ⟨now, marked, early⟩ := sound.records.recent answer.symm
      obtain ⟨sent, member, isMark⟩ := List.mem_filterMap.mp marked
      obtain ⟨isSent, ofId, sentNow⟩ := CurseVote.mark?_eq_some isMark
      refine ⟨sent, sameVotes ▸ member, isSent, ofId,
        sound.past sent member isSent, ?_⟩
      rw [sentNow]
      exact early
  · rename_i isAwake
    apply checkedSound.vote due ?_ later
    rw [sameTable, ← answer]
    exact Bool.eq_false_iff.mpr isAwake

theorem Sound.poll {dues : List (CursableAnomaly × CurseId)}
    (sound : worker.Sound world config Due)
    (due : ∀ entry ∈ dues, Due entry.1 entry.2) :
    (worker.poll world config dues).1.Sound world config Due := by
  induction dues generalizing worker with
  | nil => exact sound
  | cons entry dues ih =>
      obtain ⟨isDue, restDue⟩ := List.forall_mem_cons.mp due
      have considered := sound.consider isDue
      rw [VoteToCurseWorker.poll]
      split
      · rename_i after returned
        rw [returned] at considered
        exact ih considered restDue
      · rename_i after error returned
        rw [returned] at considered
        exact considered

/-! ### What a poll adds to the log -/

/-- A step of the poll that ends well logs one vote, whose outcome is what the
sender answered in this step; only the curse file can end it otherwise. -/
structure Adds (world : CursingWorld) (config : VoteToCurseConfig)
    (worker after : VoteToCurseWorker) (dues : List (CursableAnomaly × CurseId))
    (result : Except VoteToCurseError Unit) (added : List CurseVote) :
    Prop where
  logged : after.votes = worker.votes ++ added
  later : worker.asked ≤ after.asked
  answered : ∀ vote ∈ added,
    vote.AnsweredWithin world worker.asked after.asked
  ended : (result = .ok () ∧ added.map CurseVote.subject = dues) ∨
    config.mode = .unreliableRemote ∧ result = .error .curseFile

theorem vote_adds (world : CursingWorld) (config : VoteToCurseConfig)
    (worker : VoteToCurseWorker) (anomaly : CursableAnomaly)
    (curseId : CurseId) (checked : Nat) :
    ∃ votes, worker.Adds world config
      (worker.vote world config anomaly curseId checked).1
      [(anomaly, curseId)]
      (worker.vote world config anomaly curseId checked).2 votes := by
  have step := vote_step world config worker anomaly curseId checked
  generalize worker.vote world config anomaly curseId checked = result at step
  cases step with
  | notSent _ =>
      refine ⟨_, rfl, Nat.le_refl _, ?_, .inl ⟨rfl, rfl⟩⟩
      simp [CurseVote.AnsweredWithin]
  | recorded _ _ =>
      refine ⟨_, rfl, Nat.le_succ _, ?_, .inl ⟨rfl, rfl⟩⟩
      simp [CurseVote.AnsweredWithin]
  | notRecorded mode =>
      exact ⟨[], (List.append_nil _).symm, Nat.le_succ _,
        List.forall_mem_nil _, .inr ⟨mode, rfl⟩⟩
  | sent _ accepted =>
      have later := Nat.lt_succ_of_lt (Nat.lt_succ_self worker.asked)
      refine ⟨_, rfl, Nat.le_of_lt later, ?_, .inl ⟨rfl, rfl⟩⟩
      rw [List.forall_mem_singleton]
      refine ⟨Nat.le_refl _, later, ?_⟩
      rw [accepted]
      rfl
  | failed _ refused =>
      refine ⟨_, rfl, Nat.le_succ _, ?_, .inl ⟨rfl, rfl⟩⟩
      rw [List.forall_mem_singleton]
      refine ⟨Nat.le_refl _, Nat.lt_succ_self _, ?_⟩
      rw [refused]
      rfl

theorem consider_adds (world : CursingWorld) (config : VoteToCurseConfig)
    (worker : VoteToCurseWorker) (due : CursableAnomaly × CurseId) :
    ∃ votes, worker.Adds world config (worker.consider world config due).1
      [due] (worker.consider world config due).2 votes := by
  have checked : (worker.votedTooRecently world due.2).2.votes =
        worker.votes ∧
      worker.asked ≤ (worker.votedTooRecently world due.2).2.asked := by
    rcases (votedTooRecently_spec world worker due.2).2 with same | same
    · rw [same]
      exact ⟨rfl, Nat.le_refl _⟩
    · rw [same]
      exact ⟨rfl, Nat.le_succ _⟩
  unfold VoteToCurseWorker.consider
  generalize worker.votedTooRecently world due.2 = asked at checked
  obtain ⟨tooRecently, checkedWorker⟩ := asked
  obtain ⟨sameVotes, later⟩ := checked
  simp only at sameVotes later ⊢
  split
  · refine ⟨[⟨due.1, due.2, worker.asked, .tooRecent, none, worker.asked⟩],
      ?_, later, ?_, .inl ⟨rfl, rfl⟩⟩
    · rw [log, sameVotes]
    · simp [CurseVote.AnsweredWithin]
  · obtain ⟨votes, adds⟩ := vote_adds world config checkedWorker due.1 due.2
      worker.asked
    refine ⟨votes, ?_, Nat.le_trans later adds.later, ?_, adds.ended⟩
    · rw [adds.logged, sameVotes]
    · intro vote member
      exact (adds.answered vote member).widen later (Nat.le_refl _)

/-- A poll that ends well has one vote for each entry, in their order. -/
theorem poll_adds (world : CursingWorld) (config : VoteToCurseConfig)
    (dues : List (CursableAnomaly × CurseId)) (worker : VoteToCurseWorker) :
    ∃ votes, worker.Adds world config (worker.poll world config dues).1 dues
      (worker.poll world config dues).2 votes := by
  induction dues generalizing worker with
  | nil =>
      exact ⟨[], (List.append_nil _).symm, Nat.le_refl _, by simp,
        .inl ⟨rfl, rfl⟩⟩
  | cons due dues ih =>
      rw [VoteToCurseWorker.poll]
      obtain ⟨votes, adds⟩ := consider_adds world config worker due
      generalize worker.consider world config due = considered at adds
      obtain ⟨after, result⟩ := considered
      cases result with
      | error error =>
          rcases adds.ended with ⟨isOk, _⟩ | failed
          · cases isOk
          · exact ⟨votes, adds.logged, adds.later, adds.answered, .inr failed⟩
      | ok done =>
          rcases adds.ended with ⟨_, subjects⟩ | ⟨_, failed⟩
          · obtain ⟨more, rest⟩ := ih after
            refine ⟨votes ++ more, ?_, Nat.le_trans adds.later rest.later, ?_,
              ?_⟩
            · rw [rest.logged, adds.logged, List.append_assoc]
            · intro vote member
              rcases List.mem_append.mp member with now | later
              · exact (adds.answered vote now).widen (Nat.le_refl _)
                  rest.later
              · exact (rest.answered vote later).widen adds.later
                  (Nat.le_refl _)
            · refine rest.ended.imp (fun ended => ⟨ended.1, ?_⟩) id
              rw [List.map_append, subjects, ended.2, List.singleton_append]
          · cases failed

end VoteToCurseWorker

/-! ### Runs -/

namespace CurseVoting

variable {started : CurseBeacon} {system later : CurseVoting}

/-- What the beacon holds for the chain of the worker. -/
def Due (config : VoteToCurseConfig) (beacon : CurseBeacon)
    (anomaly : CursableAnomaly) (curseId : CurseId) : Prop :=
  beacon.cursableAnomalies.lookup anomaly = some curseId ∧
    anomaly.chainIsCursed config.chainName = true

theorem Step.sound (step : Step world config system later)
    (sound : system.worker.Sound world config (Due config system.beacon)) :
    later.worker.Sound world config (Due config later.beacon) := by
  cases step with
  | update view =>
      apply sound.weaken
      intro anomaly curseId due
      exact ⟨CurseBeacon.update_extends _ view anomaly curseId due.1, due.2⟩
  | poll =>
      apply sound.poll
      intro entry member
      exact CurseBeacon.mem_getAnomaliesAndCurseIdsForChain.mp member

theorem Reachable.sound (reached : Reachable world config started system) :
    system.worker.Sound world config (Due config system.beacon) := by
  induction reached with
  | refl => exact VoteToCurseWorker.sound_start
  | tail _ step ih => exact step.sound ih

theorem run_due (run : ReflTransGen (Step world config) system later)
    {anomaly : CursableAnomaly} {curseId : CurseId}
    (due : Due config system.beacon anomaly curseId) :
    Due config later.beacon anomaly curseId := by
  induction run with
  | refl => exact due
  | tail _ step ih =>
      cases step with
      | update view =>
          exact ⟨CurseBeacon.update_extends _ view anomaly curseId ih.1, ih.2⟩
      | poll => exact ih

/-- Over any run, a vote is for an anomaly that the beacon holds with that id
and that curses the chain, and is made in a mode that allows it.  Votes for
one id are sent at least the interval apart, and one is held back only when
another was sent within the interval. -/
theorem curse_votes_are_disciplined
    (reached : Reachable world config started system) :
    (∀ vote ∈ system.worker.votes,
        system.beacon.cursableAnomalies.lookup vote.anomaly =
            some vote.curseId ∧
          vote.anomaly.chainIsCursed config.chainName = true ∧
          vote.outcome.AllowedBy config) ∧
      system.worker.votes.Pairwise (CurseVote.Spaced world) ∧
      ∀ vote ∈ system.worker.votes, vote.outcome = .tooRecent →
        ∃ sent ∈ system.worker.votes,
          sent.RecentAt world vote.curseId vote.checked := by
  have sound := reached.sound
  refine ⟨?_, sound.spaced, sound.explained⟩
  intro vote member
  have due := sound.due vote member
  exact ⟨due.1, due.2, sound.allowed vote member⟩

/-- A clock that ticks at each question, and a chain that takes every vote. -/
def tickingWorld : CursingWorld where
  now asked := 60 + asked
  monotone := fun _ _ later => Nat.add_le_add_left later 60
  sendVoteToCurse _ _ := true
  writeCurseFile _ _ := true

def activeConfig : VoteToCurseConfig where
  chainName := .sepolia
  mode := .active
  hasCurseFile := false

/-- The node is started with a manual curse. -/
def manuallyCursed : CurseVoting where
  beacon := CurseBeacon.new [] [] ∅ (some (SizedBytes.replicate 32 1))
    fun _ => SizedBytes.replicate 32 0
  worker := .start

/-- After the poll that votes. -/
def polledOnce : CurseVoting :=
  { manuallyCursed with
    worker := (manuallyCursed.poll tickingWorld activeConfig).1 }

/-- After a poll that finds the vote too recent. -/
def polledTwice : CurseVoting :=
  { polledOnce with worker := (polledOnce.poll tickingWorld activeConfig).1 }

theorem curse_votes_are_disciplined_polledTwice :
    polledTwice.worker.votes.map CurseVote.outcome = [.sent, .tooRecent] ∧
      polledTwice.worker.votes.Pairwise (CurseVote.Spaced tickingWorld) := by
  have reached : Reachable tickingWorld activeConfig manuallyCursed.beacon
      polledTwice := .tail (.single (.poll manuallyCursed)) (.poll polledOnce)
  exact ⟨by decide, (curse_votes_are_disciplined reached).2.1⟩

/-- The node does not give up.  Once the beacon holds an anomaly that curses
the chain, every later poll of an active worker asks the sender for a vote for
its id, unless a vote for the id was sent within the interval.  A vote is logged
as sent when the sender was asked for it in this poll and accepted, and as
failed when it refused. -/
theorem due_curse_is_voted_for_in_every_poll
    (reached : Reachable world config started system)
    {anomaly : CursableAnomaly} {curseId : CurseId}
    (found : system.beacon.cursableAnomalies.lookup anomaly = some curseId)
    (cursed : anomaly.chainIsCursed config.chainName = true)
    (run : ReflTransGen (Step world config) system later)
    (active : config.mode = .active) :
    (later.poll world config).2 = .ok () ∧
      ∃ votes, (later.poll world config).1.votes =
          later.worker.votes ++ votes ∧
        (∀ vote ∈ votes, vote.AnsweredWithin world later.worker.asked
          (later.poll world config).1.asked) ∧
        ∃ vote ∈ votes, vote.anomaly = anomaly ∧ vote.curseId = curseId ∧
          (vote.requested.isSome ∨ vote.outcome = .tooRecent ∧
            ∃ sent ∈ (later.poll world config).1.votes,
              sent.RecentAt world curseId vote.checked) := by
  have polled : Reachable world config started
      { later with worker := (later.poll world config).1 } :=
    (reached.trans run).tail (.poll later)
  have sound := polled.sound
  have due : (anomaly, curseId) ∈ later.due config :=
    CurseBeacon.mem_getAnomaliesAndCurseIdsForChain.mpr
      (run_due run ⟨found, cursed⟩)
  obtain ⟨votes, adds⟩ := VoteToCurseWorker.poll_adds world config
    (later.due config) later.worker
  rcases adds.ended with ⟨isOk, subjects⟩ | ⟨remote, _⟩
  · refine ⟨isOk, votes, adds.logged, adds.answered, ?_⟩
    rw [← subjects] at due
    obtain ⟨vote, member, isSubject⟩ := List.mem_map.mp due
    obtain ⟨isAnomaly, isId⟩ := Prod.mk.inj isSubject
    refine ⟨vote, member, isAnomaly, isId, ?_⟩
    have logged : vote ∈ (later.poll world config).1.votes := by
      rw [CurseVoting.poll, adds.logged]
      exact List.mem_append_right _ member
    have allowed := sound.allowed vote logged
    have answered := adds.answered vote member
    rw [CurseVote.AnsweredWithin] at answered
    cases requested : vote.requested with
    | some question => exact .inl rfl
    | none =>
        rw [requested] at answered
        cases outcome : vote.outcome with
        | sent => exact absurd outcome answered.1
        | failed => exact absurd outcome answered.2
        | tooRecent =>
            refine .inr ⟨rfl, ?_⟩
            rw [← isId]
            exact sound.explained vote logged outcome
        | recorded =>
            rw [outcome, CurseVoteOutcome.AllowedBy, active] at allowed
            exact absurd allowed.1 (by simp)
        | notSent =>
            rw [outcome, CurseVoteOutcome.AllowedBy, active] at allowed
            exact absurd rfl allowed
  · rw [active] at remote
    cases remote

/-- A chain that refuses every vote. -/
def refusingWorld : CursingWorld :=
  { tickingWorld with sendVoteToCurse := fun _ _ => false }

/-- The first poll sends the vote, and where the chain refuses it, the next
poll asks for it again. -/
theorem due_curse_is_voted_for_in_every_poll_polledOnce :
    (manuallyCursed.poll tickingWorld activeConfig).1.votes.map
        (fun vote => (vote.outcome, vote.requested)) = [(.sent, some 0)] ∧
      ((manuallyCursed.poll refusingWorld activeConfig).1.votes.map
        (fun vote => (vote.outcome, vote.requested)) =
          [(.failed, some 0)]) ∧
      ∃ votes, (polledOnce.poll tickingWorld activeConfig).1.votes =
          polledOnce.worker.votes ++ votes ∧
        (∀ vote ∈ votes, vote.AnsweredWithin tickingWorld
          polledOnce.worker.asked
            (polledOnce.poll tickingWorld activeConfig).1.asked) ∧
        ∃ vote ∈ votes,
          vote.anomaly = .manualCurse (SizedBytes.replicate 32 1) ∧
          vote.curseId = SizedBytes.replicate 32 1 ∧
          (vote.requested.isSome ∨ vote.outcome = .tooRecent ∧
            ∃ sent ∈ (polledOnce.poll tickingWorld activeConfig).1.votes,
              sent.RecentAt tickingWorld (SizedBytes.replicate 32 1)
                vote.checked) := by
  have isManual : manuallyCursed.beacon.cursableAnomalies.lookup
      (.manualCurse (SizedBytes.replicate 32 1)) =
        some (SizedBytes.replicate 32 1) :=
    CurseBeacon.new_lookup_manualCurse _
  exact ⟨by decide, by decide,
    (due_curse_is_voted_for_in_every_poll .refl isManual rfl
      (.single (.poll manuallyCursed)) rfl).2⟩

end CurseVoting
end RiskManagement
