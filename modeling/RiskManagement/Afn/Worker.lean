import Mathlib.Algebra.Group.Nat.Defs
import RiskManagement.Library.Loops

/-!
# Workers and their threads

`Context::repeat` polls until it is cancelled and waits longer after each
error.  `ShutdownHandleGroup` tells which threads ended and joins each of them
once.  Durations are natural numbers of nanoseconds; the delays stay below
five minutes, where `saturating_mul` does not saturate.
-/

namespace RiskManagement

open Loops (Turn iterate iterate_invariant iterate_returns)

/-- `MIN_POLL_DELAY_AFTER_ERROR`, one second. -/
def minPollDelayAfterError : Nat := 1000000000

/-- `MAX_POLL_DELAY_AFTER_ERROR`, five minutes. -/
def maxPollDelayAfterError : Nat := 5 * 60 * 1000000000

/-- `DELAY_MULTIPLIER_AFTER_ERROR`. -/
def delayMultiplierAfterError : Nat := 2

/-- `Duration::MAX`. -/
def durationMax : Nat := (2 ^ 64 - 1) * 1000000000 + 999999999

/-- `Duration::saturating_mul`. -/
def durationSaturatingMul (duration factor : Nat) : Nat :=
  min (duration * factor) durationMax

/-! ### `Context::repeat` -/

/-- What `repeat` keeps between two polls.  `delays` is the log of its sleeps,
which is as long as the number of polls.  The source counts the errors in an
`i32`, which only its metrics and its log read. -/
structure Repetition (State : Type) where
  state : State
  nextPollDelay : Nat
  consecutiveErrors : Nat
  delays : List Nat

/-- `isDone` answers the first look at the flag and then each sleep; `poll` is
the closure, which sees what else there is at that time. -/
structure RepeatWorld (State Error : Type) where
  isDone : Nat → Bool
  poll : Nat → State → State × Except Error Unit

section Repeat

variable {State Error : Type} (world : RepeatWorld State Error)
  (minInterval : Nat)

/-- Grows with each error, between the two bounds. -/
def delayAfterError (nextPollDelay : Nat) : Nat :=
  min
    (max minPollDelayAfterError
      (durationSaturatingMul nextPollDelay delayMultiplierAfterError))
    maxPollDelayAfterError

namespace Repetition

variable (repetition : Repetition State)

/-- The body of `while !done`, up to the sleep. -/
def pollOnce : Repetition State :=
  let (state, pollResult) :=
    world.poll repetition.delays.length repetition.state
  match pollResult with
  | .ok () =>
      { state := state
        nextPollDelay := minInterval
        consecutiveErrors := 0
        delays := repetition.delays ++ [minInterval] }
  | .error _ =>
      let nextPollDelay := delayAfterError repetition.nextPollDelay
      { state := state
        nextPollDelay := nextPollDelay
        consecutiveErrors := repetition.consecutiveErrors + 1
        delays := repetition.delays ++ [nextPollDelay] }

def turn : Turn (Repetition State) (Repetition State) :=
  if world.isDone repetition.delays.length then .exit repetition
  else .next (repetition.pollOnce world minInterval)

def start (state : State) : Repetition State where
  state := state
  nextPollDelay := minInterval
  consecutiveErrors := 0
  delays := []

end Repetition

/-- `repeat`, which returns nothing but `Ok(())`.  The result is what it has
kept when it returns. -/
def contextRepeat (fuel : Nat) (state : State) : Option (Repetition State) :=
  iterate
    (fun repetition => some (Repetition.turn world minInterval repetition))
    fuel (Repetition.start minInterval state)

/-! ### What the delays are -/

/-- The delay after that many errors in a row. -/
def delayAfterErrors : Nat → Nat
  | 0 => minInterval
  | errors + 1 =>
      min (2 ^ errors * max minPollDelayAfterError (2 * minInterval))
        maxPollDelayAfterError

/-- What the closure keeps before the poll of that number. -/
def stateBefore (state : State) : Nat → State
  | 0 => state
  | number + 1 => (world.poll number (stateBefore state number)).1

/-- How many polls in a row have failed before the poll of that number. -/
def errorsBefore (state : State) : Nat → Nat
  | 0 => 0
  | number + 1 =>
      match (world.poll number (stateBefore world state number)).2 with
      | .ok () => 0
      | .error _ => errorsBefore state number + 1

end Repeat

theorem delayAfterError_eq (nextPollDelay : Nat) :
    delayAfterError nextPollDelay =
      min (max minPollDelayAfterError (2 * nextPollDelay))
        maxPollDelayAfterError := by
  simp only [delayAfterError, durationSaturatingMul, durationMax,
    minPollDelayAfterError, maxPollDelayAfterError,
    delayMultiplierAfterError]
  omega

/-- One more error doubles the delay, up to five minutes. -/
theorem delayAfterError_delayAfterErrors (minInterval errors : Nat) :
    delayAfterError (delayAfterErrors minInterval errors) =
      delayAfterErrors minInterval (errors + 1) := by
  rw [delayAfterError_eq]
  cases errors with
  | zero => simp [delayAfterErrors]
  | succ errors =>
      simp only [delayAfterErrors]
      have doubled : 2 ^ (errors + 1) *
          max minPollDelayAfterError (2 * minInterval) =
        2 * (2 ^ errors *
          max minPollDelayAfterError (2 * minInterval)) := by
        rw [pow_succ, Nat.mul_comm (2 ^ errors) 2, Nat.mul_assoc]
      have atLeast : minPollDelayAfterError ≤ 2 ^ errors *
          max minPollDelayAfterError (2 * minInterval) :=
        Nat.le_trans (Nat.le_max_left _ _)
          (Nat.le_mul_of_pos_left _ (Nat.two_pow_pos errors))
      rw [doubled]
      generalize 2 ^ errors *
        max minPollDelayAfterError (2 * minInterval) = delay at atLeast
      simp only [minPollDelayAfterError, maxPollDelayAfterError] at atLeast ⊢
      omega

/-- After ten errors in a row the delay is at its maximum. -/
theorem delayAfterErrors_saturates (minInterval : Nat) {errors : Nat}
    (many : 10 ≤ errors) :
    delayAfterErrors minInterval errors = maxPollDelayAfterError := by
  obtain ⟨more, rfl⟩ : ∃ more, errors = more + 9 + 1 :=
    ⟨errors - 10, by omega⟩
  apply Nat.min_eq_right
  have factor : 2 ^ 9 ≤ 2 ^ (more + 9) :=
    Nat.pow_le_pow_right (by omega) (by omega)
  calc maxPollDelayAfterError ≤ 2 ^ 9 * minPollDelayAfterError := by
        simp [maxPollDelayAfterError, minPollDelayAfterError]
    _ ≤ 2 ^ (more + 9) *
        max minPollDelayAfterError (2 * minInterval) :=
      Nat.mul_le_mul factor (Nat.le_max_left _ _)

section Runs

variable {State Error : Type} {world : RepeatWorld State Error}
  {minInterval : Nat} {state : State} {repetition : Repetition State}

/-- What `repeat` keeps is told by the number of its polls. -/
structure Repetition.Follows (world : RepeatWorld State Error)
    (minInterval : Nat) (state : State) (repetition : Repetition State) :
    Prop where
  kept : repetition.state =
    stateBefore world state repetition.delays.length
  errors : repetition.consecutiveErrors =
    errorsBefore world state repetition.delays.length
  delay : repetition.nextPollDelay =
    delayAfterErrors minInterval repetition.consecutiveErrors
  delays : repetition.delays =
    (List.range repetition.delays.length).map fun number =>
      delayAfterErrors minInterval (errorsBefore world state (number + 1))
  running : ∀ number < repetition.delays.length, world.isDone number = false

theorem Repetition.follows_start :
    (Repetition.start minInterval state).Follows world minInterval state where
  kept := rfl
  errors := rfl
  delay := rfl
  delays := rfl
  running := by simp [start]

theorem Repetition.Follows.pollOnce
    (follows : repetition.Follows world minInterval state)
    (notDone : world.isDone repetition.delays.length = false) :
    (repetition.pollOnce world minInterval).Follows world minInterval
      state := by
  have polledState : (world.poll repetition.delays.length
      repetition.state).1 =
        stateBefore world state (repetition.delays.length + 1) := by
    rw [stateBefore, ← follows.kept]
  have polledErrors :
      errorsBefore world state (repetition.delays.length + 1) =
        match (world.poll repetition.delays.length repetition.state).2 with
        | .ok () => 0
        | .error _ => repetition.consecutiveErrors + 1 := by
    rw [errorsBefore, ← follows.kept, ← follows.errors]
  have stillRunning : ∀ number < repetition.delays.length + 1,
      world.isDone number = false := by
    intro number isBefore
    rcases Nat.lt_succ_iff_lt_or_eq.mp isBefore with earlier | rfl
    · exact follows.running number earlier
    · exact notDone
  have grown (delay : Nat) (isDelay : delay = delayAfterErrors minInterval
      (errorsBefore world state (repetition.delays.length + 1))) :
      repetition.delays ++ [delay] =
        (List.range (repetition.delays.length + 1)).map fun number =>
          delayAfterErrors minInterval
            (errorsBefore world state (number + 1)) := by
    rw [List.range_succ, List.map_append, ← follows.delays, isDelay]
    rfl
  unfold Repetition.pollOnce
  generalize world.poll repetition.delays.length repetition.state = polled
    at polledState polledErrors
  obtain ⟨after, result⟩ := polled
  cases result with
  | ok _ =>
      simp only at polledState polledErrors ⊢
      constructor
      · simpa using polledState
      · simpa using polledErrors.symm
      · rfl
      · simp only [List.length_append, List.length_singleton]
        exact grown minInterval (by rw [polledErrors]; rfl)
      · simpa using stillRunning
  | error error =>
      simp only at polledState polledErrors ⊢
      have doubled : delayAfterError repetition.nextPollDelay =
          delayAfterErrors minInterval (repetition.consecutiveErrors + 1) := by
        rw [follows.delay, delayAfterError_delayAfterErrors]
      constructor
      · simpa using polledState
      · simpa using polledErrors.symm
      · exact doubled
      · simp only [List.length_append, List.length_singleton]
        apply grown
        rw [polledErrors, doubled]
      · simpa using stillRunning

/-- The invariant of the loop: it has not polled more often than until it was
cancelled. -/
theorem Repetition.Follows.turn {polls : Nat}
    (follows : repetition.Follows world minInterval state)
    (notMore : repetition.delays.length ≤ polls)
    (cancelled : world.isDone polls = true) :
    (repetition.turn world minInterval).Meets
      (fun after => (after.Follows world minInterval state ∧
          after.delays.length ≤ polls) ∧
        polls - after.delays.length < polls - repetition.delays.length)
      (fun left => left = repetition ∧
        world.isDone repetition.delays.length = true) := by
  unfold Repetition.turn
  split
  · rename_i isDone
    exact ⟨rfl, isDone⟩
  · rename_i notDone
    have isRunning : world.isDone repetition.delays.length = false :=
      Bool.eq_false_iff.mpr notDone
    have before : repetition.delays.length < polls := by
      apply Nat.lt_of_le_of_ne notMore
      intro same
      rw [same, cancelled] at isRunning
      cases isRunning
    have oneMore : (repetition.pollOnce world minInterval).delays.length =
        repetition.delays.length + 1 := by
      unfold Repetition.pollOnce
      generalize world.poll repetition.delays.length repetition.state = polled
      obtain ⟨after, result⟩ := polled
      cases result with
      | ok _ => simp
      | error _ => simp
    refine ⟨⟨follows.pollOnce isRunning, ?_⟩, ?_⟩
    · omega
    · omega

/-- A worker polls until the first time it finds itself cancelled, and sleeps
after each poll as its last errors in a row demand. -/
theorem repeat_until_cancelled (world : RepeatWorld State Error)
    (minInterval : Nat) (state : State) (fuel polls : Nat)
    (running : ∀ number < polls, world.isDone number = false)
    (cancelled : world.isDone polls = true) (enough : polls < fuel) :
    ∃ repetition, contextRepeat world minInterval fuel state =
        some repetition ∧
      repetition.state = stateBefore world state polls ∧
      repetition.consecutiveErrors = errorsBefore world state polls ∧
      repetition.delays = (List.range polls).map fun number =>
        delayAfterErrors minInterval
          (errorsBefore world state (number + 1)) := by
  have started : (Repetition.start minInterval state).Follows world
      minInterval state ∧
        (Repetition.start minInterval state).delays.length ≤ polls :=
    ⟨Repetition.follows_start, Nat.zero_le _⟩
  obtain ⟨repetition, returned⟩ : ∃ repetition,
      contextRepeat world minInterval fuel state = some repetition := by
    apply iterate_returns
      (fun repetition : Repetition State =>
        repetition.Follows world minInterval state ∧
          repetition.delays.length ≤ polls)
      (fun repetition => polls - repetition.delays.length) ?_ started
    · exact Nat.lt_of_le_of_lt (Nat.sub_le _ _) enough
    · intro repetition ⟨follows, notMore⟩
      exact ⟨_, rfl, (follows.turn notMore cancelled).imp
        (fun _ kept => kept) fun _ _ => trivial⟩
  refine ⟨repetition, returned, ?_⟩
  have left : repetition.Follows world minInterval state ∧
      repetition.delays.length ≤ polls ∧
        world.isDone repetition.delays.length = true := by
    refine iterate_invariant
      (fun repetition : Repetition State =>
        repetition.Follows world minInterval state ∧
          repetition.delays.length ≤ polls)
      (fun left => left.Follows world minInterval state ∧
        left.delays.length ≤ polls ∧
          world.isDone left.delays.length = true) ?_ started returned
    intro repetition turn kept turned
    rw [← Option.some.inj turned]
    apply (kept.1.turn kept.2 cancelled).imp
    · exact fun _ after => after.1
    · intro left ended
      rw [ended.1]
      exact ⟨kept.1, kept.2, ended.2⟩
  obtain ⟨follows, notMore, isDone⟩ := left
  have same : repetition.delays.length = polls := by
    apply Nat.le_antisymm notMore
    by_contra fewer
    rw [running _ (Nat.lt_of_not_le fewer)] at isDone
    cases isDone
  rw [← same]
  exact ⟨follows.kept, follows.errors, follows.delays⟩

/-- A worker that is cancelled in its third sleep and whose polls all fail. -/
def failingWorld : RepeatWorld Unit Unit where
  isDone number := number = 3
  poll _ _ := ((), .error ())

theorem repeat_until_cancelled_failing :
    ∃ repetition, contextRepeat failingWorld 1000000000 4 () =
        some repetition ∧
      repetition.delays = [2000000000, 4000000000, 8000000000] := by
  obtain ⟨repetition, returned, _, _, delays⟩ :=
    repeat_until_cancelled failingWorld 1000000000 () 4 3 (by decide) rfl
      (by decide)
  exact ⟨repetition, returned, delays.trans (by decide)⟩

end Runs

/-! ### Threads and their handles -/

/-- What `join` returns once the thread has ended. -/
inductive ThreadEnd where
  | ok
  | errored (error : String)
  | panicked (payload : String)
deriving DecidableEq

/-- The errors of `try_join`, one constructor for each text. -/
inductive JoinError where
  | alreadyJoined
  | panicked (payload : String)
  | errored (error : String)
deriving DecidableEq

/-- `joinHandle` is the number of the thread until it is taken. -/
structure ShutdownHandle where
  workerName : String
  joinHandle : Option Nat
deriving DecidableEq

/-- The threads of the program: which of them have ended by now, and how each
of them ends. -/
structure Threads where
  isFinished : Nat → Bool
  ends : Nat → ThreadEnd

namespace ShutdownHandle

def isFinished (threads : Threads) (handle : ShutdownHandle) : Bool :=
  (handle.joinHandle.map threads.isFinished).getD true

/-- The result of `try_join` and the handle it leaves. -/
def tryJoin (threads : Threads) (handle : ShutdownHandle) :
    Except JoinError Unit × ShutdownHandle :=
  match handle.joinHandle with
  | none => (.error .alreadyJoined, handle)
  | some thread =>
      (match threads.ends thread with
        | .panicked payload => .error (.panicked payload)
        | .errored error => .error (.errored error)
        | .ok => .ok (),
      { handle with joinHandle := none })

end ShutdownHandle

/-- Every handle whose thread has ended is joined. -/
def finishedWorkersAndResults (threads : Threads) :
    List ShutdownHandle →
      List (String × Except JoinError Unit) × List ShutdownHandle
  | [] => ([], [])
  | handle :: handles =>
      let (results, joined) := finishedWorkersAndResults threads handles
      if handle.isFinished threads then
        let (result, handle) := handle.tryJoin threads
        ((handle.workerName, result) :: results, handle :: joined)
      else
        (results, handle :: joined)

/-- The result that tells how a thread has ended. -/
def ThreadEnd.joinResult : ThreadEnd → Except JoinError Unit
  | .ok => .ok ()
  | .errored error => .error (.errored error)
  | .panicked payload => .error (.panicked payload)

/-- Each thread that has ended and was not joined, with the name of its worker
and how it ended. -/
def endedWorkers (threads : Threads) (handles : List ShutdownHandle) :
    List (String × Except JoinError Unit) :=
  handles.filterMap fun handle =>
    (handle.joinHandle.filter threads.isFinished).map fun thread =>
      (handle.workerName, (threads.ends thread).joinResult)

section Joining

variable {threads : Threads} {handles : List ShutdownHandle}

theorem ShutdownHandle.tryJoin_fresh {handle : ShutdownHandle}
    {thread : Nat} (isThread : handle.joinHandle = some thread) :
    handle.tryJoin threads = ((threads.ends thread).joinResult,
      { handle with joinHandle := none }) := by
  simp only [tryJoin, isThread]
  cases threads.ends thread with
  | ok => rfl
  | errored error => rfl
  | panicked payload => rfl

/-- Threads that were not joined before say how they ended. -/
theorem finishedWorkersAndResults_fresh
    (fresh : ∀ handle ∈ handles, handle.joinHandle.isSome = true) :
    (finishedWorkersAndResults threads handles).1 =
      endedWorkers threads handles := by
  induction handles with
  | nil => rfl
  | cons handle handles ih =>
      obtain ⟨isFresh, restFresh⟩ := List.forall_mem_cons.mp fresh
      obtain ⟨thread, isThread⟩ := Option.isSome_iff_exists.mp isFresh
      have rest := ih restFresh
      rw [endedWorkers] at rest ⊢
      by_cases finished : threads.isFinished thread = true
      · have isFinished : handle.isFinished threads = true := by
          simp [ShutdownHandle.isFinished, isThread, finished]
        simp [finishedWorkersAndResults, isFinished,
          ShutdownHandle.tryJoin_fresh isThread, rest, isThread, finished]
      · have isRunning : handle.isFinished threads = false := by
          simp [ShutdownHandle.isFinished, isThread, finished]
        simp [finishedWorkersAndResults, isRunning, rest, isThread, finished]

theorem mem_endedWorkers {entry : String × Except JoinError Unit}
    (member : entry ∈ endedWorkers threads handles) :
    entry.2 ≠ .error .alreadyJoined ∧
      ∃ handle ∈ handles, entry.1 = handle.workerName ∧
        handle.isFinished threads = true := by
  obtain ⟨handle, isListed, isEntry⟩ := List.mem_filterMap.mp member
  obtain ⟨thread, ended, rfl⟩ := Option.map_eq_some_iff.mp isEntry
  obtain ⟨isThread, isFinished⟩ := Option.filter_eq_some_iff.mp ended
  refine ⟨?_, handle, isListed, rfl, ?_⟩
  · cases how : threads.ends thread with
    | ok => simp [ThreadEnd.joinResult]
    | errored error => simp [ThreadEnd.joinResult]
    | panicked payload => simp [ThreadEnd.joinResult]
  · simp [ShutdownHandle.isFinished, isThread, isFinished]

theorem finishedWorkersAndResults_none
    (none : (finishedWorkersAndResults threads handles).1 = []) :
    (finishedWorkersAndResults threads handles).2 = handles := by
  induction handles with
  | nil => rfl
  | cons handle handles ih =>
      by_cases finished : handle.isFinished threads = true
      · simp [finishedWorkersAndResults, finished] at none
      · simp only [finishedWorkersAndResults, finished] at none ⊢
        exact congrArg (handle :: ·) (ih none)

end Joining
end RiskManagement
