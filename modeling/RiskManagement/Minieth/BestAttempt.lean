import RiskManagement.Library.BestOf
import RiskManagement.Minieth.JsonRpc

/-!
# The best attempt wins

The loop keeps the best result of its attempts.  What it returns is read off
the attempts it has made, and so is when it may go on.
-/

namespace RiskManagement

theorem betterJsonrpcBatchResult_eq (older newer : BatchResult) :
    betterJsonrpcBatchResult older newer =
      BestOf.better countPotentiallyFaultyResponses older newer := by
  cases older <;> cases newer <;> rfl

namespace JsonRpc

open Loops

variable {fromSlice : FromSlice} {servers : Nat} {calls : List Call}

/-! ### One more attempt -/

theorem callLoop_append_singleton (state : CallState)
    (attempts : List Attempt) (last : Attempt) :
    callLoop fromSlice servers calls state (attempts ++ [last]) =
      match callLoop fromSlice servers calls state attempts with
      | .exit result => .exit result
      | .next state => turn fromSlice servers calls state last := by
  induction attempts generalizing state with
  | nil =>
      simp only [List.nil_append, callLoop]
      cases turn fromSlice servers calls state last <;> rfl
  | cons attempt attempts ih =>
      simp only [List.cons_append, callLoop]
      cases turn fromSlice servers calls state attempt with
      | exit result => rfl
      | next state => exact ih state

theorem next_of_callLoop_cons {start state : CallState} {attempt : Attempt}
    {attempts : List Attempt}
    (running : callLoop fromSlice servers calls start (attempt :: attempts) =
      .next state) :
    ∃ middle, turn fromSlice servers calls start attempt = .next middle ∧
      callLoop fromSlice servers calls middle attempts = .next state := by
  rw [callLoop] at running
  cases turned : turn fromSlice servers calls start attempt with
  | exit result =>
      rw [turned] at running
      cases running
  | next middle =>
      rw [turned] at running
      exact ⟨middle, rfl, running⟩

/-- The attempts that the loop makes, each with the server that it asks. -/
def sent (fromSlice : FromSlice) (servers : Nat) (calls : List Call) :
    CallState → List Attempt → List (Nat × Attempt)
  | _, [] => []
  | state, attempt :: attempts =>
      (state.serverId, attempt) ::
        match turn fromSlice servers calls state attempt with
        | .exit _ => []
        | .next state => sent fromSlice servers calls state attempts

theorem sent_of_next {start state : CallState} {attempts : List Attempt}
    (running : callLoop fromSlice servers calls start attempts = .next state) :
    (sent fromSlice servers calls start attempts).map Prod.snd = attempts := by
  induction attempts generalizing start with
  | nil => rfl
  | cons attempt attempts ih =>
      obtain ⟨middle, turned, rest⟩ := next_of_callLoop_cons running
      rw [sent, List.map_cons, turned]
      simp only
      rw [ih rest]

theorem sent_append {start state : CallState} {attempts : List Attempt}
    (running : callLoop fromSlice servers calls start attempts = .next state)
    (later : List Attempt) :
    sent fromSlice servers calls start (attempts ++ later) =
      sent fromSlice servers calls start attempts ++
        sent fromSlice servers calls state later := by
  induction attempts generalizing start with
  | nil =>
      cases running
      rfl
  | cons attempt attempts ih =>
      obtain ⟨middle, turned, rest⟩ := next_of_callLoop_cons running
      rw [List.cons_append, sent, sent, List.cons_append, turned]
      simp only
      rw [ih rest]

theorem sent_of_exit {start : CallState} {attempts : List Attempt}
    {result : LoopResult}
    (ended : callLoop fromSlice servers calls start attempts = .exit result)
    (later : List Attempt) :
    sent fromSlice servers calls start (attempts ++ later) =
      sent fromSlice servers calls start attempts := by
  induction attempts generalizing start with
  | nil => cases ended
  | cons attempt attempts ih =>
      rw [callLoop] at ended
      rw [List.cons_append, sent, sent]
      cases turned : turn fromSlice servers calls start attempt with
      | exit result => rfl
      | next middle =>
          rw [turned] at ended
          simp only
          rw [ih ended]

theorem sent_isPrefix (start : CallState) (attempts : List Attempt) :
    (sent fromSlice servers calls start attempts).map Prod.snd <+:
      attempts := by
  induction attempts generalizing start with
  | nil => exact List.prefix_rfl
  | cons attempt attempts ih =>
      rw [sent, List.map_cons, List.cons_prefix_cons]
      refine ⟨rfl, ?_⟩
      cases turn fromSlice servers calls start attempt with
      | exit result => exact List.nil_prefix
      | next middle => exact ih middle

/-- What the attempts gave, in order. -/
def outcomes (fromSlice : FromSlice) (calls : List Call)
    (attempts : List Attempt) : List BatchResult :=
  attempts.map (Attempt.batchResult fromSlice calls)

def bestOutcome (fromSlice : FromSlice) (calls : List Call)
    (attempts : List Attempt) : BatchResult :=
  BestOf.best countPotentiallyFaultyResponses .incompleteBatch
    (outcomes fromSlice calls attempts)

theorem bestOutcome_append_singleton (attempts : List Attempt)
    (last : Attempt) :
    bestOutcome fromSlice calls (attempts ++ [last]) =
      betterJsonrpcBatchResult (bestOutcome fromSlice calls attempts)
        (last.batchResult fromSlice calls) := by
  rw [bestOutcome, outcomes, List.map_append, List.map_singleton,
    BestOf.best_append_singleton, betterJsonrpcBatchResult_eq]
  rfl

/-- What the state of a loop that goes on says about its attempts. -/
structure Continues (fromSlice : FromSlice) (servers : Nat)
    (calls : List Call) (serverId : Nat) (attempts : List Attempt)
    (state : CallState) : Prop where
  best : state.best = bestOutcome fromSlice calls attempts
  counted : state.i = attempts.length + 1
  rotated : serverId < servers →
    state.serverId = (serverId + attempts.length) % servers
  faulty : ∀ responses, state.best = .ok responses →
    0 < countPotentiallyFaultyResponses responses ∧
      attempts.length < servers

/-- How a loop that returns at its last attempt has come to that. -/
structure ReturnsAt (fromSlice : FromSlice) (servers : Nat)
    (calls : List Call) (attempts : List Attempt) (last : Attempt)
    (result : LoopResult) : Prop where
  best : result.map Prod.fst =
    bestOutcome fromSlice calls (attempts ++ [last])
  exhausted : ∀ error, result = .error error →
    servers ≤ attempts.length + 1 ∧ minRetries ≤ attempts.length + 1 ∧
      minWait ≤ last.elapsed

theorem continues_start (serverId : Nat) :
    Continues fromSlice servers calls serverId [] (.start serverId) := by
  constructor
  · rfl
  · rfl
  · intro inside
    exact (Nat.mod_eq_of_lt inside).symm
  · intro responses isBest
    cases isBest

theorem exhaustedRetries_iff {state : CallState} {attempt : Attempt} :
    exhaustedRetries servers state attempt = true ↔
      servers ≤ state.i ∧ minRetries ≤ state.i ∧
        minWait ≤ attempt.elapsed := by
  simp [exhaustedRetries, triedAllServers, and_assoc]

/-- The loop goes on only without a success that is good enough. -/
theorem good_of_not_stops {state : CallState} {attempt : Attempt}
    {responses : List JsonRpcResponse}
    (goesOn : stops servers state attempt (.ok responses) = false) :
    0 < countPotentiallyFaultyResponses responses ∧ state.i < servers := by
  simp only [stops, triedAllServers, Bool.or_eq_false_iff,
    decide_eq_false_iff_not] at goesOn
  obtain ⟨_, faulty, notAll⟩ := goesOn
  exact ⟨Nat.pos_of_ne_zero faulty, Nat.lt_of_not_le notAll⟩

theorem exhausted_of_stops {state : CallState} {attempt : Attempt}
    {error : JsonRpcError}
    (ends : stops servers state attempt (.error error) = true) :
    servers ≤ state.i ∧ minRetries ≤ state.i ∧ minWait ≤ attempt.elapsed := by
  simp only [stops, Bool.or_false] at ends
  exact exhaustedRetries_iff.mp ends

/-- A turn goes on as the attempts with the new one say, or returns. -/
theorem Continues.turn {serverId : Nat} {attempts : List Attempt}
    {state : CallState}
    (continues : Continues fromSlice servers calls serverId attempts state)
    {last : Attempt} (encoded : last.encodingError = none) :
    (turn fromSlice servers calls state last).Meets
      (Continues fromSlice servers calls serverId (attempts ++ [last]))
      (ReturnsAt fromSlice servers calls attempts last) := by
  have isBest :=
    @bestOutcome_append_singleton fromSlice calls attempts last
  rw [← continues.best] at isBest
  rw [JsonRpc.turn, encoded]
  simp only
  split
  · rename_i ends
    rw [← isBest] at ends ⊢
    constructor
    · cases bestOutcome fromSlice calls (attempts ++ [last]) <;> rfl
    · intro error failed
      cases outcome : bestOutcome fromSlice calls (attempts ++ [last]) with
      | ok responses =>
          rw [outcome] at failed
          cases failed
      | error error =>
          rw [outcome] at ends
          have exhausted := exhausted_of_stops ends
          rw [continues.counted] at exhausted
          exact exhausted
  · rename_i goesOn
    rw [Bool.not_eq_true] at goesOn
    constructor
    · exact isBest.symm
    · simp [continues.counted]
    · intro inside
      simp only
      rw [continues.rotated inside, Nat.mod_add_mod, List.length_append,
        List.length_singleton, Nat.add_assoc]
    · intro responses outcome
      change betterJsonrpcBatchResult _ _ = _ at outcome
      rw [outcome] at goesOn
      obtain ⟨faulty, notAll⟩ := good_of_not_stops goesOn
      rw [continues.counted] at notAll
      rw [List.length_append, List.length_singleton]
      exact ⟨faulty, notAll⟩

theorem continues_of_callLoop {serverId : Nat} {attempts : List Attempt}
    (encoded : ∀ attempt ∈ attempts, attempt.encodingError = none)
    {state : CallState}
    (running : callLoop fromSlice servers calls (.start serverId) attempts =
      .next state) :
    Continues fromSlice servers calls serverId attempts state := by
  induction attempts using List.reverseRecOn generalizing state with
  | nil =>
      cases running
      exact continues_start serverId
  | append_singleton attempts last ih =>
      rw [callLoop_append_singleton] at running
      cases before : callLoop fromSlice servers calls (.start serverId)
          attempts with
      | exit result =>
          rw [before] at running
          cases running
      | next middle =>
          rw [before] at running
          simp only at running
          have continues := ih (fun attempt member =>
            encoded attempt (List.mem_append_left _ member)) before
          have meets := continues.turn (encoded last (by simp))
          rw [running] at meets
          exact meets

/-! ### What is returned -/

/-- The loop returns the result in the turn of the last attempt. -/
def Returns (fromSlice : FromSlice) (servers : Nat) (calls : List Call)
    (serverId : Nat) (attempts : List Attempt) (result : LoopResult) : Prop :=
  ∃ before last state, attempts = before ++ [last] ∧
    callLoop fromSlice servers calls (.start serverId) before =
      .next state ∧
    turn fromSlice servers calls state last = .exit result

section Returns

variable {serverId : Nat} {attempts : List Attempt} {result : LoopResult}

theorem Returns.returnsAt
    (returns : Returns fromSlice servers calls serverId attempts result)
    (encoded : ∀ attempt ∈ attempts, attempt.encodingError = none) :
    ∃ before last, attempts = before ++ [last] ∧
      ReturnsAt fromSlice servers calls before last result := by
  obtain ⟨before, last, state, rfl, running, returned⟩ := returns
  have continues := continues_of_callLoop (fun attempt member =>
    encoded attempt (List.mem_append_left _ member)) running
  have meets := continues.turn (encoded last (by simp))
  rw [returned] at meets
  exact ⟨before, last, rfl, meets⟩

theorem Returns.earliest {responses : List JsonRpcResponse} {lastServer : Nat}
    (returns : Returns fromSlice servers calls serverId attempts
      (.ok (responses, lastServer)))
    (encoded : ∀ attempt ∈ attempts, attempt.encodingError = none) :
    BestOf.Earliest countPotentiallyFaultyResponses
      (outcomes fromSlice calls attempts) responses := by
  obtain ⟨before, last, rfl, isAt⟩ := returns.returnsAt encoded
  have isBest : bestOutcome fromSlice calls (before ++ [last]) =
      .ok responses := isAt.best.symm
  exact (BestOf.best_spec _ _ _).1 responses isBest

theorem Returns.allFailed {error : JsonRpcError}
    (returns : Returns fromSlice servers calls serverId attempts
      (.error error))
    (encoded : ∀ attempt ∈ attempts, attempt.encodingError = none) :
    (∀ responses, .ok responses ∉ outcomes fromSlice calls attempts) ∧
      (outcomes fromSlice calls attempts).getLast? = some (.error error) ∧
      servers ≤ attempts.length ∧ minRetries ≤ attempts.length ∧
      ∃ last, attempts.getLast? = some last ∧ minWait ≤ last.elapsed := by
  obtain ⟨before, last, rfl, isAt⟩ := returns.returnsAt encoded
  have isBest : bestOutcome fromSlice calls (before ++ [last]) =
      .error error := isAt.best.symm
  obtain ⟨none, isLast⟩ := (BestOf.best_spec _ _ _).2 error isBest
  obtain ⟨tried, retried, waited⟩ := isAt.exhausted error rfl
  refine ⟨none, ?_, ?_, ?_, last, List.getLast?_concat, waited⟩
  · rcases isLast with ⟨empty, _⟩ | isLast
    · rw [outcomes, List.map_append] at empty
      simp at empty
    · exact isLast
  · rw [List.length_append]
    exact tried
  · rw [List.length_append]
    exact retried

/-- A loop that ends has returned in one of the turns, and no later attempt is
made. -/
theorem exists_returns
    (ended : callLoop fromSlice servers calls (.start serverId) attempts =
      .exit result) :
    ∃ made later, attempts = made ++ later ∧
      (sent fromSlice servers calls (.start serverId) attempts).map Prod.snd =
        made ∧
      Returns fromSlice servers calls serverId made result := by
  induction attempts using List.reverseRecOn with
  | nil => cases ended
  | append_singleton attempts last ih =>
      rw [callLoop_append_singleton] at ended
      cases before : callLoop fromSlice servers calls (.start serverId)
          attempts with
      | exit earlier =>
          rw [before] at ended
          cases ended
          obtain ⟨made, later, split, isMade, returns⟩ := ih before
          refine ⟨made, later ++ [last], ?_, ?_, returns⟩
          · rw [← List.append_assoc, ← split]
          · rw [sent_of_exit before]
            exact isMade
      | next state =>
          rw [before] at ended
          refine ⟨attempts ++ [last], [], (List.append_nil _).symm, ?_,
            attempts, last, state, rfl, before, ended⟩
          rw [sent_append before, List.map_append, sent_of_next before, sent]
          simp only at ended
          rw [ended]
          rfl

end Returns

/-- Each attempt asks the server behind the one of the attempt before. -/
theorem sent_rotates {serverId : Nat} (inside : serverId < servers)
    {attempts : List Attempt}
    (encoded : ∀ attempt ∈ attempts, attempt.encodingError = none)
    {index server : Nat} {attempt : Attempt}
    (isSent : (sent fromSlice servers calls (.start serverId)
      attempts)[index]? = some (server, attempt)) :
    server = (serverId + index) % servers := by
  induction attempts using List.reverseRecOn with
  | nil => simp [sent] at isSent
  | append_singleton attempts last ih =>
      have encodedBefore : ∀ attempt ∈ attempts,
          attempt.encodingError = none :=
        fun attempt member => encoded attempt (List.mem_append_left _ member)
      cases before : callLoop fromSlice servers calls (.start serverId)
          attempts with
      | exit result =>
          rw [sent_of_exit before] at isSent
          exact ih encodedBefore isSent
      | next state =>
          have made := congrArg List.length (sent_of_next before)
          rw [List.length_map] at made
          have continues := continues_of_callLoop encodedBefore before
          rw [sent_append before] at isSent
          by_cases old : index < attempts.length
          · rw [List.getElem?_append_left (by omega)] at isSent
            exact ih encodedBefore isSent
          · rw [List.getElem?_append_right (by omega), made] at isSent
            have isNew := List.mem_of_getElem? isSent
            obtain ⟨offset, _⟩ := List.getElem?_eq_some_iff.mp isSent
            have single : ∀ start : CallState, sent fromSlice servers calls
                start [last] = [(start.serverId, last)] := by
              intro start
              rw [sent]
              cases turn fromSlice servers calls start last <;> rfl
            rw [single, List.length_singleton] at offset
            rw [single, List.mem_singleton, Prod.mk.injEq] at isNew
            have isIndex : index = attempts.length := by omega
            rw [isNew.1, continues.rotated inside, isIndex]

theorem exists_rotation {serverId server count : Nat}
    (inside : serverId < servers) (isServer : server < servers)
    (enough : servers ≤ count) :
    ∃ index, index < count ∧ (serverId + index) % servers = server := by
  by_cases behind : serverId ≤ server
  · refine ⟨server - serverId, by omega, ?_⟩
    rw [Nat.add_sub_cancel' behind]
    exact Nat.mod_eq_of_lt isServer
  · refine ⟨server + servers - serverId, by omega, ?_⟩
    rw [Nat.add_sub_cancel' (by omega), Nat.add_mod_right]
    exact Nat.mod_eq_of_lt isServer

theorem sent_covers {serverId : Nat} (inside : serverId < servers)
    {attempts : List Attempt}
    (encoded : ∀ attempt ∈ attempts, attempt.encodingError = none)
    (tried : servers ≤
      (sent fromSlice servers calls (.start serverId) attempts).length) :
    ∀ server < servers, ∃ attempt, (server, attempt) ∈
      sent fromSlice servers calls (.start serverId) attempts := by
  intro server isServer
  obtain ⟨index, bound, isRotation⟩ := exists_rotation inside isServer tried
  generalize isPair :
    (sent fromSlice servers calls (.start serverId) attempts)[index] = pair
  obtain ⟨asked, attempt⟩ := pair
  have isSent := List.getElem?_eq_some_iff.mpr ⟨bound, isPair⟩
  have isAsked := sent_rotates inside encoded isSent
  rw [isRotation] at isAsked
  rw [← isAsked]
  exact ⟨attempt, List.mem_of_getElem? isSent⟩

/-- What a loop over the attempts says about those that it makes. -/
structure BestWins (fromSlice : FromSlice) (servers : Nat)
    (calls : List Call) (serverId : Nat) (attempts : List Attempt)
    (ended : Turn CallState LoopResult) (made : List (Nat × Attempt)) :
    Prop where
  rotates : serverId < servers → ∀ index server attempt,
    made[index]? = some (server, attempt) →
      server = (serverId + index) % servers ∧
        attempts[index]? = some attempt
  best : ∀ responses lastServer,
    ended = .exit (.ok (responses, lastServer)) →
      BestOf.Earliest countPotentiallyFaultyResponses
        (outcomes fromSlice calls (made.map Prod.snd)) responses
  failed : ∀ error, ended = .exit (.error error) →
    (∀ responses,
      .ok responses ∉ outcomes fromSlice calls (made.map Prod.snd)) ∧
      (outcomes fromSlice calls (made.map Prod.snd)).getLast? =
        some (.error error) ∧
      (serverId < servers → ∀ server < servers,
        ∃ attempt, (server, attempt) ∈ made) ∧
      minRetries ≤ made.length ∧
      ∃ last, made.getLast? = some last ∧ minWait ≤ last.2.elapsed
  running : ∀ state, ended = .next state →
    made.map Prod.snd = attempts ∧
      ∀ responses, .ok responses ∈ outcomes fromSlice calls attempts →
        0 < countPotentiallyFaultyResponses responses ∧
          attempts.length < servers

/-- The loop asks one server after the other, returns the earliest of its best
attempts, gives up only when it must, and does not go on when it need not. -/
theorem best_attempt_wins (fromSlice : FromSlice) (servers : Nat)
    (calls : List Call) (serverId : Nat) {attempts : List Attempt}
    (encoded : ∀ attempt ∈ attempts, attempt.encodingError = none) :
    BestWins fromSlice servers calls serverId attempts
      (callLoop fromSlice servers calls (.start serverId) attempts)
      (sent fromSlice servers calls (.start serverId) attempts) := by
  have made := @sent_isPrefix fromSlice servers calls (.start serverId) attempts
  constructor
  · intro inside index server attempt isSent
    refine ⟨sent_rotates inside encoded isSent, ?_⟩
    obtain ⟨bound, isPair⟩ := List.getElem?_eq_some_iff.mp isSent
    have isMade := List.prefix_iff_getElem?.mp made index
      (by rw [List.length_map]; exact bound)
    rw [isMade, List.getElem_map, isPair]
  · intro responses lastServer ended
    obtain ⟨made, later, split, isMade, returns⟩ := exists_returns ended
    rw [isMade]
    apply returns.earliest
    intro attempt member
    apply encoded
    rw [split]
    exact List.mem_append_left later member
  · intro error ended
    obtain ⟨made, later, split, isMade, returns⟩ := exists_returns ended
    have encodedMade : ∀ attempt ∈ made, attempt.encodingError = none := by
      intro attempt member
      apply encoded
      rw [split]
      exact List.mem_append_left later member
    obtain ⟨none, isLast, tried, retried, last, lastMade, waited⟩ :=
      returns.allFailed encodedMade
    rw [← isMade, List.length_map] at tried retried
    rw [← isMade, List.getLast?_map, Option.map_eq_some_iff] at lastMade
    obtain ⟨lastSent, isLastSent, rfl⟩ := lastMade
    rw [isMade]
    exact ⟨none, isLast, fun inside => sent_covers inside encoded tried,
      retried, lastSent, isLastSent, waited⟩
  · intro state running
    refine ⟨sent_of_next running, ?_⟩
    intro responses member
    have continues := continues_of_callLoop encoded running
    have spec := BestOf.best_spec countPotentiallyFaultyResponses
      .incompleteBatch (outcomes fromSlice calls attempts)
    cases isBest : state.best with
    | error error =>
        have failed := (spec.2 error (continues.best.symm.trans isBest)).1
        exact absurd member (failed responses)
    | ok best =>
        have earliest := spec.1 best (continues.best.symm.trans isBest)
        obtain ⟨faulty, notAll⟩ := continues.faulty best isBest
        exact ⟨Nat.lt_of_lt_of_le faulty (earliest.least member), notAll⟩

/-- The first server does not answer, the second one knows the chain id. -/
def chainIdBody : List UInt8 :=
  "[\x7b\"jsonrpc\":\"2.0\",\"id\":0,\"result\":\"0x1\"\x7d]".toUTF8.toList

def chainIdFromSlice : FromSlice := fun body =>
  if body = chainIdBody then
    .ok [.success jsonrpcVersion 0 (.string "0x1")]
  else
    .error "expected value"

def secondServerAnswers : List Attempt :=
  [⟨0, none, .error (.transport "timed out"), 5000000000⟩,
    ⟨0, none, .ok (200, chainIdBody), 5400000000⟩]

theorem best_attempt_wins_secondServer :
    BestWins chainIdFromSlice 2 [⟨"eth_chainId", []⟩] 0 secondServerAnswers
        (callLoop chainIdFromSlice 2 [⟨"eth_chainId", []⟩] (.start 0)
          secondServerAnswers)
        (sent chainIdFromSlice 2 [⟨"eth_chainId", []⟩] (.start 0)
          secondServerAnswers) ∧
      (sent chainIdFromSlice 2 [⟨"eth_chainId", []⟩] (.start 0)
        secondServerAnswers).map Prod.fst = [0, 1] := by
  constructor
  · apply best_attempt_wins
    intro attempt member
    rcases List.mem_cons.mp member with rfl | member
    · rfl
    · rw [List.mem_singleton.mp member]
  · have first : turn chainIdFromSlice 2 [⟨"eth_chainId", []⟩] (.start 0)
        ⟨0, none, .error (.transport "timed out"), 5000000000⟩ =
          .next ⟨.error (.netError (.transport "timed out")), 2, 1⟩ := rfl
    simp only [secondServerAnswers, sent, first]
    cases turn chainIdFromSlice 2 [⟨"eth_chainId", []⟩] _ _ <;> rfl

end JsonRpc

end RiskManagement
