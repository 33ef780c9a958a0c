import RiskManagement.Minieth.JsonRpcSystem

/-!
# What a concurrent caller gets back

Whatever the others do, a caller's phase is where its own attempts have taken
its loop, and the ids of each attempt were given to it alone.
-/

namespace RiskManagement

namespace JsonRpc

open Loops

variable {fromSlice : FromSlice} {servers : Nat} {calls : List Call}

theorem turn_of_encodingError {state : CallState} {attempt : Attempt}
    {detail : String} (failed : attempt.encodingError = some detail) :
    turn fromSlice servers calls state attempt =
      .exit (.error (.serdeJsonError detail)) := by
  rw [turn, failed]

theorem encoded_of_callLoop {start state : CallState}
    {attempts : List Attempt}
    (running : callLoop fromSlice servers calls start attempts =
      .next state) :
    ∀ attempt ∈ attempts, attempt.encodingError = none := by
  induction attempts generalizing start with
  | nil => simp
  | cons first attempts ih =>
      rw [callLoop] at running
      cases encoded : first.encodingError with
      | some detail =>
          rw [turn_of_encodingError encoded] at running
          cases running
      | none =>
          cases turned : turn fromSlice servers calls start first with
          | exit result =>
              rw [turned] at running
              cases running
          | next middle =>
              rw [turned] at running
              intro attempt member
              rcases List.mem_cons.mp member with rfl | later
              · exact encoded
              · exact ih running attempt later

theorem encoded_of_turn {state : CallState} {last : Attempt}
    {responses : List JsonRpcResponse} {lastServer : Nat}
    (returned : turn fromSlice servers calls state last =
      .exit (.ok (responses, lastServer))) : last.encodingError = none := by
  cases encoded : last.encodingError with
  | none => rfl
  | some detail =>
      rw [turn_of_encodingError encoded] at returned
      cases returned

/-- A success ends the loop at the server that gave the last answer. -/
theorem lastServer_of_turn {state : CallState} {last : Attempt}
    {responses : List JsonRpcResponse} {lastServer : Nat}
    (returned : turn fromSlice servers calls state last =
      .exit (.ok (responses, lastServer))) : lastServer = state.serverId := by
  rw [turn, encoded_of_turn returned] at returned
  simp only at returned
  split at returned
  · generalize betterJsonrpcBatchResult state.best
      (last.batchResult fromSlice calls) = best at returned
    cases best with
    | error error => cases returned
    | ok found =>
        cases returned
        rfl
  · cases returned

/-- The responses of a call are those of one of its attempts. -/
theorem Returns.exists_attempt {serverId : Nat} {attempts : List Attempt}
    {responses : List JsonRpcResponse} {lastServer : Nat}
    (returns : Returns fromSlice servers calls serverId attempts
      (.ok (responses, lastServer))) :
    ∃ attempt ∈ attempts,
      attempt.batchResult fromSlice calls = .ok responses := by
  have encoded : ∀ attempt ∈ attempts, attempt.encodingError = none := by
    obtain ⟨before, last, state, rfl, running, returned⟩ := returns
    intro attempt member
    rcases List.mem_append.mp member with earlier | isLast
    · exact encoded_of_callLoop running attempt earlier
    · rw [List.mem_singleton.mp isLast]
      exact encoded_of_turn returned
  exact List.mem_map.mp (returns.earliest encoded).mem

end JsonRpc

theorem Attempt.batchResult_eq_ok {fromSlice : FromSlice}
    {calls : List Call} {attempt : Attempt}
    {responses : List JsonRpcResponse}
    (success : attempt.batchResult fromSlice calls = .ok responses) :
    ∃ body decoded, attempt.httpResult = .ok (200, body) ∧
      fromSlice body = .ok decoded ∧
      checkResponses attempt.baseId calls decoded = .ok responses := by
  rw [batchResult] at success
  split at success
  · rename_i code body answered
    split at success
    · rename_i isOk
      split at success
      · cases success
      · rename_i decoded isDecoded
        exact ⟨body, decoded, isOk ▸ answered, isDecoded, success⟩
    · cases success
  · cases success

namespace JsonRpcSystem

open Loops

variable {fromSlice : FromSlice} {servers : Nat}
  {system next : JsonRpcSystem}

/-! ### Callers -/

/-- The phase of a caller is where its attempts have taken its loop. -/
def PhaseSound (fromSlice : FromSlice) (servers : Nat)
    (assigned : List Assignment) (index : Nat) (caller : Caller) :
    Phase → Prop
  | .ready state =>
      JsonRpc.callLoop fromSlice servers caller.calls
        (.start caller.initialServerId) caller.attempts = .next state
  | .waiting state baseId =>
      JsonRpc.callLoop fromSlice servers caller.calls
          (.start caller.initialServerId) caller.attempts = .next state ∧
        ⟨index, state.serverId, baseId, caller.calls.length⟩ ∈ assigned
  | .returned result => ∃ loopResult,
      JsonRpc.Returns fromSlice servers caller.calls caller.initialServerId
          caller.attempts loopResult ∧
        result = JsonRpc.finish loopResult

/-- What holds of one caller between its steps. -/
structure CallerSound (fromSlice : FromSlice) (servers : Nat)
    (assigned : List Assignment) (index : Nat) (caller : Caller) :
    Prop where
  phase : PhaseSound fromSlice servers assigned index caller caller.phase
  attempts : ∀ attempt ∈ caller.attempts, ∃ server,
    ⟨index, server, attempt.baseId, caller.calls.length⟩ ∈ assigned

def CallersSound (fromSlice : FromSlice) (servers : Nat)
    (system : JsonRpcSystem) : Prop :=
  ∀ index caller, system.callers[index]? = some caller →
    CallerSound fromSlice servers system.assigned index caller

theorem CallerSound.mono {assigned more : List Assignment}
    (included : assigned ⊆ more) {index : Nat} {caller : Caller}
    (sound : CallerSound fromSlice servers assigned index caller) :
    CallerSound fromSlice servers more index caller := by
  obtain ⟨phase, attempts⟩ := sound
  constructor
  · cases isPhase : caller.phase with
    | ready state =>
        rw [isPhase] at phase
        exact phase
    | waiting state baseId =>
        rw [isPhase] at phase
        exact ⟨phase.1, included phase.2⟩
    | returned result =>
        rw [isPhase] at phase
        exact phase
  · intro attempt member
    obtain ⟨server, isAssigned⟩ := attempts attempt member
    exact ⟨server, included isAssigned⟩

theorem CallersSound.set {callers : List Caller}
    {assigned more : List Assignment} (included : assigned ⊆ more)
    (sound : ∀ index caller, callers[index]? = some caller →
      CallerSound fromSlice servers assigned index caller)
    {index : Nat} {changed : Caller}
    (changedSound : CallerSound fromSlice servers more index changed) :
    ∀ other caller, (callers.set index changed)[other]? = some caller →
      CallerSound fromSlice servers more other caller := by
  intro other caller isCaller
  by_cases same : index = other
  · subst same
    obtain ⟨inside, isChanged⟩ := List.getElem?_eq_some_iff.mp isCaller
    rw [List.getElem_set_self] at isChanged
    exact isChanged ▸ changedSound
  · rw [List.getElem?_set_ne same] at isCaller
    exact (sound other caller isCaller).mono included

theorem CallersSound.receive {index : Nat} {caller : Caller}
    {state : CallState} {attempt : Attempt}
    (sound : CallersSound fromSlice servers system)
    (length : system.servers.length = servers)
    (isCaller : system.callers[index]? = some caller)
    (isWaiting : caller.phase = .waiting state attempt.baseId) :
    CallersSound fromSlice servers
      (system.receive fromSlice index caller state attempt) := by
  obtain ⟨phase, attempts⟩ := sound index caller isCaller
  rw [isWaiting] at phase
  obtain ⟨running, isAssigned⟩ := phase
  have allAssigned : ∀ earlier ∈ caller.attempts ++ [attempt], ∃ server,
      ⟨index, server, earlier.baseId, caller.calls.length⟩ ∈
        system.assigned := by
    intro earlier member
    rcases List.mem_append.mp member with old | now
    · exact attempts earlier old
    · rw [List.mem_singleton.mp now]
      exact ⟨state.serverId, isAssigned⟩
  rw [JsonRpcSystem.receive, length]
  cases turned : JsonRpc.turn fromSlice servers caller.calls state attempt with
  | next after =>
      apply CallersSound.set (List.Subset.refl _) sound
      refine ⟨?_, allAssigned⟩
      change JsonRpc.callLoop _ _ _ _ (caller.attempts ++ [attempt]) = _
      rw [JsonRpc.callLoop_append_singleton, running]
      exact turned
  | exit result =>
      apply CallersSound.set (List.Subset.refl _) sound
      refine ⟨⟨result, ?_, rfl⟩, allAssigned⟩
      exact ⟨caller.attempts, attempt, state, rfl, running, turned⟩

theorem CallersSound.step (sound : CallersSound fromSlice servers system)
    (length : system.servers.length = servers)
    (step : Step fromSlice system next) :
    CallersSound fromSlice servers next := by
  cases step with
  | begin calls =>
      intro index caller isCaller
      simp only [begin] at isCaller
      by_cases old : index < system.callers.length
      · rw [List.getElem?_append_left old] at isCaller
        exact sound index caller isCaller
      · rw [List.getElem?_append_right (Nat.le_of_not_lt old)] at isCaller
        have isNew := List.mem_singleton.mp (List.mem_of_getElem? isCaller)
        rw [isNew]
        exact ⟨rfl, fun attempt member => absurd member List.not_mem_nil⟩
  | @send index caller state server isCaller isReady isServer =>
      obtain ⟨phase, attempts⟩ := sound index caller isCaller
      rw [isReady] at phase
      apply CallersSound.set (List.subset_append_left _ _) sound
      refine ⟨⟨phase, ?_⟩, ?_⟩
      · exact List.mem_append_right _ List.mem_cons_self
      · intro attempt member
        obtain ⟨server, isAssigned⟩ := attempts attempt member
        exact ⟨server, List.mem_append_left _ isAssigned⟩
  | receive attempt isCaller isWaiting =>
      exact sound.receive length isCaller isWaiting

theorem Reachable.callersSound
    (reachable : Reachable fromSlice servers system)
    (small : system.IdsSmall) : CallersSound fromSlice servers system := by
  induction reachable with
  | new =>
      intro index caller isCaller
      simp [JsonRpcSystem.new] at isCaller
  | step before step ih =>
      have smallBefore := Reachable.small_before step small
      exact (ih smallBefore).step (before.idsSound smallBefore).servers_length
        step

/-- Every call starts at one of the servers. -/
structure StartsInside (servers : Nat) (system : JsonRpcSystem) : Prop where
  locked : system.locked.serverId < servers
  callers : ∀ (index : Nat) (caller : Caller),
    system.callers[index]? = some caller →
      caller.initialServerId < servers

theorem saveServerId_lt {locked : JsonRpcLocked} {initialServerId : Nat}
    {result : LoopResult} (before : locked.serverId < servers)
    (inside : ∀ responses lastServer, result = .ok (responses, lastServer) →
      lastServer < servers) :
    (saveServerId locked initialServerId result).serverId < servers := by
  cases result with
  | error error => exact before
  | ok success =>
      obtain ⟨responses, lastServer⟩ := success
      rw [saveServerId]
      split
      · exact inside responses lastServer rfl
      · exact before

theorem StartsInside.callers_set (starts : StartsInside servers system)
    {index : Nat} {caller changed : Caller}
    (isCaller : system.callers[index]? = some caller)
    (same : changed.initialServerId = caller.initialServerId) :
    ∀ (other : Nat) (found : Caller),
      (system.callers.set index changed)[other]? = some found →
        found.initialServerId < servers := by
  intro other found isFound
  rw [List.getElem?_set] at isFound
  split at isFound
  · split at isFound
    · cases isFound
      rw [same]
      exact starts.callers index caller isCaller
    · cases isFound
  · exact starts.callers other found isFound

theorem StartsInside.receive {index : Nat} {caller : Caller}
    {state : CallState} {attempt : Attempt}
    (starts : StartsInside servers system)
    (sound : CallersSound fromSlice servers system)
    (isCaller : system.callers[index]? = some caller)
    (isWaiting : caller.phase = .waiting state attempt.baseId) :
    StartsInside servers
      (system.receive fromSlice index caller state attempt) := by
  have inside := starts.callers index caller isCaller
  have phase := (sound index caller isCaller).phase
  rw [isWaiting] at phase
  have continues := JsonRpc.continues_of_callLoop
    (JsonRpc.encoded_of_callLoop phase.1) phase.1
  have isInside : state.serverId < servers := by
    rw [continues.rotated inside]
    exact Nat.mod_lt _ (Nat.zero_lt_of_lt inside)
  rw [JsonRpcSystem.receive]
  cases turned : JsonRpc.turn fromSlice system.servers.length caller.calls
      state attempt with
  | next after => exact ⟨starts.locked, starts.callers_set isCaller rfl⟩
  | exit result =>
      refine ⟨saveServerId_lt starts.locked ?_,
        starts.callers_set isCaller rfl⟩
      rintro responses lastServer rfl
      rw [JsonRpc.lastServer_of_turn turned]
      exact isInside

theorem Reachable.startsInside (positive : 0 < servers)
    (reachable : Reachable fromSlice servers system)
    (small : system.IdsSmall) : StartsInside servers system := by
  induction reachable with
  | new =>
      refine ⟨positive, ?_⟩
      intro index caller isCaller
      simp [JsonRpcSystem.new] at isCaller
  | step before step ih =>
      have smallBefore := Reachable.small_before step small
      have starts := ih smallBefore
      have sound := before.callersSound smallBefore
      cases step with
      | begin calls =>
          refine ⟨starts.locked, ?_⟩
          intro index caller isCaller
          rcases List.mem_append.mp (List.mem_of_getElem? isCaller) with
            old | new
          · obtain ⟨earlier, isEarlier⟩ := List.mem_iff_getElem?.mp old
            exact starts.callers earlier caller isEarlier
          · rw [List.mem_singleton.mp new]
            exact starts.locked
      | @send index caller state server isCaller isReady isServer =>
          exact ⟨starts.locked, starts.callers_set isCaller rfl⟩
      | receive attempt isCaller isWaiting =>
          exact starts.receive sound isCaller isWaiting

/-- The results of a call answer it in one of its attempts, under ids that
its server gave to this caller. -/
def Answered (fromSlice : FromSlice) (system : JsonRpcSystem) (index : Nat)
    (caller : Caller) (results : List CallResponse) : Prop :=
  ∃ attempt ∈ caller.attempts, ∃ server body decoded,
    ⟨index, server, attempt.baseId, caller.calls.length⟩ ∈
        system.assigned ∧
      attempt.httpResult = .ok (200, body) ∧
      fromSlice body = .ok decoded ∧
      Answers attempt.baseId caller.calls decoded results

theorem Reachable.answered (reachable : Reachable fromSlice servers system)
    (small : system.IdsSmall) {index : Nat} {caller : Caller}
    (isCaller : system.callers[index]? = some caller)
    {results : List CallResponse}
    (isReturned : caller.phase = .returned (.ok results)) :
    Answered fromSlice system index caller results := by
  obtain ⟨phase, attempts⟩ :=
    reachable.callersSound small index caller isCaller
  rw [isReturned] at phase
  obtain ⟨loopResult, returns, isResult⟩ := phase
  cases loopResult with
  | error error => cases isResult
  | ok success =>
      obtain ⟨responses, lastServer⟩ := success
      cases isResult
      obtain ⟨attempt, member, succeeded⟩ := returns.exists_attempt
      obtain ⟨server, isAssigned⟩ := attempts attempt member
      obtain ⟨body, decoded, answered, isDecoded, accepted⟩ :=
        Attempt.batchResult_eq_ok succeeded
      have fits := (reachable.idsSound small).bounded _ isAssigned
      exact ⟨attempt, member, server, body, decoded, isAssigned, answered,
        isDecoded, answers_of_checkResponses fits accepted⟩

end JsonRpcSystem

end RiskManagement
