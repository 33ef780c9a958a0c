import RiskManagement.Minieth.BatchPairing
import RiskManagement.Minieth.BestAttempt

/-!
# Concurrent callers of one JSON-RPC client

Any number of callers share the servers and their id counters.  A step is one
critical section of one caller or the end of one of its attempts, so a run is
an interleaving of the callers.
-/

namespace RiskManagement

/-- What the callers share behind the lock. -/
structure JsonRpcLocked where
  serverId : Nat
  invocationsCount : Nat

/-- Where a caller is in its loop. -/
inductive Phase where
  | ready (state : CallState)
  | waiting (state : CallState) (baseId : UInt64)
  | returned (result : Except JsonRpcError (List CallResponse))

/-- One running `call`, with a record of the attempts it has made. -/
structure Caller where
  calls : List Call
  initialServerId : Nat
  phase : Phase
  attempts : List Attempt

/-- The ids from `baseId` on that a server gave to a caller. -/
structure Assignment where
  caller : Nat
  server : Nat
  baseId : UInt64
  numCalls : Nat

/-- One client and all of its callers. -/
structure JsonRpcSystem where
  locked : JsonRpcLocked
  servers : List ServerState
  callers : List Caller
  assigned : List Assignment

namespace JsonRpcSystem

open Loops

def new (servers : Nat) : JsonRpcSystem where
  locked := ⟨0, 0⟩
  servers := List.replicate servers .new
  callers := []
  assigned := []

/-- A new caller enters `call`. -/
def begin (self : JsonRpcSystem) (calls : List Call) : JsonRpcSystem where
  locked := ⟨self.locked.serverId, self.locked.invocationsCount + 1⟩
  servers := self.servers
  callers := self.callers ++ [⟨calls, self.locked.serverId,
    .ready (.start self.locked.serverId), []⟩]
  assigned := self.assigned

/-- A caller takes its ids and sends its payload. -/
def send (self : JsonRpcSystem) (index : Nat) (caller : Caller)
    (state : CallState) (server : ServerState) : JsonRpcSystem :=
  let ((baseId, _), server) := server.producePayloadJson caller.calls
  { self with
    servers := self.servers.set state.serverId server
    callers := self.callers.set index
      { caller with phase := .waiting state baseId }
    assigned := self.assigned ++
      [⟨index, state.serverId, baseId, caller.calls.length⟩] }

/-- A success from another server than the first one is remembered. -/
def saveServerId (self : JsonRpcLocked) (initialServerId : Nat) :
    LoopResult → JsonRpcLocked
  | .ok (_, serverId) =>
      if initialServerId ≠ serverId then
        { self with serverId := serverId }
      else
        self
  | .error _ => self

/-- A caller ends an attempt, and with it perhaps the call. -/
def receive (self : JsonRpcSystem) (fromSlice : FromSlice) (index : Nat)
    (caller : Caller) (state : CallState) (attempt : Attempt) :
    JsonRpcSystem :=
  let attempts := caller.attempts ++ [attempt]
  match JsonRpc.turn fromSlice self.servers.length caller.calls state
      attempt with
  | .next state =>
      { self with
        callers := self.callers.set index
          { caller with phase := .ready state, attempts := attempts } }
  | .exit result =>
      { self with
        locked := saveServerId self.locked caller.initialServerId result
        callers := self.callers.set index
          { caller with
            phase := .returned (JsonRpc.finish result)
            attempts := attempts } }

/-- One step of an interleaving. -/
inductive Step (fromSlice : FromSlice) :
    JsonRpcSystem → JsonRpcSystem → Prop where
  | begin (self : JsonRpcSystem) (calls : List Call) :
      Step fromSlice self (self.begin calls)
  | send {self : JsonRpcSystem} {index : Nat} {caller : Caller}
      {state : CallState} {server : ServerState} :
      self.callers[index]? = some caller → caller.phase = .ready state →
      self.servers[state.serverId]? = some server →
      Step fromSlice self (self.send index caller state server)
  | receive {self : JsonRpcSystem} {index : Nat} {caller : Caller}
      {state : CallState} (attempt : Attempt) :
      self.callers[index]? = some caller →
      caller.phase = .waiting state attempt.baseId →
      Step fromSlice self (self.receive fromSlice index caller state attempt)

/-- The states of a client, in whatever order its callers take steps. -/
inductive Reachable (fromSlice : FromSlice) (servers : Nat) :
    JsonRpcSystem → Prop where
  | new : Reachable fromSlice servers (.new servers)
  | step {self next : JsonRpcSystem} :
      Reachable fromSlice servers self → Step fromSlice self next →
      Reachable fromSlice servers next

/-! ### Ids -/

end JsonRpcSystem

/-- The ids of the requests that an assignment is for. -/
def Assignment.ids (assignment : Assignment) : List UInt64 :=
  (List.range assignment.numCalls).map fun index =>
    assignment.baseId + .ofNat index

namespace JsonRpcSystem

/-- All ids that a server has given out, in order. -/
def idsOf (self : JsonRpcSystem) (server : Nat) : List UInt64 :=
  (self.assigned.filter fun assignment =>
    decide (assignment.server = server)).flatMap Assignment.ids

/-- No server has come near its last id. -/
def IdsSmall (self : JsonRpcSystem) : Prop :=
  ∀ server, (self.idsOf server).length < 2 ^ 64

variable {fromSlice : FromSlice} {servers : Nat} {system next : JsonRpcSystem}

theorem idsOf_send (index : Nat) (caller : Caller) (state : CallState)
    (server : ServerState) (other : Nat) :
    (system.send index caller state server).idsOf other =
      system.idsOf other ++
        if state.serverId = other then
          (List.range caller.calls.length).map fun index =>
            server.nextId + .ofNat index
        else [] := by
  simp only [send, idsOf, List.filter_append, List.flatMap_append]
  congr 1
  by_cases same : state.serverId = other
  · simp [same, Assignment.ids, ServerState.producePayloadJson,
      ServerState.newBaseId]
  · simp [same]

theorem assigned_receive (index : Nat) (caller : Caller) (state : CallState)
    (attempt : Attempt) :
    (system.receive fromSlice index caller state attempt).assigned =
        system.assigned ∧
      (system.receive fromSlice index caller state attempt).servers =
        system.servers := by
  rw [receive]
  split <;> exact ⟨rfl, rfl⟩

theorem Step.idsOf_length_le (step : Step fromSlice system next)
    (server : Nat) :
    (system.idsOf server).length ≤ (next.idsOf server).length := by
  cases step with
  | begin calls => exact Nat.le_refl _
  | send isCaller isReady isServer =>
      rw [idsOf_send, List.length_append]
      exact Nat.le_add_right _ _
  | receive attempt isCaller isWaiting =>
      rw [idsOf, idsOf, (assigned_receive _ _ _ _).1]

/-- The ids of a server count up from zero. -/
structure IdsSound (servers : Nat) (system : JsonRpcSystem) : Prop where
  servers_length : system.servers.length = servers
  ids : ∀ server state, system.servers[server]? = some state →
    system.idsOf server = (List.range state.nextId.toNat).map .ofNat
  bounded : ∀ assignment ∈ system.assigned,
    assignment.baseId.toNat + assignment.numCalls < 2 ^ 64

theorem idsSound_new : IdsSound servers (new servers) := by
  constructor
  · exact List.length_replicate
  · intro server state isServer
    obtain ⟨_, isState⟩ := List.getElem?_eq_some_iff.mp isServer
    simp only [new, List.getElem_replicate] at isState
    subst isState
    rfl
  · intro assignment member
    exact absurd member List.not_mem_nil

theorem IdsSound.send {index : Nat} {caller : Caller} {state : CallState}
    {server : ServerState} (sound : IdsSound servers system)
    (isServer : system.servers[state.serverId]? = some server)
    (small : (system.send index caller state server).IdsSmall) :
    IdsSound servers (system.send index caller state server) := by
  have before := sound.ids _ _ isServer
  have after :=
    @idsOf_send system index caller state server state.serverId
  have fits := small state.serverId
  rw [after, if_pos rfl, before] at fits
  simp only [List.length_append, List.length_map, List.length_range] at fits
  constructor
  · exact List.length_set.trans sound.servers_length
  · intro other otherState isOther
    rw [idsOf_send]
    simp only [JsonRpcSystem.send, ServerState.producePayloadJson,
      ServerState.newBaseId] at isOther
    by_cases same : state.serverId = other
    · subst same
      rw [List.getElem?_set_self (List.getElem?_eq_some_iff.mp isServer).1,
        Option.some.injEq] at isOther
      rw [if_pos rfl, before, ← isOther, toNat_add_ofNat fits,
        List.range_add, List.map_append, List.map_map]
      congr 1
      apply List.map_congr_left
      intro offset _
      rw [Function.comp_apply, UInt64.ofNat_add, UInt64.ofNat_toNat]
    · rw [List.getElem?_set_ne same] at isOther
      rw [if_neg same, List.append_nil]
      exact sound.ids _ _ isOther
  · intro assignment member
    rcases List.mem_append.mp member with old | now
    · exact sound.bounded assignment old
    · rw [List.mem_singleton.mp now]
      exact fits

theorem IdsSound.step (sound : IdsSound servers system)
    (step : Step fromSlice system next) (small : next.IdsSmall) :
    IdsSound servers next := by
  cases step with
  | begin calls => exact ⟨sound.servers_length, sound.ids, sound.bounded⟩
  | send isCaller isReady isServer => exact sound.send isServer small
  | @receive index caller state attempt isCaller isWaiting =>
      obtain ⟨sameAssigned, sameServers⟩ :=
        @assigned_receive fromSlice system index caller state attempt
      constructor
      · rw [sameServers]
        exact sound.servers_length
      · intro server serverState isServer
        rw [sameServers] at isServer
        rw [idsOf, sameAssigned]
        exact sound.ids server serverState isServer
      · rw [sameAssigned]
        exact sound.bounded

theorem Reachable.small_before (step : Step fromSlice system next)
    (small : next.IdsSmall) : system.IdsSmall :=
  fun server => Nat.lt_of_le_of_lt (step.idsOf_length_le server) (small server)

theorem Reachable.idsSound (reachable : Reachable fromSlice servers system)
    (small : system.IdsSmall) : IdsSound servers system := by
  induction reachable with
  | new => exact idsSound_new
  | step _ step ih => exact (ih (small_before step small)).step step small

/-- No server gives out an id twice. -/
theorem Reachable.ids_nodup (reachable : Reachable fromSlice servers system)
    (small : system.IdsSmall) {server : Nat} {state : ServerState}
    (isServer : system.servers[server]? = some state) :
    (system.idsOf server).Nodup := by
  rw [(reachable.idsSound small).ids server state isServer]
  apply List.Nodup.map_on ?_ List.nodup_range
  intro left leftMember right rightMember same
  rw [List.mem_range] at leftMember rightMember
  have bound := state.nextId.toNat_lt
  have natSame := congrArg UInt64.toNat same
  rw [UInt64.toNat_ofNat', UInt64.toNat_ofNat'] at natSame
  omega

end JsonRpcSystem

end RiskManagement
