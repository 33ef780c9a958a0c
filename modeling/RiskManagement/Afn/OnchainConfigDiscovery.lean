import RiskManagement.Afn.CallRoundTrip
import RiskManagement.Afn.ConfigAcceptance

/-!
# The worker that discovers the configuration of the AFN contract

Each poll asks the contract of a chain for its configuration.  What was read
last stays published while the chain's node does not answer.
-/

namespace RiskManagement

open Panics

/-- The worker and the configuration that it has published. -/
structure OnchainConfigDiscoveryWorker where
  afnContract : AFNInterface
  versionedOnchainConfig : Option VersionedOnchainConfig

namespace OnchainConfigDiscoveryWorker

/-- Nothing is known before the first poll. -/
def spawn (config : SharedChainConfig) : OnchainConfigDiscoveryWorker where
  afnContract := ⟨config.afnContract⟩
  versionedOnchainConfig := none

def latest (worker : OnchainConfigDiscoveryWorker) :
    Option VersionedOnchainConfig :=
  worker.versionedOnchainConfig

/-- The closure that the worker repeats.  `none` is a panic. -/
def poll (keccak : Keccak) (rpc : CallRpc)
    (worker : OnchainConfigDiscoveryWorker) :
    Option (OnchainConfigDiscoveryWorker × Except ContractReadError Unit) :=
  match (worker.afnContract.getVersionedOnchainConfig keccak rpc).run with
  | none => none
  | some (.error error) => some (worker, .error error)
  | some (.ok newVersionedOnchainConfig) =>
      some ({ worker with
        versionedOnchainConfig := some newVersionedOnchainConfig }, .ok ())

/-- Polls one after the other, each with what the chain's node answers then. -/
def polls (keccak : Keccak) (rpcs : List CallRpc)
    (worker : OnchainConfigDiscoveryWorker) :
    Option OnchainConfigDiscoveryWorker :=
  rpcs.foldlM (fun worker rpc => (worker.poll keccak rpc).map Prod.fst) worker

end OnchainConfigDiscoveryWorker

/-! ### Contracts that are served -/

/-- When the chain's node answers the call, it answers this. -/
def CallRpc.Serves (rpc : CallRpc) (contract : Address) (data : List UInt8)
    (encoding : List UInt8) : Prop :=
  ∀ returned, rpc contract data = .ok returned → returned = encoding

def CallRpc.answers (rpc : CallRpc) (contract : Address)
    (data : List UInt8) : Bool :=
  (rpc contract data).toBool

/-- A call that is served is read as the value that was encoded, or fails
because the chain's node did. -/
theorem readContract_of_serves {α : Type} [CheckedAbiDecode α] {rpc : CallRpc}
    {contract : Address} {data encoding : List UInt8} {value : α}
    (serves : rpc.Serves contract data encoding)
    (decodes : checkedAbiDecode α encoding = returns (.ok value)) :
    readContract α rpc contract data =
      returns (((rpc contract data).mapError .rpc).map fun _ => value) := by
  rw [readContract]
  cases answer : rpc contract data with
  | error error => rfl
  | ok returned =>
      simp only [serves returned answer, decodes]
      rfl

instance : AbiRoundTrip Voter :=
  .ofTuple
    (fun v => (v.blessVoteAddr, v.curseVoteAddr, v.curseUnvoteAddr,
      v.blessWeight, v.curseWeight, ()))
    (fun _ => rfl) rfl

instance : AbiRoundTrip OnchainConfig :=
  .ofTuple
    (fun v => (v.voters, v.blessWeightThreshold, v.curseWeightThreshold, ()))
    (fun _ => rfl) rfl

/-- What the AFN contract returns for its configuration. -/
def VersionedOnchainConfig.encoding (versioned : VersionedOnchainConfig) :
    List UInt8 :=
  abiEncoding (AbiTuple.mk
    (versioned.version, versioned.blockNumber, versioned.config, ()))

/-- What the worker asks. -/
def configDetailsCall (keccak : Keccak) : List UInt8 :=
  encodeContractCall keccak GetConfigDetailsCall.mk

/-- The moment of a poll: the chain's node, and the configuration that the
contract has. -/
structure ConfigMoment where
  rpc : CallRpc
  versioned : VersionedOnchainConfig

namespace ConfigMoment

/-- The contract has a configuration and answers with it. -/
structure Served (moment : ConfigMoment) (keccak : Keccak)
    (contract : Address) : Prop where
  serves : moment.rpc.Serves contract (configDetailsCall keccak)
    moment.versioned.encoding
  fits : moment.versioned.encoding.length < 2 ^ 63

/-- The poll gets its answer. -/
def answered (moment : ConfigMoment) (keccak : Keccak)
    (contract : Address) : Bool :=
  moment.rpc.answers contract (configDetailsCall keccak)

variable {keccak : Keccak} {moment : ConfigMoment}

theorem Served.getVersionedOnchainConfig {afn : AFNInterface}
    (served : moment.Served keccak afn.address) :
    afn.getVersionedOnchainConfig keccak moment.rpc =
      returns (((moment.rpc afn.address (configDetailsCall keccak)).mapError
        .rpc).map fun _ => moment.versioned) := by
  have read := readContract_of_serves served.serves
    (checkedAbiDecode_abiEncoding _ served.fits)
  rw [AFNInterface.getVersionedOnchainConfig]
  rw [configDetailsCall] at read ⊢
  rw [read]
  cases moment.rpc afn.address (encodeContractCall keccak
    GetConfigDetailsCall.mk) <;> rfl

/-- A poll publishes the configuration when the chain's node answers, and
nothing new when it does not. -/
theorem Served.poll (worker : OnchainConfigDiscoveryWorker)
    (served : moment.Served keccak worker.afnContract.address) :
    ∃ result, worker.poll keccak moment.rpc =
      some ({ worker with
        versionedOnchainConfig :=
          if moment.answered keccak worker.afnContract.address then
            some moment.versioned
          else worker.versionedOnchainConfig }, result) := by
  rw [OnchainConfigDiscoveryWorker.poll, served.getVersionedOnchainConfig,
    answered, CallRpc.answers]
  cases moment.rpc worker.afnContract.address (configDetailsCall keccak) with
  | error error => exact ⟨.error (.rpc error), rfl⟩
  | ok returned => exact ⟨.ok (), rfl⟩

/-- The configuration of the last moment at which the chain's node answered. -/
def lastAnswered (keccak : Keccak) (contract : Address)
    (history : List ConfigMoment) : Option VersionedOnchainConfig :=
  ((history.filter fun moment =>
    moment.answered keccak contract).getLast?).map versioned

theorem lastAnswered_append_singleton (contract : Address)
    (history : List ConfigMoment) (last : ConfigMoment) :
    lastAnswered keccak contract (history ++ [last]) =
      if last.answered keccak contract then some last.versioned
      else lastAnswered keccak contract history := by
  rw [lastAnswered, List.filter_append, List.filter_singleton]
  cases last.answered keccak contract with
  | true =>
      rw [cond_true, List.getLast?_concat]
      rfl
  | false =>
      rw [cond_false, List.append_nil]
      rfl

end ConfigMoment

/-- In every run of polls the worker has published exactly the configuration
that the contract had when the chain's node last answered, and no answer makes
it panic. -/
theorem discovered_config_is_last_answered (keccak : Keccak)
    (config : SharedChainConfig) (history : List ConfigMoment)
    (served : ∀ moment ∈ history, moment.Served keccak config.afnContract) :
    (OnchainConfigDiscoveryWorker.spawn config).polls keccak
        (history.map ConfigMoment.rpc) =
      some { afnContract := ⟨config.afnContract⟩
             versionedOnchainConfig := ConfigMoment.lastAnswered keccak
               config.afnContract history } := by
  induction history using List.reverseRecOn with
  | nil => rfl
  | append_singleton history last ih =>
      have earlier := ih fun moment member =>
        served moment (List.mem_append_left _ member)
      have isServed := served last (by simp)
      rw [OnchainConfigDiscoveryWorker.polls] at earlier ⊢
      rw [List.map_append, List.foldlM_append, earlier,
        ConfigMoment.lastAnswered_append_singleton]
      obtain ⟨result, polled⟩ := isServed.poll
        { afnContract := ⟨config.afnContract⟩
          versionedOnchainConfig := ConfigMoment.lastAnswered keccak
            config.afnContract history }
      change Option.bind (Option.map Prod.fst (OnchainConfigDiscoveryWorker.poll
        keccak last.rpc _)) some = _
      rw [polled]
      rfl

def sampleAfnConfig : VersionedOnchainConfig where
  version := 3
  blockNumber := 9
  config :=
    { voters := ⟨[⟨.replicate 20 1, .replicate 20 2, .replicate 20 3, 4, 5⟩],
        by decide⟩
      blessWeightThreshold := 2
      curseWeightThreshold := 1 }

/-- The chain's node answers once and then fails. -/
def sampleMoments : List ConfigMoment :=
  [⟨fun _ _ => .ok sampleAfnConfig.encoding, sampleAfnConfig⟩,
    ⟨fun _ _ => .error .notFound, sampleAfnConfig⟩]

theorem discovered_config_is_last_answered_sampleMoments :
    ∃ worker, (OnchainConfigDiscoveryWorker.spawn
        (OffchainConfig.sampleChain .sepolia)).polls lengthHash
          (sampleMoments.map ConfigMoment.rpc) = some worker ∧
      worker.latest = some sampleAfnConfig := by
  have fits : sampleAfnConfig.encoding.length < 2 ^ 63 := by decide +kernel
  refine ⟨_, discovered_config_is_last_answered lengthHash
    (OffchainConfig.sampleChain .sepolia) sampleMoments ?_, rfl⟩
  intro moment member
  rw [sampleMoments, List.mem_cons, List.mem_singleton] at member
  rcases member with rfl | rfl
  · refine ⟨?_, fits⟩
    intro returned answer
    exact (Except.ok.inj answer).symm
  · refine ⟨?_, fits⟩
    intro returned answer
    cases answer

end RiskManagement
