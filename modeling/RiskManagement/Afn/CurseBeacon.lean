import Mathlib.Logic.Relation
import RiskManagement.Library.EntryMap
import RiskManagement.Afn.ChainStatus
import RiskManagement.Afn.OffRampAnomalyDetector

/-!
# The curse beacon

The beacon holds every anomaly the node may curse for, each with the id of the
votes to curse.  Only the monitor thread updates it.  An update works on a copy
of the map and stores it in one write, so the voting workers see the map before
or after an update and nothing in between.
-/

namespace RiskManagement

open Relation (ReflTransGen)

abbrev CurseId := Bytes32

/-- What a node may curse for. -/
inductive CursableAnomaly where
  | manualCurse (curseId : CurseId)
  | finalityViolatedLocalCurse (chain : ChainName)
  | finalityViolatedGlobalCurse (chain : ChainName)
  | offRampAnomaly (laneId : LaneId) (anomaly : OffRampAnomaly)
deriving DecidableEq

namespace CursableAnomaly

/-- Which chains an anomaly curses. -/
def chainIsCursed (self : CursableAnomaly) (chain : ChainName) : Bool :=
  match self with
  | manualCurse _ => true
  | finalityViolatedGlobalCurse _ => true
  | offRampAnomaly _ _ => true
  | finalityViolatedLocalCurse finalityViolatedChain =>
      finalityViolatedChain == chain

/-- A lane is cursed with either of its chains. -/
def laneIsCursed (self : CursableAnomaly) (laneId : LaneId) : Bool :=
  self.chainIsCursed laneId.sourceChainName ||
    self.chainIsCursed laneId.destChainName

/-- The id a fresh entry gets; `draw` answers `rand_bytes`. -/
def freshCurseId (draw : CursableAnomaly → CurseId) :
    CursableAnomaly → CurseId
  | manualCurse curseId => curseId
  | anomaly => draw anomaly

end CursableAnomaly

abbrev CursableAnomaliesWithCurseIds := EntryMap CursableAnomaly CurseId

namespace CursableAnomaliesWithCurseIds

/-- An anomaly that is known keeps its id. -/
def note (self : CursableAnomaliesWithCurseIds)
    (draw : CursableAnomaly → CurseId) (anomaly : CursableAnomaly) :
    CursableAnomaliesWithCurseIds :=
  EntryMap.getOrInsert self anomaly (anomaly.freshCurseId draw)

/-- Every anomaly that was noted is still there, with the id it had. -/
def Extends (self older : CursableAnomaliesWithCurseIds) : Prop :=
  ∀ anomaly curseId, older.lookup anomaly = some curseId →
    self.lookup anomaly = some curseId

/-- A manual curse has the id it was given. -/
def KeepsManual (self : CursableAnomaliesWithCurseIds) : Prop :=
  ∀ given curseId, self.lookup (.manualCurse given) = some curseId →
    curseId = given

variable {self older : CursableAnomaliesWithCurseIds}
  {draw : CursableAnomaly → CurseId}

theorem note_extends (self : CursableAnomaliesWithCurseIds)
    (draw : CursableAnomaly → CurseId) (anomaly : CursableAnomaly) :
    (self.note draw anomaly).Extends self := by
  intro other curseId found
  exact EntryMap.lookup_getOrInsert_of_some found

theorem note_keepsManual (keeps : self.KeepsManual)
    (anomaly : CursableAnomaly) : (self.note draw anomaly).KeepsManual := by
  intro given curseId found
  by_cases same : CursableAnomaly.manualCurse given = anomaly
  · subst same
    rw [note, EntryMap.lookup_getOrInsert_self, Option.some.injEq] at found
    cases old : self.lookup (.manualCurse given) with
    | none =>
        rw [old] at found
        exact found.symm
    | some oldId =>
        rw [old] at found
        exact found.symm.trans (keeps given oldId old)
  · rw [note, EntryMap.lookup_getOrInsert_of_ne same] at found
    exact keeps given curseId found

theorem mem_note (self : CursableAnomaliesWithCurseIds)
    (draw : CursableAnomaly → CurseId) (anomaly other : CursableAnomaly) :
    other ∈ self.note draw anomaly ↔ other ∈ self ∨ other = anomaly := by
  rw [← AList.lookup_isSome, ← AList.lookup_isSome]
  by_cases same : other = anomaly
  · subst same
    rw [note, EntryMap.lookup_getOrInsert_self]
    simp
  · rw [note, EntryMap.lookup_getOrInsert_of_ne same]
    simp [same]

end CursableAnomaliesWithCurseIds

/-- The workers and detectors are read through `BeaconView`; what is left of
them are the keys of the two maps. -/
structure CurseBeacon where
  chainStatusWorkers : List ChainName
  offrampAnomalyDetectors : List LaneId
  finalityViolationGlobalCurseChains : Finset ChainName
  cursableAnomalies : CursableAnomaliesWithCurseIds

/-- What one update reads: the published chain statuses, the anomalies of each
detector in the order in which they are iterated over, and random bytes. -/
structure BeaconView where
  latestChainStatus : ChainName → Option ChainStatus
  anomalies : LaneId → List OffRampAnomaly
  draw : CursableAnomaly → CurseId

namespace CurseBeacon

open CursableAnomaliesWithCurseIds

/-- The first loop, for one chain. -/
def noteChainStatus (self : CurseBeacon) (view : BeaconView)
    (anomalies : CursableAnomaliesWithCurseIds) (chainName : ChainName) :
    CursableAnomaliesWithCurseIds :=
  if view.latestChainStatus chainName = some .finalityViolated then
    if chainName ∈ self.finalityViolationGlobalCurseChains then
      anomalies.note view.draw (.finalityViolatedGlobalCurse chainName)
    else
      anomalies.note view.draw (.finalityViolatedLocalCurse chainName)
  else
    anomalies

/-- The second loop, for one lane. -/
def noteOffRampAnomalies (view : BeaconView)
    (anomalies : CursableAnomaliesWithCurseIds) (laneId : LaneId) :
    CursableAnomaliesWithCurseIds :=
  ((view.anomalies laneId).map (CursableAnomaly.offRampAnomaly laneId)).foldl
    (note · view.draw ·) anomalies

/-- Notes everything that an update sees. -/
def update (self : CurseBeacon) (view : BeaconView) : CurseBeacon :=
  { self with
    cursableAnomalies :=
      self.offrampAnomalyDetectors.foldl (noteOffRampAnomalies view)
        (self.chainStatusWorkers.foldl (self.noteChainStatus view)
          self.cursableAnomalies) }

def isCursed (self : CurseBeacon) : Bool :=
  !self.cursableAnomalies.entries.isEmpty

def laneIsCursed (self : CurseBeacon) (laneId : LaneId) : Bool :=
  self.cursableAnomalies.entries.any fun entry => entry.1.laneIsCursed laneId

/-- What a voter of this chain has to vote for. -/
def getAnomaliesAndCurseIdsForChain (self : CurseBeacon)
    (chain : ChainName) : List (CursableAnomaly × CurseId) :=
  self.cursableAnomalies.entries.filterMap fun entry =>
    if entry.1.chainIsCursed chain then some (entry.1, entry.2) else none

/-- The beacon of `State::new_and_spawn_workers`. -/
def new (chainStatusWorkers : List ChainName)
    (offrampAnomalyDetectors : List LaneId)
    (finalityViolationGlobalCurseChains : Finset ChainName)
    (manualCurse : Option CurseId) (draw : CursableAnomaly → CurseId) :
    CurseBeacon where
  chainStatusWorkers := chainStatusWorkers
  offrampAnomalyDetectors := offrampAnomalyDetectors
  finalityViolationGlobalCurseChains := finalityViolationGlobalCurseChains
  cursableAnomalies :=
    match manualCurse with
    | none => ∅
    | some curseId => note ∅ draw (.manualCurse curseId)

/-- One call of `update`, whatever it reads. -/
def Updates (self next : CurseBeacon) : Prop :=
  ∃ view, next = self.update view

/-! ### What an update does to the map -/

variable {self next : CurseBeacon} {view : BeaconView}

theorem update_keeps (Holds : CursableAnomaliesWithCurseIds → Prop)
    (start : Holds self.cursableAnomalies)
    (noted : ∀ anomalies anomaly, Holds anomalies →
      Holds (anomalies.note view.draw anomaly)) :
    Holds (self.update view).cursableAnomalies := by
  have chains : Holds (self.chainStatusWorkers.foldl
      (self.noteChainStatus view) self.cursableAnomalies) := by
    apply List.foldlRecOn _ _ start
    intro anomalies holds chainName _
    rw [noteChainStatus]
    split
    · split
      · exact noted _ _ holds
      · exact noted _ _ holds
    · exact holds
  apply List.foldlRecOn _ _ chains
  intro anomalies holds laneId _
  apply List.foldlRecOn _ _ holds
  intro anomalies holds anomaly _
  exact noted _ _ holds

theorem update_extends (self : CurseBeacon) (view : BeaconView) :
    (self.update view).cursableAnomalies.Extends self.cursableAnomalies := by
  apply update_keeps (·.Extends self.cursableAnomalies)
  · exact fun _ _ found => found
  · intro anomalies anomaly holds other curseId found
    exact note_extends anomalies view.draw anomaly other curseId
      (holds other curseId found)

theorem update_keepsManual (keeps : self.cursableAnomalies.KeepsManual) :
    (self.update view).cursableAnomalies.KeepsManual :=
  update_keeps KeepsManual keeps fun _ anomaly holds =>
    note_keepsManual holds anomaly

/-- The anomalies that an update comes across. -/
def Detects (self : CurseBeacon) (view : BeaconView) :
    CursableAnomaly → Prop
  | .manualCurse _ => False
  | .finalityViolatedLocalCurse chain =>
      chain ∈ self.chainStatusWorkers ∧
        view.latestChainStatus chain = some .finalityViolated ∧
        chain ∉ self.finalityViolationGlobalCurseChains
  | .finalityViolatedGlobalCurse chain =>
      chain ∈ self.chainStatusWorkers ∧
        view.latestChainStatus chain = some .finalityViolated ∧
        chain ∈ self.finalityViolationGlobalCurseChains
  | .offRampAnomaly laneId anomaly =>
      laneId ∈ self.offrampAnomalyDetectors ∧ anomaly ∈ view.anomalies laneId

theorem mem_noteChainStatus (self : CurseBeacon) (view : BeaconView)
    (anomalies : CursableAnomaliesWithCurseIds) (chainName : ChainName)
    (anomaly : CursableAnomaly) :
    anomaly ∈ self.noteChainStatus view anomalies chainName ↔
      anomaly ∈ anomalies ∨
        view.latestChainStatus chainName = some .finalityViolated ∧
          (anomaly = .finalityViolatedGlobalCurse chainName ∧
              chainName ∈ self.finalityViolationGlobalCurseChains ∨
            anomaly = .finalityViolatedLocalCurse chainName ∧
              chainName ∉ self.finalityViolationGlobalCurseChains) := by
  rw [noteChainStatus]
  split
  · rename_i violated
    split
    · rename_i isGlobal
      simp [mem_note, violated, isGlobal]
    · rename_i isLocal
      simp [mem_note, violated, isLocal]
  · rename_i fine
    simp [fine]

theorem mem_noteOffRampAnomalies (view : BeaconView)
    (anomalies : CursableAnomaliesWithCurseIds) (laneId : LaneId)
    (anomaly : CursableAnomaly) :
    anomaly ∈ noteOffRampAnomalies view anomalies laneId ↔
      anomaly ∈ anomalies ∨
        ∃ found ∈ view.anomalies laneId,
          anomaly = .offRampAnomaly laneId found := by
  rw [noteOffRampAnomalies, EntryMap.mem_foldl fun map noted =>
    mem_note map view.draw noted anomaly]
  simp [eq_comm]

/-- The map after an update holds what it held and what was detected. -/
theorem mem_update {anomaly : CursableAnomaly} :
    anomaly ∈ (self.update view).cursableAnomalies ↔
      anomaly ∈ self.cursableAnomalies ∨ self.Detects view anomaly := by
  rw [update, EntryMap.mem_foldl fun map laneId =>
      mem_noteOffRampAnomalies view map laneId anomaly,
    EntryMap.mem_foldl fun map chainName =>
      mem_noteChainStatus self view map chainName anomaly, or_assoc]
  apply or_congr_right
  cases anomaly with
  | manualCurse curseId => simp [Detects]
  | finalityViolatedLocalCurse chain => simp [Detects]
  | finalityViolatedGlobalCurse chain => simp [Detects]
  | offRampAnomaly laneId anomaly => simp [Detects]

/-! ### The queries -/

theorem isCursed_eq_true_iff :
    self.isCursed = true ↔
      ∃ anomaly curseId,
        self.cursableAnomalies.lookup anomaly = some curseId := by
  rw [isCursed, Bool.not_eq_true', List.isEmpty_eq_false_iff_exists_mem]
  constructor
  · intro ⟨entry, member⟩
    exact ⟨entry.1, entry.2, EntryMap.mem_entries_iff.mp member⟩
  · intro ⟨anomaly, curseId, found⟩
    exact ⟨⟨anomaly, curseId⟩, EntryMap.mem_entries_iff.mpr found⟩

theorem laneIsCursed_eq_true_iff {laneId : LaneId} :
    self.laneIsCursed laneId = true ↔
      ∃ anomaly curseId,
        self.cursableAnomalies.lookup anomaly = some curseId ∧
          anomaly.laneIsCursed laneId = true := by
  rw [laneIsCursed, List.any_eq_true]
  constructor
  · intro ⟨entry, member, cursed⟩
    exact ⟨entry.1, entry.2, EntryMap.mem_entries_iff.mp member, cursed⟩
  · intro ⟨anomaly, curseId, found, cursed⟩
    exact ⟨⟨anomaly, curseId⟩, EntryMap.mem_entries_iff.mpr found, cursed⟩

theorem mem_getAnomaliesAndCurseIdsForChain {chain : ChainName}
    {anomaly : CursableAnomaly} {curseId : CurseId} :
    (anomaly, curseId) ∈ self.getAnomaliesAndCurseIdsForChain chain ↔
      self.cursableAnomalies.lookup anomaly = some curseId ∧
        anomaly.chainIsCursed chain = true := by
  rw [getAnomaliesAndCurseIdsForChain, List.mem_filterMap,
    ← EntryMap.mem_entries_iff]
  constructor
  · intro ⟨entry, member, kept⟩
    split at kept
    · rename_i cursed
      cases kept
      exact ⟨member, cursed⟩
    · cases kept
  · intro ⟨member, cursed⟩
    exact ⟨⟨anomaly, curseId⟩, member, if_pos cursed⟩

theorem getAnomaliesAndCurseIdsForChain_ne_nil_iff {chain : ChainName} :
    self.getAnomaliesAndCurseIdsForChain chain ≠ [] ↔
      ∃ anomaly curseId,
        self.cursableAnomalies.lookup anomaly = some curseId ∧
          anomaly.chainIsCursed chain = true := by
  rw [ne_eq, List.eq_nil_iff_forall_not_mem, not_forall]
  constructor
  · intro ⟨(anomaly, curseId), member⟩
    rw [not_not] at member
    exact ⟨anomaly, curseId, mem_getAnomaliesAndCurseIdsForChain.mp member⟩
  · intro ⟨anomaly, curseId, due⟩
    refine ⟨(anomaly, curseId), not_not.mpr ?_⟩
    exact mem_getAnomaliesAndCurseIdsForChain.mpr due

/-- A lane is cursed when a vote to curse is due on one of its chains. -/
theorem laneIsCursed_iff_votes_due {laneId : LaneId} :
    self.laneIsCursed laneId = true ↔
      self.getAnomaliesAndCurseIdsForChain laneId.sourceChainName ≠ [] ∨
        self.getAnomaliesAndCurseIdsForChain laneId.destChainName ≠ [] := by
  rw [laneIsCursed_eq_true_iff, getAnomaliesAndCurseIdsForChain_ne_nil_iff,
    getAnomaliesAndCurseIdsForChain_ne_nil_iff]
  constructor
  · intro ⟨anomaly, curseId, found, cursed⟩
    rw [CursableAnomaly.laneIsCursed, Bool.or_eq_true] at cursed
    rcases cursed with source | dest
    · exact .inl ⟨anomaly, curseId, found, source⟩
    · exact .inr ⟨anomaly, curseId, found, dest⟩
  · intro cursed
    rcases cursed with ⟨anomaly, curseId, found, source⟩ |
      ⟨anomaly, curseId, found, dest⟩
    · refine ⟨anomaly, curseId, found, ?_⟩
      rw [CursableAnomaly.laneIsCursed, source, Bool.true_or]
    · refine ⟨anomaly, curseId, found, ?_⟩
      rw [CursableAnomaly.laneIsCursed, dest, Bool.or_true]

/-! ### Runs -/

theorem run_extends {beacon later : CurseBeacon}
    (run : ReflTransGen Updates beacon later) :
    later.cursableAnomalies.Extends beacon.cursableAnomalies := by
  induction run with
  | refl => exact fun _ _ found => found
  | tail _ updated ih =>
      obtain ⟨view, rfl⟩ := updated
      intro anomaly curseId found
      exact update_extends _ view anomaly curseId (ih anomaly curseId found)

theorem run_keepsManual {beacon later : CurseBeacon}
    (run : ReflTransGen Updates beacon later)
    (keeps : beacon.cursableAnomalies.KeepsManual) :
    later.cursableAnomalies.KeepsManual := by
  induction run with
  | refl => exact keeps
  | tail _ updated ih =>
      obtain ⟨view, rfl⟩ := updated
      exact update_keepsManual ih

section Started

variable {chains : List ChainName} {lanes : List LaneId}
  {globalCurseChains : Finset ChainName} {manualCurse : Option CurseId}
  {draw : CursableAnomaly → CurseId}

theorem new_keepsManual :
    (new chains lanes globalCurseChains manualCurse
      draw).cursableAnomalies.KeepsManual := by
  have empty : KeepsManual ∅ := by
    intro given curseId found
    rw [AList.lookup_empty] at found
    cases found
  cases manualCurse with
  | none => exact empty
  | some curseId => exact note_keepsManual empty _

theorem new_lookup_manualCurse (curseId : CurseId) :
    (new chains lanes globalCurseChains (some curseId)
      draw).cursableAnomalies.lookup (.manualCurse curseId) =
        some curseId := by
  rw [new, note, EntryMap.lookup_getOrInsert_self, AList.lookup_empty]
  rfl

/-- An entry of the map stays for ever and keeps its id, so no curse is ever
lifted; a lane is cursed exactly when a vote is due on one of its chains. -/
theorem curses_are_permanent {beacon later : CurseBeacon}
    (reached : ReflTransGen Updates
      (new chains lanes globalCurseChains manualCurse draw) beacon)
    (continued : ReflTransGen Updates beacon later) :
    (∀ anomaly curseId,
        beacon.cursableAnomalies.lookup anomaly = some curseId →
          later.cursableAnomalies.lookup anomaly = some curseId) ∧
      (∀ given curseId,
        beacon.cursableAnomalies.lookup (.manualCurse given) = some curseId →
          curseId = given) ∧
      (∀ given, manualCurse = some given →
        beacon.cursableAnomalies.lookup (.manualCurse given) = some given) ∧
      (beacon.isCursed = true → later.isCursed = true) ∧
      (∀ laneId, beacon.laneIsCursed laneId = true →
        later.laneIsCursed laneId = true) ∧
      ∀ laneId, beacon.laneIsCursed laneId = true ↔
        beacon.getAnomaliesAndCurseIdsForChain laneId.sourceChainName ≠ [] ∨
          beacon.getAnomaliesAndCurseIdsForChain laneId.destChainName ≠
            [] := by
  have grown := run_extends continued
  refine ⟨grown, run_keepsManual reached new_keepsManual, ?_, ?_, ?_,
    fun laneId => laneIsCursed_iff_votes_due⟩
  · intro given isManual
    subst isManual
    exact run_extends reached _ _ (new_lookup_manualCurse given)
  · intro cursed
    obtain ⟨anomaly, curseId, found⟩ := isCursed_eq_true_iff.mp cursed
    exact isCursed_eq_true_iff.mpr
      ⟨anomaly, curseId, grown anomaly curseId found⟩
  · intro laneId cursed
    obtain ⟨anomaly, curseId, found, isLane⟩ :=
      laneIsCursed_eq_true_iff.mp cursed
    exact laneIsCursed_eq_true_iff.mpr
      ⟨anomaly, curseId, grown anomaly curseId found, isLane⟩

end Started

/-- A view of chains that all have one status and of no anomalies. -/
def statusView (status : Option ChainStatus) : BeaconView where
  latestChainStatus _ := status
  anomalies _ := []
  draw _ := SizedBytes.replicate 32 0

def violatedOnce : CurseBeacon :=
  (new [.sepolia] [] ∅ none (statusView none).draw).update
    (statusView (some .finalityViolated))

theorem curses_are_permanent_violatedOnce :
    (violatedOnce.update (statusView none)).laneIsCursed
      ⟨.sepolia, .goerli, "lane"⟩ = true := by
  have reached : ReflTransGen Updates
      (new [.sepolia] [] ∅ none (statusView none).draw) violatedOnce :=
    .single ⟨statusView (some .finalityViolated), rfl⟩
  have continued : ReflTransGen Updates violatedOnce
      (violatedOnce.update (statusView none)) :=
    .single ⟨statusView none, rfl⟩
  obtain ⟨_, _, _, _, staysCursed, _⟩ :=
    curses_are_permanent reached continued
  exact staysCursed _ (by decide)

end CurseBeacon
end RiskManagement
