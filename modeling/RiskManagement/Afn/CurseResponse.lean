import RiskManagement.Afn.CurseProvenance

/-!
# The beacon follows the workers

An update reads the chains and the lanes one after the other while their
threads go on.  It still publishes what an update in one step could have
published, it notes nothing that no worker reports, and whatever a worker
reports before an update begins is in what that update publishes.
-/

namespace RiskManagement

open Relation (ReflTransGen)

/-! ### Reads at different moments are one view -/

namespace BeaconView

variable {view latest : BeaconView} {chain other : ChainName}
  {laneId otherId : LaneId} {self : CurseBeacon}
  {anomalies : CursableAnomaliesWithCurseIds}

/-- `view`, but for one chain, which is read in `latest`. -/
def readChain (view latest : BeaconView) (chain : ChainName) : BeaconView where
  latestChainStatus := Function.update view.latestChainStatus chain
    (latest.latestChainStatus chain)
  anomalies := view.anomalies
  draw anomaly :=
    if anomaly = .finalityViolatedLocalCurse chain ∨
        anomaly = .finalityViolatedGlobalCurse chain then
      latest.draw anomaly
    else
      view.draw anomaly

/-- `view`, but for one lane, which is read in `latest`. -/
def readLane (view latest : BeaconView) (laneId : LaneId) : BeaconView where
  latestChainStatus := view.latestChainStatus
  anomalies := Function.update view.anomalies laneId (latest.anomalies laneId)
  draw
    | .offRampAnomaly other anomaly =>
        if other = laneId then
          latest.draw (.offRampAnomaly other anomaly)
        else
          view.draw (.offRampAnomaly other anomaly)
    | anomaly => view.draw anomaly

theorem noteChainStatus_congr
    (sameStatus : view.latestChainStatus chain =
      latest.latestChainStatus chain)
    (sameLocal : view.draw (.finalityViolatedLocalCurse chain) =
      latest.draw (.finalityViolatedLocalCurse chain))
    (sameGlobal : view.draw (.finalityViolatedGlobalCurse chain) =
      latest.draw (.finalityViolatedGlobalCurse chain)) :
    self.noteChainStatus view anomalies chain =
      self.noteChainStatus latest anomalies chain := by
  simp only [CurseBeacon.noteChainStatus, CursableAnomaliesWithCurseIds.note,
    CursableAnomaly.freshCurseId, sameStatus, sameLocal, sameGlobal]

theorem noteOffRampAnomalies_congr
    (sameAnomalies : view.anomalies laneId = latest.anomalies laneId)
    (sameDraw : ∀ anomaly, view.draw (.offRampAnomaly laneId anomaly) =
      latest.draw (.offRampAnomaly laneId anomaly)) :
    CurseBeacon.noteOffRampAnomalies view anomalies laneId =
      CurseBeacon.noteOffRampAnomalies latest anomalies laneId := by
  simp only [CurseBeacon.noteOffRampAnomalies, List.foldl_map,
    CursableAnomaliesWithCurseIds.note, CursableAnomaly.freshCurseId,
    sameAnomalies, sameDraw]

theorem noteChainStatus_readChain_self :
    self.noteChainStatus (view.readChain latest chain) anomalies chain =
      self.noteChainStatus latest anomalies chain := by
  apply noteChainStatus_congr
  · simp [readChain]
  · simp [readChain]
  · simp [readChain]

theorem noteChainStatus_readChain_of_ne (different : other ≠ chain) :
    self.noteChainStatus (view.readChain latest chain) anomalies other =
      self.noteChainStatus view anomalies other := by
  apply noteChainStatus_congr
  · simp [readChain, different]
  · simp [readChain, different]
  · simp [readChain, different]

theorem noteChainStatus_readLane :
    self.noteChainStatus (view.readLane latest laneId) anomalies chain =
      self.noteChainStatus view anomalies chain :=
  noteChainStatus_congr rfl rfl rfl

theorem noteOffRampAnomalies_readLane_self :
    CurseBeacon.noteOffRampAnomalies (view.readLane latest laneId) anomalies
        laneId =
      CurseBeacon.noteOffRampAnomalies latest anomalies laneId := by
  apply noteOffRampAnomalies_congr
  · simp [readLane]
  · simp [readLane]

theorem noteOffRampAnomalies_readLane_of_ne (different : otherId ≠ laneId) :
    CurseBeacon.noteOffRampAnomalies (view.readLane latest laneId) anomalies
        otherId =
      CurseBeacon.noteOffRampAnomalies view anomalies otherId := by
  apply noteOffRampAnomalies_congr
  · simp [readLane, different]
  · simp [readLane, different]

end BeaconView

/-! ### The copy of an update -/

/-- An update in progress: it has gone through the loops up to some chain and
some lane, and its copy is what they make of one view. -/
structure BeaconUpdate.Follows (update : BeaconUpdate) (beacon : CurseBeacon)
    (view : BeaconView) (chainsRead : List ChainName)
    (lanesRead : List LaneId) : Prop where
  chains : beacon.chainStatusWorkers = chainsRead ++ update.chains
  lanes : beacon.offrampAnomalyDetectors = lanesRead ++ update.lanes
  chainsFirst : update.chains = [] ∨ lanesRead = []
  copied : update.localCursableAnomalies =
    lanesRead.foldl (CurseBeacon.noteOffRampAnomalies view)
      (chainsRead.foldl (beacon.noteChainStatus view)
        beacon.cursableAnomalies)

section Follows

variable {update : BeaconUpdate} {beacon : CurseBeacon}
  {view latest : BeaconView} {chainsRead : List ChainName}
  {lanesRead : List LaneId} {chain : ChainName} {laneId : LaneId}

theorem BeaconUpdate.Follows.noteChain
    (follows : BeaconUpdate.Follows
      { update with chains := chain :: update.chains } beacon view chainsRead
        lanesRead)
    (distinct : beacon.chainStatusWorkers.Nodup) :
    BeaconUpdate.Follows
      { update with
        localCursableAnomalies := beacon.noteChainStatus latest
          update.localCursableAnomalies chain } beacon
      (view.readChain latest chain) (chainsRead ++ [chain]) lanesRead := by
  have noLanes : lanesRead = [] :=
    follows.chainsFirst.resolve_left (List.cons_ne_nil _ _)
  subst noLanes
  have fresh : chain ∉ chainsRead := by
    rw [follows.chains] at distinct
    intro member
    exact (List.disjoint_of_nodup_append distinct) member
      (List.mem_cons_self ..)
  have kept : chainsRead.foldl
      (beacon.noteChainStatus (view.readChain latest chain))
        beacon.cursableAnomalies = update.localCursableAnomalies := by
    rw [follows.copied, List.foldl_nil]
    apply List.foldl_ext
    intro anomalies other member
    apply BeaconView.noteChainStatus_readChain_of_ne
    rintro rfl
    exact fresh member
  exact
    { chains := by
        rw [follows.chains, List.append_assoc]
        rfl
      lanes := follows.lanes
      chainsFirst := .inr rfl
      copied := by
        rw [List.foldl_nil, List.foldl_append, kept, List.foldl_cons,
          List.foldl_nil, BeaconView.noteChainStatus_readChain_self] }

theorem BeaconUpdate.Follows.noteLane
    (follows : BeaconUpdate.Follows
      { update with lanes := laneId :: update.lanes } beacon view chainsRead
        lanesRead)
    (allChains : update.chains = [])
    (distinct : beacon.offrampAnomalyDetectors.Nodup) :
    BeaconUpdate.Follows
      { update with
        localCursableAnomalies := CurseBeacon.noteOffRampAnomalies latest
          update.localCursableAnomalies laneId } beacon
      (view.readLane latest laneId) chainsRead (lanesRead ++ [laneId]) := by
  have fresh : laneId ∉ lanesRead := by
    rw [follows.lanes] at distinct
    intro member
    exact (List.disjoint_of_nodup_append distinct) member
      (List.mem_cons_self ..)
  have chainsKept : chainsRead.foldl
      (beacon.noteChainStatus (view.readLane latest laneId))
        beacon.cursableAnomalies =
      chainsRead.foldl (beacon.noteChainStatus view)
        beacon.cursableAnomalies := by
    apply List.foldl_ext
    intro anomalies other _
    exact BeaconView.noteChainStatus_readLane
  have kept : lanesRead.foldl
      (CurseBeacon.noteOffRampAnomalies (view.readLane latest laneId))
        (chainsRead.foldl (beacon.noteChainStatus view)
          beacon.cursableAnomalies) = update.localCursableAnomalies := by
    rw [follows.copied]
    apply List.foldl_ext
    intro anomalies other member
    apply BeaconView.noteOffRampAnomalies_readLane_of_ne
    rintro rfl
    exact fresh member
  exact
    { chains := follows.chains
      lanes := by
        rw [follows.lanes, List.append_assoc]
        rfl
      chainsFirst := .inl allChains
      copied := by
        rw [chainsKept, List.foldl_append, kept, List.foldl_cons,
          List.foldl_nil, BeaconView.noteOffRampAnomalies_readLane_self] }

/-- When everything was read, the copy is that of an update in one step. -/
theorem BeaconUpdate.Follows.updates
    {anomalies : CursableAnomaliesWithCurseIds}
    (follows : BeaconUpdate.Follows ⟨[], [], anomalies⟩ beacon view chainsRead
      lanesRead) :
    CurseBeacon.Updates beacon
      { beacon with cursableAnomalies := anomalies } := by
  refine ⟨view, ?_⟩
  have chains := follows.chains
  have lanes := follows.lanes
  have copied := follows.copied
  rw [List.append_nil] at chains lanes
  rw [CurseBeacon.update, chains, lanes]
  exact congrArg (CurseBeacon.mk chainsRead lanesRead _) copied

end Follows

namespace CurseNode

variable {Bits : Type} [BitSet Bits] {setup : CurseSetup}
  {answers : ChainAnswers} {node later : CurseNode Bits}

/-- The beacon's workers are those of the configuration, and the copy of an
update in progress is as far as the update is. -/
structure InStep (setup : CurseSetup) (node : CurseNode Bits) : Prop where
  chains : node.curseBeacon.chainStatusWorkers = setup.config.enabledChains
  lanes : node.curseBeacon.offrampAnomalyDetectors =
    setup.config.enabledLanes
  follows : ∀ update, node.updating = some update →
    ∃ view chainsRead lanesRead,
      update.Follows node.curseBeacon view chainsRead lanesRead

theorem Started.inStep (started : node.Started setup) :
    node.InStep setup := by
  obtain ⟨draw, isBeacon⟩ := started.beacon
  constructor
  · rw [isBeacon]
    rfl
  · rw [isBeacon]
    rfl
  · rw [started.idle]
    intro update isUpdate
    cases isUpdate

omit [BitSet Bits] in
theorem InStep.of_same (inStep : node.InStep setup)
    (sameBeacon : later.curseBeacon = node.curseBeacon)
    (sameUpdating : later.updating = node.updating) : later.InStep setup where
  chains := by rw [sameBeacon, inStep.chains]
  lanes := by rw [sameBeacon, inStep.lanes]
  follows := by
    rw [sameBeacon, sameUpdating]
    exact inStep.follows

theorem Step.inStep (step : Step setup answers node later)
    (inStep : node.InStep setup) : later.InStep setup := by
  cases step with
  | pollChain _ _ _ => exact inStep.of_same rfl rfl
  | source _ _ _ _ => exact inStep.of_same rfl rfl
  | dest _ _ _ _ => exact inStep.of_same rfl rfl
  | detect _ _ _ _ => exact inStep.of_same rfl rfl
  | takeReapable _ => exact inStep.of_same rfl rfl
  | reap _ => exact inStep.of_same rfl rfl
  | beginUpdate _ =>
      refine { inStep with follows := ?_ }
      intro update isUpdate
      cases isUpdate
      exact ⟨⟨fun _ => none, fun _ => [], fun _ => .replicate 32 0⟩, [], [],
        rfl, rfl, .inr rfl, rfl⟩
  | noteChain views reading =>
      refine { inStep with follows := ?_ }
      intro update isUpdate
      cases isUpdate
      obtain ⟨_, _, _, follows⟩ := inStep.follows _ reading
      refine ⟨_, _, _, follows.noteChain ?_⟩
      rw [inStep.chains]
      exact setup.config.sharedConfigByEnabledChain.keys_nodup
  | noteLane views chainsRead reading =>
      refine { inStep with follows := ?_ }
      intro update isUpdate
      cases isUpdate
      obtain ⟨_, _, _, follows⟩ := inStep.follows _ reading
      refine ⟨_, _, _, follows.noteLane chainsRead ?_⟩
      rw [inStep.lanes]
      exact setup.config.sharedConfigByEnabledLane.keys_nodup
  | publishUpdate _ =>
      refine { inStep with follows := ?_ }
      intro update isUpdate
      cases isUpdate

theorem run_inStep (run : ReflTransGen (Step setup answers) node later)
    (inStep : node.InStep setup) : later.InStep setup := by
  induction run with
  | refl => exact inStep
  | tail _ step ih => exact step.inStep ih

/-- A step leaves the beacon as it is, or is an update of it. -/
theorem Step.updates (step : Step setup answers node later)
    (inStep : node.InStep setup) :
    later.curseBeacon = node.curseBeacon ∨
      CurseBeacon.Updates node.curseBeacon later.curseBeacon := by
  cases step with
  | pollChain _ _ _ => exact .inl rfl
  | source _ _ _ _ => exact .inl rfl
  | dest _ _ _ _ => exact .inl rfl
  | detect _ _ _ _ => exact .inl rfl
  | takeReapable _ => exact .inl rfl
  | reap _ => exact .inl rfl
  | beginUpdate _ => exact .inl rfl
  | noteChain _ _ => exact .inl rfl
  | noteLane _ _ _ => exact .inl rfl
  | publishUpdate read =>
      obtain ⟨_, _, _, follows⟩ := inStep.follows _ read
      exact .inr follows.updates

theorem run_updates (run : ReflTransGen (Step setup answers) node later)
    (inStep : node.InStep setup) :
    ReflTransGen CurseBeacon.Updates node.curseBeacon later.curseBeacon := by
  induction run with
  | refl => exact .refl
  | tail reached step ih =>
      rcases step.updates (run_inStep reached inStep) with same | updated
      · rw [same]
        exact ih
      · exact ih.tail updated

/-! ### What the workers report -/

/-- An update that read everything at this moment would come across it. -/
def Reports (node : CurseNode Bits) (anomaly : CursableAnomaly) : Prop :=
  ∃ view, node.Views view ∧ node.curseBeacon.Detects view anomaly

variable {anomaly : CursableAnomaly} {bound : Nat}

omit [BitSet Bits] in
theorem Reports.detects {view : BeaconView} (reports : node.Reports anomaly)
    (views : node.Views view) : node.curseBeacon.Detects view anomaly := by
  obtain ⟨other, otherViews, detected⟩ := reports
  have sameStatus : other.latestChainStatus = view.latestChainStatus :=
    otherViews.latestChainStatus.trans views.latestChainStatus.symm
  cases anomaly with
  | manualCurse curseId => exact detected
  | finalityViolatedLocalCurse chain =>
      simpa only [CurseBeacon.Detects, sameStatus] using detected
  | finalityViolatedGlobalCurse chain =>
      simpa only [CurseBeacon.Detects, sameStatus] using detected
  | offRampAnomaly laneId anomaly =>
      refine ⟨detected.1, ?_⟩
      rw [views.anomalies, ← otherViews.anomalies]
      exact detected.2

omit [BitSet Bits] in
theorem exists_views (node : CurseNode Bits) : ∃ view, node.Views view :=
  ⟨{ latestChainStatus := node.latestChainStatus
     anomalies := fun laneId =>
       (node.lanes laneId).offrampAnomalyDetector.anomalies.toList
     draw := fun _ => .replicate 32 0 },
    rfl, fun _ _ => Finset.mem_toList⟩

/-- The workers and the set of a beacon never change. -/
structure SameWorkers (node later : CurseNode Bits) : Prop where
  chains : later.curseBeacon.chainStatusWorkers =
    node.curseBeacon.chainStatusWorkers
  lanes : later.curseBeacon.offrampAnomalyDetectors =
    node.curseBeacon.offrampAnomalyDetectors
  globalCurseChains :
    later.curseBeacon.finalityViolationGlobalCurseChains =
      node.curseBeacon.finalityViolationGlobalCurseChains

theorem Step.sameWorkers (step : Step setup answers node later) :
    node.SameWorkers later := by
  cases step with
  | pollChain _ _ _ => exact ⟨rfl, rfl, rfl⟩
  | source _ _ _ _ => exact ⟨rfl, rfl, rfl⟩
  | dest _ _ _ _ => exact ⟨rfl, rfl, rfl⟩
  | detect _ _ _ _ => exact ⟨rfl, rfl, rfl⟩
  | takeReapable _ => exact ⟨rfl, rfl, rfl⟩
  | reap _ => exact ⟨rfl, rfl, rfl⟩
  | beginUpdate _ => exact ⟨rfl, rfl, rfl⟩
  | noteChain _ _ => exact ⟨rfl, rfl, rfl⟩
  | noteLane _ _ _ => exact ⟨rfl, rfl, rfl⟩
  | publishUpdate _ => exact ⟨rfl, rfl, rfl⟩

omit [BitSet Bits] in
theorem setLane_anomalies {laneId : LaneId} {lane : DetectedLane Bits}
    (kept : (node.lanes laneId).offrampAnomalyDetector.anomalies ⊆
      lane.offrampAnomalyDetector.anomalies) (other : LaneId) :
    (node.lanes other).offrampAnomalyDetector.anomalies ⊆
      ((node.setLane laneId lane).lanes
        other).offrampAnomalyDetector.anomalies := by
  simp only [setLane]
  by_cases same : other = laneId
  · subst same
    rw [Function.update_self]
    exact kept
  · rw [Function.update_of_ne same]

theorem Step.anomalies (step : Step setup answers node later)
    (laneId : LaneId) :
    (node.lanes laneId).offrampAnomalyDetector.anomalies ⊆
      (later.lanes laneId).offrampAnomalyDetector.anomalies := by
  cases step with
  | pollChain _ _ _ => exact Finset.Subset.refl _
  | source _ _ _ _ =>
      apply setLane_anomalies
      exact Finset.Subset.refl _
  | dest _ _ _ _ =>
      apply setLane_anomalies
      exact Finset.Subset.refl _
  | detect _ _ _ _ =>
      apply setLane_anomalies
      exact Finset.subset_union_left.trans Finset.subset_union_left
  | takeReapable _ =>
      apply setLane_anomalies
      exact Finset.Subset.refl _
  | reap _ =>
      apply setLane_anomalies
      exact Finset.Subset.refl _
  | beginUpdate _ => exact Finset.Subset.refl _
  | noteChain _ _ => exact Finset.Subset.refl _
  | noteLane _ _ _ => exact Finset.Subset.refl _
  | publishUpdate _ => exact Finset.Subset.refl _

/-- What is reported goes on being reported. -/
theorem Step.reports (step : Step setup answers node later)
    (reports : node.Reports anomaly) : later.Reports anomaly := by
  obtain ⟨view, views, detected⟩ := reports
  obtain ⟨laterView, laterViews⟩ := exists_views later
  have same := step.sameWorkers
  have violated : ∀ chain,
      view.latestChainStatus chain = some .finalityViolated →
        laterView.latestChainStatus chain = some .finalityViolated := by
    rw [views.latestChainStatus, laterViews.latestChainStatus]
    exact step.grows.violated
  refine ⟨laterView, laterViews, ?_⟩
  cases anomaly with
  | manualCurse curseId => exact detected
  | finalityViolatedLocalCurse chain =>
      obtain ⟨isWorker, isViolated, isLocal⟩ := detected
      rw [← same.chains] at isWorker
      rw [← same.globalCurseChains] at isLocal
      exact ⟨isWorker, violated chain isViolated, isLocal⟩
  | finalityViolatedGlobalCurse chain =>
      obtain ⟨isWorker, isViolated, isGlobal⟩ := detected
      rw [← same.chains] at isWorker
      rw [← same.globalCurseChains] at isGlobal
      exact ⟨isWorker, violated chain isViolated, isGlobal⟩
  | offRampAnomaly laneId anomaly =>
      obtain ⟨isDetector, isAnomaly⟩ := detected
      rw [← same.lanes] at isDetector
      refine ⟨isDetector, (laterViews.anomalies laneId anomaly).mpr ?_⟩
      exact step.anomalies laneId ((views.anomalies laneId anomaly).mp
        isAnomaly)

end CurseNode

/-- The update has still to read what would show the anomaly. -/
def BeaconUpdate.Awaits (update : BeaconUpdate) : CursableAnomaly → Prop
  | .manualCurse _ => False
  | .finalityViolatedLocalCurse chain => chain ∈ update.chains
  | .finalityViolatedGlobalCurse chain => chain ∈ update.chains
  | .offRampAnomaly laneId _ => laneId ∈ update.lanes

namespace CurseNode

variable {Bits : Type} [BitSet Bits] {setup : CurseSetup}
  {answers : ChainAnswers} {node later : CurseNode Bits}
  {anomaly : CursableAnomaly} {bound : Nat}

/-- An anomaly that is reported is in everything that is published from the
update with the number `bound` on. -/
structure Covers (node : CurseNode Bits) (anomaly : CursableAnomaly)
    (bound : Nat) : Prop where
  reports : node.Reports anomaly
  published : bound < node.updates →
    anomaly ∈ node.curseBeacon.cursableAnomalies
  copied : ∀ update, node.updating = some update → bound ≤ node.updates →
    anomaly ∈ update.localCursableAnomalies ∨ update.Awaits anomaly

omit [BitSet Bits] in
theorem Covers.of_same (covers : node.Covers anomaly bound)
    (reports : later.Reports anomaly)
    (sameBeacon : later.curseBeacon = node.curseBeacon)
    (sameUpdating : later.updating = node.updating)
    (sameUpdates : later.updates = node.updates) :
    later.Covers anomaly bound where
  reports := reports
  published := by
    rw [sameBeacon, sameUpdates]
    exact covers.published
  copied := by
    rw [sameUpdating, sameUpdates]
    exact covers.copied

omit [BitSet Bits] in
theorem Covers.beginUpdate (covers : node.Covers anomaly bound) :
    ∀ update, node.beginUpdate.updating = some update →
      anomaly ∈ update.localCursableAnomalies ∨ update.Awaits anomaly := by
  intro update isUpdate
  cases isUpdate
  obtain ⟨view, _, detected⟩ := covers.reports
  right
  cases anomaly with
  | manualCurse curseId => exact detected
  | finalityViolatedLocalCurse chain => exact detected.1
  | finalityViolatedGlobalCurse chain => exact detected.1
  | offRampAnomaly laneId anomaly => exact detected.1

section Reading

variable {view : BeaconView} {update : BeaconUpdate} {chain : ChainName}
  {laneId : LaneId}

omit [BitSet Bits] in
theorem noteChain_covers (reports : node.Reports anomaly)
    (views : node.Views view)
    (covered : anomaly ∈ update.localCursableAnomalies ∨
      BeaconUpdate.Awaits { update with chains := chain :: update.chains }
        anomaly) :
    anomaly ∈ node.curseBeacon.noteChainStatus view
        update.localCursableAnomalies chain ∨
      update.Awaits anomaly := by
  have detected := reports.detects views
  rw [CurseBeacon.mem_noteChainStatus]
  rcases covered with noted | awaited
  · exact .inl (.inl noted)
  · cases anomaly with
    | manualCurse curseId => exact absurd awaited id
    | finalityViolatedLocalCurse other =>
        rcases List.mem_cons.mp awaited with rfl | rest
        · exact .inl (.inr ⟨detected.2.1, .inr ⟨rfl, detected.2.2⟩⟩)
        · exact .inr rest
    | finalityViolatedGlobalCurse other =>
        rcases List.mem_cons.mp awaited with rfl | rest
        · exact .inl (.inr ⟨detected.2.1, .inl ⟨rfl, detected.2.2⟩⟩)
        · exact .inr rest
    | offRampAnomaly laneId anomaly => exact .inr awaited

omit [BitSet Bits] in
theorem noteLane_covers (reports : node.Reports anomaly)
    (views : node.Views view)
    (covered : anomaly ∈ update.localCursableAnomalies ∨
      BeaconUpdate.Awaits { update with lanes := laneId :: update.lanes }
        anomaly) :
    anomaly ∈ CurseBeacon.noteOffRampAnomalies view
        update.localCursableAnomalies laneId ∨
      update.Awaits anomaly := by
  have detected := reports.detects views
  rw [CurseBeacon.mem_noteOffRampAnomalies]
  rcases covered with noted | awaited
  · exact .inl (.inl noted)
  · cases anomaly with
    | manualCurse curseId => exact absurd awaited id
    | finalityViolatedLocalCurse chain => exact .inr awaited
    | finalityViolatedGlobalCurse chain => exact .inr awaited
    | offRampAnomaly other anomaly =>
        rcases List.mem_cons.mp awaited with rfl | rest
        · exact .inl (.inr ⟨anomaly, detected.2, rfl⟩)
        · exact .inr rest

end Reading

theorem Step.covers (step : Step setup answers node later)
    (covers : node.Covers anomaly bound) : later.Covers anomaly bound := by
  have reports := step.reports covers.reports
  cases step with
  | pollChain _ _ _ => exact covers.of_same reports rfl rfl rfl
  | source _ _ _ _ => exact covers.of_same reports rfl rfl rfl
  | dest _ _ _ _ => exact covers.of_same reports rfl rfl rfl
  | detect _ _ _ _ => exact covers.of_same reports rfl rfl rfl
  | takeReapable _ => exact covers.of_same reports rfl rfl rfl
  | reap _ => exact covers.of_same reports rfl rfl rfl
  | beginUpdate _ =>
      exact
        { reports := reports
          published := covers.published
          copied := fun update isUpdate _ =>
            covers.beginUpdate update isUpdate }
  | noteChain views reading =>
      refine
        { reports := reports
          published := covers.published
          copied := ?_ }
      intro update isUpdate inTime
      cases isUpdate
      exact noteChain_covers covers.reports views
        (covers.copied _ reading inTime)
  | noteLane views _ reading =>
      refine
        { reports := reports
          published := covers.published
          copied := ?_ }
      intro update isUpdate inTime
      cases isUpdate
      exact noteLane_covers covers.reports views
        (covers.copied _ reading inTime)
  | publishUpdate read =>
      refine
        { reports := reports
          published := ?_
          copied := ?_ }
      · intro inTime
        rcases covers.copied _ read (Nat.le_of_lt_succ inTime) with
          noted | awaited
        · exact noted
        · cases anomaly with
          | manualCurse curseId => exact absurd awaited id
          | finalityViolatedLocalCurse chain =>
              exact absurd awaited List.not_mem_nil
          | finalityViolatedGlobalCurse chain =>
              exact absurd awaited List.not_mem_nil
          | offRampAnomaly laneId anomaly =>
              exact absurd awaited List.not_mem_nil
      · intro update isUpdate
        cases isUpdate

theorem run_covers (run : ReflTransGen (Step setup answers) node later)
    (covers : node.Covers anomaly bound) : later.Covers anomaly bound := by
  induction run with
  | refl => exact covers
  | tail _ step ih => exact step.covers ih

/-! ### Nothing else is noted -/

/-- What a beacon may hold. -/
def Known (setup : CurseSetup) (node : CurseNode Bits)
    (anomaly : CursableAnomaly) : Prop :=
  node.Reports anomaly ∨
    ∃ curseId, setup.manualCurse = some curseId ∧
      anomaly = .manualCurse curseId

/-- The beacon, and the copy of an update, hold nothing else. -/
structure OnlyKnown (setup : CurseSetup) (node : CurseNode Bits) : Prop where
  published : ∀ anomaly ∈ node.curseBeacon.cursableAnomalies,
    node.Known setup anomaly
  copied : ∀ update, node.updating = some update →
    ∀ anomaly ∈ update.localCursableAnomalies, node.Known setup anomaly

theorem Step.known (step : Step setup answers node later)
    (known : node.Known setup anomaly) : later.Known setup anomaly :=
  known.imp step.reports id

theorem Started.onlyKnown (started : node.Started setup) :
    node.OnlyKnown setup where
  published := by
    obtain ⟨draw, isBeacon⟩ := started.beacon
    rw [isBeacon]
    intro anomaly member
    exact .inr (manualCurse_of_mem_startBeacon member)
  copied := by
    rw [started.idle]
    intro update isUpdate
    cases isUpdate

theorem OnlyKnown.mono (onlyKnown : node.OnlyKnown setup)
    (step : Step setup answers node later)
    (sameBeacon : later.curseBeacon = node.curseBeacon)
    (sameUpdating : later.updating = node.updating) :
    later.OnlyKnown setup where
  published := by
    rw [sameBeacon]
    exact fun anomaly member => step.known (onlyKnown.published anomaly member)
  copied := by
    rw [sameUpdating]
    exact fun update isUpdate anomaly member =>
      step.known (onlyKnown.copied update isUpdate anomaly member)

section Reading

variable {view : BeaconView} {update : BeaconUpdate} {chain : ChainName}
  {laneId : LaneId}

omit [BitSet Bits] in
theorem noteChain_known (views : node.Views view)
    (isWorker : chain ∈ node.curseBeacon.chainStatusWorkers)
    (known : ∀ anomaly ∈ update.localCursableAnomalies,
      node.Known setup anomaly) :
    ∀ anomaly ∈ node.curseBeacon.noteChainStatus view
      update.localCursableAnomalies chain, node.Known setup anomaly := by
  intro anomaly member
  rcases (CurseBeacon.mem_noteChainStatus _ _ _ _ _).mp member with
    old | ⟨violated, ⟨rfl, isGlobal⟩ | ⟨rfl, isLocal⟩⟩
  · exact known anomaly old
  · exact .inl ⟨view, views, isWorker, violated, isGlobal⟩
  · exact .inl ⟨view, views, isWorker, violated, isLocal⟩

omit [BitSet Bits] in
theorem noteLane_known (views : node.Views view)
    (isDetector : laneId ∈ node.curseBeacon.offrampAnomalyDetectors)
    (known : ∀ anomaly ∈ update.localCursableAnomalies,
      node.Known setup anomaly) :
    ∀ anomaly ∈ CurseBeacon.noteOffRampAnomalies view
      update.localCursableAnomalies laneId, node.Known setup anomaly := by
  intro anomaly member
  rcases (CurseBeacon.mem_noteOffRampAnomalies _ _ _ _).mp member with
    old | ⟨found, isFound, rfl⟩
  · exact known anomaly old
  · exact .inl ⟨view, views, isDetector, isFound⟩

end Reading

theorem Step.onlyKnown (step : Step setup answers node later)
    (inStep : node.InStep setup) (onlyKnown : node.OnlyKnown setup) :
    later.OnlyKnown setup := by
  have mono := onlyKnown.mono step
  have known : ∀ anomaly, node.Known setup anomaly →
      later.Known setup anomaly := fun _ => step.known
  have published : ∀ anomaly ∈ node.curseBeacon.cursableAnomalies,
      later.Known setup anomaly :=
    fun anomaly member => known anomaly (onlyKnown.published anomaly member)
  cases step with
  | pollChain _ _ _ => exact mono rfl rfl
  | source _ _ _ _ => exact mono rfl rfl
  | dest _ _ _ _ => exact mono rfl rfl
  | detect _ _ _ _ => exact mono rfl rfl
  | takeReapable _ => exact mono rfl rfl
  | reap _ => exact mono rfl rfl
  | beginUpdate idle =>
      refine
        { published := published
          copied := ?_ }
      intro update isUpdate
      cases isUpdate
      exact published
  | noteChain views reading =>
      refine
        { published := published
          copied := ?_ }
      intro update isUpdate anomaly member
      cases isUpdate
      obtain ⟨_, _, _, follows⟩ := inStep.follows _ reading
      apply known
      refine noteChain_known views ?_ (onlyKnown.copied _ reading) _ member
      rw [follows.chains]
      exact List.mem_append_right _ (List.mem_cons_self ..)
  | noteLane views chainsRead reading =>
      refine
        { published := published
          copied := ?_ }
      intro update isUpdate anomaly member
      cases isUpdate
      obtain ⟨_, _, _, follows⟩ := inStep.follows _ reading
      apply known
      refine noteLane_known views ?_ (onlyKnown.copied _ reading) _ member
      rw [follows.lanes]
      exact List.mem_append_right _ (List.mem_cons_self ..)
  | publishUpdate read =>
      refine
        { published := ?_
          copied := ?_ }
      · intro anomaly member
        apply known
        exact onlyKnown.copied _ read anomaly member
      · intro update isUpdate
        cases isUpdate

theorem run_onlyKnown (run : ReflTransGen (Step setup answers) node later)
    (inStep : node.InStep setup) (onlyKnown : node.OnlyKnown setup) :
    later.OnlyKnown setup := by
  induction run with
  | refl => exact onlyKnown
  | tail reached step ih => exact step.onlyKnown (run_inStep reached inStep) ih

/-- Updates are published one by one, so what is reported now is read by every
update that begins from now on. -/
def nextUpdate (node : CurseNode Bits) : Nat :=
  if node.updating.isSome then node.updates + 1 else node.updates

omit [BitSet Bits] in
theorem covers_nextUpdate (reports : node.Reports anomaly) :
    node.Covers anomaly node.nextUpdate where
  reports := reports
  published := by
    intro inTime
    rw [nextUpdate] at inTime
    split at inTime
    · omega
    · omega
  copied := by
    intro update isUpdate inTime
    rw [nextUpdate, isUpdate, Option.isSome_some, if_pos rfl] at inTime
    omega

/-- The updates of a beacon, whose reads come between the steps of all other
threads, are updates in one step. -/
theorem interleaved_updates_are_updates {start : CurseNode Bits}
    (started : start.Started setup)
    (reached : ReflTransGen (Step setup answers) start node)
    (continued : ReflTransGen (Step setup answers) node later) :
    ReflTransGen CurseBeacon.Updates start.curseBeacon node.curseBeacon ∧
      ReflTransGen CurseBeacon.Updates node.curseBeacon
        later.curseBeacon :=
  ⟨run_updates reached started.inStep,
    run_updates continued (run_inStep reached started.inStep)⟩

theorem interleaved_updates_are_updates_contradicted :
    ReflTransGen CurseBeacon.Updates contradicted.curseBeacon
      cursed.curseBeacon :=
  (interleaved_updates_are_updates sampleStart_started
    sampleStart_contradicted contradicted_cursed).2

/-- Everything in the beacon is still reported or was given by the operator,
and what is reported at some moment is in everything that is published by an
update that begins later. -/
theorem beacon_follows_reports {start : CurseNode Bits}
    (started : start.Started setup)
    (reached : ReflTransGen (Step setup answers) start node)
    (continued : ReflTransGen (Step setup answers) node later) :
    (∀ anomaly ∈ later.curseBeacon.cursableAnomalies,
        later.Reports anomaly ∨
          ∃ curseId, setup.manualCurse = some curseId ∧
            anomaly = .manualCurse curseId) ∧
      (node.nextUpdate < later.updates →
        ∀ anomaly, node.Reports anomaly →
          anomaly ∈ later.curseBeacon.cursableAnomalies) := by
  constructor
  · exact (run_onlyKnown (reached.trans continued) started.inStep
      started.onlyKnown).published
  · intro inTime anomaly reports
    exact (run_covers continued (covers_nextUpdate reports)).published inTime

theorem beacon_follows_reports_contradicted :
    .finalityViolatedLocalCurse .sepolia ∈
      cursed.curseBeacon.cursableAnomalies := by
  have reports : contradicted.Reports
      (.finalityViolatedLocalCurse .sepolia) :=
    ⟨quietView contradicted, quietView_views fun _ => rfl, by decide, rfl,
      by decide⟩
  exact (beacon_follows_reports sampleStart_started sampleStart_contradicted
    contradicted_cursed).2 (by decide) _ reports

end CurseNode
end RiskManagement
