import RiskManagement.Library.Checked
import RiskManagement.Afn.Config

/-!
# Which configurations are accepted

The checks of `new` are each shown to pass on exactly the lists they are for.
On lists that pass, no two entries meet in a map, so every entry ends up in the
map it belongs to.
-/

namespace RiskManagement

/-! ### The checks -/

section Duplicates

variable {Item Key : Type} [DecidableEq Key] {keyFn : Item → Key}

theorem findDuplicateFrom_eq_none_iff {keySet : Finset Key}
    {list : List Item} :
    findDuplicateFrom keyFn keySet list = none ↔
      (list.map keyFn).Nodup ∧ ∀ item ∈ list, keyFn item ∉ keySet := by
  induction list generalizing keySet with
  | nil => simp [findDuplicateFrom]
  | cons item rest ih =>
      rw [findDuplicateFrom, List.map_cons, List.nodup_cons,
        List.forall_mem_cons]
      split
      · rename_i met
        constructor
        · intro found
          cases found
        · intro ⟨_, fresh, _⟩
          exact absurd met fresh
      · rename_i fresh
        rw [ih]
        constructor
        · intro ⟨distinct, apart⟩
          refine ⟨⟨?_, distinct⟩, fresh, ?_⟩
          · intro member
            obtain ⟨other, isOther, same⟩ := List.mem_map.mp member
            apply apart other isOther
            rw [same]
            exact Finset.mem_insert_self _ _
          · intro other isOther met
            exact apart other isOther (Finset.mem_insert_of_mem met)
        · intro ⟨⟨isFirst, distinct⟩, _, apart⟩
          refine ⟨distinct, ?_⟩
          intro other isOther met
          rcases Finset.mem_insert.mp met with same | old
          · apply isFirst
            rw [← same]
            exact List.mem_map_of_mem isOther
          · exact apart other isOther old

theorem checkDuplicates_eq_ok_iff {list : List Item}
    {error : Key → ConfigError} :
    checkDuplicates keyFn list error = .ok () ↔ (list.map keyFn).Nodup := by
  have noneIff :
      findDuplicate keyFn list = none ↔ (list.map keyFn).Nodup := by
    rw [findDuplicate, findDuplicateFrom_eq_none_iff]
    simp
  rw [checkDuplicates, ← noneIff]
  cases findDuplicate keyFn list with
  | none => simp
  | some found => simp

end Duplicates

theorem checkKnown_eq_ok_iff {Value : Type} {map : EntryMap ChainName Value}
    {error : ChainName → ConfigError} {chains : List ChainName} :
    checkKnown map error chains = .ok () ↔ ∀ chain ∈ chains, chain ∈ map := by
  rw [checkKnown, Checked.forM_eq_ok_iff]
  apply forall₂_congr
  intro chain _
  split
  · rename_i known
    simp [known]
  · rename_i unknown
    simp [unknown]

theorem checkLane_eq_ok_iff {map : EntryMap ChainName SharedChainConfig}
    {laneConfig : SharedLaneConfig} :
    checkLane map laneConfig = .ok () ↔
      laneConfig.laneId.sourceChainName ∈ map ∧
        laneConfig.laneId.destChainName ∈ map ∧
        laneConfig.laneId.sourceChainName ≠
          laneConfig.laneId.destChainName := by
  rw [checkLane, Checked.check_bind_eq_ok_iff, checkKnown_eq_ok_iff,
    List.forall_mem_cons, List.forall_mem_singleton, and_assoc]
  apply and_congr_right'
  apply and_congr_right'
  split
  · rename_i same
    simp [same]
  · rename_i different
    simp [different]

/-- What the lists have to satisfy. -/
structure AcceptableConfigs (sharedChainConfigs : List SharedChainConfig)
    (sharedLaneConfigs : List SharedLaneConfig)
    (localChainConfigs : List LocalChainConfig) : Prop where
  localNames : (localChainConfigs.map LocalChainConfig.name).Nodup
  sharedNames : (sharedChainConfigs.map SharedChainConfig.name).Nodup
  sameChains : ∀ chain,
    chain ∈ localChainConfigs.map LocalChainConfig.name ↔
      chain ∈ sharedChainConfigs.map SharedChainConfig.name
  laneIds : (sharedLaneConfigs.map SharedLaneConfig.laneId).Nodup
  commitStores :
    (sharedLaneConfigs.map SharedLaneConfig.qualifiedCommitStore).Nodup
  lanes : ∀ laneConfig ∈ sharedLaneConfigs,
    laneConfig.laneId.sourceChainName ∈
        sharedChainConfigs.map SharedChainConfig.name ∧
      laneConfig.laneId.destChainName ∈
        sharedChainConfigs.map SharedChainConfig.name ∧
      laneConfig.laneId.sourceChainName ≠ laneConfig.laneId.destChainName

variable {sharedChainConfigs : List SharedChainConfig}
  {sharedLaneConfigs : List SharedLaneConfig}
  {localChainConfigs : List LocalChainConfig} {config : OffchainConfig}

/-- The local entry of the chain does not disable it. -/
def EnabledLocally (localChainConfigs : List LocalChainConfig)
    (chain : ChainName) : Prop :=
  ∃ c ∈ localChainConfigs, c.name = chain ∧ c.disabled = false

theorem AcceptableConfigs.exists_shared
    (accepted : AcceptableConfigs sharedChainConfigs sharedLaneConfigs
      localChainConfigs) {chain : ChainName}
    (enabled : EnabledLocally localChainConfigs chain) :
    ∃ c ∈ sharedChainConfigs, c.name = chain := by
  obtain ⟨c, member, isName, _⟩ := enabled
  have named : chain ∈ sharedChainConfigs.map SharedChainConfig.name := by
    rw [← accepted.sameChains, ← isName]
    exact List.mem_map_of_mem member
  obtain ⟨shared, isShared, isChain⟩ := List.mem_map.mp named
  exact ⟨shared, isShared, isChain⟩

namespace OffchainConfig

theorem new_eq_ok_iff :
    new sharedChainConfigs sharedLaneConfigs localChainConfigs =
        .ok config ↔
      AcceptableConfigs sharedChainConfigs sharedLaneConfigs
          localChainConfigs ∧
        build (EntryMap.collect (sharedChainConfigs.map fun c => (c.name, c)))
            sharedLaneConfigs
            (EntryMap.collect
              (localChainConfigs.map fun c => (c.name, c))) =
          config := by
  simp only [new, Checked.check_bind_eq_ok_iff, checkDuplicates_eq_ok_iff,
    checkKnown_eq_ok_iff, Checked.forM_eq_ok_iff, checkLane_eq_ok_iff,
    ← AList.mem_keys, EntryMap.mem_collect_map]
  constructor
  · intro ⟨localNames, sharedNames, shared, localKnown, laneIds,
      commitStores, lanes, built⟩
    cases built
    exact ⟨⟨localNames, sharedNames,
      fun chain => ⟨shared chain, localKnown chain⟩, laneIds, commitStores,
      lanes⟩, rfl⟩
  · intro ⟨accepted, built⟩
    refine ⟨accepted.localNames, accepted.sharedNames,
      fun chain => (accepted.sameChains chain).mp,
      fun chain => (accepted.sameChains chain).mpr, accepted.laneIds,
      accepted.commitStores, accepted.lanes, ?_⟩
    rw [← built]
    rfl

/-! ### Where the entries go -/

/-- Every entry is in the map it belongs to, and the maps hold nothing else. -/
structure Partitions (config : OffchainConfig)
    (sharedChainConfigs : List SharedChainConfig)
    (sharedLaneConfigs : List SharedLaneConfig)
    (localChainConfigs : List LocalChainConfig) : Prop where
  localConfig : ∀ chain c,
    config.localConfigByEnabledChain.lookup chain = some c ↔
      c ∈ localChainConfigs ∧ c.name = chain ∧ c.disabled = false
  enabledChain : ∀ chain c,
    config.sharedConfigByEnabledChain.lookup chain = some c ↔
      c ∈ sharedChainConfigs ∧ c.name = chain ∧
        EnabledLocally localChainConfigs chain
  disabledChain : ∀ chain c,
    config.sharedConfigByDisabledChain.lookup chain = some c ↔
      c ∈ sharedChainConfigs ∧ c.name = chain ∧
        ¬ EnabledLocally localChainConfigs chain
  enabledLane : ∀ laneId c,
    config.sharedConfigByEnabledLane.lookup laneId = some c ↔
      c ∈ sharedLaneConfigs ∧ c.laneId = laneId ∧
        EnabledLocally localChainConfigs laneId.sourceChainName ∧
        EnabledLocally localChainConfigs laneId.destChainName

section Accepted

variable (accepted : AcceptableConfigs sharedChainConfigs sharedLaneConfigs
  localChainConfigs)

include accepted

theorem lookup_localConfigByEnabledChain {chain : ChainName}
    {c : LocalChainConfig} :
    (EntryMap.filter (fun _ c => !c.disabled) (EntryMap.collect
        (localChainConfigs.map fun c => (c.name, c)))).lookup chain =
          some c ↔
      c ∈ localChainConfigs ∧ c.name = chain ∧ c.disabled = false := by
  rw [EntryMap.lookup_filter_eq_some_iff,
    EntryMap.lookup_collect_keyed_eq_some_iff accepted.localNames, and_assoc,
    Bool.not_eq_true']

theorem mem_localConfigByEnabledChain {chain : ChainName} :
    chain ∈ EntryMap.filter (fun _ c => !c.disabled) (EntryMap.collect
        (localChainConfigs.map fun c => (c.name, c))) ↔
      EnabledLocally localChainConfigs chain := by
  rw [EntryMap.mem_iff]
  exact exists_congr fun _ => lookup_localConfigByEnabledChain accepted

theorem mem_sharedConfigByEnabledChain {chain : ChainName} :
    chain ∈ EntryMap.filter (fun chain _ =>
        chain ∈ EntryMap.filter (fun _ c => !c.disabled) (EntryMap.collect
          (localChainConfigs.map fun c => (c.name, c))))
        (EntryMap.collect (sharedChainConfigs.map fun c => (c.name, c))) ↔
      EnabledLocally localChainConfigs chain := by
  rw [EntryMap.mem_filter]
  constructor
  · intro ⟨c, _, enabled⟩
    exact (mem_localConfigByEnabledChain accepted).mp
      (of_decide_eq_true enabled)
  · intro enabled
    obtain ⟨shared, isShared, isChain⟩ := accepted.exists_shared enabled
    refine ⟨shared, ?_, decide_eq_true
      ((mem_localConfigByEnabledChain accepted).mpr enabled)⟩
    exact (EntryMap.lookup_collect_keyed_eq_some_iff
      accepted.sharedNames).mpr ⟨isShared, isChain⟩

theorem build_partitions :
    (build (EntryMap.collect (sharedChainConfigs.map fun c => (c.name, c)))
      sharedLaneConfigs (EntryMap.collect
        (localChainConfigs.map fun c => (c.name, c)))).Partitions
      sharedChainConfigs sharedLaneConfigs localChainConfigs where
  localConfig _ _ := lookup_localConfigByEnabledChain accepted
  enabledChain chain c := by
    rw [build, EntryMap.lookup_filter_eq_some_iff,
      EntryMap.lookup_collect_keyed_eq_some_iff accepted.sharedNames,
      and_assoc, decide_eq_true_eq, mem_localConfigByEnabledChain accepted]
  disabledChain chain c := by
    rw [build, EntryMap.lookup_filter_eq_some_iff,
      EntryMap.lookup_collect_keyed_eq_some_iff accepted.sharedNames,
      and_assoc, decide_eq_true_eq, mem_localConfigByEnabledChain accepted]
  enabledLane laneId c := by
    rw [build, EntryMap.lookup_collect_keyed_eq_some_iff, List.mem_filter,
      decide_eq_true_eq, mem_sharedConfigByEnabledChain accepted,
      mem_sharedConfigByEnabledChain accepted]
    · constructor
      · intro ⟨⟨member, source, dest⟩, isLane⟩
        subst isLane
        exact ⟨member, rfl, source, dest⟩
      · intro ⟨member, isLane, source, dest⟩
        subst isLane
        exact ⟨⟨member, source, dest⟩, rfl⟩
    · exact accepted.laneIds.sublist (List.filter_sublist.map _)

end Accepted

namespace Partitions

variable (parts : config.Partitions sharedChainConfigs sharedLaneConfigs
  localChainConfigs)

include parts

theorem mem_disabledChains {chain : ChainName} :
    chain ∈ config.disabledChains ↔
      chain ∈ sharedChainConfigs.map SharedChainConfig.name ∧
        ¬ EnabledLocally localChainConfigs chain := by
  rw [disabledChains, ← AList.mem_keys, EntryMap.mem_iff]
  simp only [parts.disabledChain, List.mem_map]
  constructor
  · intro ⟨c, member, isName, disabled⟩
    exact ⟨⟨c, member, isName⟩, disabled⟩
  · intro ⟨⟨c, member, isName⟩, disabled⟩
    exact ⟨c, member, isName, disabled⟩

theorem mem_enabledLanes {laneId : LaneId} :
    laneId ∈ config.enabledLanes ↔
      laneId ∈ sharedLaneConfigs.map SharedLaneConfig.laneId ∧
        EnabledLocally localChainConfigs laneId.sourceChainName ∧
        EnabledLocally localChainConfigs laneId.destChainName := by
  rw [enabledLanes, ← AList.mem_keys, EntryMap.mem_iff]
  simp only [parts.enabledLane, List.mem_map]
  constructor
  · intro ⟨c, member, isLane, enabled⟩
    exact ⟨⟨c, member, isLane⟩, enabled⟩
  · intro ⟨⟨c, member, isLane⟩, enabled⟩
    exact ⟨c, member, isLane, enabled⟩

theorem mem_enabledChains (accepted : AcceptableConfigs sharedChainConfigs
    sharedLaneConfigs localChainConfigs) {chain : ChainName} :
    chain ∈ config.enabledChains ↔
      EnabledLocally localChainConfigs chain := by
  rw [enabledChains, ← AList.mem_keys, EntryMap.mem_iff]
  simp only [parts.enabledChain]
  constructor
  · intro ⟨_, _, _, enabled⟩
    exact enabled
  · intro enabled
    obtain ⟨shared, isShared, isChain⟩ := accepted.exists_shared enabled
    exact ⟨shared, isShared, isChain, enabled⟩

end Partitions

/-! ### What the other modules rely on -/

theorem foldlM_destChains {known : EntryMap ChainName SharedChainConfig}
    {laneIds : List LaneId}
    (present : ∀ laneId ∈ laneIds, laneId.destChainName ∈ known)
    (h : EntryMap ChainName SharedChainConfig) :
    ∃ chains,
      laneIds.foldlM (fun h laneId => do
        let c ← known.lookup laneId.destChainName
        return h.insert laneId.destChainName c) h = some chains ∧
      ∀ chain c, chains.lookup chain = some c ↔
        if ∃ laneId ∈ laneIds, laneId.destChainName = chain then
          known.lookup chain = some c
        else
          h.lookup chain = some c := by
  induction laneIds generalizing h with
  | nil => exact ⟨h, rfl, fun chain c => by simp⟩
  | cons laneId rest ih =>
      obtain ⟨first, isFirst⟩ := EntryMap.mem_iff.mp
        (present laneId List.mem_cons_self)
      obtain ⟨chains, ran, lookups⟩ := ih
        (fun other member => present other (List.mem_cons_of_mem _ member))
        (h.insert laneId.destChainName first)
      refine ⟨chains, ?_, ?_⟩
      · rw [List.foldlM_cons, isFirst]
        exact ran
      · intro chain c
        rw [lookups chain c]
        by_cases later : ∃ other ∈ rest, other.destChainName = chain
        · rw [if_pos later, if_pos]
          obtain ⟨other, member, isChain⟩ := later
          exact ⟨other, List.mem_cons_of_mem _ member, isChain⟩
        · rw [if_neg later]
          by_cases here : laneId.destChainName = chain
          · subst here
            rw [if_pos ⟨laneId, List.mem_cons_self, rfl⟩,
              AList.lookup_insert, isFirst]
          · rw [AList.lookup_insert_ne (Ne.symm here), if_neg]
            intro found
            obtain ⟨other, member, isChain⟩ := found
            rcases List.mem_cons.mp member with isHere | inRest
            · subst isHere
              exact here isChain
            · exact later ⟨other, inRest, isChain⟩

theorem destChains_of_known
    (known : ∀ laneId ∈ config.enabledLanes,
      laneId.destChainName ∈ config.sharedConfigByEnabledChain) :
    ∃ chains, config.destChains = some chains ∧
      ∀ chain c, chains.lookup chain = some c ↔
        config.sharedConfigByEnabledChain.lookup chain = some c ∧
          ∃ laneId ∈ config.enabledLanes, laneId.destChainName = chain := by
  obtain ⟨chains, ran, lookups⟩ := foldlM_destChains known ∅
  refine ⟨chains, ran, ?_⟩
  intro chain c
  rw [lookups]
  split
  · rename_i isDest
    exact (and_iff_left isDest).symm
  · rename_i noDest
    rw [AList.lookup_empty]
    constructor
    · intro found
      cases found
    · intro ⟨_, isDest⟩
      exact absurd isDest noDest

theorem lookup_laneConfigs {chain : ChainName} {laneId : LaneId}
    {c : SharedLaneConfig} :
    (config.laneConfigs chain).lookup laneId = some c ↔
      config.sharedConfigByEnabledLane.lookup laneId = some c ∧
        laneId.destChainName = chain := by
  rw [laneConfigs, EntryMap.lookup_filter_eq_some_iff, decide_eq_true_eq]

/-- The lanes of one destination chain have different commit stores. -/
theorem Partitions.commitStore_injective
    (parts : config.Partitions sharedChainConfigs sharedLaneConfigs
      localChainConfigs)
    (distinct :
      (sharedLaneConfigs.map SharedLaneConfig.qualifiedCommitStore).Nodup)
    {laneId other : LaneId} {c otherConfig : SharedLaneConfig}
    (found : config.sharedConfigByEnabledLane.lookup laneId = some c)
    (otherFound :
      config.sharedConfigByEnabledLane.lookup other = some otherConfig)
    (sameDest : laneId.destChainName = other.destChainName)
    (sameStore : c.commitStore = otherConfig.commitStore) :
    laneId = other := by
  obtain ⟨member, isLane, _⟩ := (parts.enabledLane laneId c).mp found
  obtain ⟨otherMember, isOther, _⟩ :=
    (parts.enabledLane other otherConfig).mp otherFound
  subst isLane
  subst isOther
  have sameConfig : c = otherConfig := by
    apply List.inj_on_of_nodup_map distinct member otherMember
    rw [SharedLaneConfig.qualifiedCommitStore,
      SharedLaneConfig.qualifiedCommitStore, sameDest, sameStore]
  rw [sameConfig]

/-- The worker's table finds exactly the enabled lanes of its chain. -/
theorem Partitions.lookup_laneIdByCommitStore
    (parts : config.Partitions sharedChainConfigs sharedLaneConfigs
      localChainConfigs)
    (distinct :
      (sharedLaneConfigs.map SharedLaneConfig.qualifiedCommitStore).Nodup)
    {chain : ChainName} {commitStore : Address} {laneId : LaneId} :
    (laneIdByCommitStore (config.laneConfigs chain)).lookup commitStore =
        some laneId ↔
      ∃ c, config.sharedConfigByEnabledLane.lookup laneId = some c ∧
        laneId.destChainName = chain ∧ c.commitStore = commitStore := by
  rw [laneIdByCommitStore, EntryMap.lookup_collect_map_eq_some_iff]
  · constructor
    · intro ⟨entry, member, isStore, isLane⟩
      subst isLane
      obtain ⟨found, isDest⟩ :=
        lookup_laneConfigs.mp (EntryMap.mem_entries_iff.mp member)
      exact ⟨entry.2, found, isDest, isStore⟩
    · intro ⟨c, found, isDest, isStore⟩
      refine ⟨⟨laneId, c⟩, ?_, isStore, rfl⟩
      exact EntryMap.mem_entries_iff.mpr
        (lookup_laneConfigs.mpr ⟨found, isDest⟩)
  · apply List.Nodup.map_on
    · intro entry member other otherMember sameStore
      obtain ⟨found, isDest⟩ :=
        lookup_laneConfigs.mp (EntryMap.mem_entries_iff.mp member)
      obtain ⟨otherFound, otherDest⟩ :=
        lookup_laneConfigs.mp (EntryMap.mem_entries_iff.mp otherMember)
      have sameLane := parts.commitStore_injective distinct found otherFound
        (isDest.trans otherDest.symm) sameStore
      obtain ⟨laneId, c⟩ := entry
      obtain ⟨otherId, otherConfig⟩ := other
      subst sameLane
      cases found.symm.trans otherFound
      rfl
    · exact (config.laneConfigs chain).nodupKeys.nodup

/-- `new` accepts exactly the acceptable lists, loses no entry of them, and
returns what `dest_chains` and the worker that votes to bless rely on. -/
theorem config_acceptance (sharedChainConfigs : List SharedChainConfig)
    (sharedLaneConfigs : List SharedLaneConfig)
    (localChainConfigs : List LocalChainConfig) :
    ((∃ config, new sharedChainConfigs sharedLaneConfigs localChainConfigs =
          .ok config) ↔
        AcceptableConfigs sharedChainConfigs sharedLaneConfigs
          localChainConfigs) ∧
      ∀ config, new sharedChainConfigs sharedLaneConfigs localChainConfigs =
          .ok config →
        config.Partitions sharedChainConfigs sharedLaneConfigs
            localChainConfigs ∧
          (∀ chain, chain ∈ config.enabledChains ↔
            EnabledLocally localChainConfigs chain) ∧
          (∀ chain, chain ∈ config.disabledChains ↔
            chain ∈ sharedChainConfigs.map SharedChainConfig.name ∧
              ¬ EnabledLocally localChainConfigs chain) ∧
          (∀ laneId, laneId ∈ config.enabledLanes ↔
            laneId ∈ sharedLaneConfigs.map SharedLaneConfig.laneId ∧
              EnabledLocally localChainConfigs laneId.sourceChainName ∧
              EnabledLocally localChainConfigs laneId.destChainName) ∧
          (∃ chains, config.destChains = some chains ∧
            ∀ chain c, chains.lookup chain = some c ↔
              config.sharedConfigByEnabledChain.lookup chain = some c ∧
                ∃ laneId ∈ config.enabledLanes,
                  laneId.destChainName = chain) ∧
          (∀ laneId other c otherConfig,
            config.sharedConfigByEnabledLane.lookup laneId = some c →
            config.sharedConfigByEnabledLane.lookup other =
              some otherConfig →
            laneId.destChainName = other.destChainName →
            c.commitStore = otherConfig.commitStore → laneId = other) ∧
          ∀ chain commitStore laneId,
            (laneIdByCommitStore (config.laneConfigs chain)).lookup
                commitStore = some laneId ↔
              ∃ c, config.sharedConfigByEnabledLane.lookup laneId = some c ∧
                laneId.destChainName = chain ∧
                c.commitStore = commitStore := by
  constructor
  · constructor
    · intro ⟨config, accepted⟩
      exact (new_eq_ok_iff.mp accepted).1
    · intro accepted
      exact ⟨_, new_eq_ok_iff.mpr ⟨accepted, rfl⟩⟩
  · intro config isOk
    obtain ⟨accepted, built⟩ := new_eq_ok_iff.mp isOk
    have parts : config.Partitions sharedChainConfigs sharedLaneConfigs
        localChainConfigs := by
      rw [← built]
      exact build_partitions accepted
    have known : ∀ laneId ∈ config.enabledLanes,
        laneId.destChainName ∈ config.sharedConfigByEnabledChain := by
      intro laneId member
      obtain ⟨_, _, destEnabled⟩ := parts.mem_enabledLanes.mp member
      exact (parts.mem_enabledChains accepted).mpr destEnabled
    refine ⟨parts, fun _ => parts.mem_enabledChains accepted,
      fun _ => parts.mem_disabledChains, fun _ => parts.mem_enabledLanes,
      destChains_of_known known, ?_, ?_⟩
    · intro laneId other c otherConfig found otherFound sameDest sameStore
      exact parts.commitStore_injective accepted.commitStores found otherFound
        sameDest sameStore
    · intro chain commitStore laneId
      exact parts.lookup_laneIdByCommitStore accepted.commitStores

def sampleChain (name : ChainName) : SharedChainConfig where
  name := name
  stability := .finalityTag 10
  blessFeeConfig := .legacy (.gwei 30)
  curseFeeConfig := .legacy (.gwei 60)
  maxTaggedRootsPerVoteToBless := 16
  afnContract := SizedBytes.replicate 20 0
  inflightTime := .minutes 5
  maxFreshBlockAge := .minutes 60
  uponFinalityViolationVoteToCurseOnOtherChains := false

def sampleLane : SharedLaneConfig where
  laneId := ⟨.sepolia, .goerli, "lane"⟩
  laneType := .evm2EvmV1_0
  sourceStartBlockNumber := 1
  destStartBlockNumber := 1
  commitStore := SizedBytes.replicate 20 1
  onRamp := SizedBytes.replicate 20 2
  offRamp := SizedBytes.replicate 20 3

theorem config_acceptance_sepoliaToGoerli :
    ∃ config, new [sampleChain .goerli, sampleChain .sepolia] [sampleLane]
        [⟨.sepolia, false, []⟩, ⟨.goerli, false, []⟩] = .ok config ∧
      sampleLane.laneId ∈ config.enabledLanes := by
  obtain ⟨acceptsIff, accepted⟩ := config_acceptance
    [sampleChain .goerli, sampleChain .sepolia] [sampleLane]
    [⟨.sepolia, false, []⟩, ⟨.goerli, false, []⟩]
  obtain ⟨config, isOk⟩ := acceptsIff.mpr
    { localNames := by decide
      sharedNames := by decide
      sameChains := fun chain => by cases chain <;> decide
      laneIds := by decide
      commitStores := by decide
      lanes := by decide }
  obtain ⟨_, _, _, mem_enabledLanes, _⟩ := accepted config isOk
  refine ⟨config, isOk, (mem_enabledLanes _).mpr ⟨by decide, ?_, ?_⟩⟩
  · exact ⟨⟨.sepolia, false, []⟩, by decide, rfl, rfl⟩
  · exact ⟨⟨.goerli, false, []⟩, by decide, rfl, rfl⟩

end OffchainConfig
end RiskManagement
