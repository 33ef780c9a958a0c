import Mathlib.Data.List.AList
import Mathlib.Data.List.Induction

/-!
# Maps that are also iterated over

A hash map is its list of entries, no two of which share a key.  The order of
the entries stands for whatever order an iteration has.
-/

abbrev EntryMap (Key Value : Type) := AList fun _ : Key => Value

namespace EntryMap

variable {Key Value : Type} [DecidableEq Key]

/-- A key that is there already keeps its value. -/
def getOrInsert (map : EntryMap Key Value) (key : Key) (value : Value) :
    EntryMap Key Value :=
  if key ∈ map then map else map.insert key value

/-- The entries are inserted one after the other. -/
def collect (entries : List (Key × Value)) : EntryMap Key Value :=
  entries.foldl (fun map entry => map.insert entry.1 entry.2) ∅

/-- The values of one key are combined, the newer one with the older one. -/
def combine (op : Value → Value → Value) (entries : List (Key × Value)) :
    EntryMap Key Value :=
  entries.foldl
    (fun map entry => map.insert entry.1
      (match map.lookup entry.1 with
      | none => entry.2
      | some older => op entry.2 older))
    ∅

def filter (keep : Key → Value → Bool) (map : EntryMap Key Value) :
    EntryMap Key Value where
  entries := map.entries.filter fun entry => keep entry.1 entry.2
  nodupKeys := map.nodupKeys.sublist List.filter_sublist

variable {map : EntryMap Key Value} {key other : Key} {value : Value}

theorem mem_entries_iff :
    (⟨key, value⟩ : Sigma fun _ : Key => Value) ∈ map.entries ↔
      map.lookup key = some value := by
  rw [← AList.mem_lookup_iff]
  rfl

theorem lookup_getOrInsert_self :
    (getOrInsert map key value).lookup key =
      some ((map.lookup key).getD value) := by
  rw [getOrInsert]
  split
  · rename_i member
    obtain ⟨found, isFound⟩ :=
      Option.isSome_iff_exists.mp (AList.lookup_isSome.mpr member)
    rw [isFound]
    rfl
  · rename_i absent
    rw [AList.lookup_insert, AList.lookup_eq_none.mpr absent]
    rfl

theorem lookup_getOrInsert_of_ne (different : other ≠ key) :
    (getOrInsert map key value).lookup other = map.lookup other := by
  rw [getOrInsert]
  split
  · rfl
  · exact AList.lookup_insert_ne different

theorem lookup_getOrInsert_of_some {found : Value}
    (isFound : map.lookup other = some found) :
    (getOrInsert map key value).lookup other = some found := by
  by_cases same : other = key
  · subst same
    rw [lookup_getOrInsert_self, isFound]
    rfl
  · rw [lookup_getOrInsert_of_ne same, isFound]

theorem collect_append_singleton (entries : List (Key × Value))
    (last : Key × Value) :
    collect (entries ++ [last]) =
      (collect entries).insert last.1 last.2 := by
  rw [collect, List.foldl_append]
  rfl

theorem lookup_collect_eq_some_iff {entries : List (Key × Value)}
    (distinct : (entries.map Prod.fst).Nodup) :
    (collect entries).lookup key = some value ↔ (key, value) ∈ entries := by
  induction entries using List.reverseRecOn with
  | nil => simp [collect]
  | append_singleton entries last ih =>
      rw [List.map_append, List.map_singleton,
        List.nodup_append_comm, List.singleton_append,
        List.nodup_cons] at distinct
      obtain ⟨fresh, distinct⟩ := distinct
      rw [collect_append_singleton, List.mem_append, List.mem_singleton]
      by_cases same : key = last.1
      · subst same
        rw [AList.lookup_insert, Option.some.injEq]
        constructor
        · intro isValue
          exact .inr (by rw [← isValue])
        · intro member
          rcases member with old | isLast
          · exact absurd (List.mem_map_of_mem old) fresh
          · rw [← isLast]
      · rw [AList.lookup_insert_ne same, ih distinct]
        constructor
        · exact .inl
        · intro member
          rcases member with old | isLast
          · exact old
          · exact absurd (congrArg Prod.fst isLast) same

theorem mem_collect {entries : List (Key × Value)} :
    key ∈ collect entries ↔ key ∈ entries.map Prod.fst := by
  induction entries using List.reverseRecOn with
  | nil => simp [collect]
  | append_singleton entries last ih =>
      rw [collect_append_singleton, AList.mem_insert, ih, List.map_append,
        List.mem_append, List.map_singleton, List.mem_singleton, or_comm]

/-- No item is lost when no two of them have the same key. -/
theorem lookup_collect_map_eq_some_iff {Item : Type} {items : List Item}
    {keyOf : Item → Key} {valueOf : Item → Value}
    (distinct : (items.map keyOf).Nodup) :
    (collect (items.map fun item => (keyOf item, valueOf item))).lookup key =
        some value ↔
      ∃ item ∈ items, keyOf item = key ∧ valueOf item = value := by
  rw [lookup_collect_eq_some_iff]
  · simp
  · rw [List.map_map]
    exact distinct

theorem lookup_collect_keyed_eq_some_iff {items : List Value}
    {keyOf : Value → Key} (distinct : (items.map keyOf).Nodup) :
    (collect (items.map fun item => (keyOf item, item))).lookup key =
        some value ↔
      value ∈ items ∧ keyOf value = key := by
  rw [lookup_collect_map_eq_some_iff distinct]
  constructor
  · intro ⟨item, member, isKey, same⟩
    subst same
    exact ⟨member, isKey⟩
  · intro ⟨member, isKey⟩
    exact ⟨value, member, isKey, rfl⟩

theorem mem_collect_map {Item : Type} {items : List Item}
    {keyOf : Item → Key} {valueOf : Item → Value} :
    key ∈ collect (items.map fun item => (keyOf item, valueOf item)) ↔
      key ∈ items.map keyOf := by
  rw [mem_collect, List.map_map]
  rfl

omit [DecidableEq Key] in
theorem mem_foldl {Item : Type}
    {step : EntryMap Key Value → Item → EntryMap Key Value}
    {Adds : Item → Prop}
    (adds : ∀ map item, key ∈ step map item ↔ key ∈ map ∨ Adds item)
    (items : List Item) (map : EntryMap Key Value) :
    key ∈ items.foldl step map ↔ key ∈ map ∨ ∃ item ∈ items, Adds item := by
  induction items generalizing map with
  | nil => simp
  | cons item items ih =>
      rw [List.foldl_cons, ih, adds]
      simp [or_assoc]

theorem combine_append_singleton (op : Value → Value → Value)
    (entries : List (Key × Value)) (last : Key × Value) :
    combine op (entries ++ [last]) =
      (combine op entries).insert last.1
        (match (combine op entries).lookup last.1 with
        | none => last.2
        | some older => op last.2 older) := by
  rw [combine, List.foldl_append]
  rfl

theorem mem_combine {op : Value → Value → Value}
    {entries : List (Key × Value)} :
    key ∈ combine op entries ↔ key ∈ entries.map Prod.fst := by
  induction entries using List.reverseRecOn with
  | nil => simp [combine]
  | append_singleton entries last ih =>
      rw [combine_append_singleton, AList.mem_insert, ih, List.map_append,
        List.mem_append, List.map_singleton, List.mem_singleton, or_comm]

/-- The value of a key is one of those listed under it, or a combination. -/
theorem holds_of_lookup_combine {op : Value → Value → Value}
    (Holds : Value → Prop)
    (kept : ∀ newer older, Holds newer → Holds older →
      Holds (op newer older))
    {entries : List (Key × Value)}
    (listed : ∀ value, (key, value) ∈ entries → Holds value)
    (found : (combine op entries).lookup key = some value) :
    Holds value := by
  induction entries using List.reverseRecOn generalizing value with
  | nil =>
      rw [combine, List.foldl_nil, AList.lookup_empty] at found
      cases found
  | append_singleton entries last ih =>
      have ofOlder : ∀ value, (combine op entries).lookup key = some value →
          Holds value :=
        fun value => ih fun value member => listed value
          (List.mem_append_left _ member)
      rw [combine_append_singleton] at found
      by_cases same : key = last.1
      · subst same
        have newest := listed last.2
          (List.mem_append_right _ (List.mem_singleton.mpr rfl))
        rw [AList.lookup_insert, Option.some.injEq] at found
        subst found
        cases older : (combine op entries).lookup last.1 with
        | none => exact newest
        | some value => exact kept _ _ newest (ofOlder value older)
      · rw [AList.lookup_insert_ne same] at found
        exact ofOlder value found

/-- What holds of both parts of each combination it holds of, holds of all
that is listed when it holds of the map's values. -/
theorem holds_of_mem_combined {op : Value → Value → Value}
    (Holds : Value → Prop)
    (splits : ∀ newer older, Holds (op newer older) →
      Holds newer ∧ Holds older)
    {entries : List (Key × Value)}
    (holds : ∀ value, (combine op entries).lookup key = some value →
      Holds value)
    (member : (key, value) ∈ entries) : Holds value := by
  induction entries using List.reverseRecOn generalizing value with
  | nil => cases member
  | append_singleton entries last ih =>
      rw [combine_append_singleton] at holds
      by_cases same : key = last.1
      · subst same
        have combined := holds _ (AList.lookup_insert _)
        cases older : (combine op entries).lookup last.1 with
        | none =>
            rw [older] at combined
            have fresh := AList.lookup_eq_none.mp older
            rw [mem_combine] at fresh
            rcases List.mem_append.mp member with old | new
            · exact absurd (List.mem_map_of_mem old) fresh
            · rw [← List.mem_singleton.mp new] at combined
              exact combined
        | some known =>
            rw [older] at combined
            obtain ⟨newest, knownHolds⟩ := splits _ _ combined
            rcases List.mem_append.mp member with old | new
            · refine ih ?_ old
              intro found isFound
              rw [older] at isFound
              cases isFound
              exact knownHolds
            · rw [← List.mem_singleton.mp new] at newest
              exact newest
      · refine ih ?_ ?_
        · intro found isFound
          apply holds
          rw [AList.lookup_insert_ne same]
          exact isFound
        · rcases List.mem_append.mp member with old | new
          · exact old
          · exact absurd (congrArg Prod.fst (List.mem_singleton.mp new)) same

theorem mem_iff : key ∈ map ↔ ∃ value, map.lookup key = some value := by
  rw [← AList.lookup_isSome, Option.isSome_iff_exists]

theorem lookup_filter_eq_some_iff {keep : Key → Value → Bool} :
    (filter keep map).lookup key = some value ↔
      map.lookup key = some value ∧ keep key value = true := by
  rw [← mem_entries_iff, ← mem_entries_iff]
  exact List.mem_filter

theorem mem_filter {keep : Key → Value → Bool} :
    key ∈ filter keep map ↔
      ∃ value, map.lookup key = some value ∧ keep key value = true := by
  rw [mem_iff]
  exact exists_congr fun _ => lookup_filter_eq_some_iff

end EntryMap
