import Mathlib.Data.List.Basic

/-!
# Tables with a unique key

A table is a list of rows in which no two rows share a key.  A selection in
key order is determined by its rows.
-/

namespace KeyedTable

variable {Row Key : Type} {key : Row → Key}

def UniqueKeys (key : Row → Key) (rows : List Row) : Prop :=
  rows.Pairwise fun earlier later => key earlier ≠ key later

/-- A row with the same key is replaced. -/
def insertOrReplace [DecidableEq Key] (key : Row → Key) (row : Row)
    (rows : List Row) : List Row :=
  row :: rows.filter fun other => key other ≠ key row

theorem mem_insertOrReplace [DecidableEq Key] {row other : Row}
    {rows : List Row} :
    other ∈ insertOrReplace key row rows ↔
      other = row ∨ other ∈ rows ∧ key other ≠ key row := by
  simp [insertOrReplace]

theorem UniqueKeys.insertOrReplace [DecidableEq Key] {rows : List Row}
    (unique : UniqueKeys key rows) (row : Row) :
    UniqueKeys key (insertOrReplace key row rows) := by
  apply List.pairwise_cons.mpr
  constructor
  · intro other member
    have different := (List.mem_filter.mp member).2
    simp only [ne_eq, decide_not, Bool.not_eq_true', decide_eq_false_iff_not]
      at different
    exact fun same => different same.symm
  · exact unique.filter _

/-! ### Selections -/

/-- The rows a condition keeps, in order. -/
def select (keep : Row → Bool) (notAfter : Row → Row → Bool)
    (rows : List Row) : List Row :=
  (rows.filter keep).mergeSort notAfter

theorem mem_select {keep : Row → Bool} {notAfter : Row → Row → Bool}
    {rows : List Row} {row : Row} :
    row ∈ select keep notAfter rows ↔ row ∈ rows ∧ keep row = true := by
  rw [select, (List.mergeSort_perm _ _).mem_iff, List.mem_filter]

theorem length_select {keep : Row → Bool} {notAfter : Row → Row → Bool}
    {rows : List Row} :
    (select keep notAfter rows).length = rows.countP keep := by
  rw [select, (List.mergeSort_perm _ _).length_eq, List.countP_eq_length_filter]

/-- The entries read from a selection are any ordered list of them without
repetition. -/
theorem UniqueKeys.map_select_eq {Entry : Type} {keep : Row → Bool}
    {notAfter : Row → Row → Bool} {rows : List Row} {read : Row → Entry}
    {before : Entry → Entry → Prop} {listed : List Entry}
    (unique : UniqueKeys key rows)
    (reads : ∀ a ∈ rows, ∀ b ∈ rows, read a = read b → key a = key b)
    (trans : ∀ a b c, notAfter a b → notAfter b c → notAfter a c)
    (total : ∀ a b, notAfter a b || notAfter b a)
    (monotone : ∀ a ∈ rows, ∀ b ∈ rows, notAfter a b →
      before (read a) (read b))
    (ordered : listed.Pairwise before) (nodup : listed.Nodup)
    (antisymm : ∀ a ∈ listed, ∀ b ∈ listed, before a b → before b a → a = b)
    (same : ∀ entry, entry ∈ listed ↔
      ∃ row ∈ rows, keep row = true ∧ read row = entry) :
    (select keep notAfter rows).map read = listed := by
  have inRows : ∀ row ∈ select keep notAfter rows, row ∈ rows :=
    fun row member => (mem_select.mp member).1
  have sameMembers : ∀ entry,
      entry ∈ (select keep notAfter rows).map read ↔ entry ∈ listed := by
    intro entry
    rw [same, List.mem_map]
    constructor
    · intro ⟨row, member, isRead⟩
      obtain ⟨inTable, kept⟩ := mem_select.mp member
      exact ⟨row, inTable, kept, isRead⟩
    · intro ⟨row, inTable, kept, isRead⟩
      exact ⟨row, mem_select.mpr ⟨inTable, kept⟩, isRead⟩
  have selectedUnique : UniqueKeys key (select keep notAfter rows) := by
    apply ((List.mergeSort_perm _ _).pairwise_iff ?_).mpr (unique.filter _)
    intro a b different same
    exact different same.symm
  have selectedNodup : ((select keep notAfter rows).map read).Nodup := by
    apply List.pairwise_map.mpr
    apply selectedUnique.imp_of_mem
    intro a b aIn bIn different sameRead
    exact different (reads a (inRows a aIn) b (inRows b bIn) sameRead)
  have selectedOrdered :
      ((select keep notAfter rows).map read).Pairwise before := by
    apply List.pairwise_map.mpr
    apply (List.pairwise_mergeSort trans total _).imp_of_mem
    intro a b aIn bIn
    exact monotone a (inRows a aIn) b (inRows b bIn)
  refine List.Perm.eq_of_pairwise ?_ selectedOrdered ordered ?_
  · intro a b aIn bIn
    exact antisymm a ((sameMembers a).mp aIn) b bIn
  · exact (List.perm_ext_iff_of_nodup selectedNodup nodup).mpr sameMembers

end KeyedTable
