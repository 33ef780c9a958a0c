import Mathlib.Algebra.Group.Nat.Defs
import Mathlib.Data.List.Basic

/-!
# Computations that may panic

`none` is a panic: an index or a slice out of range, or a sum that a `usize`
does not hold.  A run without panics is compared with the plain computation
that takes and drops without looking.
-/

namespace Panics

variable {α β ε : Type}

/-! ### Checked operations -/

/-- `list[start..stop]`. -/
def slice (list : List α) (start stop : Nat) : Option (List α) :=
  if start ≤ stop ∧ stop ≤ list.length then
    some ((list.drop start).take (stop - start))
  else
    none

/-- `list[start..]`. -/
def sliceFrom (list : List α) (start : Nat) : Option (List α) :=
  slice list start list.length

/-- `left + right`. -/
def addUsize (left right : Nat) : Option Nat :=
  if left + right < 2 ^ 64 then some (left + right) else none

/-- `left * right`. -/
def mulUsize (left right : Nat) : Option Nat :=
  if left * right < 2 ^ 64 then some (left * right) else none

theorem slice_eq {list : List α} {start stop : Nat} (ordered : start ≤ stop)
    (within : stop ≤ list.length) :
    slice list start stop = some ((list.drop start).take (stop - start)) := by
  rw [slice, if_pos ⟨ordered, within⟩]

theorem slice_add {list : List α} {start length : Nat}
    (within : start + length ≤ list.length) :
    slice list start (start + length) =
      some ((list.drop start).take length) := by
  rw [slice_eq (Nat.le_add_right start length) within,
    Nat.add_sub_cancel_left]

theorem slice_zero {list : List α} {stop : Nat}
    (within : stop ≤ list.length) :
    slice list 0 stop = some (list.take stop) := by
  rw [slice_eq (Nat.zero_le stop) within, List.drop_zero, Nat.sub_zero]

theorem sliceFrom_eq {list : List α} {start : Nat}
    (within : start ≤ list.length) :
    sliceFrom list start = some (list.drop start) := by
  rw [sliceFrom, slice_eq within (Nat.le_refl _), ← List.length_drop,
    List.take_length]

theorem slice_middle (front middle back : List α) :
    slice (front ++ (middle ++ back)) front.length
      (front.length + middle.length) = some middle := by
  rw [slice_add (by simp), List.drop_left, List.take_left]

theorem addUsize_eq {left right : Nat} (fits : left + right < 2 ^ 64) :
    addUsize left right = some (left + right) := by
  rw [addUsize, if_pos fits]

theorem mulUsize_eq {left right : Nat} (fits : left * right < 2 ^ 64) :
    mulUsize left right = some (left * right) := by
  rw [mulUsize, if_pos fits]

/-! ### Fallible computations -/

/-- A computation with errors that may also panic. -/
abbrev Run (ε α : Type) := ExceptT ε Option α

/-- The run that ends with a result or an error, not with a panic. -/
def returns (result : Except ε α) : Run ε α := ExceptT.mk (some result)

/-- A checked operation inside of a run. -/
def orPanic (value : Option α) : Run ε α := ExceptT.lift value

/-- The run does not panic. -/
def Returns (run : Run ε α) : Prop := ∃ result, run = returns result

theorem orPanic_some (value : α) :
    (orPanic (some value) : Run ε α) = returns (.ok value) := rfl

theorem returns_inj {left right : Except ε α} :
    (returns left : Run ε α) = returns right ↔ left = right :=
  ⟨Option.some.inj, congrArg returns⟩

theorem ok_bind (value : α) (next : α → Run ε β) :
    returns (.ok value) >>= next = next value := rfl

/-- A checked operation that is in range goes on with its value. -/
theorem orPanic_bind {value : Option α} {result : α} (next : α → Run ε β)
    (inRange : value = some result) :
    (orPanic value : Run ε α) >>= next = next result := by
  rw [inRange, orPanic_some, ok_bind]

/-- Two computations agree when their first steps do, and the rest does after
a successful first step. -/
theorem bind_eq_returns {first : Run ε α} {plain : Except ε α}
    {next : α → Run ε β} {plainNext : α → Except ε β}
    (start : first = returns plain)
    (rest : ∀ value, plain = .ok value →
      next value = returns (plainNext value)) :
    first >>= next = returns (plain >>= plainNext) := by
  subst start
  cases plain with
  | error failure => rfl
  | ok value => exact rest value rfl

theorem Returns.bind {first : Run ε α} {next : α → Run ε β}
    (start : Returns first)
    (rest : ∀ value, first = Panics.returns (.ok value) →
      Returns (next value)) :
    Returns (first >>= next) := by
  obtain ⟨result, isResult⟩ := start
  subst isResult
  cases result with
  | error failure => exact ⟨.error failure, rfl⟩
  | ok value => exact rest value rfl

theorem bind_eq_returns_ok {first : Run ε α} {next : α → Run ε β}
    {result : β} (done : first >>= next = returns (.ok result)) :
    ∃ value, first = returns (.ok value) ∧
      next value = returns (.ok result) := by
  cases isFirst : first.run with
  | none =>
      have panicked : first = none := isFirst
      rw [panicked] at done
      cases done
  | some outcome =>
      have returned : first = returns outcome := isFirst
      subst returned
      cases outcome with
      | error failure => cases done
      | ok value => exact ⟨value, rfl, done⟩

theorem bind_eq_ok_iff {first : Run ε α} {next : α → Run ε β} {result : β} :
    first >>= next = returns (.ok result) ↔
      ∃ value, first = returns (.ok value) ∧
        next value = returns (.ok result) := by
  constructor
  · exact bind_eq_returns_ok
  · rintro ⟨value, rfl, rest⟩
    exact rest

theorem pure_eq_ok_iff {value result : α} :
    (pure value : Run ε α) = returns (.ok result) ↔ value = result := by
  constructor
  · intro same
    cases same
    rfl
  · rintro rfl
    rfl

theorem orPanic_eq_ok_iff {value : Option α} {result : α} :
    (orPanic value : Run ε α) = returns (.ok result) ↔
      value = some result := by
  cases value with
  | none => exact ⟨nofun, nofun⟩
  | some found => exact pure_eq_ok_iff.trans Option.some_inj.symm

theorem forM_eq_ok_iff {check : α → Run ε Unit} {items : List α} :
    items.forM check = returns (.ok ()) ↔
      ∀ item ∈ items, check item = returns (.ok ()) := by
  induction items with
  | nil =>
      rw [List.forM]
      simp only [List.not_mem_nil, IsEmpty.forall_iff, implies_true, iff_true]
      rfl
  | cons first rest ih =>
      rw [List.forM, bind_eq_ok_iff, List.forall_mem_cons, ← ih]
      exact ⟨fun ⟨(), passed, others⟩ => ⟨passed, others⟩,
        fun ⟨passed, others⟩ => ⟨(), passed, others⟩⟩

/-! ### Errors of another type -/

section Adapt

variable {ε' : Type} {change : ε → ε'} {run : Run ε α}

theorem adapt_eq_ok_iff {result : α} :
    run.adapt change = returns (.ok result) ↔ run = returns (.ok result) := by
  constructor
  · intro adapted
    match run with
    | none => cases adapted
    | some (.error failure) => cases adapted
    | some (.ok value) =>
        cases adapted
        rfl
  · rintro rfl
    rfl

theorem adapt_returns_iff : Returns (run.adapt change) ↔ Returns run := by
  constructor
  · intro ⟨result, adapted⟩
    match run with
    | none => cases adapted
    | some outcome => exact ⟨outcome, rfl⟩
  · rintro ⟨result, rfl⟩
    exact ⟨_, rfl⟩

end Adapt

end Panics
