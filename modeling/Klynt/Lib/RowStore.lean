import Mathlib.Logic.Function.Basic
import Mathlib.Tactic.Common

set_option relaxedAutoImplicit false
set_option autoImplicit false

/-!
# Rows under READ COMMITTED

Transactions write rows of a store at the same time.  A row has a committed version and at most one
uncommitted one: who wants to write a row that another transaction has written waits for its end.

## Main definitions

* `RowStore` — the versions of the rows.
* `RowStore.read` — what a transaction sees of a row when a statement begins.
* `RowStore.Holds`, `RowStore.Free` — the rows that a transaction has written, and those that it may
  write.
* `RowStore.write`, `RowStore.commit`, `RowStore.rollback` — the steps of a transaction.

## Main results

* `RowStore.Holds.unique` — a row is held by one transaction.
* `RowStore.read_write_of_ne`, `RowStore.read_rollback_of_ne` — what others see does not change
  before a commit.
-/

/-- The versions of the rows of a store: the committed one, and the one that a transaction has
written without having committed it.  A row that is not there is `none`. -/
structure RowStore (ι κ β : Type) where
  /-- The committed rows. -/
  committed : κ → Option β
  /-- The uncommitted versions, with their transactions. -/
  dirty : κ → Option (ι × Option β)

namespace RowStore

variable {ι κ β : Type} [DecidableEq ι] [DecidableEq κ]

/-- What a transaction sees of a row. -/
def read (s : RowStore ι κ β) (i : ι) (k : κ) : Option β :=
  match s.dirty k with
  | some (j, v) => if j = i then v else s.committed k
  | none => s.committed k

/-- A transaction has written a row. -/
def Holds (s : RowStore ι κ β) (i : ι) (k : κ) : Prop := ∃ v, s.dirty k = some (i, v)

/-- No other transaction has written a row. -/
def Free (s : RowStore ι κ β) (i : ι) (k : κ) : Prop := ∀ j, s.Holds j k → j = i

/-- A transaction writes a row. -/
def write (s : RowStore ι κ β) (i : ι) (k : κ) (v : Option β) : RowStore ι κ β :=
  { s with dirty := Function.update s.dirty k (some (i, v)) }

/-- The uncommitted versions without those of a transaction. -/
def release (s : RowStore ι κ β) (i : ι) (k : κ) : Option (ι × Option β) :=
  (s.dirty k).filter fun version => version.1 ≠ i

/-- A transaction commits. -/
def commit (s : RowStore ι κ β) (i : ι) : RowStore ι κ β := ⟨s.read i, s.release i⟩

/-- A transaction is rolled back. -/
def rollback (s : RowStore ι κ β) (i : ι) : RowStore ι κ β := { s with dirty := s.release i }

variable {s : RowStore ι κ β} {i j : ι} {k k' : κ} {v : Option β}

/-! ## Committed rows -/

omit [DecidableEq ι] in
@[simp] lemma committed_write : (s.write i k v).committed = s.committed := rfl

omit [DecidableEq κ] in
@[simp] lemma committed_rollback : (s.rollback i).committed = s.committed := rfl

omit [DecidableEq κ] in
@[simp] lemma committed_commit : (s.commit i).committed = s.read i := rfl

omit [DecidableEq ι] in
/-- Other rows are as dirty as before. -/
lemma dirty_write_of_ne (h : k' ≠ k) : (s.write i k v).dirty k' = s.dirty k' :=
  Function.update_of_ne h _ _

/-! ## Who holds a row -/

omit [DecidableEq ι] [DecidableEq κ] in
/-- A row is held by one transaction. -/
lemma Holds.unique (hi : s.Holds i k) (hj : s.Holds j k) : i = j := by
  obtain ⟨v, hv⟩ := hi
  obtain ⟨v', hv'⟩ := hj
  exact congrArg Prod.fst (Option.some.inj (hv.symm.trans hv'))

omit [DecidableEq ι] in
/-- A row that was written is held. -/
lemma holds_write_self : (s.write i k v).Holds i k := ⟨v, Function.update_self k _ _⟩

omit [DecidableEq ι] in
/-- Other rows are held as before. -/
lemma holds_write_of_ne (h : k' ≠ k) : (s.write i k v).Holds j k' ↔ s.Holds j k' := by
  unfold Holds
  rw [dirty_write_of_ne h]

omit [DecidableEq ι] in
/-- Others hold what they held. -/
lemma holds_write_other (hfree : s.Free i k) (hj : j ≠ i) :
    (s.write i k v).Holds j k' ↔ s.Holds j k' := by
  by_cases hk : k' = k
  · subst hk
    constructor
    · intro h
      exact absurd (h.unique holds_write_self) hj
    · intro h
      exact absurd (hfree j h) hj
  · exact holds_write_of_ne hk

omit [DecidableEq κ] in
/-- Nothing is held after a release. -/
lemma release_ne (k : κ) (v : Option β) : s.release i k ≠ some (i, v) := by
  intro h
  have hne := (Option.filter_eq_some_iff.mp h).2
  exact absurd rfl (of_decide_eq_true hne)

omit [DecidableEq κ] in
/-- A release keeps what others have written. -/
lemma release_eq_some (hj : j ≠ i) : s.release i k = some (j, v) ↔ s.dirty k = some (j, v) := by
  unfold release
  rw [Option.filter_eq_some_iff]
  exact ⟨fun h => h.1, fun h => ⟨h, decide_eq_true hj⟩⟩

omit [DecidableEq κ] in
/-- Nothing is held after a rollback. -/
lemma not_holds_rollback (k : κ) : ¬ (s.rollback i).Holds i k := fun ⟨v, hv⟩ => release_ne k v hv

omit [DecidableEq κ] in
/-- Nothing is held after a commit. -/
lemma not_holds_commit (k : κ) : ¬ (s.commit i).Holds i k := fun ⟨v, hv⟩ => release_ne k v hv

omit [DecidableEq κ] in
/-- Others hold what they held. -/
lemma holds_rollback_other (hj : j ≠ i) : (s.rollback i).Holds j k ↔ s.Holds j k :=
  exists_congr fun _ => release_eq_some hj

omit [DecidableEq κ] in
/-- Others hold what they held. -/
lemma holds_commit_other (hj : j ≠ i) : (s.commit i).Holds j k ↔ s.Holds j k :=
  exists_congr fun _ => release_eq_some hj

/-! ## What a transaction sees -/

omit [DecidableEq κ] in
/-- A transaction sees the committed version of a row that it has not written. -/
lemma read_of_not_holds (h : ¬ s.Holds i k) : s.read i k = s.committed k := by
  unfold read
  cases hdirty : s.dirty k with
  | none => rfl
  | some version =>
    obtain ⟨j, v⟩ := version
    refine if_neg fun hj => h ⟨v, ?_⟩
    rw [hdirty, hj]

omit [DecidableEq κ] in
/-- A transaction sees what it has written. -/
lemma read_of_dirty (h : s.dirty k = some (i, v)) : s.read i k = v := by
  unfold read
  rw [h]
  exact if_pos rfl

/-- A transaction sees what it writes. -/
@[simp] lemma read_write_self : (s.write i k v).read i k = v :=
  read_of_dirty (Function.update_self k _ _)

/-- A transaction sees other rows as before. -/
lemma read_write_of_ne (h : k' ≠ k) : (s.write i k v).read j k' = s.read j k' := by
  unfold read
  rw [dirty_write_of_ne h, committed_write]

/-- Others do not see what a transaction writes. -/
lemma read_write_other (hfree : s.Free i k) (hj : j ≠ i) :
    (s.write i k v).read j k' = s.read j k' := by
  by_cases hk : k' = k
  · subst hk
    rw [read_of_not_holds fun h => hj (h.unique holds_write_self),
      read_of_not_holds fun h => hj (hfree j h), committed_write]
  · exact read_write_of_ne hk

omit [DecidableEq κ] in
/-- Others do not see a rollback. -/
lemma read_rollback_other (hj : j ≠ i) : (s.rollback i).read j k = s.read j k := by
  by_cases h : s.Holds j k
  · obtain ⟨v, hv⟩ := h
    rw [read_of_dirty hv, read_of_dirty ((release_eq_some hj).mpr hv)]
  · rw [read_of_not_holds h, read_of_not_holds fun h' => h ((holds_rollback_other hj).mp h'),
      committed_rollback]

end RowStore
