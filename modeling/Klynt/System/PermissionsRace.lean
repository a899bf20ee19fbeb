import Klynt.Lib.RowStore
import Klynt.Lib.Run
import Klynt.Persistence.Inversion

set_option relaxedAutoImplicit false
set_option autoImplicit false

/-!
# Calls replace the permissions of a role

Calls replace the permissions of one role at the same time.  Each runs a transaction statement by
statement, and row by row within a statement: it touches the role, deletes its permissions and
inserts the new ones.

## Main definitions

* `RoleKey`, `RoleValue`, `Db.roleStore` — the rows of a role.
* `Replacement`, `ReplacePhase` — a call, and how far its transaction is.
* `ReplaceStep` — one step of one call.
* `Replacing` — what holds of the rows while a transaction runs.

## Main results

* `replacing_of_run` — every transaction that runs holds the role, and sees the permissions it
  should.
* `replacement_atomic` — replacements are atomic.
* `replacements_serial` — the calls that returned ran one after the other, each as one transaction.

## Implementation notes

A statement sees the rows that are committed when it begins, and those of its own transaction. 
Where it meets a row that another transaction has written, it waits for the end of that transaction
and looks at the row again.  References are checked when the statement ends.  Any statement may
fail, and so may a commit, which then has no effect.
-/

namespace Klynt

/-! ## Rows -/

/-- The rows of a role. -/
inductive RoleKey where
  /-- Its row in `tenant_roles`. -/
  | role
  /-- Its row in `role_permissions` for a permission. -/
  | grant (p : PermissionId)
  deriving DecidableEq

/-- What is written in a row. -/
inductive RoleValue where
  /-- `tenant_id` and `updated_at` of the role. -/
  | role (tenantId : TenantId) (updatedAt : Time)
  /-- Both columns of `role_permissions` are in the key. -/
  | granted
  deriving DecidableEq

/-- The rows of a role in the database. -/
def Db.roleStore (db : Db) (roleId : RoleId) : RoleKey → Option RoleValue
  | .role => (db.tenantRoles.find? (·.id = roleId)).map fun r => .role r.tenantId r.updatedAt
  | .grant p => if ⟨roleId, p⟩ ∈ db.rolePermissions then some .granted else none

/-- `WHERE tenant_id = $1 AND id = $2`. -/
def RoleValue.ofTenant (t : TenantId) : Option RoleValue → Bool
  | some (.role t' _) => t' = t
  | _ => false

/-! ## Calls -/

/-- A call of `update_role_permissions` on the role. -/
structure Replacement where
  /-- `tenant_id`. -/
  tenantId : TenantId
  /-- `permission_ids`. -/
  permissionIds : List PermissionId

/-- How far the transaction of a call is. -/
inductive ReplacePhase where
  /-- It has not begun. -/
  | ready
  /-- The role is to be touched, if it was found when the statement began. -/
  | touching (found : Bool)
  /-- The role is touched. -/
  | touched
  /-- These permissions are to be deleted. -/
  | deleting (todo : List PermissionId)
  /-- These permissions are to be inserted. -/
  | inserting (todo : List PermissionId)
  /-- All statements are through. -/
  | committing
  /-- The call has returned. -/
  | returned (result : Except DomainError Unit)

/-- The rows of the role, and how far each call is. -/
structure ReplaceState (ι : Type) where
  /-- The rows. -/
  store : RowStore ι RoleKey RoleValue
  /-- The calls. -/
  phase : ι → ReplacePhase

section Step

variable {ι : Type} [DecidableEq ι]

/-- A call goes on with other rows. -/
def ReplaceState.goTo (s : ReplaceState ι) (i : ι) (store : RowStore ι RoleKey RoleValue)
    (phase : ReplacePhase) : ReplaceState ι :=
  { store, phase := Function.update s.phase i phase }

/-- A call is rolled back and returns an error. -/
def ReplaceState.rollBack (s : ReplaceState ι) (i : ι) (error : DomainError) : ReplaceState ι :=
  s.goTo i (s.store.rollback i) (.returned (.error error))

/-- **A step of a call.** -/
inductive ReplaceStep (calls : ι → Replacement) (db : Db) :
    ReplaceState ι → ι → ReplaceState ι → Prop
  /-- `UPDATE tenant_roles` begins. -/
  | update {s : ReplaceState ι} {i : ι} (h : s.phase i = .ready) :
    ReplaceStep calls db s i (s.goTo i s.store
      (.touching (RoleValue.ofTenant (calls i).tenantId (s.store.read i .role))))
  /-- It finds no row: `rows_affected() == 0`. -/
  | notFound {s : ReplaceState ι} {i : ι} (h : s.phase i = .touching false) :
    ReplaceStep calls db s i (s.rollBack i (.notFound "role"))
  /-- It writes the row. -/
  | touch {s : ReplaceState ι} {i : ι} (now : Time) (h : s.phase i = .touching true)
      (hfree : s.store.Free i .role)
      (hrow : RoleValue.ofTenant (calls i).tenantId (s.store.read i .role) = true) :
    ReplaceStep calls db s i (s.goTo i
      (s.store.write i .role (some (.role (calls i).tenantId now))) .touched)
  /-- The row that it found does not match any more. -/
  | vanished {s : ReplaceState ι} {i : ι} (h : s.phase i = .touching true)
      (hfree : s.store.Free i .role)
      (hrow : RoleValue.ofTenant (calls i).tenantId (s.store.read i .role) = false) :
    ReplaceStep calls db s i (s.rollBack i (.notFound "role"))
  /-- `DELETE FROM role_permissions` begins, with the rows that it finds in any order. -/
  | delete {s : ReplaceState ι} {i : ι} (todo : List PermissionId) (h : s.phase i = .touched)
      (htodo : ∀ p, p ∈ todo ↔ (s.store.read i (.grant p)).isSome = true) :
    ReplaceStep calls db s i (s.goTo i s.store (.deleting todo))
  /-- It deletes a row. -/
  | deleteRow {s : ReplaceState ι} {i : ι} {p : PermissionId} {todo : List PermissionId}
      (h : s.phase i = .deleting (p :: todo)) (hfree : s.store.Free i (.grant p))
      (hrow : (s.store.read i (.grant p)).isSome = true) :
    ReplaceStep calls db s i (s.goTo i (s.store.write i (.grant p) none) (.deleting todo))
  /-- Another transaction has deleted the row meanwhile. -/
  | skipRow {s : ReplaceState ι} {i : ι} {p : PermissionId} {todo : List PermissionId}
      (h : s.phase i = .deleting (p :: todo)) (hfree : s.store.Free i (.grant p))
      (hrow : (s.store.read i (.grant p)).isSome = false) :
    ReplaceStep calls db s i (s.goTo i s.store (.deleting todo))
  /-- `insert_role_permissions` has nothing to insert. -/
  | insertNone {s : ReplaceState ι} {i : ι} (h : s.phase i = .deleting [])
      (hempty : (calls i).permissionIds = []) :
    ReplaceStep calls db s i (s.goTo i s.store .committing)
  /-- `INSERT INTO role_permissions` begins, with the ids in the order of a hash set. -/
  | insert {s : ReplaceState ι} {i : ι} (rows : List PermissionId) (h : s.phase i = .deleting [])
      (hempty : (calls i).permissionIds ≠ []) (hnodup : rows.Nodup)
      (hrows : ∀ p, p ∈ rows ↔ p ∈ (calls i).permissionIds) :
    ReplaceStep calls db s i (s.goTo i s.store (.inserting rows))
  /-- It inserts a row. -/
  | insertRow {s : ReplaceState ι} {i : ι} {p : PermissionId} {todo : List PermissionId}
      (h : s.phase i = .inserting (p :: todo)) (hfree : s.store.Free i (.grant p))
      (hrow : (s.store.read i (.grant p)).isSome = false) :
    ReplaceStep calls db s i (s.goTo i (s.store.write i (.grant p) (some .granted)) (.inserting todo))
  /-- There is such a row. -/
  | duplicate {s : ReplaceState ι} {i : ι} {p : PermissionId} {todo : List PermissionId}
      (h : s.phase i = .inserting (p :: todo)) (hfree : s.store.Free i (.grant p))
      (hrow : (s.store.read i (.grant p)).isSome = true) :
    ReplaceStep calls db s i
      (s.rollBack i (mapRoleDbError (uniqueViolation "role_permissions_pkey")))
  /-- All permissions exist, as the role does. -/
  | inserted {s : ReplaceState ι} {i : ι} (h : s.phase i = .inserting [])
      (hknown : ∀ p ∈ (calls i).permissionIds, ∃ row ∈ db.permissions, row.id = p) :
    ReplaceStep calls db s i (s.goTo i s.store .committing)
  /-- A permission does not exist. -/
  | unknown {s : ReplaceState ι} {i : ι} (h : s.phase i = .inserting [])
      (hunknown : ¬ ∀ p ∈ (calls i).permissionIds, ∃ row ∈ db.permissions, row.id = p) :
    ReplaceStep calls db s i (s.rollBack i (mapRoleDbError
      (foreignKeyViolation "role_permissions" "role_permissions_permission_id_fkey")))
  /-- The transaction commits. -/
  | commit {s : ReplaceState ι} {i : ι} (h : s.phase i = .committing) :
    ReplaceStep calls db s i (s.goTo i (s.store.commit i) (.returned (.ok ())))
  /-- A statement or the commit fails. -/
  | fail {s : ReplaceState ι} {i : ι} (message : String) (h : ∀ r, s.phase i ≠ .returned r) :
    ReplaceStep calls db s i (s.rollBack i (.internal message))

/-- The calls are about to start. -/
def ReplaceInit (db : Db) (roleId : RoleId) (s : ReplaceState ι) : Prop :=
  s.store = ⟨db.roleStore roleId, fun _ => none⟩ ∧ ∀ i, s.phase i = .ready

/-- The history of the calls. -/
abbrev ReplaceHistory (ι : Type) : Type := List (ReplaceState ι × ι)

/-- A permission of the role is committed. -/
def ReplaceState.Granted (s : ReplaceState ι) (p : PermissionId) : Prop :=
  (s.store.committed (.grant p)).isSome = true

end Step

/-! ## What holds while a transaction runs -/

section Invariant

variable {ι : Type} [DecidableEq ι] {calls : ι → Replacement} {db : Db} {roleId : RoleId}
  {s s' : ReplaceState ι} {tr : ReplaceHistory ι} {i j : ι}

/-- A transaction sees a permission of the role. -/
def ReplaceState.Sees (s : ReplaceState ι) (i : ι) (p : PermissionId) : Prop :=
  (s.store.read i (.grant p)).isSome = true

/-- A transaction has touched the role, which is one of the tenant. -/
structure Touched (call : Replacement) (s : ReplaceState ι) (i : ι) : Prop where
  /-- It holds the role. -/
  holds : s.store.Holds i .role
  /-- It has written the time. -/
  written : ∃ now, s.store.read i .role = some (.role call.tenantId now)
  /-- The committed row is one of the tenant. -/
  matched : RoleValue.ofTenant call.tenantId (s.store.committed .role) = true

/-- What a transaction holds and sees. -/
def Replacing (call : Replacement) (db : Db) (s : ReplaceState ι) (i : ι) : ReplacePhase → Prop
  | .ready | .touching _ | .returned _ => ∀ k, ¬ s.store.Holds i k
  | .touched => Touched call s i
  | .deleting todo => Touched call s i ∧ ∀ p, s.Sees i p → p ∈ todo
  | .inserting todo => Touched call s i ∧ todo.Nodup ∧ (∀ p ∈ todo, p ∈ call.permissionIds) ∧
      ∀ p, s.Sees i p ↔ p ∈ call.permissionIds ∧ p ∉ todo
  | .committing => Touched call s i ∧ (∀ p, s.Sees i p ↔ p ∈ call.permissionIds) ∧
      ∀ p ∈ call.permissionIds, ∃ row ∈ db.permissions, row.id = p

/-- The phase of the call that goes on. -/
@[simp] lemma phase_goTo_self {store : RowStore ι RoleKey RoleValue} {phase : ReplacePhase} :
    (s.goTo i store phase).phase i = phase := by
  unfold ReplaceState.goTo
  exact Function.update_self ..

/-- The phases of other calls. -/
lemma phase_goTo_of_ne {store : RowStore ι RoleKey RoleValue} {phase : ReplacePhase} (h : j ≠ i) :
    (s.goTo i store phase).phase j = s.phase j := by
  unfold ReplaceState.goTo
  exact Function.update_of_ne h ..

/-- Where a transaction holds the same rows and, if it holds the role, sees the same, what holds of
it still holds. -/
lemma Replacing.congr {call : Replacement} {phase : ReplacePhase} (h : Replacing call db s i phase)
    (hholds : ∀ k, s'.store.Holds i k ↔ s.store.Holds i k)
    (hread : s.store.Holds i .role → ∀ k, s'.store.read i k = s.store.read i k)
    (hrow : s.store.Holds i .role → s'.store.committed .role = s.store.committed .role) :
    Replacing call db s' i phase := by
  have htouched : Touched call s i → Touched call s' i := fun ht =>
    { holds := (hholds .role).mpr ht.holds
      written := by
        rw [hread ht.holds]
        exact ht.written
      matched := by
        rw [hrow ht.holds]
        exact ht.matched }
  have hsees : s.store.Holds i .role → ∀ p, s'.Sees i p ↔ s.Sees i p := by
    intro hrole p
    unfold ReplaceState.Sees
    rw [hread hrole]
  cases phase with
  | ready => exact fun k hk => h k ((hholds k).mp hk)
  | touching found => exact fun k hk => h k ((hholds k).mp hk)
  | returned result => exact fun k hk => h k ((hholds k).mp hk)
  | touched => exact htouched h
  | deleting todo => exact ⟨htouched h.1, fun p hp => h.2 p ((hsees h.1.holds p).mp hp)⟩
  | inserting todo =>
    exact ⟨htouched h.1, h.2.1, h.2.2.1, fun p => (hsees h.1.holds p).trans (h.2.2.2 p)⟩
  | committing => exact ⟨htouched h.1, fun p => (hsees h.1.holds p).trans (h.2.1 p), h.2.2⟩

/-- What holds while the calls run. -/
def ReplaceInv (calls : ι → Replacement) (db : Db) (s : ReplaceState ι) : Prop :=
  ∀ i, Replacing (calls i) db s i (s.phase i)

/-- **Others are not disturbed** by rows that they may not see. -/
lemma replacing_other {store : RowStore ι RoleKey RoleValue} {phase : ReplacePhase}
    (h : Replacing (calls j) db s j (s.phase j)) (hj : j ≠ i)
    (hholds : ∀ k, store.Holds j k ↔ s.store.Holds j k)
    (hread : s.store.Holds j .role → ∀ k, store.read j k = s.store.read j k)
    (hrow : s.store.Holds j .role → store.committed .role = s.store.committed .role) :
    Replacing (calls j) db (s.goTo i store phase) j ((s.goTo i store phase).phase j) := by
  rw [phase_goTo_of_ne hj]
  exact h.congr hholds hread hrow

/-- A rollback keeps what holds. -/
lemma ReplaceInv.rollBack (h : ReplaceInv calls db s) (i : ι) (error : DomainError) :
    ReplaceInv calls db (s.rollBack i error) := by
  intro j
  by_cases hj : j = i
  · subst hj
    unfold ReplaceState.rollBack
    rw [phase_goTo_self]
    exact fun k => RowStore.not_holds_rollback k
  · exact replacing_other (h j) hj (fun k => RowStore.holds_rollback_other hj)
      (fun _ k => RowStore.read_rollback_other hj) fun _ => rfl

/-- A step without a write keeps what holds, if it holds of the call in its new phase. -/
lemma ReplaceInv.goTo (h : ReplaceInv calls db s) {phase : ReplacePhase}
    (hphase : Replacing (calls i) db s i phase) : ReplaceInv calls db (s.goTo i s.store phase) := by
  intro j
  by_cases hj : j = i
  · subst hj
    rw [phase_goTo_self]
    exact hphase.congr (fun _ => Iff.rfl) (fun _ _ => rfl) fun _ => rfl
  · exact replacing_other (h j) hj (fun _ => Iff.rfl) (fun _ _ => rfl) fun _ => rfl

/-- A write keeps what holds, if it holds of the call in its new phase. -/
lemma ReplaceInv.write (h : ReplaceInv calls db s) {k : RoleKey} {v : Option RoleValue}
    {phase : ReplacePhase} (hfree : s.store.Free i k)
    (hphase : Replacing (calls i) db (s.goTo i (s.store.write i k v) phase) i phase) :
    ReplaceInv calls db (s.goTo i (s.store.write i k v) phase) := by
  intro j
  by_cases hj : j = i
  · subst hj
    rw [phase_goTo_self]
    exact hphase
  · exact replacing_other (h j) hj (fun _ => RowStore.holds_write_other hfree hj)
      (fun _ _ => RowStore.read_write_other hfree hj) fun _ => rfl

/-- A role that was touched is still so after another row is written. -/
lemma Touched.write {call : Replacement} {p : PermissionId} {v : Option RoleValue}
    {phase : ReplacePhase} (h : Touched call s i) :
    Touched call (s.goTo i (s.store.write i (.grant p) v) phase) i where
  holds := (RowStore.holds_write_of_ne (by simp)).mpr h.holds
  written := by
    unfold ReplaceState.goTo
    rw [RowStore.read_write_of_ne (by simp)]
    exact h.written
  matched := h.matched

/-- **Every step keeps what holds**: only the call that holds the role deletes and inserts. -/
lemma ReplaceInv.step (h : ReplaceInv calls db s) (hstep : ReplaceStep calls db s i s') :
    ReplaceInv calls db s' := by
  have hi := h i
  cases hstep with
  | update hphase =>
    rw [hphase] at hi
    exact h.goTo hi
  | notFound _ => exact h.rollBack i _
  | vanished _ _ _ => exact h.rollBack i _
  | duplicate _ _ _ => exact h.rollBack i _
  | unknown _ _ => exact h.rollBack i _
  | fail _ _ => exact h.rollBack i _
  | touch now hphase hfree hrow =>
    rw [hphase] at hi
    refine h.write hfree ⟨RowStore.holds_write_self, ⟨now, RowStore.read_write_self⟩, ?_⟩
    rwa [RowStore.read_of_not_holds (hi .role)] at hrow
  | delete todo hphase htodo =>
    rw [hphase] at hi
    exact h.goTo ⟨hi, fun p hp => (htodo p).mpr hp⟩
  | @deleteRow p todo hphase hfree hrow =>
    rw [hphase] at hi
    refine h.write hfree ⟨hi.1.write, fun q hq => ?_⟩
    have hne : q ≠ p := by
      rintro rfl
      unfold ReplaceState.Sees ReplaceState.goTo at hq
      rw [RowStore.read_write_self] at hq
      cases hq
    have hsees : s.Sees i q := by
      unfold ReplaceState.Sees ReplaceState.goTo at hq
      rwa [RowStore.read_write_of_ne (by simpa using hne)] at hq
    exact (List.mem_cons.mp (hi.2 q hsees)).resolve_left hne
  | @skipRow p todo hphase hfree hrow =>
    rw [hphase] at hi
    refine h.goTo ⟨hi.1, fun q hq => (List.mem_cons.mp (hi.2 q hq)).resolve_left ?_⟩
    rintro rfl
    exact Bool.false_ne_true (hrow.symm.trans hq)
  | insertNone hphase hempty =>
    rw [hphase] at hi
    refine h.goTo ⟨hi.1, fun p => iff_of_false (fun hp => ?_) ?_, ?_⟩
    · exact List.not_mem_nil (hi.2 p hp)
    · rw [hempty]
      exact List.not_mem_nil
    · rw [hempty]
      exact List.forall_mem_nil _
  | insert rows hphase hempty hnodup hrows =>
    rw [hphase] at hi
    refine h.goTo ⟨hi.1, hnodup, fun p hp => (hrows p).mp hp, fun p => iff_of_false (fun hp => ?_) ?_⟩
    · exact List.not_mem_nil (hi.2 p hp)
    · rintro ⟨hmem, hnot⟩
      exact hnot ((hrows p).mpr hmem)
  | @insertRow p todo hphase hfree hrow =>
    rw [hphase] at hi
    obtain ⟨hrole, hnodup, hmem, hsees⟩ := hi
    obtain ⟨hp, hnodup⟩ := List.nodup_cons.mp hnodup
    refine h.write hfree ⟨hrole.write, hnodup,
      fun q hq => hmem q (List.mem_cons_of_mem p hq), fun q => ?_⟩
    by_cases hq : q = p
    · subst hq
      refine iff_of_true ?_ ⟨hmem q List.mem_cons_self, hp⟩
      unfold ReplaceState.Sees ReplaceState.goTo
      rw [RowStore.read_write_self]
      rfl
    · have hsame : (s.goTo i (s.store.write i (.grant p) (some .granted)) (.inserting todo)).Sees i q ↔
          s.Sees i q := by
        unfold ReplaceState.Sees ReplaceState.goTo
        rw [RowStore.read_write_of_ne (by simpa using hq)]
      rw [hsame, hsees q, List.mem_cons, not_or]
      exact ⟨fun hin => ⟨hin.1, hin.2.2⟩, fun hin => ⟨hin.1, hq, hin.2⟩⟩
  | inserted hphase hknown =>
    rw [hphase] at hi
    exact h.goTo ⟨hi.1, fun p => (hi.2.2.2 p).trans (and_iff_left List.not_mem_nil), hknown⟩
  | commit hphase =>
    rw [hphase] at hi
    intro j
    by_cases hj : j = i
    · subst hj
      rw [phase_goTo_self]
      exact fun k => RowStore.not_holds_commit k
    · have hother : ¬ s.store.Holds j .role := fun hrole => hj (hrole.unique hi.1.holds)
      exact replacing_other (h j) hj (fun _ => RowStore.holds_commit_other hj)
        (fun hrole => absurd hrole hother) fun hrole => absurd hrole hother

/-- **In every run** every transaction holds and sees what it should. -/
lemma replacing_of_run (h : Run (ReplaceInit db roleId) (ReplaceStep calls db) tr s) :
    ReplaceInv calls db s := by
  refine Run.invariant ?_ (fun s i s' hinv hstep => hinv.step hstep) h
  rintro s ⟨hstore, hphase⟩ i
  rw [hphase i]
  rintro k ⟨v, hv⟩
  rw [hstore] at hv
  cases hv

/-! ## What a step commits -/

/-- A step leaves the committed rows of the role as they were. -/
def Unchanged (e : ReplaceState ι × ι × ReplaceState ι) : Prop :=
  e.2.2.store.committed = e.1.store.committed

/-- A call has returned successfully. -/
def ReplaceState.Succeeded (s : ReplaceState ι) (i : ι) : Prop := s.phase i = .returned (.ok ())

/-- **A step commits nothing**, or everything that its call sees. -/
lemma committed_of_step (hstep : ReplaceStep calls db s i s') :
    s'.store.committed = s.store.committed ∧ (∀ j, s'.Succeeded j ↔ s.Succeeded j) ∨
      s.phase i = .committing ∧ s' = s.goTo i (s.store.commit i) (.returned (.ok ())) := by
  have hkeep : ∀ {store : RowStore ι RoleKey RoleValue} {phase : ReplacePhase},
      (∀ r, s.phase i ≠ .returned r) → phase ≠ .returned (.ok ()) →
        ∀ j, (s.goTo i store phase).Succeeded j ↔ s.Succeeded j := by
    intro store phase hrunning hphase j
    unfold ReplaceState.Succeeded
    by_cases hj : j = i
    · subst hj
      rw [phase_goTo_self]
      exact iff_of_false hphase (hrunning _)
    · rw [phase_goTo_of_ne hj]
  cases hstep with
  | commit hphase => exact .inr ⟨hphase, rfl⟩
  | fail message hrunning => exact .inl ⟨rfl, hkeep hrunning (by simp)⟩
  | update h | notFound h | touch _ h | vanished h | delete _ h | deleteRow h | skipRow h
  | insertNone h | insert _ h | insertRow h | duplicate h | inserted h | unknown h =>
    refine .inl ⟨rfl, hkeep (fun r => ?_) (by simp)⟩
    rw [h]
    simp

/-- A call that has returned takes no step. -/
lemma not_returned_of_step (hstep : ReplaceStep calls db s i s') (r : Except DomainError Unit) :
    s.phase i ≠ .returned r := by
  cases hstep with
  | fail message hrunning => exact hrunning r
  | update h | notFound h | touch _ h | vanished h | delete _ h | deleteRow h | skipRow h
  | insertNone h | insert _ h | insertRow h | duplicate h | inserted h | unknown h | commit h =>
    rw [h]
    simp

/-- What a call has returned does not change. -/
lemma returned_of_step {r : Except DomainError Unit} (hstep : ReplaceStep calls db s i s')
    (h : s.phase j = .returned r) : s'.phase j = .returned r := by
  have hj : j ≠ i := by
    rintro rfl
    exact not_returned_of_step hstep r h
  have hgo : ∃ store phase, s' = s.goTo i store phase := by
    cases hstep <;> exact ⟨_, _, rfl⟩
  obtain ⟨store, phase, rfl⟩ := hgo
  rw [phase_goTo_of_ne hj, h]

/-- **A commit makes the permissions those of the call.** -/
lemma granted_of_commit (hinv : ReplaceInv calls db s) (h : s.phase i = .committing)
    (p : PermissionId) : (s.goTo i (s.store.commit i) (.returned (.ok ()))).Granted p ↔
      p ∈ (calls i).permissionIds := by
  have hi := hinv i
  rw [h] at hi
  exact hi.2.1 p

/-- An insertion never meets a row of the role. -/
lemma conflict_of_step {message : String} (hinv : ReplaceInv calls db s)
    (hstep : ReplaceStep calls db s i s') (h : s'.phase j = .returned (.error (.conflict message))) :
    s.phase j = .returned (.error (.conflict message)) := by
  have hgo : ∀ {store : RowStore ι RoleKey RoleValue} {phase : ReplacePhase},
      (s.goTo i store phase).phase j = .returned (.error (.conflict message)) →
        phase ≠ .returned (.error (.conflict message)) →
          s.phase j = .returned (.error (.conflict message)) := by
    intro store phase hafter hphase
    by_cases hj : j = i
    · subst hj
      rw [phase_goTo_self] at hafter
      exact absurd hafter hphase
    · rwa [phase_goTo_of_ne hj] at hafter
  cases hstep with
  | @duplicate p todo hphase hfree hrow =>
    have hi := hinv i
    rw [hphase] at hi
    exact absurd List.mem_cons_self ((hi.2.2.2 p).mp hrow).2
  | unknown _ _ => exact hgo h (by simp [mapRoleDbError, foreignKeyViolation])
  | update _ | notFound _ | touch _ _ | vanished _ | delete _ _ | deleteRow _ | skipRow _
  | insertNone _ | insert _ _ | insertRow _ | inserted _ | commit _ | fail _ _ =>
    exact hgo h (by simp)

/-! ## Runs -/

/-- A call that took a step which changed the committed rows has returned successfully. -/
lemma unchanged_or_succeeded (h : Run (ReplaceInit db roleId) (ReplaceStep calls db) tr s) :
    ∀ e ∈ Run.steps tr s, Unchanged e ∨ s.Succeeded e.2.1 := by
  induction h with
  | start _ => exact List.forall_mem_nil _
  | snoc _ hstep ih =>
    intro e he
    rcases List.mem_cons.mp he with rfl | he
    · rcases committed_of_step hstep with ⟨hsame, -⟩ | ⟨-, rfl⟩
      · exact .inl hsame
      · exact .inr phase_goTo_self
    · exact (ih e he).imp_right (returned_of_step hstep)

/-- A call that returned successfully committed its permissions in one step, and nothing in the
others. -/
lemma commits_of_succeeded (h : Run (ReplaceInit db roleId) (ReplaceStep calls db) tr s)
    (hi : s.Succeeded i) : ∃ newer e older, Run.steps tr s = newer ++ e :: older ∧ e.2.1 = i ∧
      (∀ p, e.2.2.Granted p ↔ p ∈ (calls i).permissionIds) ∧
      ∀ e' ∈ newer ++ older, e'.2.1 = i → Unchanged e' := by
  induction h with
  | start hinit =>
    unfold ReplaceState.Succeeded at hi
    rw [hinit.2 i] at hi
    cases hi
  | @snoc tr s s' j hrun hstep ih =>
    by_cases hbefore : s.Succeeded i
    · obtain ⟨newer, e, older, hsteps, hlabel, hgranted, hothers⟩ := ih hbefore
      refine ⟨(s, j, s') :: newer, e, older, congrArg (List.cons (s, j, s')) hsteps, hlabel, hgranted,
        fun e' he' hi' => ?_⟩
      rcases List.mem_cons.mp he' with rfl | he'
      · obtain rfl : j = i := hi'
        exact absurd hbefore (not_returned_of_step hstep _)
      · exact hothers e' he' hi'
    · rcases committed_of_step hstep with ⟨-, hsame⟩ | ⟨hphase, rfl⟩
      · exact absurd ((hsame i).mp hi) hbefore
      · have hij : i = j := by
          by_contra hne
          unfold ReplaceState.Succeeded at hi
          rw [phase_goTo_of_ne hne] at hi
          exact hbefore hi
        subst hij
        refine ⟨[], _, Run.steps tr s, rfl, rfl, granted_of_commit (replacing_of_run hrun) hphase,
          fun e' he' hi' => ?_⟩
        refine (unchanged_or_succeeded hrun e' he').resolve_right fun hsucceeded => ?_
        rw [hi'] at hsucceeded
        exact hbefore hsucceeded

/-- The committed permissions are those of a call that returned successfully, or those of the
beginning. -/
lemma committed_of_run (h : Run (ReplaceInit db roleId) (ReplaceStep calls db) tr s) :
    (∃ i, s.Succeeded i ∧ ∀ p, s.Granted p ↔ p ∈ (calls i).permissionIds) ∨
      (∀ i, ¬ s.Succeeded i) ∧ s.store.committed = db.roleStore roleId := by
  induction h with
  | start hinit =>
    refine .inr ⟨fun i hi => ?_, congrArg RowStore.committed hinit.1⟩
    unfold ReplaceState.Succeeded at hi
    rw [hinit.2 i] at hi
    cases hi
  | @snoc tr s s' j hrun hstep ih =>
    rcases committed_of_step hstep with ⟨hcommitted, hsame⟩ | ⟨hphase, rfl⟩
    · unfold ReplaceState.Granted
      rw [hcommitted]
      rcases ih with ⟨i, hi, hgranted⟩ | ⟨hnone, hinitial⟩
      · exact .inl ⟨i, (hsame i).mpr hi, hgranted⟩
      · exact .inr ⟨fun i hi => hnone i ((hsame i).mp hi), hinitial⟩
    · exact .inl ⟨j, phase_goTo_self, granted_of_commit (replacing_of_run hrun) hphase⟩

end Invariant

/-- **Replacements are atomic.** Whatever the interleaving of calls that replace the permissions of
a role: a call that returned successfully committed exactly its permissions, in one step; a call
that returned an error left the role and its permissions as they were, and the error is no duplicate
key; and the permissions are those of one of the successful calls, or those of the beginning if
there is none.

**Proof sketch.** A transaction touches the role before it looks at the permissions, and no other
one gets past that until it ends.  So it deletes all that is committed, and inserts what is not
there. -/
theorem replacement_atomic {ι : Type} [DecidableEq ι] (calls : ι → Replacement) (db : Db)
    (roleId : RoleId) {tr : ReplaceHistory ι} {s : ReplaceState ι}
    (h : Run (ReplaceInit db roleId) (ReplaceStep calls db) tr s) :
    (∀ i, s.phase i = .returned (.ok ()) →
      ∃ newer e older, Run.steps tr s = newer ++ e :: older ∧ e.2.1 = i ∧
        (∀ p, e.2.2.Granted p ↔ p ∈ (calls i).permissionIds) ∧
        ∀ e' ∈ newer ++ older, e'.2.1 = i → Unchanged e') ∧
    (∀ i error, s.phase i = .returned (.error error) →
      (∀ message, error ≠ .conflict message) ∧ ∀ e ∈ Run.steps tr s, e.2.1 = i → Unchanged e) ∧
    ((∃ i, s.phase i = .returned (.ok ()) ∧ ∀ p, s.Granted p ↔ p ∈ (calls i).permissionIds) ∨
      (∀ i, s.phase i ≠ .returned (.ok ())) ∧ s.store.committed = db.roleStore roleId) := by
  refine ⟨fun i hi => commits_of_succeeded h hi, fun i error hi => ⟨?_, ?_⟩, committed_of_run h⟩
  · rintro message rfl
    induction h with
    | start hinit =>
      rw [hinit.2 i] at hi
      cases hi
    | snoc hrun hstep ih => exact ih (conflict_of_step (replacing_of_run hrun) hstep hi)
  · intro e he hlabel
    refine (unchanged_or_succeeded h e he).resolve_right fun hsucceeded => ?_
    rw [hlabel, ReplaceState.Succeeded, hi] at hsucceeded
    cases hsucceeded

/-! ## One after the other -/

section Serial

variable {now : Time} {t : TenantId} {id : RoleId} {ps : List PermissionId} {db db' : Db}

/-- **The transaction goes through** on a role of the tenant, if all permissions exist. -/
lemma updateRolePermissionsTx_of (now : Time)
    (hrow : ∃ r ∈ db.tenantRoles, r.tenantId = t ∧ r.id = id)
    (hknown : ∀ p ∈ ps, ∃ row ∈ db.permissions, row.id = p) :
    ∃ db', updateRolePermissionsTx now t id ps db = .ok ((), db') := by
  obtain ⟨r, hr, hrt, hrid⟩ := hrow
  have hcount : db.tenantRoles.countP (fun r => r.tenantId = t ∧ r.id = id) ≠ 0 := by
    refine Nat.ne_of_gt (List.countP_pos_iff.mpr ⟨r, hr, ?_⟩)
    exact decide_eq_true ⟨hrt, hrid⟩
  let db₁ : Db := { db with tenantRoles := db.tenantRoles.map (·.touched t id now) }
  let db₂ : Db := { db₁ with rolePermissions := db.rolePermissions.filter (·.roleId ≠ id) }
  have hinsert : ∃ db', insertRolePermissions now id ps db₂ = .ok ((), db') := by
    unfold insertRolePermissions
    split
    · exact ⟨db₂, rfl⟩
    · have hnone : ¬ (db₂.rolePermissions.any fun r => r.roleId = id ∧ r.permissionId ∈ ps.dedup) =
          true := by
        rw [List.any_eq_true]
        rintro ⟨x, hx, hmem⟩
        have hother : x.roleId ≠ id := of_decide_eq_true (List.mem_filter.mp hx).2
        exact hother (of_decide_eq_true hmem).1
      have hrole : db₂.tenantRoles.any (·.id = id) = true := by
        refine List.any_eq_true.mpr ⟨r.touched t id now, List.mem_map_of_mem hr, decide_eq_true ?_⟩
        unfold TenantRoleRow.touched
        rw [if_pos ⟨hrt, hrid⟩]
        exact hrid
      have hall : ps.dedup.all (fun p => db₂.permissions.any (·.id = p)) = true := by
        refine List.all_eq_true.mpr fun p hp => List.any_eq_true.mpr ?_
        obtain ⟨row, hrow, hid⟩ := hknown p (List.mem_dedup.mp hp)
        exact ⟨row, hrow, decide_eq_true hid⟩
      have hrows : insertRolePermissionRows id ps.dedup now db₂ = .ok ((), { db₂ with
          rolePermissions := db₂.rolePermissions ++ ps.dedup.map fun p => ⟨id, p⟩ }) := by
        unfold insertRolePermissionRows
        rw [if_neg hnone, if_neg (not_and_of_not_right _ (not_not_intro hrole)),
          if_neg (not_not_intro hall)]
      exact ⟨_, Tx.run_ok.mpr hrows⟩
  obtain ⟨db', hdb'⟩ := hinsert
  refine ⟨db', ?_⟩
  unfold updateRolePermissionsTx
  refine Tx.bind_ok.mpr ⟨_, db₁, Tx.run_ok.mpr rfl, ?_⟩
  rw [if_neg hcount]
  exact Tx.bind_ok.mpr ⟨(), db₂, Tx.run_ok.mpr rfl, hdb'⟩

/-- The rows of the role after the transaction. -/
lemma roleStore_of_updateRolePermissionsTx
    (h : updateRolePermissionsTx now t id ps db = .ok ((), db'))
    (hmatch : RoleValue.ofTenant t (db.roleStore id .role) = true) :
    db'.roleStore id .role = some (.role t now) ∧
      ∀ p, (db'.roleStore id (.grant p)).isSome = true ↔ p ∈ ps := by
  obtain ⟨-, rfl⟩ := updateRolePermissionsTx_ok h
  constructor
  · unfold Db.roleStore at hmatch ⊢
    dsimp only at hmatch ⊢
    have hfind : (db.tenantRoles.map (·.touched t id now)).find? (·.id = id) =
        (db.tenantRoles.find? (·.id = id)).map (·.touched t id now) := by
      have hid : (fun r : TenantRoleRow => decide (r.id = id)) ∘ (fun r => r.touched t id now) =
          fun r : TenantRoleRow => decide (r.id = id) := by
        funext r
        unfold TenantRoleRow.touched
        rw [Function.comp_apply]
        split <;> rfl
      rw [List.find?_map, hid]
    rw [hfind]
    cases hrow : db.tenantRoles.find? (·.id = id) with
    | none =>
      rw [hrow] at hmatch
      cases hmatch
    | some r =>
      rw [hrow] at hmatch
      have htenant : r.tenantId = t := of_decide_eq_true hmatch
      have hid : r.id = id := by simpa using List.find?_some hrow
      rw [Option.map_some, Option.map_some, TenantRoleRow.touched, if_pos ⟨htenant, hid⟩, htenant]
  · intro p
    unfold Db.roleStore
    dsimp only
    have hmem : (⟨id, p⟩ : RolePermissionRow) ∈
        db.rolePermissions.filter (·.roleId ≠ id) ++ ps.dedup.map (fun p => ⟨id, p⟩) ↔ p ∈ ps := by
      rw [List.mem_append, List.mem_filter, List.mem_map]
      constructor
      · rintro (⟨-, hother⟩ | ⟨q, hq, heq⟩)
        · exact absurd rfl (of_decide_eq_true hother)
        · obtain rfl : q = p := (RolePermissionRow.mk.inj heq).2
          exact List.mem_dedup.mp hq
      · exact fun hp => .inr ⟨p, List.mem_dedup.mpr hp, rfl⟩
    rw [← hmem]
    split
    · exact iff_of_true rfl ‹_›
    · exact iff_of_false Bool.false_ne_true ‹_›

end Serial

/-- Calls that ran one after the other, newest first, each as one transaction at an instant. -/
inductive SerialReplacements {ι : Type} (calls : ι → Replacement) (roleId : RoleId) (db : Db) :
    List (ι × Time) → Db → Prop
  /-- No call. -/
  | nil : SerialReplacements calls roleId db [] db
  /-- One more call. -/
  | cons {order : List (ι × Time)} {db₁ db₂ : Db} {i : ι} {now : Time}
      (h : SerialReplacements calls roleId db order db₁) (hi : i ∉ order.map Prod.fst)
      (htx : updateRolePermissionsTx now (calls i).tenantId roleId (calls i).permissionIds db₁ =
        .ok ((), db₂)) :
    SerialReplacements calls roleId db ((i, now) :: order) db₂

/-- Replacements leave the catalogue alone. -/
lemma SerialReplacements.permissions {ι : Type} {calls : ι → Replacement} {roleId : RoleId}
    {db db' : Db} {order : List (ι × Time)} (h : SerialReplacements calls roleId db order db') :
    db'.permissions = db.permissions := by
  induction h with
  | nil => rfl
  | cons _ _ htx ih =>
    obtain ⟨-, rfl⟩ := updateRolePermissionsTx_ok htx
    exact ih

/-- **Replacements are serial.** The committed rows of the role are those after the calls that
returned successfully ran one after the other, each as the one transaction it is in the other
modules. -/
theorem replacements_serial {ι : Type} [DecidableEq ι] {calls : ι → Replacement} {db : Db}
    {roleId : RoleId} {tr : ReplaceHistory ι} {s : ReplaceState ι}
    (h : Run (ReplaceInit db roleId) (ReplaceStep calls db) tr s) :
    ∃ order db', SerialReplacements calls roleId db order db' ∧
      (∀ i, i ∈ order.map Prod.fst ↔ s.Succeeded i) ∧
      s.store.committed .role = db'.roleStore roleId .role ∧
      ∀ p, s.Granted p ↔ (db'.roleStore roleId (.grant p)).isSome = true := by
  induction h with
  | start hinit =>
    obtain ⟨hstore, hphase⟩ := hinit
    refine ⟨[], db, .nil, fun i => iff_of_false List.not_mem_nil fun hi => ?_, ?_, fun p => ?_⟩
    · unfold ReplaceState.Succeeded at hi
      rw [hphase i] at hi
      cases hi
    · rw [hstore]
    · unfold ReplaceState.Granted
      rw [hstore]
  | @snoc tr s s' j hrun hstep ih =>
    obtain ⟨order, db₁, hserial, horder, hrole, hgrants⟩ := ih
    rcases committed_of_step hstep with ⟨hsame, hsucceeded⟩ | ⟨hphase, rfl⟩
    · refine ⟨order, db₁, hserial, fun i => (horder i).trans (hsucceeded i).symm, ?_, fun p => ?_⟩
      · rw [hsame, hrole]
      · rw [← hgrants p]
        unfold ReplaceState.Granted
        rw [hsame]
    · have hj := replacing_of_run hrun j
      rw [hphase] at hj
      obtain ⟨⟨hholds, ⟨now, hwritten⟩, hmatched⟩, hsees, hknown⟩ := hj
      rw [hrole] at hmatched
      have hrow : ∃ r ∈ db₁.tenantRoles, r.tenantId = (calls j).tenantId ∧ r.id = roleId := by
        unfold Db.roleStore at hmatched
        dsimp only at hmatched
        cases hfind : db₁.tenantRoles.find? (·.id = roleId) with
        | none =>
          rw [hfind] at hmatched
          cases hmatched
        | some r =>
          rw [hfind] at hmatched
          exact ⟨r, List.mem_of_find?_eq_some hfind, of_decide_eq_true hmatched,
            by simpa using List.find?_some hfind⟩
      rw [← hserial.permissions] at hknown
      obtain ⟨db₂, htx⟩ := updateRolePermissionsTx_of now hrow hknown
      have hnew : ¬ s.Succeeded j := not_returned_of_step hstep _
      obtain ⟨hrole', hgrants'⟩ := roleStore_of_updateRolePermissionsTx htx hmatched
      refine ⟨(j, now) :: order, db₂, hserial.cons (fun hmem => hnew ((horder j).mp hmem)) htx, ?_,
        hwritten.trans hrole'.symm, fun p => (hsees p).trans (hgrants' p).symm⟩
      · intro i
        rw [List.map_cons, List.mem_cons, horder i]
        by_cases hi : i = j
        · subst hi
          exact iff_of_true (.inl rfl) phase_goTo_self
        · unfold ReplaceState.Succeeded
          rw [phase_goTo_of_ne hi]
          exact or_iff_right hi

/-! ## Two calls -/

namespace Scenario

/-- A role of a tenant with one permission. -/
def roleDb : Db :=
  { Db.empty with
    permissions := [⟨⟨801⟩, "a", "", ""⟩, ⟨⟨802⟩, "b", "", ""⟩]
    tenantRoles := [{ id := ⟨4⟩, tenantId := ⟨1⟩, name := "editor", description := "", isSystem := false,
                      isCustom := true, createdAt := 0, updatedAt := 0 }]
    rolePermissions := [⟨⟨4⟩, ⟨801⟩⟩] }

/-- Two calls: one names a permission twice, and the other one none. -/
def replacements : Bool → Replacement
  | false => ⟨⟨1⟩, [⟨802⟩, ⟨802⟩]⟩
  | true => ⟨⟨1⟩, []⟩

/-- The second call waits for the role, which the first one holds until it commits. -/
lemma replaceRun : ∃ (tr : ReplaceHistory Bool) (s : ReplaceState Bool),
    Run (ReplaceInit roleDb ⟨4⟩) (ReplaceStep replacements roleDb) tr s ∧
      s.phase false = .returned (.ok ()) ∧ s.phase true = .touching true := by
  have hstart : Run (ReplaceInit roleDb ⟨4⟩) (ReplaceStep replacements roleDb) []
      ⟨⟨roleDb.roleStore ⟨4⟩, fun _ => none⟩, fun _ => .ready⟩ := .start ⟨rfl, fun _ => rfl⟩
  have hrun := (hstart.snoc (.update (i := false) rfl)).snoc (.update (i := true) rfl)
  have hrun := hrun.snoc (.touch (i := false) 7 rfl (by rintro j ⟨v, hv⟩; cases hv) rfl)
  have hfound : ∀ p, p ∈ [(⟨801⟩ : PermissionId)] ↔
      (roleDb.roleStore ⟨4⟩ (.grant p)).isSome = true := by
    intro p
    simp [Db.roleStore, roleDb]
  have hrun := hrun.snoc (.delete (i := false) [⟨801⟩] rfl hfound)
  have hrun := hrun.snoc (.deleteRow (i := false) rfl (by rintro j ⟨v, hv⟩; cases hv) rfl)
  have hrun := hrun.snoc (.insert (i := false) [⟨802⟩] rfl (by decide) (by decide)
    (by simp [replacements]))
  have hrun := hrun.snoc (.insertRow (i := false) rfl (by rintro j ⟨v, hv⟩; cases hv) rfl)
  have hrun := (hrun.snoc (.inserted (i := false) rfl (by decide))).snoc (.commit (i := false) rfl)
  exact ⟨_, _, hrun, rfl, rfl⟩

end Scenario

/-- What the first of two calls committed is there, while the second one waits. -/
theorem replacement_atomic_first : ∃ s : ReplaceState Bool, s.phase true = .touching true ∧
    ∃ i, s.phase i = .returned (.ok ()) ∧
      ∀ p, s.Granted p ↔ p ∈ (Scenario.replacements i).permissionIds := by
  obtain ⟨tr, s, hrun, hfirst, hsecond⟩ := Scenario.replaceRun
  refine ⟨s, hsecond, ?_⟩
  have hatomic := replacement_atomic Scenario.replacements Scenario.roleDb ⟨4⟩ hrun
  exact hatomic.2.2.resolve_right fun hnone => hnone.1 false hfirst

end Klynt
