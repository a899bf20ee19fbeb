import Klynt.Lib.Pool
import Klynt.Lib.ReadCommitted
import Klynt.Persistence.TenantCreation

set_option relaxedAutoImplicit false
set_option autoImplicit false

/-!
# Tenants that are created at the same time

The trigger that limits how many tenants a user owns counts what is committed and what its own
transaction has written.  It does not see the tenants of other open transactions.

## Main definitions

* `CreationWrites`, `creationRules` — what a creation has written, and what its statements see.
* `CreationStep` — the steps of creations.
* `CountsAll` — a trigger that lets a tenant pass would do so if it counted all tenants.

## Main results

* `owners_keep_limit` — in runs of such steps nobody owns more than two tenants.
* `owner_exceeds_limit` — a user owns three.
-/

namespace Klynt

/-! ## Transactions -/

/-- The rows that a creation has inserted. -/
structure CreationWrites where
  /-- Rows of `tenants`. -/
  tenants : List TenantRow
  /-- Rows of `tenant_roles`. -/
  tenantRoles : List TenantRoleRow
  /-- Rows of `role_permissions`. -/
  rolePermissions : List RolePermissionRow
  /-- Rows of `user_tenant_memberships`. -/
  memberships : List MembershipRow

namespace CreationWrites

/-- A database with these rows. -/
def onto (db : Db) (own : CreationWrites) : Db :=
  { db with
    tenants := db.tenants ++ own.tenants
    tenantRoles := db.tenantRoles ++ own.tenantRoles
    rolePermissions := db.rolePermissions ++ own.rolePermissions
    memberships := db.memberships ++ own.memberships }

/-- The rows that a database has after those of another one. -/
def since (db db' : Db) : CreationWrites where
  tenants := db'.tenants.drop db.tenants.length
  tenantRoles := db'.tenantRoles.drop db.tenantRoles.length
  rolePermissions := db'.rolePermissions.drop db.rolePermissions.length
  memberships := db'.memberships.drop db.memberships.length

/-- How many active tenants of a user are among them. -/
def activeOwned (owner : UserId) (own : CreationWrites) : ℕ :=
  own.tenants.countP fun t => t.ownerId = owner ∧ t.status = "active"

end CreationWrites

/-- The database and the time. -/
structure CreationStore where
  /-- The time. -/
  now : Time
  /-- The database. -/
  db : Db

/-- A statement waits for a transaction that has inserted a row with the same key. -/
def CreateStatement.waits : CreateStatement → CreationWrites → Bool
  | .insertTenant row, own => own.tenants.any fun t => t.id = row.id ∨ t.slug = row.slug
  | .insertSystemRoles t ids, own =>
    own.tenantRoles.any fun r => r.tenantId = t ∨ systemRoles.any fun x => ids x.1 = r.id
  | .insertSeedPermissions _, _ | .roleIdByName _ _, _ => false
  | .insertMembership row, own => own.memberships.any (·.hasKey row.tenantId row.userId)

/-- What the statements of a creation see and write. -/
def creationRules : TxRules SqlxError CreateStatement.Res CreationStore CreationWrites where
  nothing := ⟨[], [], [], []⟩
  seen store own := { store with db := CreationWrites.onto store.db own }
  exec st store own := (st.exec store.now (CreationWrites.onto store.db own)).map fun r =>
    (r.1, CreationWrites.since store.db r.2)
  waits := CreateStatement.waits

/-- Connections of creations. -/
abbrev CreationStores (ι : Type) : Type := ReadCommitted ι CreationStore CreationWrites

/-- The requests of creations. -/
abbrev CreationReq (ι : Type) : Type := ι × TxReq CreateStatement

/-- The answers to them. -/
abbrev CreationAns (ι : Type) (q : CreationReq ι) : Type := TxAns SqlxError CreateStatement.Res q.2

/-- Creations over one database. -/
abbrev CreationPool (ι : Type) : Type :=
  Pool ι (CreationReq ι) (CreationAns ι) DomainError Tenant (CreationStores ι)

/-- What a step of creations does. -/
abbrev CreationLabel (ι : Type) : Type := Pool.Label ι (CreationReq ι) (CreationAns ι)

/-- Time passes. -/
def CreationStores.Passes {ι : Type} (s s' : CreationStores ι) : Prop :=
  ∃ now, s.committed.now ≤ now ∧ s' = { s with committed := { s.committed with now } }

/-- The steps of creations: a request of a creation, or time passes. -/
abbrev CreationStep {ι : Type} [DecidableEq ι] :
    CreationPool ι → CreationLabel ι → CreationPool ι → Prop :=
  Pool.Step (ReadCommitted.Env creationRules) CreationStores.Passes

/-- Creations are about to start; nobody owns more than two tenants. -/
structure CreationInit [Unicode] {ι : Type} (tenant : ι → NewTenant) (ids : ι → TenantRole → RoleId)
    (P : CreationPool ι) : Prop where
  /-- The creations. -/
  threads : ∀ i, P.threads i = (TenantCreation.create (tenant i) (ids i)).on i
  /-- No transaction is open. -/
  closed : ∀ i, P.world.tx i = none
  /-- The limit is kept. -/
  limit : ∀ owner, P.world.committed.db.activeOwned owner ≤ 2

section Limit

variable {ι : Type} [Fintype ι]

/-- How many active tenants of a user there are, committed or not. -/
def CreationStores.owned (s : CreationStores ι) (owner : UserId) : ℕ :=
  s.total (fun store => store.db.activeOwned owner) (CreationWrites.activeOwned owner)

/-- What an open transaction that is not aborted has written. -/
def CreationStores.own? (s : CreationStores ι) (i : ι) : Option CreationWrites := (s.tx i).join

/-- The connection and the row of a step that is to insert a tenant. -/
def insertion? : CreationLabel ι → Option (ι × TenantRow)
  | some (_, ⟨(i, .run (.insertTenant row)), _⟩) => some (i, row)
  | _ => none

/-- **The trigger counts all tenants**: if it lets a row pass for what it sees, it would also do so
for all tenants of the owner. -/
def CountsAll (P : CreationPool ι) (l : CreationLabel ι) : Prop :=
  ∀ x ∈ insertion? l, ∀ own ∈ P.world.own? x.1,
    (CreationWrites.onto P.world.committed.db own).activeOwned x.2.ownerId < 2 →
      P.world.owned x.2.ownerId < 2

instance {P : CreationPool ι} {l : CreationLabel ι} : Decidable (CountsAll P l) := by
  unfold CountsAll
  infer_instance

end Limit

/-! ## What statements write -/

section Exec

variable {now : Time} {db db' : Db}

/-- The insertion of a role keeps the tenants. -/
lemma tenants_of_insertSystemRole {t : TenantId} {id : RoleId} {role : TenantRole}
    {description : String} {u : Unit}
    (h : insertSystemRole t id role description now db = .ok (u, db')) : db'.tenants = db.tenants := by
  unfold insertSystemRole at h
  split at h
  · obtain ⟨-, rfl⟩ := Prod.mk.inj (Except.ok.inj h)
    rfl
  · split at h
    · cases h
    · split at h
      · cases h
      · obtain ⟨-, rfl⟩ := Prod.mk.inj (Except.ok.inj h)
        rfl

/-- The insertion of roles keeps the tenants. -/
lemma tenants_of_insertSystemRoles {t : TenantId} {ids : TenantRole → RoleId} {u : Unit}
    (l : List (TenantRole × String))
    (h : (l.forM fun role db => insertSystemRole t (ids role.1) role.1 role.2 now db :
      StateT Db (Except SqlxError) Unit) db = .ok (u, db')) : db'.tenants = db.tenants := by
  induction l generalizing db with
  | nil =>
    obtain ⟨-, rfl⟩ := Prod.mk.inj (Except.ok.inj h)
    rfl
  | cons x l ih =>
    change (insertSystemRole t (ids x.1) x.1 x.2 now db >>= fun p => _) = _ at h
    obtain ⟨⟨⟨⟩, db₁⟩, hx, hrest⟩ := Except.bind_eq_ok.mp h
    exact (ih hrest).trans (tenants_of_insertSystemRole hx)

/-- **Only the first statement of a creation inserts a tenant**, and only if the trigger counts less
than two. -/
lemma CreateStatement.tenants_of_exec {st : CreateStatement} {v : st.Res}
    (h : st.exec now db = .ok (v, db')) :
    db'.tenants = db.tenants ∨ ∃ row name, st = .insertTenant row ∧ db.activeOwned row.ownerId < 2 ∧
      db'.tenants = db.tenants ++ [{ row with name }] := by
  cases st with
  | insertTenant row =>
    obtain ⟨name, rfl, hcount, -, -, -, rfl⟩ := insertTenant_ok h
    exact .inr ⟨row, name, rfl, hcount, rfl⟩
  | insertSystemRoles t ids => exact .inl (tenants_of_insertSystemRoles systemRoles h)
  | insertSeedPermissions t =>
    obtain ⟨-, rfl⟩ := Prod.mk.inj (Except.ok.inj h)
    exact .inl rfl
  | roleIdByName t name =>
    obtain ⟨-, rfl⟩ := Prod.mk.inj (Except.ok.inj h)
    exact .inl rfl
  | insertMembership row =>
    have hinsert : Klynt.insertMembership row now db = .ok (v, db') := h
    obtain ⟨_, _, _, _, _, rfl⟩ := insertMembership_ok hinsert
    exact .inl rfl

/-- **What a statement adds** to the tenants of a user. -/
lemma activeOwned_of_exec {st : CreateStatement} {v : st.Res} {store : CreationStore}
    {own own' : CreationWrites} (h : creationRules.exec st store own = .ok (v, own')) (owner : UserId) :
    own'.activeOwned owner = own.activeOwned owner ∨ ∃ row, st = .insertTenant row ∧
      row.ownerId = owner ∧ (CreationWrites.onto store.db own).activeOwned row.ownerId < 2 ∧
      own'.activeOwned owner ≤ own.activeOwned owner + 1 := by
  obtain ⟨⟨v', db'⟩, hexec, heq⟩ : ∃ r : st.Res × Db,
      st.exec store.now (CreationWrites.onto store.db own) = .ok r ∧
        (v, own') = (r.1, CreationWrites.since store.db r.2) := by
    cases hr : st.exec store.now (CreationWrites.onto store.db own) with
    | error e =>
      change (st.exec store.now (CreationWrites.onto store.db own)).map _ = _ at h
      rw [hr] at h
      cases h
    | ok r =>
      change (st.exec store.now (CreationWrites.onto store.db own)).map _ = _ at h
      rw [hr] at h
      exact ⟨r, rfl, (Except.ok.inj h).symm⟩
  obtain ⟨rfl, rfl⟩ := Prod.mk.inj heq
  obtain hsame | ⟨row, name, rfl, hcount, happend⟩ := CreateStatement.tenants_of_exec hexec
  · left
    unfold CreationWrites.activeOwned CreationWrites.since
    rw [hsame]
    change List.countP _ (List.drop _ (store.db.tenants ++ own.tenants)) = _
    rw [List.drop_left]
  · have hwritten : (CreationWrites.since store.db db').tenants =
        own.tenants ++ [{ row with name }] := by
      unfold CreationWrites.since
      rw [happend]
      change List.drop _ (store.db.tenants ++ own.tenants ++ _) = _
      rw [List.append_assoc, List.drop_left]
    by_cases howner : row.ownerId = owner
    · refine .inr ⟨row, rfl, howner, hcount, ?_⟩
      unfold CreationWrites.activeOwned
      rw [hwritten, List.countP_append]
      have hone := List.countP_le_length
        (p := fun t : TenantRow => t.ownerId = owner ∧ t.status = "active") (l := [{ row with name }])
      rw [List.length_singleton] at hone
      omega
    · left
      unfold CreationWrites.activeOwned
      rw [hwritten, List.countP_append]
      simp [howner]

end Exec

/-! ## Runs -/

section Runs

variable [Unicode] {ι : Type} [Fintype ι] [DecidableEq ι] {tenant : ι → NewTenant}
  {ids : ι → TenantRole → RoleId} {P P' : CreationPool ι} {l : CreationLabel ι}
  {tr : List (CreationPool ι × CreationLabel ι)}

omit [Unicode] in
/-- **A step keeps the limit** if the trigger counts all tenants. -/
lemma owned_of_step (hstep : CreationStep P l P') (hcounts : CountsAll P l)
    (hlimit : ∀ owner, P.world.owned owner ≤ 2) (owner : UserId) : P'.world.owned owner ≤ 2 := by
  have hbefore := hlimit owner
  cases hstep with
  | tick hT =>
    obtain ⟨now, -, rfl⟩ := hT
    exact hbefore
  | @run i q k a w hi hE =>
    have hseen : ∀ store own, (creationRules.seen store own).db.activeOwned owner =
        store.db.activeOwned owner + CreationWrites.activeOwned owner own :=
      fun store own => List.countP_append ..
    obtain hle | ⟨st, own, v, own', hq, hown, hexec, htotal⟩ :=
      hE.total_le (fun store => store.db.activeOwned owner) (CreationWrites.activeOwned owner) hseen rfl
    · exact hle.trans hbefore
    · obtain ⟨j, q⟩ := q
      obtain rfl : q = .run st := hq
      change w.owned owner + _ = P.world.owned owner + _ at htotal
      change w.owned owner ≤ 2
      obtain hsame | ⟨row, rfl, rfl, hcount, hone⟩ := activeOwned_of_exec hexec owner
      · omega
      · have hopen : own ∈ P.world.own? j := by
          unfold CreationStores.own?
          rw [show P.world.tx j = some (some own) from hown]
          rfl
        have hall : P.world.owned row.ownerId < 2 := hcounts (j, row) rfl own hopen hcount
        omega

/-- **Nobody owns more than two tenants** in a run in which every trigger that lets a tenant pass
would also do so if it counted the tenants of the other open transactions.

**Proof sketch.** What is committed and what open transactions have written is at most two for every
owner.  Only the insertion of a tenant adds to it, and one at a time. -/
theorem owners_keep_limit (hr : Run (CreationInit tenant ids) CreationStep tr P)
    (hcounts : ∀ e ∈ tr, CountsAll e.1 e.2) (owner : UserId) :
    P.world.committed.db.activeOwned owner ≤ 2 := by
  have howned : ∀ owner, P.world.owned owner ≤ 2 := by
    refine hr.invariant_of_forall (I := fun P => ∀ owner, P.world.owned owner ≤ 2)
      (C := CountsAll) (fun P₀ hinit owner => ?_) (fun _ _ _ hI hC hs => owned_of_step hs hC hI)
      hcounts
    have hnone : ∑ i, ReadCommitted.held (CreationWrites.activeOwned owner) (P₀.world.tx i) = 0 := by
      refine Finset.sum_eq_zero fun i _ => ?_
      rw [hinit.closed i]
      rfl
    change P₀.world.committed.db.activeOwned owner + _ ≤ 2
    rw [hnone]
    exact hinit.limit owner
  exact (Nat.le_add_right _ _).trans (howned owner)

end Runs

/-! ## Scenario -/

namespace Scenario

/-- A tenant of Ada's. -/
def tenantOfAda (n : ℕ) (slug : TenantSlug) : NewTenant :=
  { id := ⟨BitVec.ofNat 128 n⟩, slug, name := slug.text, ownerId := ⟨901⟩, maxMembers := 100,
    maxOwners := 1, settings := .null, status := .active, createdAt := 0, updatedAt := 0 }

/-- Three of them. -/
def threeTenants : Fin 3 → NewTenant
  | 0 => tenantOfAda 1 ⟨"hooli", by decide⟩
  | 1 => tenantOfAda 2 ⟨"globex", by decide⟩
  | 2 => tenantOfAda 3 ⟨"initech", by decide⟩

/-- The ids of their roles. -/
def roleIds (i : Fin 3) (role : TenantRole) : RoleId :=
  match role with
  | .owner => ⟨BitVec.ofNat 128 (10 * i + 1)⟩
  | .admin => ⟨BitVec.ofNat 128 (10 * i + 2)⟩
  | .member => ⟨BitVec.ofNat 128 (10 * i + 3)⟩
  | .guest => ⟨BitVec.ofNat 128 (10 * i + 4)⟩

/-- Ada is about to create them. -/
def adaCreates : CreationPool (Fin 3) :=
  letI := Unicode.ascii
  { threads := fun i => (TenantCreation.create (threeTenants i) (roleIds i)).on i
    world := { committed := ⟨0, db⟩, tx := fun _ => none } }

/-- The creations, with their requests in a given order. -/
def creationsPlayed (turns : List (Fin 3)) :
    List (CreationPool (Fin 3) × CreationLabel (Fin 3)) × CreationPool (Fin 3) :=
  Pool.schedule (ReadCommitted.answer creationRules (.other "canceled")) turns adaCreates []

/-- They are a run. -/
lemma run_creationsPlayed (turns : List (Fin 3)) :
    Run (@CreationInit Unicode.ascii (Fin 3) threeTenants roleIds) CreationStep
      (creationsPlayed turns).1 (creationsPlayed turns).2 := by
  let := Unicode.ascii
  have hinit : CreationInit threeTenants roleIds adaCreates :=
    ⟨fun _ => rfl, fun _ => rfl, fun _ => Nat.zero_le 2⟩
  exact Pool.run_schedule (ReadCommitted.env_answer _) turns (.start hinit)

/-- One after the other. -/
def oneByOneTurns : List (Fin 3) :=
  List.replicate 7 0 ++ List.replicate 7 1 ++ List.replicate 7 2

/-- In turns. -/
def inTurns : List (Fin 3) := (List.replicate 7 [0, 1, 2]).flatten

end Scenario

/-- If Ada creates three tenants one after the other, she does not own more than two. -/
theorem owner_keeps_limit :
    (Scenario.creationsPlayed Scenario.oneByOneTurns).2.world.committed.db.activeOwned ⟨901⟩ ≤ 2 :=
  @owners_keep_limit Unicode.ascii _ _ _ _ _ _ _ (Scenario.run_creationsPlayed _)
    (by decide +kernel) ⟨901⟩

/-- **Ada owns three tenants** that she created at the same time. -/
theorem owner_exceeds_limit : ∃ tr P,
    Run (@CreationInit Unicode.ascii (Fin 3) Scenario.threeTenants Scenario.roleIds) CreationStep
        tr P ∧
      P.world.committed.db.activeOwned ⟨901⟩ = 3 :=
  ⟨_, _, Scenario.run_creationsPlayed Scenario.inTurns, by decide +kernel⟩

end Klynt
