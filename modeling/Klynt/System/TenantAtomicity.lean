import Klynt.Domain.Slug
import Klynt.Persistence.TenantCreation
import Klynt.System.GuardedCall
import Klynt.System.RolePermissions

set_option relaxedAutoImplicit false
set_option autoImplicit false

/-!
# A tenant is created as a whole or not at all

The creation of a tenant ends with an error and leaves the database as it is, or it returns the
tenant and has added its row, its four system roles with their permissions and its owner's
membership.  If the answer of the commit is lost, it has added them and ends with an error.

## Main definitions

* `Db.KeysOk` — the keys that the creation depends on.
* `Creation`, `Creation.result` — what the creation of a tenant adds to a database.

## Main results

* `tenant_created_whole` — a run of the creation changes nothing or adds a `Creation`.
* `tenant_created_otherwise` — the row is not the tenant's in every case: spaces after the 255th
  character of the name and parts of a microsecond are cut off; and a lost answer of the commit
  leaves the tenant behind.

## Implementation notes

The mapping of the row is the only step after the commit.  It cannot fail, since the slug of the
row is one that `TenantSlug::parse` has returned: its text is lower case and so parsed as it is.
-/

namespace Klynt

variable [Unicode]

/-! ## What a creation adds -/

omit [Unicode] in
/-- The primary and foreign keys that the creation of a tenant depends on. -/
structure Db.KeysOk (db : Db) : Prop where
  /-- Roles belong to tenants. -/
  roleTenant : ∀ r ∈ db.tenantRoles, ∃ t ∈ db.tenants, t.id = r.tenantId
  /-- The ids of roles differ. -/
  roleIds : (db.tenantRoles.map (·.id)).Nodup
  /-- Permissions are linked to roles. -/
  pairs : db.PairsOk
  /-- The ids of permissions differ. -/
  permissionIds : (db.permissions.map (·.id)).Nodup

omit [Unicode] in
/-- What the creation of a tenant adds to a database. -/
structure Creation (tenant : Tenant) (db : Db) where
  /-- The name of the row. -/
  name : String
  /-- The system roles. -/
  role : TenantRole → TenantRoleRow
  /-- The permissions of the system roles. -/
  grants : List RolePermissionRow
  /-- The name is the tenant's, as the column stores it. -/
  stored : varchar 255 tenant.name = .ok name
  /-- The tenant is new. -/
  fresh : ∀ t ∈ db.tenants, t.id ≠ tenant.id ∧ t.slug ≠ tenant.slug.text
  /-- The roles are the tenant's. -/
  roleOf : ∀ r, (role r).tenantId = tenant.id ∧ (role r).name = r.asStr ∧
    (role r).isSystem = true ∧ (role r).isCustom = false
  /-- The roles are new. -/
  roleIds : ((db.tenantRoles ++
    [TenantRole.owner, .admin, .member, .guest].map role).map (·.id)).Nodup
  /-- Only the roles are given permissions. -/
  ofRole : ∀ g ∈ grants, ∃ r, g.roleId = (role r).id ∧ ∃ p ∈ db.permissions, p.id = g.permissionId
  /-- Each is given those that it is seeded with. -/
  seeded : ∀ r, ∀ p ∈ db.permissions,
    ⟨(role r).id, p.id⟩ ∈ grants ↔ seedGrants r.asStr p.name = true

namespace Creation

omit [Unicode]

variable {tenant : Tenant} {db : Db}

/-- The tenant of the row. -/
def asStored (c : Creation tenant db) : Tenant := { tenant with name := c.name }

/-- The database with everything that is added. -/
def result (c : Creation tenant db) : Db :=
  { db with
    tenants := db.tenants ++ [.ofTenant c.asStored]
    tenantRoles := db.tenantRoles ++ [TenantRole.owner, .admin, .member, .guest].map c.role
    rolePermissions := db.rolePermissions ++ c.grants
    memberships := db.memberships ++ [ownerMembership tenant (c.role .owner).id] }

end Creation

/-! ## The creation as it is run -/

section Transaction

omit [Unicode]

/-- A system role of a new tenant. -/
def seededRole (now : Time) (t : TenantId) (ids : TenantRole → RoleId) (r : TenantRole) :
    TenantRoleRow :=
  systemRoleRow now t (ids r) r ((systemRoles.lookup r).getD "")

/-- The system roles of a new tenant are one for each role. -/
lemma systemRoleRows_eq (now : Time) (t : TenantId) (ids : TenantRole → RoleId) :
    systemRoleRows now t ids =
      [TenantRole.owner, .admin, .member, .guest].map (seededRole now t ids) := rfl

/-- Every role has its row. -/
lemma seededRole_mem (now : Time) (t : TenantId) (ids : TenantRole → RoleId) (r : TenantRole) :
    seededRole now t ids r ∈ systemRoleRows now t ids := by
  rw [systemRoleRows_eq]
  exact List.mem_map_of_mem (by cases r <;> simp)

/-- **What the transaction adds**, in a database that keeps its keys. -/
lemma exists_creation {now : Time} {tenant : Tenant} {ids : TenantRole → RoleId} {row : TenantRow}
    {db db' : Db} (hkeys : db.KeysOk) (hname : varchar 255 tenant.name = .ok row.name)
    (h : createTenantTx now tenant ids db = .ok (row, db')) :
    ∃ c : Creation tenant db, row = .ofTenant c.asStored ∧ db' = c.result := by
  obtain ⟨name, rfl, -, hid, hslug, -, -, hnodup, seeds, hseeds, hall, rfl⟩ :=
    createTenantTx_ok hkeys.roleTenant hkeys.roleIds h
  have hsplit := hnodup
  rw [List.map_append] at hsplit
  obtain ⟨-, hnew, hapart⟩ := List.nodup_append.mp hsplit
  have hgrants : ∀ r, ∀ p ∈ db.permissions,
      (⟨(seededRole now tenant.id ids r).id, p.id⟩ : RolePermissionRow) ∈ seeds ↔
        seedGrants r.asStr p.name = true := by
    intro r p hp
    have hr := seededRole_mem now tenant.id ids r
    constructor
    · intro hmem
      obtain ⟨r', hr', p', hp', heq, hgrant⟩ := hseeds _ hmem
      obtain ⟨hrid, hpid⟩ := RolePermissionRow.mk.inj heq
      obtain rfl := Keyed.eq_of_key_eq _ hnew hr hr' hrid
      obtain rfl := Keyed.eq_of_key_eq _ hkeys.permissionIds hp hp' hpid
      exact hgrant
    · intro hgrant
      rcases hall _ hr p hp hgrant with hold | hmem
      · obtain ⟨r', hr', hrid⟩ := hkeys.pairs _ hold
        exact absurd hrid (hapart _ (List.mem_map_of_mem hr') _ (List.mem_map_of_mem hr))
      · exact hmem
  refine ⟨{ name, role := seededRole now tenant.id ids, grants := seeds, stored := hname
            fresh := fun t ht => ⟨hid t ht, hslug t ht⟩
            roleOf := fun r => ⟨rfl, rfl, rfl, rfl⟩
            roleIds := by rw [← systemRoleRows_eq]; exact hnodup
            ofRole := ?_, seeded := hgrants }, rfl, rfl⟩
  intro g hg
  obtain ⟨r, hr, p, hp, rfl, -⟩ := hseeds g hg
  rw [systemRoleRows_eq] at hr
  obtain ⟨role, -, rfl⟩ := List.mem_map.mp hr
  exact ⟨role, rfl, p, hp, rfl⟩

end Transaction

/-- The row of a created tenant is mapped to the tenant, as it is stored. -/
lemma mapTenantRow_created (laws : LowercaseLaws) {raw : String} {slug : TenantSlug}
    (hslug : TenantSlug.parse raw = .ok slug) {id : TenantId} {name : String} {owner : UserId}
    {created : Time} {tenant : Tenant}
    (htenant : Tenant.create id slug name owner created = .ok tenant) (stored : String) :
    mapTenantRow (.ofTenant { tenant with name := stored }) =
      .ok { tenant with name := stored } := by
  obtain ⟨-, rfl⟩ := Tenant.create_eq_ok.mp htenant
  have hstatus : TenantStatus.fromStr "active" = .ok .active := by
    have hlower : toLowercase "active" = "active" := toLowercase_eq_self (by decide)
    unfold TenantStatus.fromStr
    rw [hlower]
    rfl
  exact mapTenantRow_ok hstatus (TenantSlug.parse_text laws hslug)

/-- A creation that succeeds has added everything, and its row is mapped. -/
lemma creation_of_ok {tenant : NewTenant} {now : Time} {ids : TenantRole → RoleId}
    {s s' : Connection Db} (hkeys : s.committed.KeysOk) {lost : Prop} {t : Tenant}
    (h : (TenantCreation.create tenant ids).Exec (Connection.Env lost (CreateStatement.exec now)) s
      (.ok t) s') :
    ∃ c : Creation tenant.stored s.committed, mapTenantRow (.ofTenant c.asStored) = .ok t ∧
      s'.committed = c.result := by
  unfold TenantCreation.create at h
  obtain ⟨row, s₁, hprepare, h⟩ := Prog.exec_bind_ok.mp h
  obtain ⟨db, htx, hname, rfl⟩ := TenantCreation.exec_prepare_ok tenant.stored ids hprepare
  obtain ⟨c, rfl, rfl⟩ := exists_creation hkeys hname htx
  obtain ⟨_, s₂, hcommit, h⟩ := Prog.exec_bind_ok.mp h
  obtain rfl := Connection.exec_commit_ok (w := c.result) rfl (Prog.exec_mapErr_ok.mp hcommit)
  obtain ⟨hmap, rfl⟩ := Prog.exec_done.mp h
  exact ⟨c, hmap.symm, rfl⟩

/-- **A tenant is created as a whole or not at all.**

A creation that fails leaves the database as it is.  Only if the answer of the commit is lost, after
the server has executed it, everything is there although the creation fails.  The row is the
tenant's with its times at the resolution of the database.

**Proof sketch.** Up to the commit nothing is committed, and a commit that fails publishes
nothing unless its answer is lost.  After the commit the row is mapped, which succeeds; and the
statements that succeeded before it are those of the transaction that runs them in one step. -/
theorem tenant_created_whole (laws : LowercaseLaws) {raw : String} {slug : TenantSlug}
    (hslug : TenantSlug.parse raw = .ok slug) {id : TenantId} {name : String} {owner : UserId}
    {created : Instant} {tenant : NewTenant}
    (htenant : NewTenant.create id slug name owner created = .ok tenant)
    {now : Time} {ids : TenantRole → RoleId} {s s' : Connection Db} (hkeys : s.committed.KeysOk)
    {lost : Prop} {r : Except DomainError Tenant}
    (h : (TenantCreation.create tenant ids).Exec (Connection.Env lost (CreateStatement.exec now)) s
      r s') :
    (∀ e, r = .error e → s'.committed = s.committed ∨
      lost ∧ ∃ c : Creation tenant.stored s.committed, s'.committed = c.result) ∧
    ∀ t, r = .ok t → ∃ c : Creation tenant.stored s.committed, t = c.asStored ∧
      s'.committed = c.result := by
  have hmapped : ∀ c : Creation tenant.stored s.committed,
      mapTenantRow (.ofTenant c.asStored) = .ok c.asStored :=
    fun c => mapTenantRow_created laws hslug (NewTenant.create_stored htenant) c.name
  constructor
  · rintro e rfl
    unfold TenantCreation.create at h
    rcases Prog.exec_bind.mp h with ⟨row, s₁, hprepare, h⟩ | ⟨_, -, hprepare⟩
    · obtain ⟨db, htx, hname, rfl⟩ := TenantCreation.exec_prepare_ok tenant.stored ids hprepare
      obtain ⟨c, rfl, rfl⟩ := exists_creation hkeys hname htx
      rcases Prog.exec_bind.mp h with ⟨_, s₂, -, h⟩ | ⟨_, -, hcommit⟩
      · exact absurd ((Prog.exec_done.mp h).1.trans (hmapped c)) nofun
      · obtain ⟨r', hfailed, heq⟩ := Prog.exec_mapErr.mp hcommit
        cases r' with
        | ok _ => cases heq
        | error _ =>
          exact (Connection.exec_commit_error (w := c.result) rfl hfailed).imp_right fun h =>
            ⟨h.1, c, h.2⟩
    · exact .inl (Connection.exec_committed (TenantCreation.all_prepare tenant.stored ids) hprepare)
  · rintro t rfl
    obtain ⟨c, hmap, hresult⟩ := creation_of_ok hkeys h
    exact ⟨c, Except.ok.inj (hmap.symm.trans (hmapped c)), hresult⟩

/-! ## Evaluation -/

omit [Unicode]

namespace Scenario

/-- The ids of the roles of a new tenant. -/
def newRoleIds : TenantRole → RoleId
  | .owner => ⟨BitVec.ofNat 128 701⟩
  | .admin => ⟨BitVec.ofNat 128 702⟩
  | .member => ⟨BitVec.ofNat 128 703⟩
  | .guest => ⟨BitVec.ofNat 128 704⟩

/-- A tenant of Ada's with a given name. -/
def adasTenant (name : String) : NewTenant :=
  { id := ⟨BitVec.ofNat 128 601⟩, slug := ⟨"acme", by decide⟩, name,
    ownerId := ⟨BitVec.ofNat 128 901⟩, maxMembers := defaultMaxMembers,
    maxOwners := defaultMaxOwners, settings := .obj [], status := .active, createdAt := 1500,
    updatedAt := 1500 }

/-- It is one that `Tenant::create` returns. -/
lemma create_adasTenant {name : String} (h : (trim name).toList ≠ []) :
    NewTenant.create (adasTenant name).id (adasTenant name).slug name ⟨BitVec.ofNat 128 901⟩ 1500 =
      .ok (adasTenant name) := if_neg h

/-- A connection to a platform where nothing has happened. -/
def idle : Connection Db := ⟨db, none⟩

/-- The platform keeps its keys. -/
lemma keysOk_idle : idle.committed.KeysOk := ⟨nofun, List.nodup_nil, nofun, by decide +kernel⟩

/-- The statements of a creation there succeed if the name can be stored. -/
lemma exec_prepare (lost : Prop) {name stored : String} (h : varchar 255 name = .ok stored) :
    ∃ s', (TenantCreation.prepare (adasTenant name).stored newRoleIds).Exec
      (Connection.Env lost (CreateStatement.exec 0)) idle
      (.ok { TenantRow.ofTenant (adasTenant name).stored with name := stored }) s' := by
  have hinsert : CreateStatement.exec 0 (.insertTenant (.ofTenant (adasTenant name).stored)) db =
      insertTenantRow { TenantRow.ofTenant (adasTenant name).stored with name := stored } 0 db := by
    change (varchar 255 name >>= _) = _
    rw [h]
    rfl
  have heval : ((TenantCreation.prepare (adasTenant name).stored newRoleIds).eval
      (Connection.answer (CreateStatement.exec 0) (.other "")) idle).1 =
      .ok { TenantRow.ofTenant (adasTenant name).stored with name := stored } := by
    unfold TenantCreation.prepare TxProg.orRollback CreateStatement.run idle
    simp only [TxProg.begin, TxProg.run, Prog.mapErr, Prog.attempt, Bind.bind, Prog.bind,
      Prog.eval, Connection.answer, hinsert, Except.mapError, pure]
    cbv
  exact ⟨_, heval ▸ Prog.exec_eval (Connection.env_answer _)⟩

/-- The text of the slug is parsed. -/
lemma parse_acme (name : String) : @TenantSlug.parse Unicode.ascii "acme" =
    .ok (adasTenant name).slug := by
  change _ = Except.ok (adasTenant "").slug
  decide +kernel

/-- Such a creation. -/
lemma exec_create (lost : Prop) {name stored : String} (hname : (trim name).toList ≠ [])
    (h : varchar 255 name = .ok stored) :
    ∃ s', (@TenantCreation.create (adasTenant name) newRoleIds Unicode.ascii).Exec
      (Connection.Env lost (CreateStatement.exec 0)) idle
      (.ok { (adasTenant name).stored with name := stored }) s' := by
  obtain ⟨s₁, hprepare⟩ := exec_prepare lost h
  have hmap := @mapTenantRow_created Unicode.ascii lowercaseLaws_ascii _ _ (parse_acme name)
    _ _ _ _ _ (NewTenant.create_stored (create_adasTenant hname)) stored
  refine ⟨⟨s₁.outcome, none⟩, Prog.exec_bind_ok.mpr ⟨_, s₁, hprepare, Prog.exec_bind_ok.mpr
    ⟨(), _, Prog.exec_mapErr_ok.mpr ?_, Prog.exec_done.mpr ⟨hmap.symm, rfl⟩⟩⟩⟩
  exact ⟨_, _, .inl ⟨rfl, rfl⟩, rfl, rfl⟩

/-- If the answer of the commit is lost instead, the creation fails with the same database. -/
lemma exec_lostCommit {tenant : NewTenant} {t : Tenant} {s s' : Connection Db}
    (h : (@TenantCreation.create tenant newRoleIds Unicode.ascii).Exec
      (Connection.Env True (CreateStatement.exec 0)) s (.ok t) s') :
    ∃ e, (@TenantCreation.create tenant newRoleIds Unicode.ascii).Exec
      (Connection.Env True (CreateStatement.exec 0)) s (.error e) s' := by
  obtain ⟨row, s₁, hprepare, h⟩ := Prog.exec_bind_ok.mp h
  obtain ⟨_, s₂, hcommit, h⟩ := Prog.exec_bind_ok.mp h
  obtain ⟨-, rfl⟩ := Prog.exec_done.mp h
  have hlost := Connection.exec_commit_lost (.other "the connection is closed")
    (Prog.exec_mapErr_ok.mp hcommit)
  exact ⟨_, Prog.exec_bind.mpr (.inl ⟨row, s₁, hprepare,
    Prog.exec_bind.mpr (.inr ⟨_, rfl, Prog.exec_mapErr.mpr ⟨_, hlost, rfl⟩⟩)⟩)⟩

/-- A name that ends with `n` spaces. -/
def padded (n : Nat) : String := String.ofList ('a' :: List.replicate n ' ')

/-- A column of `n + 1` characters cuts off the last one. -/
lemma varchar_padded (n : Nat) : varchar (n + 1) (padded (n + 1)) = .ok (padded n) := by
  have hlist : (padded (n + 1)).toList = 'a' :: List.replicate (n + 1) ' ' := String.toList_ofList
  refine varchar_eq_ok.mpr ⟨?_, .inr ⟨?_, ?_, ?_⟩⟩
  · unfold Storable
    rw [hlist]
    simp [List.mem_replicate]
  · rw [← String.length_toList, hlist, List.length_cons, List.length_replicate]
    omega
  · simp [hlist]
  · rw [hlist, List.take_succ_cons, List.take_replicate, Nat.min_eq_left (Nat.le_succ n)]
    rfl

/-- That is another name. -/
lemma padded_ne (n : Nat) : padded n ≠ padded (n + 1) := by
  intro h
  have := congrArg (·.toList.length) h
  simp [padded] at this

end Scenario

/-- Ada creates a tenant. -/
theorem tenant_created_whole_acme :
    ∃ s' : Connection Db, ∃ c : Creation (Scenario.adasTenant "Acme").stored Scenario.db,
      (@TenantCreation.create (Scenario.adasTenant "Acme") Scenario.newRoleIds Unicode.ascii).Exec
        (Connection.Env True (CreateStatement.exec 0)) Scenario.idle (.ok c.asStored) s' ∧
      s'.committed = c.result := by
  have hname : (trim "Acme").toList ≠ [] := by decide
  have hstored : varchar 255 "Acme" = .ok "Acme" := by decide +kernel
  obtain ⟨s', h⟩ := Scenario.exec_create True hname hstored
  obtain ⟨c, hrow, hresult⟩ := (@tenant_created_whole Unicode.ascii lowercaseLaws_ascii _ _
    (Scenario.parse_acme _) _ _ _ _ _ (Scenario.create_adasTenant hname) _ _ _ _
    Scenario.keysOk_idle _ _ h).2 _ rfl
  exact ⟨s', c, hrow ▸ h, hresult⟩

/-- **What is stored is not the argument in every case.**  A tenant is created whose name ends with
many spaces and whose times are no whole microseconds: its row has neither its name nor its time.
And if the answer of the commit is lost, the creation fails with the tenant in the database. -/
theorem tenant_created_otherwise :
    ∃ tenant : NewTenant, @TenantSlug.parse Unicode.ascii "acme" = .ok tenant.slug ∧
    (∃ id slug name owner created, NewTenant.create id slug name owner created = .ok tenant) ∧
    Scenario.idle.committed.KeysOk ∧
    (∃ t s', (@TenantCreation.create tenant Scenario.newRoleIds Unicode.ascii).Exec
        (Connection.Env False (CreateStatement.exec 0)) Scenario.idle (.ok t) s' ∧
      ∀ row ∈ s'.committed.tenants, row.name ≠ tenant.name ∧
        row.createdAt * 1000 ≠ tenant.createdAt) ∧
    ∃ e s', (@TenantCreation.create tenant Scenario.newRoleIds Unicode.ascii).Exec
        (Connection.Env True (CreateStatement.exec 0)) Scenario.idle (.error e) s' ∧
      s'.committed ≠ Scenario.idle.committed := by
  have hname : (trim (Scenario.padded 255)).toList ≠ [] := by
    unfold trim Scenario.padded
    simp only [String.toList_ofList]
    decide +kernel
  refine ⟨Scenario.adasTenant (Scenario.padded 255), Scenario.parse_acme _,
    ⟨_, _, _, _, _, Scenario.create_adasTenant hname⟩, Scenario.keysOk_idle, ?_, ?_⟩
  · obtain ⟨s', h⟩ := Scenario.exec_create False hname (Scenario.varchar_padded 254)
    refine ⟨_, s', h, fun row hrow => ?_⟩
    obtain ⟨c, -, hresult⟩ := @creation_of_ok Unicode.ascii _ _ _ _ _ Scenario.keysOk_idle _ _ h
    rw [hresult] at hrow
    obtain rfl := List.mem_singleton.mp hrow
    have hstored := Except.ok.inj (c.stored.symm.trans (Scenario.varchar_padded 254))
    refine ⟨fun heq => Scenario.padded_ne 254 (hstored.symm.trans heq), ?_⟩
    change Instant.stored 1500 * 1000 ≠ 1500
    decide
  · obtain ⟨s', h⟩ := Scenario.exec_create True hname (Scenario.varchar_padded 254)
    obtain ⟨c, -, hresult⟩ := @creation_of_ok Unicode.ascii _ _ _ _ _ Scenario.keysOk_idle _ _ h
    obtain ⟨e, hfails⟩ := Scenario.exec_lostCommit h
    refine ⟨e, s', hfails, fun hidle => ?_⟩
    rw [hresult] at hidle
    cases congrArg (·.tenants.length) hidle

end Klynt
