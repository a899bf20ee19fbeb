import Klynt.Lib.Keyed
import Klynt.Persistence.Transaction
import Klynt.Persistence.UsernameBackfill

set_option relaxedAutoImplicit false
set_option autoImplicit false

/-!
# The migrations to permissions and roles

Tenants are older than their roles.  One migration creates the catalogue of permissions and, for
every tenant that is there, the four system roles with what they grant; the next one adds columns to
the tenants, the memberships and the roles.

## Main definitions

* `LegacyTables` — the tenants and memberships before the migrations.
* `SeedTables` — the tables that the first migration creates.
* `LegacyTables.seeded`, `LegacyTables.migration0009`, `LegacyTables.migration0010` — the
  migrations.

## Main results

* `LegacyTables.migration0009_ok` — what the first migration creates.
* `LegacyTables.migration0009_again` — its insertions can be repeated.

## Implementation notes

The ids that the database draws are parameters.  The predicate of the first migration is the one by
which the service seeds the roles of a new tenant.
-/

namespace Klynt

/-! ## The tables -/

/-- A row of `tenants` before the migrations. -/
structure LegacyTenantRow where
  /-- `id`. -/
  id : TenantId
  /-- `slug`. -/
  slug : String
  /-- `name`. -/
  name : String
  /-- `owner_id`. -/
  ownerId : UserId
  /-- `status`. -/
  status : String
  /-- `created_at`. -/
  createdAt : Time
  /-- `updated_at`. -/
  updatedAt : Time

/-- A row of `user_tenant_memberships` before the migrations. -/
structure LegacyMembershipRow where
  /-- `tenant_id`. -/
  tenantId : TenantId
  /-- `user_id`. -/
  userId : UserId
  /-- `role`. -/
  role : String
  /-- `joined_at`. -/
  joinedAt : Time

/-- The tables before the migrations, with their constraints. -/
structure LegacyTables where
  /-- `tenants`. -/
  tenants : List LegacyTenantRow
  /-- `user_tenant_memberships`. -/
  memberships : List LegacyMembershipRow
  /-- The primary key of tenants. -/
  tenantIds : (tenants.map (·.id)).Nodup
  /-- The primary key of memberships. -/
  keys : (memberships.map fun m => (m.tenantId, m.userId)).Nodup
  /-- Memberships refer to tenants. -/
  memberTenant : ∀ m ∈ memberships, ∃ t ∈ tenants, t.id = m.tenantId

/-- A row of `tenant_roles` between the two migrations. -/
structure SeedRoleRow where
  /-- `id`. -/
  id : RoleId
  /-- `tenant_id`. -/
  tenantId : TenantId
  /-- `name`. -/
  name : String
  /-- `description`. -/
  description : String
  /-- `is_system`. -/
  isSystem : Bool
  /-- `created_at`. -/
  createdAt : Time
  /-- `updated_at`. -/
  updatedAt : Time

/-- The tables that the first migration creates. -/
structure SeedTables where
  /-- `permissions`. -/
  permissions : List PermissionRow
  /-- `tenant_roles`. -/
  roles : List SeedRoleRow
  /-- `role_permissions`. -/
  rolePermissions : List RolePermissionRow

/-- The tables without any row. -/
def SeedTables.empty : SeedTables := ⟨[], [], []⟩

/-- The ids that the database draws for the rows of the catalogue and for the roles of tenants. -/
structure SeedIds where
  /-- Of permissions, by their place in the catalogue. -/
  permission : ℕ → PermissionId
  /-- Of system roles. -/
  role : TenantId → TenantRole → RoleId

/-! ## The migrations -/

/-- The rows of `INSERT INTO permissions`. -/
def catalogueRows (ids : SeedIds) : List PermissionRow :=
  permissionCatalogue.zipIdx.map fun p =>
    { id := ids.permission p.2, name := p.1.1, description := p.1.2.1, category := p.1.2.2 }

/-- What the system roles are linked to. -/
def seedLinks (roles : List SeedRoleRow) (permissions : List PermissionRow) :
    List RolePermissionRow :=
  (roles.filter (·.isSystem)).flatMap fun r =>
    (permissions.filter fun p => seedGrants r.name p.name).map fun p => ⟨r.id, p.id⟩

/-- The row of a system role of a tenant. -/
def LegacyTenantRow.roleRow (ids : SeedIds) (now : Time) (t : LegacyTenantRow)
    (role : TenantRole × String) : SeedRoleRow :=
  { id := ids.role t.id role.1, tenantId := t.id, name := role.1.asStr, description := role.2,
    isSystem := true, createdAt := now, updatedAt := now }

namespace LegacyTables

variable (tables : LegacyTables) (ids : SeedIds) (now : Time)

/-- The rows of `INSERT INTO tenant_roles … UNION ALL …`. -/
def roleRows : List SeedRoleRow :=
  systemRoles.flatMap fun role => tables.tenants.map fun t => t.roleRow ids now role

/-- The tables after the insertions of `0009_add_permissions_and_roles.sql`. -/
def seeded (seeds : SeedTables) : SeedTables :=
  let permissions := Keyed.insertAll (·.name) (catalogueRows ids) seeds.permissions
  let roles := Keyed.insertAll (fun r => (r.tenantId, r.name)) (tables.roleRows ids now) seeds.roles
  { permissions, roles
    rolePermissions := Keyed.insertAll (fun link => link) (seedLinks roles permissions)
      seeds.rolePermissions }

/-- `0009_add_permissions_and_roles.sql`.  It fails if the database draws an id that it has drawn
before. -/
def migration0009 (seeds : SeedTables) : Except MigrationError SeedTables :=
  if ((tables.seeded ids now seeds).permissions.map (·.id)).Nodup ∧
      ((tables.seeded ids now seeds).roles.map (·.id)).Nodup then
    .ok (tables.seeded ids now seeds)
  else .error .notUnique

/-- `0010_tenant_invites_and_membership_status.sql`, in a database with the given other tables.  New
columns get their defaults; a trigger touches the system roles, which are no custom ones. -/
def migration0010 (seeds : SeedTables) (rest : Db) : Db :=
  { rest with
    tenants := tables.tenants.map fun t =>
      { id := t.id, slug := t.slug, name := t.name, ownerId := t.ownerId, maxMembers := 100,
        maxOwners := 1, settings := .obj [], status := t.status, createdAt := t.createdAt,
        updatedAt := t.updatedAt }
    memberships := tables.memberships.map fun m =>
      { tenantId := m.tenantId, userId := m.userId, role := m.role, joinedAt := m.joinedAt,
        tenantRoleId := none, status := "active" }
    permissions := seeds.permissions
    tenantRoles := seeds.roles.map fun r =>
      { id := r.id, tenantId := r.tenantId, name := r.name, description := r.description,
        isSystem := r.isSystem, isCustom := if r.isSystem then false else true,
        createdAt := r.createdAt, updatedAt := if r.isSystem then now else r.updatedAt }
    rolePermissions := seeds.rolePermissions
    invites := [] }

/-! ## What the first migration creates -/

variable {tables ids now}

/-- The roles that are created are those of one tenant under one name. -/
lemma nodup_roleRows : ((tables.roleRows ids now).map fun r => (r.tenantId, r.name)).Nodup := by
  have hnames : (systemRoles.map fun role => role.1.asStr).Nodup := by decide
  have hpairs : (systemRoles.flatMap fun role => tables.tenants.map fun t =>
      ((t.id, role.1.asStr) : TenantId × String)).Nodup := by
    refine List.nodup_flatMap.mpr ⟨fun role _ => ?_, ?_⟩
    · refine List.Nodup.of_map Prod.fst ?_
      rw [List.map_map]
      exact tables.tenantIds
    · refine (List.pairwise_map.mp hnames).imp fun hne => ?_
      rintro ⟨t, name⟩ hx hy
      obtain ⟨_, -, hx⟩ := List.mem_map.mp hx
      obtain ⟨_, -, hy⟩ := List.mem_map.mp hy
      exact hne ((Prod.mk.inj hx).2.trans (Prod.mk.inj hy).2.symm)
  unfold roleRows
  rw [List.map_flatMap]
  simp only [List.map_map]
  exact hpairs

/-- A role that is created. -/
lemma mem_roleRows {r : SeedRoleRow} : r ∈ tables.roleRows ids now ↔
    ∃ role ∈ systemRoles, ∃ t ∈ tables.tenants, t.roleRow ids now role = r := by
  unfold roleRows
  rw [List.mem_flatMap]
  exact exists_congr fun role => and_congr_right fun _ => List.mem_map

/-- The catalogue. -/
lemma map_catalogueRows (ids : SeedIds) :
    (catalogueRows ids).map (fun p => (p.name, p.description, p.category)) = permissionCatalogue := by
  unfold catalogueRows
  rw [List.map_map]
  exact (List.map_congr_left fun _ _ => rfl).trans (List.zipIdx_map_fst 0 permissionCatalogue)

/-- **What the first migration creates** if it does not fail: the catalogue, the system roles of the
tenants, and their links. -/
theorem migration0009_ok {seeds : SeedTables} (h : tables.migration0009 ids now .empty = .ok seeds) :
    seeds.permissions = catalogueRows ids ∧ seeds.roles = tables.roleRows ids now ∧
      (seeds.permissions.map (·.id)).Nodup ∧ (seeds.roles.map (·.id)).Nodup ∧
      ∀ link, link ∈ seeds.rolePermissions ↔ link ∈ seedLinks seeds.roles seeds.permissions := by
  have hpermissions : Keyed.insertAll (·.name) (catalogueRows ids) [] = catalogueRows ids := by
    refine Keyed.insertAll_of_nodup _ ?_
    have hnames := congrArg (List.map (·.1)) (map_catalogueRows ids)
    rw [List.map_map] at hnames
    rw [List.nil_append, show (catalogueRows ids).map (·.name) = permissionCatalogue.map (·.1) from
      hnames]
    decide
  have hroles : Keyed.insertAll (fun r => (r.tenantId, r.name)) (tables.roleRows ids now) [] =
      tables.roleRows ids now := Keyed.insertAll_of_nodup _ nodup_roleRows
  have hseeded : tables.seeded ids now .empty =
      ⟨catalogueRows ids, tables.roleRows ids now, Keyed.insertAll (fun link => link)
        (seedLinks (tables.roleRows ids now) (catalogueRows ids)) []⟩ := by
    unfold seeded SeedTables.empty
    rw [hpermissions, hroles]
  unfold migration0009 at h
  rw [hseeded] at h
  split at h
  · rename_i hids
    obtain rfl := Except.ok.inj h
    refine ⟨rfl, rfl, hids.1, hids.2, fun link => ?_⟩
    have hkeys : (∃ row ∈ Keyed.insertAll (fun row => row)
        (seedLinks (tables.roleRows ids now) (catalogueRows ids)) [], row = link) ↔
        (∃ row ∈ ([] : List RolePermissionRow), row = link) ∨
          ∃ row ∈ seedLinks (tables.roleRows ids now) (catalogueRows ids), row = link :=
      Keyed.exists_key_insertAll fun row => row
    simpa using hkeys
  · cases h

/-- **The insertions can be repeated**: on the tables it has created, the first migration changes
nothing, whatever ids are drawn. -/
theorem migration0009_again {seeds : SeedTables}
    (h : tables.migration0009 ids now .empty = .ok seeds) (ids' : SeedIds) (now' : Time) :
    tables.migration0009 ids' now' seeds = .ok seeds := by
  obtain ⟨hpermissions, hroles, hpermissionIds, hroleIds, hlinks⟩ := migration0009_ok h
  have hsamePermissions : Keyed.insertAll (·.name) (catalogueRows ids') seeds.permissions =
      seeds.permissions := by
    refine Keyed.insertAll_of_mem _ fun p hp => ?_
    have hentry : (p.name, p.description, p.category) ∈ permissionCatalogue := by
      rw [← map_catalogueRows ids']
      exact List.mem_map_of_mem hp
    rw [← map_catalogueRows ids] at hentry
    obtain ⟨q, hq, heq⟩ := List.mem_map.mp hentry
    exact ⟨q, hpermissions ▸ hq, congrArg (·.1) heq⟩
  have hsameRoles : Keyed.insertAll (fun r => (r.tenantId, r.name)) (tables.roleRows ids' now')
      seeds.roles = seeds.roles := by
    refine Keyed.insertAll_of_mem _ fun r hr => ?_
    obtain ⟨role, hrole, t, ht, rfl⟩ := mem_roleRows.mp hr
    exact ⟨t.roleRow ids now role, hroles ▸ mem_roleRows.mpr ⟨role, hrole, t, ht, rfl⟩, rfl⟩
  have hsameLinks : Keyed.insertAll (fun link => link) (seedLinks seeds.roles seeds.permissions)
      seeds.rolePermissions = seeds.rolePermissions :=
    Keyed.insertAll_of_mem _ fun link hlink => ⟨link, (hlinks link).mpr hlink, rfl⟩
  have hsame : tables.seeded ids' now' seeds = seeds := by
    unfold seeded
    rw [hsamePermissions, hsameRoles]
    exact congrArg (SeedTables.mk seeds.permissions seeds.roles) hsameLinks
  unfold migration0009
  rw [hsame]
  exact if_pos ⟨hpermissionIds, hroleIds⟩

end LegacyTables

end Klynt
