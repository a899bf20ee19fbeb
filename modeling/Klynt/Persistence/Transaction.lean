import Mathlib.Data.List.Dedup
import Klynt.Persistence.Statement

set_option relaxedAutoImplicit false
set_option autoImplicit false

/-!
# Transactions

The three repository operations that run several statements in one transaction.  A
transaction that fails is rolled back, so it is a function that fails without effect or
returns its result and the database it commits.

## Main definitions

* `Tx`, `Tx.run` — a transaction body, and one statement in it.
* `seedSystemRoles` — the four roles every tenant is created with.
* `Transaction`, `Transaction.exec` — the transactions of the repositories.
-/

namespace Klynt

/-- A transaction body: statements on a database, ended by the first error. -/
abbrev Tx (α : Type) : Type := StateT Db (Except DomainError) α

/-- One statement of a transaction, with the conversion of its error. -/
def Tx.run {α : Type} (now : Time) (s : Statement α) (convert : SqlxError → DomainError) : Tx α :=
  fun db => (s now db).mapError convert

/-- Read the database inside a transaction. -/
def Tx.query {α : Type} (f : Db → α) : Tx α := fun db => .ok (f db, db)

/-- End a transaction with an error. -/
def Tx.fail {α : Type} (e : DomainError) : Tx α := fun _ => .error e

/-! ## Creating a tenant -/

/-- The row of a tenant. -/
def TenantRow.ofTenant (tenant : Tenant) : TenantRow :=
  { id := tenant.id, slug := tenant.slug.text, name := tenant.name, ownerId := tenant.ownerId,
    maxMembers := tenant.maxMembers, maxOwners := tenant.maxOwners, settings := tenant.settings,
    status := tenant.status.asStr, createdAt := tenant.createdAt, updatedAt := tenant.updatedAt }

/-- The conversion of an error of the `INSERT INTO tenants`. -/
def tenantInsertError : SqlxError → DomainError
  | .database ⟨.uniqueViolation, _, _⟩ => .conflict "tenant slug already exists"
  | .database ⟨.checkViolation, _, _⟩ => .tenantLimitReached
  | .database e => .internal e.message
  | .other m => .internal m

/-- The four system roles with their descriptions. -/
def systemRoles : List (TenantRole × String) :=
  [(.owner, "Full control over the tenant"),
   (.admin, "Can manage tenant settings, members, and roles"),
   (.member, "Base tenant access"),
   (.guest, "Limited read-only access")]

/-- The permissions a system role is seeded with, by name. -/
def seedGrants (role permission : String) : Bool :=
  role == "owner" ||
    (role == "admin" && not (["tenant.delete"].contains permission)) ||
    (role == "member" &&
      ["tenant.view", "content.view", "content.create", "content.edit"].contains permission) ||
    (role == "guest" && ["tenant.view", "content.view"].contains permission)

/-- The row of a system role. -/
def systemRoleRow (now : Time) (t : TenantId) (id : RoleId) (role : TenantRole)
    (description : String) : TenantRoleRow :=
  { id, tenantId := t, name := role.asStr, description, isSystem := true, isCustom := false,
    createdAt := now, updatedAt := now }

/-- One row of `INSERT INTO tenant_roles … ON CONFLICT (tenant_id, name) DO NOTHING`; `id` is
the value of the column's default. -/
def insertSystemRole (t : TenantId) (id : RoleId) (role : TenantRole) (description : String) :
    Statement Unit := fun now db =>
  if db.tenantRoles.any (fun r => r.tenantId = t ∧ r.name = role.asStr) then .ok ((), db)
  else if db.tenantRoles.any (·.id = id) then .error (uniqueViolation "tenant_roles_pkey")
  else if ¬ db.tenants.any (·.id = t) then
    .error (foreignKeyViolation "tenant_roles" "tenant_roles_tenant_id_fkey")
  else
    .ok ((), { db with
      tenantRoles := db.tenantRoles ++ [systemRoleRow now t id role description] })

/-- The permissions a tenant's system roles are seeded with. -/
def Db.seedPairs (db : Db) (t : TenantId) : List RolePermissionRow :=
  (db.tenantRoles.filter fun r => r.tenantId = t ∧ r.isSystem).flatMap fun r =>
    (db.permissions.filter fun p => seedGrants r.name p.name).map fun p => ⟨r.id, p.id⟩

/-- `INSERT INTO role_permissions … SELECT … CROSS JOIN permissions … ON CONFLICT DO NOTHING`. -/
def insertSeedPermissions (t : TenantId) : Statement Unit := fun _ db =>
  .ok ((), { db with
    rolePermissions := db.rolePermissions ++ (db.seedPairs t).filter (· ∉ db.rolePermissions) })

/-- `seed_system_roles`. -/
def seedSystemRoles (now : Time) (t : TenantId) (ids : TenantRole → RoleId) : Tx Unit := do
  systemRoles.forM fun role => Tx.run now (insertSystemRole t (ids role.1) role.1 role.2) .ofSqlx
  Tx.run now (insertSeedPermissions t) .ofSqlx

/-- `find_role_id_by_name` inside a transaction. -/
def txRoleIdByName (t : TenantId) (name : String) : Tx RoleId := do
  match ← Tx.query fun db => (db.roleNamed? t name).map (·.id) with
  | some id => pure id
  | none => Tx.fail (.internal ("missing " ++ name ++ " role for tenant"))

/-- The membership row of a tenant's owner. -/
def ownerMembership (tenant : Tenant) (roleId : RoleId) : MembershipRow :=
  { tenantId := tenant.id, userId := tenant.ownerId, role := "owner",
    joinedAt := tenant.createdAt, tenantRoleId := some roleId, status := "active" }

/-- The transaction of `PgTenantRepository::create`. -/
def createTenantTx (now : Time) (tenant : Tenant) (ids : TenantRole → RoleId) : Tx TenantRow := do
  let row ← Tx.run now (insertTenant (.ofTenant tenant)) tenantInsertError
  seedSystemRoles now tenant.id ids
  let ownerRoleId ← txRoleIdByName tenant.id "owner"
  let _ ← Tx.run now (insertMembership (ownerMembership tenant ownerRoleId)) .ofSqlx
  return row

/-! ## Roles -/

/-- `map_role_db_error`. -/
def mapRoleDbError : SqlxError → DomainError
  | .database ⟨.uniqueViolation, _, _⟩ => .conflict "role name already exists"
  | .database ⟨.foreignKeyViolation, _, _⟩ => .validation "permission not found"
  | .database e => .internal e.message
  | .other m => .internal m

/-- `insert_role_permissions`. -/
def insertRolePermissions (now : Time) (id : RoleId) (permissionIds : List PermissionId) :
    Tx Unit :=
  if permissionIds = [] then pure ()
  else Tx.run now (insertRolePermissionRows id permissionIds.dedup) mapRoleDbError

/-- The row of a role. -/
def TenantRoleRow.ofRole (role : TenantRoleAggregate) : TenantRoleRow :=
  { id := role.id, tenantId := role.tenantId, name := role.name, description := role.description,
    isSystem := role.isSystem, isCustom := role.isCustom, createdAt := role.createdAt,
    updatedAt := role.updatedAt }

/-- The transaction of `PgRoleRepository::create_role`. -/
def createRoleTx (now : Time) (role : TenantRoleAggregate) : Tx Unit := do
  Tx.run now (insertRole (.ofRole role)) mapRoleDbError
  insertRolePermissions now role.id role.permissionIds

/-- The transaction of `PgRoleRepository::update_role_permissions`. -/
def updateRolePermissionsTx (now : Time) (t : TenantId) (id : RoleId)
    (permissionIds : List PermissionId) : Tx Unit := do
  let rows ← Tx.run now (touchRole t id) .ofSqlx
  if rows = 0 then Tx.fail (.notFound "role")
  Tx.run now (deleteRolePermissions id) .ofSqlx
  insertRolePermissions now id permissionIds

/-! ## The transactions -/

/-- The transactions of the repositories. -/
inductive Transaction where
  /-- Create a tenant with its roles and its owner's membership. -/
  | createTenant (tenant : Tenant) (ids : TenantRole → RoleId)
  /-- Create a role with its permissions. -/
  | createRole (role : TenantRoleAggregate)
  /-- Replace the permissions of a role. -/
  | updateRolePermissions (t : TenantId) (id : RoleId) (permissionIds : List PermissionId)

namespace Transaction

/-- The type of the result of a transaction. -/
def Res : Transaction → Type
  | createTenant _ _ => TenantRow
  | createRole _ | updateRolePermissions _ _ _ => Unit

/-- What a transaction returns and commits. -/
def exec (now : Time) (db : Db) : (t : Transaction) → Except DomainError (t.Res × Db)
  | createTenant tenant ids => createTenantTx now tenant ids db
  | createRole role => createRoleTx now role db
  | updateRolePermissions t id permissionIds => updateRolePermissionsTx now t id permissionIds db

end Transaction

end Klynt
