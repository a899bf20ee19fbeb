import Klynt.Service.Tenant

set_option relaxedAutoImplicit false
set_option autoImplicit false

/-!
# The permissions that a client computes

A client asks for the catalogue of permissions, the roles of a tenant and the tenants of its user,
and looks the permissions of its user up in the answers.

## Main definitions

* `TenantService.listPermissions`, `TenantService.listMyTenants` — two of the requests.
* `UsePermissions.settled` — the data of the queries once they have settled.
* `UsePermissions.hasPermission` — what the client answers.

## Implementation notes

The two requests are a statement each, and are given by what the statement reads.  The third request
is `TenantService.listRoles`.
-/

namespace Klynt

/-! ## Requests -/

variable [Unicode]

/-- `map_tenant_membership_row`. -/
def mapTenantMembershipRow (tenant : TenantRow) (membership : MembershipRow) :
    Except DomainError TenantMembershipSummary := do
  let slug ← (TenantSlug.parse tenant.slug).mapError fun e =>
    .internal ("invalid tenant slug in DB: " ++ e.text)
  let role ← (TenantRole.parse membership.role).mapError fun e =>
    .internal ("invalid tenant role in DB: " ++ e.text)
  return { id := tenant.id, slug, name := tenant.name, role, joinedAt := membership.joinedAt }

omit [Unicode] in
/-- `SELECT … FROM permissions ORDER BY category, name`. -/
def Db.permissionRows (db : Db) : List PermissionRow :=
  db.permissions.insertionSort fun p q =>
    p.category < q.category ∨ (p.category = q.category ∧ p.name ≤ q.name)

omit [Unicode] in
/-- `SELECT … FROM tenants t JOIN user_tenant_memberships m … WHERE m.user_id = $1 ORDER BY
t.created_at DESC`. -/
def Db.tenantRowsOf (db : Db) (u : UserId) : List (TenantRow × MembershipRow) :=
  (db.tenants.flatMap fun t =>
    (db.memberships.filter fun m => m.tenantId = t.id ∧ m.userId = u).map (t, ·)).insertionSort
    fun a b => b.1.createdAt ≤ a.1.createdAt

/-- `list_permissions` of the repository. -/
def PgPermissionRepository.listPermissions (db : Db) : Except DomainError (List Permission) :=
  db.permissionRows.mapM mapPermissionRow

/-- `list_for_user` of the repository. -/
def PgTenantRepository.listForUser (db : Db) (u : UserId) :
    Except DomainError (List TenantMembershipSummary) :=
  (db.tenantRowsOf u).mapM fun row => mapTenantMembershipRow row.1 row.2

/-- List the permission catalogue. -/
def TenantService.listPermissions (db : Db) : Except TenantError (List Permission) :=
  (PgPermissionRepository.listPermissions db).mapError .domain

/-- List the tenants of the actor. -/
def TenantService.listMyTenants (db : Db) (actor : UserId) :
    Except TenantError (List TenantMembershipSummary) :=
  (PgTenantRepository.listForUser db actor).mapError .domain

/-! ## The client -/

/-- A tenant as the client sees it. -/
structure MyTenant where
  /-- Identifier. -/
  id : TenantId
  /-- Name in URLs. -/
  slug : String
  /-- Display name. -/
  name : String
  /-- The user's role. -/
  role : String
  /-- When the user joined. -/
  joinedAt : Time

omit [Unicode] in
/-- The JSON form of a summary. -/
def MyTenant.ofSummary (summary : TenantMembershipSummary) : MyTenant :=
  { id := summary.id, slug := summary.slug.text, name := summary.name, role := summary.role.asStr,
    joinedAt := summary.joinedAt }

/-- The queries. -/
inductive PermissionQuery where
  /-- `["permissions"]`. -/
  | catalog
  /-- `["tenants", tenantSlug, "roles"]`. -/
  | roles
  /-- `["tenants"]`. -/
  | tenants
  deriving DecidableEq

/-- The data of the queries; what failed is not there. -/
structure PermissionData where
  /-- The catalogue. -/
  catalog : Option (List Permission)
  /-- The roles of the tenant. -/
  roles : Option (List TenantRoleAggregate)
  /-- The tenants of the user. -/
  tenants : Option (List MyTenant)

/-- What `usePermissions` depends on: the active tenant, and its argument. -/
structure UsePermissions where
  /-- The active tenant of the store. -/
  activeTenant : Option MyTenant
  /-- The argument. -/
  tenantSlug : Option String

namespace UsePermissions

variable (hook : UsePermissions) (data : PermissionData)

omit [Unicode] in
/-- `!!tenantSlug`. -/
def hasSlug : Bool := hook.tenantSlug.any (· ≠ "")

omit [Unicode] in
/-- `activeTenant?.slug === tenantSlug`, for a text. -/
def activeIs (slug : String) : Bool := hook.activeTenant.any (·.slug = slug)

omit [Unicode] in
/-- Which queries are enabled. -/
def enabled : PermissionQuery → Bool
  | .catalog | .roles => hook.hasSlug
  | .tenants => hook.hasSlug && hook.tenantSlug.all (! hook.activeIs ·)

omit [Unicode] in
/-- `role`. -/
def role : Option String :=
  if hook.hasSlug then
    hook.tenantSlug.bind fun slug =>
      if hook.activeIs slug then hook.activeTenant.map (·.role)
      else (data.tenants.bind (·.find? (·.slug = slug))).map (·.role)
  else none

omit [Unicode] in
/-- `allowedPermissions`, in some order. -/
def allowedPermissions : List String :=
  match data.catalog, data.roles, hook.role data with
  | some catalog, some roles, some role =>
    if role = "" then []
    else
      match roles.find? (·.name = role) with
      | none => []
      | some resolvedRole =>
        (catalog.filter fun permission => resolvedRole.permissionIds.contains permission.id).map
          (·.name)
  | _, _, _ => []

omit [Unicode] in
/-- `hasPermission`. -/
def hasPermission (name : String) : Bool := (hook.allowedPermissions data).contains name

/-! ## Settled queries -/

variable (lost : PermissionQuery → Bool)

omit [Unicode] in
/-- The data of a query that has settled, where the answer may have been lost on the way. -/
def fetched {ε α : Type} (q : PermissionQuery) (answer : Except ε α) : Option α :=
  if hook.enabled q && ! lost q then answer.toOption else none

/-- The data of the queries once they have settled for a user; a disabled query's data is not
read. -/
def settled (w : World) (u : UserId) : PermissionData where
  catalog := hook.fetched lost .catalog (TenantService.listPermissions w.db)
  roles := hook.fetched lost .roles
    ((TenantService.listRoles ⟨some u.inner⟩ (hook.tenantSlug.getD "")).eval World.answer w).1
  tenants := (hook.fetched lost .tenants (TenantService.listMyTenants w.db u)).map
    (·.map MyTenant.ofSummary)

end UsePermissions

end Klynt
