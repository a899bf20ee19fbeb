import Klynt.Lib.Json
import Klynt.Domain.Error
import Klynt.Domain.Text

set_option relaxedAutoImplicit false
set_option autoImplicit false

/-!
# Tenants, memberships, roles and invites

The domain types of the tenant service, with their parsers.

## Main definitions

* `TenantId`, `UserId`, `RoleId`, `PermissionId` — identifiers.
* `TenantRole`, `TenantSlug`, `TenantStatus`, `Email` — values with a parser.
* `Tenant`, `Membership`, `TenantRoleAggregate`, `TenantInvite` — the aggregates.

## Main results

* `TenantRole.parse_asStr` — a role is read back from its canonical text.
-/

namespace Klynt

/-- An instant, in microseconds, the resolution of the database. -/
abbrev Time : Type := Int

/-- A number of seconds as a duration. -/
def seconds (n : Int) : Time := n * 1000000

/-- A number of days as a duration. -/
def days (n : Int) : Time := seconds (n * 86400)

/-! ## Identifiers -/

/-- Identifier of a tenant. -/
structure TenantId where
  /-- The UUID. -/
  inner : Uuid
  deriving DecidableEq

/-- Identifier of a user. -/
structure UserId where
  /-- The UUID. -/
  inner : Uuid
  deriving DecidableEq

/-- Identifier of a tenant's role. -/
structure RoleId where
  /-- The UUID. -/
  inner : Uuid
  deriving DecidableEq

/-- Identifier of a permission. -/
structure PermissionId where
  /-- The UUID. -/
  inner : Uuid
  deriving DecidableEq

/-! ## Email addresses -/

/-- An email address in canonical form. -/
structure Email where
  /-- The text. -/
  text : String
  deriving DecidableEq

/-- Parse and validate an email address. -/
def Email.parse [Unicode] (raw : String) : Except EmailError Email :=
  let trimmed := trim raw
  if trimmed.toList = [] then .error .empty
  else
    match trimmed.toList.splitOn '@' with
    | [localPart, domain] =>
      if localPart = [] ∨ domain = [] ∨ '.' ∉ domain ∨ domain.head? = some '.' ∨
          domain.getLast? = some '.' then
        .error .invalidFormat
      else .ok ⟨toLowercase trimmed⟩
    | _ => .error .invalidFormat

/-- An email address that is not validated. -/
def Email.new [Unicode] (raw : String) : Email := ⟨toLowercase raw⟩

/-! ## Roles of a user within a tenant -/

/-- Role of a user within a tenant. -/
inductive TenantRole where
  /-- The owner. -/
  | owner
  /-- An administrator. -/
  | admin
  /-- A member. -/
  | member
  /-- A guest. -/
  | guest
  deriving DecidableEq

namespace TenantRole

/-- The canonical text of a role. -/
def asStr : TenantRole → String
  | owner => "owner"
  | admin => "admin"
  | member => "member"
  | guest => "guest"

/-- The role with a given canonical text. -/
def ofStr? : String → Option TenantRole
  | "owner" => some owner
  | "admin" => some admin
  | "member" => some member
  | "guest" => some guest
  | _ => none

/-- Parse a role, ignoring case. -/
def parse [Unicode] (raw : String) : Except DomainError TenantRole :=
  match ofStr? (toLowercase raw) with
  | some role => .ok role
  | none => .error (.validation "unknown tenant role")

/-- Whether a role can administer the tenant. -/
def canAdminister : TenantRole → Bool
  | owner | admin => true
  | member | guest => false

/-- A role is read back from its canonical text. -/
@[simp] theorem ofStr?_asStr (role : TenantRole) : ofStr? role.asStr = some role := by
  cases role <;> rfl

/-- The canonical text of a role is in lower case. -/
theorem toLowercase_asStr [Unicode] (role : TenantRole) :
    toLowercase role.asStr = role.asStr :=
  toLowercase_eq_self (by cases role <;> rfl)

/-- A role is parsed back from its canonical text. -/
@[simp] theorem parse_asStr [Unicode] (role : TenantRole) : parse role.asStr = .ok role := by
  rw [parse, toLowercase_asStr, ofStr?_asStr]

/-- Different roles have different texts. -/
theorem asStr_injective {r r' : TenantRole} (h : r.asStr = r'.asStr) : r = r' :=
  Option.some.inj (by rw [← ofStr?_asStr r, h, ofStr?_asStr])

/-- Two roles have one text only if they are equal. -/
@[simp] theorem asStr_inj {r r' : TenantRole} : r.asStr = r'.asStr ↔ r = r' :=
  ⟨asStr_injective, congrArg asStr⟩

end TenantRole

/-! ## Tenants -/

/-- Subdomains reserved for the platform. -/
def reservedSubdomains : List String :=
  ["www", "login", "admin", "u", "api", "app", "mail", "ftp", "cdn", "static"]

/-- Whether a character is an ASCII letter or digit. -/
def isAsciiAlphanumeric (c : Char) : Bool := c.isAlphanum

/-- What is wrong with a lower-case text as a slug, if anything. -/
def slugError (lower : String) : Option String :=
  if lower.utf8ByteSize < 3 ∨ lower.utf8ByteSize > 63 then some "slug must be 3-63 characters"
  else if ¬ lower.toList.all (fun c => isAsciiAlphanumeric c || c == '-') then
    some "slug may only contain a-z, 0-9, and hyphens"
  else if lower.toList.head? = some '-' ∨ lower.toList.getLast? = some '-' then
    some "slug may not start or end with a hyphen"
  else if lower ∈ reservedSubdomains then
    some "slug is a reserved subdomain and cannot be used as a tenant slug"
  else none

/-- A tenant's slug: a text that is valid as one. -/
structure TenantSlug where
  /-- The text. -/
  text : String
  /-- The text is valid. -/
  valid : slugError text = none
  deriving DecidableEq

/-- Parse and validate a slug. -/
def TenantSlug.parse [Unicode] (raw : String) : Except DomainError TenantSlug :=
  match h : slugError (toLowercase raw) with
  | some message => .error (.validation message)
  | none => .ok ⟨toLowercase raw, h⟩

/-- Lifecycle status of a tenant. -/
inductive TenantStatus where
  /-- In use. -/
  | active
  /-- Not in use. -/
  | suspended
  deriving DecidableEq

/-- The canonical text of a status. -/
def TenantStatus.asStr : TenantStatus → String
  | active => "active"
  | suspended => "suspended"

/-- `TenantStatus::from_str`. -/
def TenantStatus.fromStr [Unicode] (raw : String) : Except DomainError TenantStatus :=
  match toLowercase raw with
  | "active" => .ok active
  | "suspended" => .ok suspended
  | _ => .error (.validation "invalid tenant status")

/-- The default of `Tenant.maxMembers`. -/
def defaultMaxMembers : Int := 100

/-- The default of `Tenant.maxOwners`. -/
def defaultMaxOwners : Int := 1

/-- A tenant. -/
structure Tenant where
  /-- Identifier. -/
  id : TenantId
  /-- Name in URLs. -/
  slug : TenantSlug
  /-- Display name. -/
  name : String
  /-- The user who owns the tenant. -/
  ownerId : UserId
  /-- Cap on memberships. -/
  maxMembers : Int
  /-- Cap on owners. -/
  maxOwners : Int
  /-- Free-form settings. -/
  settings : Json
  /-- Lifecycle status. -/
  status : TenantStatus
  /-- Creation time. -/
  createdAt : Time
  /-- Time of the last change. -/
  updatedAt : Time

/-- A new active tenant, or the reason why its name is refused. -/
def Tenant.create (id : TenantId) (slug : TenantSlug) (name : String) (ownerId : UserId)
    (now : Time) : Except DomainError Tenant :=
  if (trim name).toList = [] then .error (.validation "tenant name is required")
  else .ok
    { id, slug, name, ownerId, maxMembers := defaultMaxMembers, maxOwners := defaultMaxOwners,
      settings := .obj [], status := .active, createdAt := now, updatedAt := now }

/-- A tenant as it is created. -/
theorem Tenant.create_eq_ok {id : TenantId} {slug : TenantSlug} {name : String} {ownerId : UserId}
    {now : Time} {tenant : Tenant} :
    Tenant.create id slug name ownerId now = .ok tenant ↔ (trim name).toList ≠ [] ∧
      tenant = { id, slug, name, ownerId, maxMembers := defaultMaxMembers,
                 maxOwners := defaultMaxOwners, settings := .obj [], status := .active,
                 createdAt := now, updatedAt := now } := by
  unfold Tenant.create
  by_cases h : (trim name).toList = []
  · rw [if_pos h]
    exact ⟨nofun, fun hn => absurd h hn.1⟩
  · rw [if_neg h]
    exact ⟨fun heq => ⟨h, (Except.ok.inj heq).symm⟩, fun hn => congrArg Except.ok hn.2.symm⟩

/-- Rename a tenant. -/
def Tenant.rename (tenant : Tenant) (name : String) (now : Time) : Except DomainError Tenant :=
  if (trim name).toList = [] then .error (.validation "tenant name is required")
  else .ok { tenant with name, updatedAt := now }

/-- A tenant together with the actor's membership in it. -/
structure TenantMembershipSummary where
  /-- Identifier. -/
  id : TenantId
  /-- Name in URLs. -/
  slug : TenantSlug
  /-- Display name. -/
  name : String
  /-- The actor's role. -/
  role : TenantRole
  /-- When the actor joined. -/
  joinedAt : Time

/-- The summary of a tenant for one member. -/
def TenantMembershipSummary.new (tenant : Tenant) (role : TenantRole) (joinedAt : Time) :
    TenantMembershipSummary :=
  { id := tenant.id, slug := tenant.slug, name := tenant.name, role, joinedAt }

/-! ## Memberships -/

/-- A user's membership in a tenant. -/
structure Membership where
  /-- The tenant. -/
  tenantId : TenantId
  /-- The user. -/
  userId : UserId
  /-- The user's role. -/
  role : TenantRole
  /-- When the user joined. -/
  joinedAt : Time

/-- A new membership. -/
def Membership.new (tenantId : TenantId) (userId : UserId) (role : TenantRole) (now : Time) :
    Membership :=
  { tenantId, userId, role, joinedAt := now }

/-- A member as a list of members shows it. -/
structure TenantMember where
  /-- The user. -/
  userId : UserId
  /-- The user's email address. -/
  email : String
  /-- The user's name, if there is one. -/
  fullName : Option String
  /-- The user's role. -/
  role : TenantRole
  /-- When the user joined. -/
  joinedAt : Time

/-- A membership as a session carries it. -/
structure MembershipSnapshot where
  /-- The tenant. -/
  tenantId : Uuid
  /-- The user's role. -/
  role : TenantRole
  deriving DecidableEq

/-- The snapshot of a membership. -/
def Membership.toSessionSnapshot (m : Membership) : MembershipSnapshot :=
  { tenantId := m.tenantId.inner, role := m.role }

/-! ## Permissions and roles -/

/-- Category of a permission. -/
inductive PermissionCategory where
  /-- Tenant management. -/
  | tenant
  /-- Members. -/
  | member
  /-- Roles. -/
  | role
  /-- Content. -/
  | content
  /-- The platform. -/
  | platform
  deriving DecidableEq

/-- `PermissionCategory::from_str`. -/
def PermissionCategory.fromStr [Unicode] (raw : String) :
    Except DomainError PermissionCategory :=
  match toLowercase raw with
  | "tenant" => .ok tenant
  | "member" => .ok member
  | "role" => .ok role
  | "content" => .ok content
  | "platform" => .ok platform
  | _ => .error (.validation "unknown permission category")

/-- A permission. -/
structure Permission where
  /-- Identifier. -/
  id : PermissionId
  /-- Name. -/
  name : String
  /-- Description. -/
  description : String
  /-- Category. -/
  category : PermissionCategory

namespace Permission

/-- View a tenant's details. -/
def view : String := "tenant.view"

/-- Manage a tenant's settings. -/
def manageSettings : String := "tenant.manage_settings"

/-- Manage a tenant's members. -/
def manageMembers : String := "tenant.manage_members"

/-- Manage a tenant's roles. -/
def manageRoles : String := "tenant.manage_roles"

/-- Delete a tenant. -/
def delete : String := "tenant.delete"

end Permission

/-- A role within a tenant: a system role, or a custom one. -/
structure TenantRoleAggregate where
  /-- Identifier. -/
  id : RoleId
  /-- The tenant. -/
  tenantId : TenantId
  /-- Name, unique within the tenant. -/
  name : String
  /-- Description. -/
  description : String
  /-- Created by a member of the tenant. -/
  isCustom : Bool
  /-- Created with the tenant. -/
  isSystem : Bool
  /-- What the role grants. -/
  permissionIds : List PermissionId
  /-- Creation time. -/
  createdAt : Time
  /-- Time of the last change. -/
  updatedAt : Time

/-- A new custom role that grants nothing. -/
def TenantRoleAggregate.new (id : RoleId) (tenantId : TenantId) (name description : String)
    (now : Time) : TenantRoleAggregate :=
  { id, tenantId, name, description, isCustom := true, isSystem := false, permissionIds := [],
    createdAt := now, updatedAt := now }

/-- The role with another list of permissions. -/
def TenantRoleAggregate.withPermissions (role : TenantRoleAggregate)
    (permissionIds : List PermissionId) (now : Time) : TenantRoleAggregate :=
  { role with permissionIds, updatedAt := now }

/-! ## Invites -/

/-- An invitation to join a tenant. -/
structure TenantInvite where
  /-- Identifier. -/
  id : Uuid
  /-- The tenant. -/
  tenantId : TenantId
  /-- The invited address. -/
  email : Email
  /-- The role offered. -/
  roleId : RoleId
  /-- The name of the role offered. -/
  roleName : String
  /-- Who sent the invite. -/
  invitedBy : UserId
  /-- When the invite expires. -/
  expiresAt : Time
  /-- When the invite was accepted. -/
  acceptedAt : Option Time
  /-- The secret that accepts the invite. -/
  token : String
  /-- Creation time. -/
  createdAt : Time
  /-- Time of the last change. -/
  updatedAt : Time

end Klynt
