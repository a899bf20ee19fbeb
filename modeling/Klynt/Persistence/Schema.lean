import Klynt.Domain.Session
import Klynt.Domain.User

set_option relaxedAutoImplicit false
set_option autoImplicit false

/-!
# The database schema

The tables of the migrations, each as the list of its rows.  Enumerations and roles are texts
here, as in the columns; the repositories parse them.

## Main definitions

* `UserRow`, `TenantRow`, `MembershipRow`, … — one structure for the columns of each table.
* `Db` — the database.
* `Db.empty` — the database without any row.
* `Db.Migrated` — the permission catalogue of the migrations.
-/

namespace Klynt

/-- A row of `users`. -/
structure UserRow where
  /-- `id`, the primary key. -/
  id : UserId
  /-- `email`, unique. -/
  email : String
  /-- `username`, unique. -/
  username : String
  /-- `name`. -/
  name : String
  /-- `password_hash`. -/
  passwordHash : String
  /-- `status`. -/
  status : String
  /-- `email_verified_at`. -/
  emailVerifiedAt : Option Time
  /-- `global_role`. -/
  globalRole : Option String
  /-- `created_at`. -/
  createdAt : Time
  /-- `updated_at`. -/
  updatedAt : Time
  /-- `terms_accepted_at`. -/
  termsAcceptedAt : Time
  /-- `terms_version`. -/
  termsVersion : String
  /-- `role`. -/
  role : String
  /-- `institution_id`. -/
  institutionId : Option Uuid
  /-- `deleted_at`. -/
  deletedAt : Option Time

/-- A row of `email_verification_tokens`. -/
structure EmailVerificationTokenRow where
  /-- `user_id`. -/
  userId : UserId
  /-- `token_hash`, unique. -/
  tokenHash : String
  /-- `expires_at`. -/
  expiresAt : Time
  /-- `used_at`. -/
  usedAt : Option Time

/-- A row of `password_reset_tokens`, which has the columns of `email_verification_tokens`. -/
abbrev PasswordResetTokenRow : Type := EmailVerificationTokenRow

/-- A row of `tenants`. -/
structure TenantRow where
  /-- `id`, the primary key. -/
  id : TenantId
  /-- `slug`, unique. -/
  slug : String
  /-- `name`. -/
  name : String
  /-- `owner_id`. -/
  ownerId : UserId
  /-- `max_members`. -/
  maxMembers : Int
  /-- `max_owners`. -/
  maxOwners : Int
  /-- `settings`. -/
  settings : Json
  /-- `status`. -/
  status : String
  /-- `created_at`. -/
  createdAt : Time
  /-- `updated_at`. -/
  updatedAt : Time

/-- A row of `user_tenant_memberships`; the primary key is `(tenant_id, user_id)`. -/
structure MembershipRow where
  /-- `tenant_id`. -/
  tenantId : TenantId
  /-- `user_id`. -/
  userId : UserId
  /-- `role`. -/
  role : String
  /-- `joined_at`. -/
  joinedAt : Time
  /-- `tenant_role_id`. -/
  tenantRoleId : Option RoleId
  /-- `status`. -/
  status : String
  deriving DecidableEq

/-- A row of `permissions`. -/
structure PermissionRow where
  /-- `id`, the primary key. -/
  id : PermissionId
  /-- `name`, unique. -/
  name : String
  /-- `description`. -/
  description : String
  /-- `category`. -/
  category : String

/-- A row of `tenant_roles`; `(tenant_id, name)` is unique. -/
structure TenantRoleRow where
  /-- `id`, the primary key. -/
  id : RoleId
  /-- `tenant_id`. -/
  tenantId : TenantId
  /-- `name`. -/
  name : String
  /-- `description`. -/
  description : String
  /-- `is_system`. -/
  isSystem : Bool
  /-- `is_custom`. -/
  isCustom : Bool
  /-- `created_at`. -/
  createdAt : Time
  /-- `updated_at`. -/
  updatedAt : Time

/-- A row of `role_permissions`; the primary key is the pair. -/
structure RolePermissionRow where
  /-- `role_id`. -/
  roleId : RoleId
  /-- `permission_id`. -/
  permissionId : PermissionId
  deriving DecidableEq

/-- A row of `tenant_invites`. -/
structure InviteRow where
  /-- `id`, the primary key. -/
  id : Uuid
  /-- `tenant_id`. -/
  tenantId : TenantId
  /-- `email`. -/
  email : String
  /-- `tenant_role_id`. -/
  tenantRoleId : RoleId
  /-- `invited_by`. -/
  invitedBy : UserId
  /-- `expires_at`. -/
  expiresAt : Time
  /-- `accepted_at`. -/
  acceptedAt : Option Time
  /-- `token`, unique. -/
  token : String
  /-- `created_at`. -/
  createdAt : Time
  /-- `updated_at`. -/
  updatedAt : Time

/-- A row of `tenant_desktop_layouts`; `(tenant_id, scope, user_id)` is unique. -/
structure DesktopLayoutRow where
  /-- `id`, the primary key. -/
  id : Uuid
  /-- `tenant_id`. -/
  tenantId : TenantId
  /-- `scope`. -/
  scope : String
  /-- `user_id`. -/
  userId : Option UserId
  /-- `version`. -/
  version : Int
  /-- `background_preset_id`. -/
  backgroundPresetId : String
  /-- `icons`. -/
  icons : Json
  /-- `windows`. -/
  windows : Json
  /-- `etag`. -/
  etag : String
  /-- `created_at`. -/
  createdAt : Time
  /-- `updated_at`. -/
  updatedAt : Time

/-- A row of `sessions`. -/
structure SessionRow where
  /-- `id`, the primary key. -/
  id : Uuid
  /-- `token`, unique. -/
  token : SessionToken
  /-- `user_id`. -/
  userId : UserId
  /-- `expires_at`. -/
  expiresAt : Time
  /-- `created_at`. -/
  createdAt : Time
  /-- `tenant_memberships`. -/
  tenantMemberships : Json
  /-- `kind`. -/
  kind : String
  /-- `pair_id`. -/
  pairId : Option Uuid

/-- The database. -/
structure Db where
  /-- `users`. -/
  users : List UserRow
  /-- `email_verification_tokens`. -/
  emailVerificationTokens : List EmailVerificationTokenRow
  /-- `password_reset_tokens`. -/
  passwordResetTokens : List PasswordResetTokenRow
  /-- `tenants`. -/
  tenants : List TenantRow
  /-- `user_tenant_memberships`. -/
  memberships : List MembershipRow
  /-- `permissions`. -/
  permissions : List PermissionRow
  /-- `tenant_roles`. -/
  tenantRoles : List TenantRoleRow
  /-- `role_permissions`. -/
  rolePermissions : List RolePermissionRow
  /-- `tenant_invites`. -/
  invites : List InviteRow
  /-- `tenant_desktop_layouts`. -/
  desktopLayouts : List DesktopLayoutRow
  /-- `sessions`. -/
  sessions : List SessionRow

/-- The database without any row. -/
def Db.empty : Db :=
  { users := [], emailVerificationTokens := [], passwordResetTokens := [], tenants := [],
    memberships := [], permissions := [], tenantRoles := [], rolePermissions := [], invites := [],
    desktopLayouts := [], sessions := [] }

/-- The table of the tokens of a kind. -/
def Db.tokens (db : Db) : TokenKind → List EmailVerificationTokenRow
  | .emailVerification => db.emailVerificationTokens
  | .passwordReset => db.passwordResetTokens

/-- Other rows in the table of the tokens of a kind. -/
def Db.withTokens (db : Db) (rows : List EmailVerificationTokenRow) : TokenKind → Db
  | .emailVerification => { db with emailVerificationTokens := rows }
  | .passwordReset => { db with passwordResetTokens := rows }

/-- The name of the table of the tokens of a kind. -/
def TokenKind.table : TokenKind → String
  | emailVerification => "email_verification_tokens"
  | passwordReset => "password_reset_tokens"

section Tokens

variable (db : Db) (rows : List EmailVerificationTokenRow) (kind : TokenKind)

/-- The users stay. -/
@[simp] theorem Db.users_withTokens : (db.withTokens rows kind).users = db.users := by
  cases kind <;> rfl

/-- The sessions stay. -/
@[simp] theorem Db.sessions_withTokens : (db.withTokens rows kind).sessions = db.sessions := by
  cases kind <;> rfl

/-- The new rows are read back. -/
@[simp] theorem Db.tokens_withTokens : (db.withTokens rows kind).tokens kind = rows := by
  cases kind <;> rfl

/-- The same rows leave the database as it is. -/
theorem Db.withTokens_tokens : db.withTokens (db.tokens kind) kind = db := by
  cases kind <;> rfl

/-- The tokens of the other kind stay. -/
theorem Db.tokens_withTokens_of_ne {kind' : TokenKind} (h : kind' ≠ kind) :
    (db.withTokens rows kind).tokens kind' = db.tokens kind' := by
  cases kind <;> cases kind' <;> first | rfl | exact absurd rfl h

end Tokens

/-- The permissions of the migrations, as `(name, description, category)`. -/
def permissionCatalogue : List (String × String × String) :=
  [("tenant.view", "View tenant details", "tenant"),
   ("tenant.manage_settings", "Manage tenant settings", "tenant"),
   ("tenant.manage_members", "Manage tenant members", "tenant"),
   ("tenant.manage_roles", "Manage tenant roles", "tenant"),
   ("tenant.delete", "Delete tenant", "tenant"),
   ("content.view", "View tenant content", "content"),
   ("content.create", "Create content", "content"),
   ("content.edit", "Edit content", "content"),
   ("content.delete", "Delete content", "content"),
   ("content.publish", "Publish content", "content"),
   ("platform.manage_users", "Manage all platform users", "platform"),
   ("platform.manage_tenants", "Manage all tenants", "platform"),
   ("platform.view_analytics", "View platform analytics", "platform"),
   ("platform.manage_billing", "Manage platform billing", "platform")]

/-- The table `permissions` is as the migrations leave it; the ids are generated. -/
structure Db.Migrated (db : Db) : Prop where
  /-- The rows are those of the migrations. -/
  catalogue : db.permissions.map (fun p => (p.name, p.description, p.category)) =
    permissionCatalogue
  /-- The ids are different. -/
  ids : (db.permissions.map (·.id)).Nodup

/-- A migrated permission is in the table. -/
theorem Db.Migrated.exists_row {db : Db} (h : db.Migrated) {name description category : String}
    (hmem : (name, description, category) ∈ permissionCatalogue) :
    ∃ row ∈ db.permissions, row.name = name ∧ row.category = category := by
  rw [← h.catalogue] at hmem
  obtain ⟨row, hrow, heq⟩ := List.mem_map.mp hmem
  obtain ⟨hname, hrest⟩ := Prod.mk.inj heq
  exact ⟨row, hrow, hname, (Prod.mk.inj hrest).2⟩

/-- Whether a session is active at an instant: `expires_at > NOW()`. -/
def SessionRow.active (row : SessionRow) (now : Time) : Bool := now < row.expiresAt

/-- Whether a membership row has the primary key `(t, u)`. -/
def MembershipRow.hasKey (row : MembershipRow) (t : TenantId) (u : UserId) : Bool :=
  row.tenantId == t && row.userId == u

/-- A membership row has the key its columns say. -/
@[simp] theorem MembershipRow.hasKey_iff {row : MembershipRow} {t : TenantId} {u : UserId} :
    row.hasKey t u = true ↔ row.tenantId = t ∧ row.userId = u := by simp [hasKey]

end Klynt
