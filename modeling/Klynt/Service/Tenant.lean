import Klynt.Service.Authorization
import Klynt.Service.Session

set_option relaxedAutoImplicit false
set_option autoImplicit false

/-!
# The tenant service

The use cases on one tenant with its memberships, roles and invites.  Audit logging, which
neither fails nor is read back, is left out.

## Main definitions

* `TenantService` — the service, with the coordinator it reports membership changes to.
* `TenantService.createTenant`, …, `TenantService.deleteRole` — one definition for each use
  case.
-/

namespace Klynt

variable [Unicode]

/-- Who issues a call. -/
structure ExecutionContext where
  /-- The authenticated user, if there is one. -/
  actorId : Option Uuid

/-- The tenant service. -/
structure TenantService where
  /-- Where membership changes are reported. -/
  sessionCoordinator : SessionCoordinator

/-! ## Shared helpers -/

omit [Unicode] in
/-- `require_actor`. -/
def requireActor (ctx : ExecutionContext) : Action TenantError UserId :=
  .ofOption .authenticationRequired (ctx.actorId.map UserId.mk)

/-- `fetch_tenant`. -/
def fetchTenant (slug : String) : Action TenantError Tenant := do
  let slug ← .done ((TenantSlug.parse slug).mapError .domain)
  let tenant ← (PgTenantRepository.findBySlug slug).mapErr .domain
  .ofOption .notFound tenant

omit [Unicode] in
/-- `map_permission_error`. -/
def mapPermissionError (permissionError : TenantError) : DomainError → TenantError
  | .notFound _ => .notMember
  | .notPermitted _ => permissionError
  | other => .domain other

/-- Require a permission of the actor within a tenant. -/
def requirePermission (t : TenantId) (actor : UserId) (name : String)
    (permissionError : TenantError) : Action TenantError Unit :=
  (AuthorizationService.requirePermissionWithContext t actor name).mapErr
    (mapPermissionError permissionError)

/-- Parse the email of a request and find the user it belongs to. -/
def findTargetUser (email : String) : Action TenantError User := do
  let email ← .done ((Email.parse email).mapError fun e => .domain (.invalidEmail e))
  let user ← (PgUserRepository.findByEmail email).mapErr fun e => .internal e.text
  .ofOption .notFound user

namespace TenantService

variable (service : TenantService) (ctx : ExecutionContext)

omit [Unicode] in
/-- Report a membership change to the session coordinator. -/
def notify (event : MembershipEvent) : Action TenantError Unit :=
  (service.sessionCoordinator.handleMembershipEvent event).mapErr fun e =>
    .sessionCoordinator e.text

/-! ## Tenants -/

/-- Create a tenant owned by the actor. -/
def createTenant (slug name : String) : Action TenantError TenantMembershipSummary := do
  let ownerId ← requireActor ctx
  let slug ← .done ((TenantSlug.parse slug).mapError .domain)
  let id ← newUuid
  let t ← now
  let tenant ← .done ((Tenant.create ⟨id⟩ slug name ownerId t).mapError .domain)
  let joinedAt := tenant.createdAt
  let created ← (PgTenantRepository.create tenant).mapErr .domain
  service.notify (.added created.id ownerId .owner)
  return .new created .owner joinedAt

/-- Get a tenant the actor may view. -/
def getTenant (slug : String) : Action TenantError Tenant := do
  let userId ← requireActor ctx
  let tenant ← fetchTenant slug
  requirePermission tenant.id userId Permission.view .notMember
  return tenant

omit ctx in
/-- Look up a tenant by its canonical slug. -/
def getBySlug (slug : TenantSlug) : Action TenantError (Option Tenant) :=
  (PgTenantRepository.findBySlug slug).mapErr .domain

/-- Rename a tenant. -/
def updateTenant (slug name : String) : Action TenantError Tenant := do
  let userId ← requireActor ctx
  let tenant ← fetchTenant slug
  requirePermission tenant.id userId Permission.manageSettings .notAdmin
  let t ← now
  let tenant ← .done ((tenant.rename name t).mapError .domain)
  (PgTenantRepository.update tenant).mapErr .domain

/-- Delete a tenant. -/
def deleteTenant (slug : String) : Action TenantError Unit := do
  let userId ← requireActor ctx
  let tenant ← fetchTenant slug
  requirePermission tenant.id userId Permission.delete .notOwner
  (PgTenantRepository.delete tenant.id).mapErr .domain

/-! ## Members -/

/-- List the members of a tenant. -/
def listMembers (slug : String) : Action TenantError (List TenantMember) := do
  let userId ← requireActor ctx
  let tenant ← fetchTenant slug
  requirePermission tenant.id userId Permission.view .notMember
  (PgMembershipRepository.listMembers tenant.id).mapErr .domain

/-- Add a user to a tenant. -/
def addMember (slug email : String) (role : TenantRole) : Action TenantError Membership := do
  let actorId ← requireActor ctx
  let tenant ← fetchTenant slug
  requirePermission tenant.id actorId Permission.manageMembers .notAdmin
  let targetUser ← findTargetUser email
  .rejectIf (targetUser.id = tenant.ownerId) (.internal "cannot change owner membership")
  let t ← now
  let created ← (PgMembershipRepository.create
    (.new tenant.id targetUser.id role t)).mapErr .domain
  service.notify (.added tenant.id targetUser.id role)
  return created

/-- Change the role of a member. -/
def updateMemberRole (slug email : String) (role : TenantRole) : Action TenantError Unit := do
  let actorId ← requireActor ctx
  let tenant ← fetchTenant slug
  requirePermission tenant.id actorId Permission.manageMembers .notAdmin
  let targetUser ← findTargetUser email
  .rejectIf (targetUser.id = tenant.ownerId) (.internal "cannot change owner role")
  let existing ← (PgMembershipRepository.find tenant.id targetUser.id).mapErr .domain
  .rejectIf existing.isNone .notFound
  (PgMembershipRepository.updateRole tenant.id targetUser.id role).mapErr .domain
  service.notify (.updated tenant.id targetUser.id role)

/-- Remove a user from a tenant. -/
def removeMember (slug email : String) : Action TenantError Unit := do
  let actorId ← requireActor ctx
  let tenant ← fetchTenant slug
  requirePermission tenant.id actorId Permission.manageMembers .notAdmin
  let targetUser ← findTargetUser email
  .rejectIf (targetUser.id = tenant.ownerId) (.internal "cannot remove owner from tenant")
  (PgMembershipRepository.delete tenant.id targetUser.id).mapErr .domain
  service.notify (.removed tenant.id targetUser.id)

/-! ## Invites -/

/-- The days after which an invite expires. -/
def inviteExpiresDays : Int := 7

/-- Invite an email address to a tenant. -/
def createInvite (slug email : String) (role : TenantRole) : Action TenantError TenantInvite := do
  let actorId ← requireActor ctx
  let tenant ← fetchTenant slug
  requirePermission tenant.id actorId Permission.manageMembers .notAdmin
  let email ← .done ((Email.parse email).mapError fun e => .domain (.invalidEmail e))
  let found ← (PgRoleRepository.findRoleByName tenant.id role.asStr).mapErr .domain
  let roleRow ← .ofOption (.domain (.validation "unknown tenant role")) found
  let token ← generateSecureToken
  let t ← now
  let id ← newUuid
  let invite : TenantInvite :=
    { id, tenantId := tenant.id, email, roleId := roleRow.id, roleName := role.asStr,
      invitedBy := actorId, expiresAt := t + days inviteExpiresDays, acceptedAt := none, token,
      createdAt := t, updatedAt := t }
  (PgTenantInviteRepository.create invite).mapErr fun e => .internal e.text

/-- Accept an invite. -/
def acceptInvite (token : String) : Action TenantError TenantMembershipSummary := do
  let actorId ← requireActor ctx
  let found ← (PgTenantInviteRepository.findByToken token).mapErr fun e => .internal e.text
  let invite ← .ofOption (.domain (.notFound "invite")) found
  let t ← now
  .rejectIf (invite.acceptedAt.isSome ∨ invite.expiresAt < t)
    (.domain (.validation "invite expired or already accepted"))
  let found ← (PgUserRepository.findById actorId).mapErr fun e => .internal e.text
  let actor ← .ofOption .authenticationRequired found
  .rejectIf (actor.email ≠ invite.email) (.domain (.notPermitted "invite email mismatch"))
  let role ← .done ((TenantRole.parse invite.roleName).mapError .domain)
  let joinedAt ← now
  let created ← (PgMembershipRepository.createWithRoleId
    (.new invite.tenantId actorId role joinedAt) invite.roleId).mapErr .domain
  (PgTenantInviteRepository.markAccepted invite.id).mapErr fun e => .internal e.text
  service.notify (.added invite.tenantId actorId created.role)
  let found ← (PgTenantRepository.findById invite.tenantId).mapErr .domain
  let tenant ← .ofOption .notFound found
  return .new tenant created.role created.joinedAt

/-! ## Roles -/

/-- List the roles of a tenant. -/
def listRoles (slug : String) : Action TenantError (List TenantRoleAggregate) := do
  let userId ← requireActor ctx
  let tenant ← fetchTenant slug
  requirePermission tenant.id userId Permission.manageRoles .notAdmin
  (PgRoleRepository.listRolesForTenant tenant.id).mapErr .domain

/-- Get a role of a tenant. -/
def getRole (slug : String) (roleId : RoleId) : Action TenantError TenantRoleAggregate := do
  let userId ← requireActor ctx
  let tenant ← fetchTenant slug
  requirePermission tenant.id userId Permission.manageRoles .notAdmin
  let found ← (PgRoleRepository.findRoleById tenant.id roleId).mapErr .domain
  .ofOption .notFound found

/-- Create a custom role. -/
def createRole (slug name description : String) (permissionIds : List PermissionId) :
    Action TenantError TenantRoleAggregate := do
  let userId ← requireActor ctx
  let tenant ← fetchTenant slug
  requirePermission tenant.id userId Permission.manageRoles .notAdmin
  .rejectIf ((trim name).toList = []) (.domain (.validation "role name is required"))
  let id ← newUuid
  let t ← now
  let role := (TenantRoleAggregate.new ⟨id⟩ tenant.id (trim name) description t).withPermissions
    permissionIds t
  (PgRoleRepository.createRole role).mapErr .domain
  return role

/-- Replace the permissions of a role. -/
def updateRole (slug : String) (roleId : RoleId) (permissionIds : List PermissionId) :
    Action TenantError TenantRoleAggregate := do
  let userId ← requireActor ctx
  let tenant ← fetchTenant slug
  requirePermission tenant.id userId Permission.manageRoles .notAdmin
  let found ← (PgRoleRepository.findRoleById tenant.id roleId).mapErr .domain
  let _ ← .ofOption .notFound found
  (PgRoleRepository.updateRolePermissions tenant.id roleId permissionIds).mapErr .domain
  let found ← (PgRoleRepository.findRoleById tenant.id roleId).mapErr .domain
  .ofOption .notFound found

/-- Delete a custom role. -/
def deleteRole (slug : String) (roleId : RoleId) : Action TenantError Unit := do
  let userId ← requireActor ctx
  let tenant ← fetchTenant slug
  requirePermission tenant.id userId Permission.manageRoles .notAdmin
  let found ← (PgRoleRepository.findRoleById tenant.id roleId).mapErr .domain
  let _ ← .ofOption .notFound found
  (PgRoleRepository.deleteRole tenant.id roleId).mapErr .domain

/-! ## Administration -/

/-- Ensure that the actor is an owner or admin of a tenant. -/
def ensureAdmin (slug : String) : Action TenantError Tenant := do
  let userId ← .ofOption .authenticationRequired (ctx.actorId.map UserId.mk)
  let tenant ← fetchTenant slug
  let membership ← (PgMembershipRepository.find tenant.id userId).mapErr .domain
  match membership with
  | some m => if m.role.canAdminister then return tenant else .fail .notAdmin
  | none => .fail .notMember

end TenantService

end Klynt
