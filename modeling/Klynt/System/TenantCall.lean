import Klynt.Service.Tenant

set_option relaxedAutoImplicit false
set_option autoImplicit false

/-!
# What a call of the tenant service does

A call authorises its actor on rows it reads, writes once (an accepted invite writes twice),
and reports a membership event.  `TenantEffect` says once and for all what the writes of each
call are and what was checked before them; every invariant of the tenant tables is read off
it.

## Main definitions

* `TenantCall`, `TenantCall.run` — the calls, and the use case behind each.
* `TenantEffect` — the effect of a call on the database, complete or not.
* `CallOutcome` — an effect followed by the report of its event.

## Main results

* `TenantCall.ensures` — every run of a call, whatever fails in it, has such an outcome.
-/

namespace Klynt

variable [Unicode]

/-- Calls of the tenant service that change something. -/
inductive TenantCall where
  /-- Create a tenant. -/
  | createTenant (slug name : String)
  /-- Rename a tenant. -/
  | updateTenant (slug name : String)
  /-- Delete a tenant. -/
  | deleteTenant (slug : String)
  /-- Add a user to a tenant. -/
  | addMember (slug email : String) (role : TenantRole)
  /-- Change the role of a member. -/
  | updateMemberRole (slug email : String) (role : TenantRole)
  /-- Remove a user from a tenant. -/
  | removeMember (slug email : String)
  /-- Invite an email address. -/
  | createInvite (slug email : String) (role : TenantRole)
  /-- Accept an invite. -/
  | acceptInvite (token : String)
  /-- Create a custom role. -/
  | createRole (slug name description : String) (permissionIds : List PermissionId)
  /-- Replace the permissions of a role. -/
  | updateRole (slug : String) (roleId : RoleId) (permissionIds : List PermissionId)
  /-- Delete a custom role. -/
  | deleteRole (slug : String) (roleId : RoleId)

namespace TenantCall

/-- The use case behind a call, without its value. -/
def run (service : TenantService) (ctx : ExecutionContext) : TenantCall → Action TenantError Unit
  | createTenant slug name => (fun _ => ()) <$> service.createTenant ctx slug name
  | updateTenant slug name => (fun _ => ()) <$> TenantService.updateTenant ctx slug name
  | deleteTenant slug => TenantService.deleteTenant ctx slug
  | addMember slug email role => (fun _ => ()) <$> service.addMember ctx slug email role
  | updateMemberRole slug email role => service.updateMemberRole ctx slug email role
  | removeMember slug email => service.removeMember ctx slug email
  | createInvite slug email role => (fun _ => ()) <$> TenantService.createInvite ctx slug email role
  | acceptInvite token => (fun _ => ()) <$> service.acceptInvite ctx token
  | createRole slug name description permissionIds =>
    (fun _ => ()) <$> TenantService.createRole ctx slug name description permissionIds
  | updateRole slug roleId permissionIds =>
    (fun _ => ()) <$> TenantService.updateRole ctx slug roleId permissionIds
  | deleteRole slug roleId => TenantService.deleteRole ctx slug roleId

end TenantCall

/-! ## Effects -/

/-- The row of the tenant a slug names. -/
def Db.tenantNamed? (db : Db) (slug : String) : Option TenantRow :=
  match TenantSlug.parse slug with
  | .ok s => db.tenants.find? (·.slug = s.text)
  | .error _ => none

/-- A named tenant is in the table. -/
theorem Db.mem_of_tenantNamed? {db : Db} {slug : String} {row : TenantRow}
    (h : db.tenantNamed? slug = some row) : row ∈ db.tenants := by
  unfold Db.tenantNamed? at h
  split at h
  · exact List.mem_of_find?_eq_some h
  · cases h

/-- The user whose address an email names, if not deleted. -/
def Db.userNamed? (db : Db) (email : String) : Option UserId :=
  match Email.parse email with
  | .ok address => (db.users.find? fun u => u.email = address.text ∧ u.deletedAt.isNone).map (·.id)
  | .error _ => none

/-- An invite as `acceptInvite` finds it acceptable: pending, and addressed to the actor. -/
structure Acceptable (db : Db) (actor : UserId) (token : String) (inv : InviteRow)
    (roleName : String) (role : TenantRole) : Prop where
  /-- The token finds the invite and its role. -/
  found : db.invite? token = some (inv, roleName)
  /-- The invite was not accepted. -/
  pending : inv.acceptedAt = none
  /-- The invite is addressed to the actor. -/
  addressed : ∃ row user, db.users.find? (·.id = actor) = some row ∧ row.intoUser = .ok user ∧
    user.email = Email.new inv.email
  /-- The name of the invite's role. -/
  role : TenantRole.parse roleName = .ok role

/-- The row of a membership that was just created. -/
def newMembershipRow (t : TenantId) (u : UserId) (role : TenantRole) (joinedAt : Time)
    (roleId : RoleId) : MembershipRow :=
  { tenantId := t, userId := u, role := role.asStr, joinedAt, tenantRoleId := some roleId,
    status := "active" }

/-- `TenantEffect now actor db call complete event db'`: a call of `actor` at `now` that found
`db` left `db'`, having done all of its writes or not, and `event` is what it reports if it
gets that far. -/
inductive TenantEffect (now : Time) (actor : UserId) (db : Db) :
    TenantCall → Bool → Option MembershipEvent → Db → Prop
  /-- A new tenant of the actor, with its roles and the actor's membership. -/
  | created {slug name : String} {tenant : Tenant} {ids : TenantRole → RoleId} {row : TenantRow}
      {db' : Db} (hslug : TenantSlug.parse slug = .ok tenant.slug)
      (hnew : Tenant.create tenant.id tenant.slug name actor tenant.createdAt = .ok tenant)
      (h : createTenantTx now tenant ids db = .ok (row, db')) :
      TenantEffect now actor db (.createTenant slug name) true
        (some (.added tenant.id actor .owner)) db'
  /-- A tenant has another name. -/
  | renamed {slug name : String} {row : TenantRow} {tenant : Tenant} {n : Nat} {db' : Db}
      (hrow : db.tenantNamed? slug = some row) (htenant : mapTenantRow row = .ok tenant)
      (hgrant : db.Grants row.id actor Permission.manageSettings)
      (h : updateTenant (.ofTenant { tenant with name, updatedAt := now }) now db = .ok (n, db')) :
      TenantEffect now actor db (.updateTenant slug name) true none db'
  /-- A tenant is gone with all that belongs to it. -/
  | deleted {slug : String} {row : TenantRow} {n : Nat} {db' : Db}
      (hrow : db.tenantNamed? slug = some row)
      (hgrant : db.Grants row.id actor Permission.delete)
      (h : deleteTenant row.id now db = .ok (n, db')) :
      TenantEffect now actor db (.deleteTenant slug) true none db'
  /-- The user the email names, who is not the owner, is a member. -/
  | memberAdded {slug email : String} {role : TenantRole} {row : TenantRow} {u : UserId}
      {r : TenantRoleRow} {m : MembershipRow} {db' : Db} (hrow : db.tenantNamed? slug = some row)
      (hgrant : db.Grants row.id actor Permission.manageMembers) (hu : u ≠ row.ownerId)
      (hr : db.roleNamed? row.id role.asStr = some r)
      (h : insertMembership (newMembershipRow row.id u role now r.id) now db = .ok (m, db'))
      (htarget : db.userNamed? email = some u) :
      TenantEffect now actor db (.addMember slug email role) true (some (.added row.id u role)) db'
  /-- The member the email names, who is not the owner, has another role. -/
  | memberUpdated {slug email : String} {role : TenantRole} {row : TenantRow} {u : UserId}
      {r : TenantRoleRow} {n : Nat} {db' : Db} (hrow : db.tenantNamed? slug = some row)
      (hgrant : db.Grants row.id actor Permission.manageMembers) (hu : u ≠ row.ownerId)
      (hr : db.roleNamed? row.id role.asStr = some r)
      (h : updateMembershipRole role.asStr row.id u r.id now db = .ok (n, db')) (hn : n ≠ 0)
      (htarget : db.userNamed? email = some u) :
      TenantEffect now actor db (.updateMemberRole slug email role) true
        (some (.updated row.id u role)) db'
  /-- The member the email names, who is not the owner, is gone. -/
  | memberRemoved {slug email : String} {row : TenantRow} {u : UserId} {n : Nat} {db' : Db}
      (hrow : db.tenantNamed? slug = some row)
      (hgrant : db.Grants row.id actor Permission.manageMembers) (hu : u ≠ row.ownerId)
      (h : deleteMembership row.id u now db = .ok (n, db')) (hn : n ≠ 0)
      (htarget : db.userNamed? email = some u) :
      TenantEffect now actor db (.removeMember slug email) true (some (.removed row.id u)) db'
  /-- A pending invite is stored. -/
  | inviteCreated {slug email : String} {role : TenantRole} {row : TenantRow} {r : TenantRoleRow}
      {inv : InviteRow} {db' : Db} (hrow : db.tenantNamed? slug = some row)
      (hgrant : db.Grants row.id actor Permission.manageMembers)
      (hr : db.roleNamed? row.id role.asStr = some r) (htenant : inv.tenantId = row.id)
      (hrole : inv.tenantRoleId = r.id) (hby : inv.invitedBy = actor)
      (hpending : inv.acceptedAt = none) (h : insertInvite inv now db = .ok ((), db')) :
      TenantEffect now actor db (.createInvite slug email role) true none db'
  /-- The invited user is a member, but the invite is still pending. -/
  | inviteInserted {token roleName : String} {inv : InviteRow} {role : TenantRole}
      {m : MembershipRow} {db' : Db} (hinv : Acceptable db actor token inv roleName role)
      (h : insertMembership (newMembershipRow inv.tenantId actor role now inv.tenantRoleId) now db =
        .ok (m, db')) :
      TenantEffect now actor db (.acceptInvite token) false none db'
  /-- The invited user is a member, and the invite is accepted. -/
  | inviteAccepted {token roleName : String} {inv : InviteRow} {role : TenantRole}
      {m : MembershipRow} {n : Nat} {db₁ db' : Db} (hinv : Acceptable db actor token inv roleName role)
      (h : insertMembership (newMembershipRow inv.tenantId actor role now inv.tenantRoleId) now db =
        .ok (m, db₁)) (hmark : markInviteAccepted inv.id now db₁ = .ok (n, db')) :
      TenantEffect now actor db (.acceptInvite token) true
        (some (.added inv.tenantId actor role)) db'
  /-- A custom role is stored with its permissions. -/
  | roleCreated {slug name description : String} {permissionIds : List PermissionId}
      {row : TenantRow} {role : TenantRoleAggregate} {db' : Db}
      (hrow : db.tenantNamed? slug = some row)
      (hgrant : db.Grants row.id actor Permission.manageRoles) (htenant : role.tenantId = row.id)
      (hcustom : role.isSystem = false ∧ role.isCustom = true)
      (hperms : role.permissionIds = permissionIds)
      (h : createRoleTx now role db = .ok ((), db')) :
      TenantEffect now actor db (.createRole slug name description permissionIds) true none db'
  /-- A role of the tenant has other permissions. -/
  | roleUpdated {slug : String} {roleId : RoleId} {permissionIds : List PermissionId}
      {row : TenantRow} {db' : Db} (hrow : db.tenantNamed? slug = some row)
      (hgrant : db.Grants row.id actor Permission.manageRoles)
      (h : updateRolePermissionsTx now row.id roleId permissionIds db = .ok ((), db')) :
      TenantEffect now actor db (.updateRole slug roleId permissionIds) true none db'
  /-- A custom role of the tenant is gone. -/
  | roleDeleted {slug : String} {roleId : RoleId} {row : TenantRow} {n : Nat} {db' : Db}
      (hrow : db.tenantNamed? slug = some row)
      (hgrant : db.Grants row.id actor Permission.manageRoles)
      (h : deleteRole row.id roleId now db = .ok (n, db')) (hn : n ≠ 0) :
      TenantEffect now actor db (.deleteRole slug roleId) true none db'

/-- The outcome of a call: nothing happened, or it had an effect after which it failed, or it
had its complete effect and reported the event, if there is one. -/
inductive CallOutcome (service : TenantService) (F : Req → Prop) (ctx : ExecutionContext)
    (call : TenantCall) (w : World) : Except TenantError Unit → World → Prop
  /-- The call failed without effect; it may have drawn UUIDs. -/
  | nothing {e : TenantError} {minted : List Uuid} :
      CallOutcome service F ctx call w (.error e) { w with minted }
  /-- The call failed after an effect and before the report of its event. -/
  | failed {e : TenantError} {actor : UserId} {complete : Bool} {event : Option MembershipEvent}
      {db : Db} {minted : List Uuid} (hctx : ctx.actorId = some actor.inner)
      (h : TenantEffect w.now actor w.db call complete event db) :
      CallOutcome service F ctx call w (.error e) { w with db, minted }
  /-- The call had its complete effect and reports nothing. -/
  | silent {actor : UserId} {db : Db} {minted : List Uuid} (hctx : ctx.actorId = some actor.inner)
      (h : TenantEffect w.now actor w.db call true none db) :
      CallOutcome service F ctx call w (.ok ()) { w with db, minted }
  /-- The call had its complete effect and reported its event. -/
  | notified {actor : UserId} {event : MembershipEvent} {db : Db} {minted : List Uuid}
      {r₁ : Except TenantError Unit} {r : Except TenantError Unit} {w' : World}
      (hctx : ctx.actorId = some actor.inner)
      (h : TenantEffect w.now actor w.db call true (some event) db)
      (hrun : (service.notify event).Exec (Env F) { w with db, minted } r₁ w')
      (hr : r = .ok () → r₁ = .ok ()) :
      CallOutcome service F ctx call w r w'

end Klynt
