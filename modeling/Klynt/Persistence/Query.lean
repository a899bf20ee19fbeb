import Mathlib.Data.List.Sort
import Klynt.Persistence.Schema

set_option relaxedAutoImplicit false
set_option autoImplicit false

/-!
# Queries

The `SELECT` statements of the repositories, as functions of the database and of `NOW()`.
A list without an `ORDER BY` comes in the order of the table, one with an `ORDER BY` is sorted
stably.

## Main definitions

* `Query`, `Query.Res` — the statements with their parameters, and the type of their result.
* `Query.exec` — what each statement returns.
-/

namespace Klynt

/-- The `SELECT` statements of the repositories. -/
inductive Query where
  /-- A tenant by id. -/
  | tenantById (id : TenantId)
  /-- A tenant by slug. -/
  | tenantBySlug (slug : String)
  /-- A membership by its key. -/
  | membership (t : TenantId) (u : UserId)
  /-- The memberships of a user, latest first. -/
  | membershipsOfUser (u : UserId)
  /-- The memberships of a tenant joined with their users, latest first. -/
  | membersOfTenant (t : TenantId)
  /-- The roles of a tenant with their permissions, system roles first. -/
  | rolesOfTenant (t : TenantId)
  /-- The id of a tenant's role of a given name. -/
  | roleIdByName (t : TenantId) (name : String)
  /-- A tenant's role of a given name, with its permissions. -/
  | roleByName (t : TenantId) (name : String)
  /-- A tenant's role of a given id, with its permissions. -/
  | roleById (t : TenantId) (id : RoleId)
  /-- The column `is_system` of a tenant's role of a given id. -/
  | roleIsSystem (t : TenantId) (id : RoleId)
  /-- A permission by name. -/
  | permissionByName (name : String)
  /-- A user who is not deleted, by email. -/
  | userByEmail (email : String)
  /-- A user by id. -/
  | userById (id : UserId)
  /-- A page of the users who are not deleted, latest first. -/
  | usersPage (limit offset : Nat)
  /-- The number of users who are not deleted. -/
  | usersCount
  /-- An invite by token, with the name of its role. -/
  | inviteByToken (token : String)
  /-- An active session by token. -/
  | activeSession (token : SessionToken)
  /-- The tokens of a user's active sessions. -/
  | activeTokens (u : UserId)
  /-- The token of a user's active session of a given id. -/
  | activeTokenById (u : UserId) (id : Uuid)
  /-- A user's active sessions, latest first. -/
  | activeSessions (u : UserId)

namespace Db

variable (db : Db)

/-- The permissions linked to a role, ordered by id. -/
def permissionIdsOf (id : RoleId) : List PermissionId :=
  ((db.rolePermissions.filter (·.roleId = id)).map (·.permissionId)).insertionSort
    fun p p' => p.inner.toNat ≤ p'.inner.toNat

/-- A role row with the permissions linked to it. -/
def roleAggregate (row : TenantRoleRow) : TenantRoleAggregate :=
  { id := row.id, tenantId := row.tenantId, name := row.name, description := row.description,
    isCustom := row.isCustom, isSystem := row.isSystem,
    permissionIds := db.permissionIdsOf row.id, createdAt := row.createdAt,
    updatedAt := row.updatedAt }

/-- The membership row with a key. -/
def membership? (t : TenantId) (u : UserId) : Option MembershipRow :=
  db.memberships.find? (·.hasKey t u)

/-- The role row of a tenant with a given name. -/
def roleNamed? (t : TenantId) (name : String) : Option TenantRoleRow :=
  db.tenantRoles.find? fun r => r.tenantId = t ∧ r.name = name

/-- The role row of a tenant with a given id. -/
def roleOf? (t : TenantId) (id : RoleId) : Option TenantRoleRow :=
  db.tenantRoles.find? fun r => r.tenantId = t ∧ r.id = id

/-- The invite with a given token, joined with its role. -/
def invite? (token : String) : Option (InviteRow × String) := do
  let row ← db.invites.find? (·.token = token)
  let role ← db.tenantRoles.find? (·.id = row.tenantRoleId)
  return (row, role.name)

/-- The session row with a given token. -/
def session? (token : SessionToken) : Option SessionRow :=
  db.sessions.find? (·.token = token)

/-- The active sessions of a user. -/
def activeSessionsOf (now : Time) (u : UserId) : List SessionRow :=
  db.sessions.filter fun s => s.userId = u ∧ s.active now

variable {db}

/-- A found membership is in the table and has the key. -/
theorem of_membership? {t : TenantId} {u : UserId} {m : MembershipRow}
    (h : db.membership? t u = some m) : m ∈ db.memberships ∧ m.tenantId = t ∧ m.userId = u :=
  ⟨List.mem_of_find?_eq_some h, MembershipRow.hasKey_iff.mp (List.find?_eq_some_iff_append.mp h).1⟩

/-- A role found by name is in the table and has the name. -/
theorem of_roleNamed? {t : TenantId} {name : String} {r : TenantRoleRow}
    (h : db.roleNamed? t name = some r) : r ∈ db.tenantRoles ∧ r.tenantId = t ∧ r.name = name :=
  ⟨List.mem_of_find?_eq_some h, by simpa using (List.find?_eq_some_iff_append.mp h).1⟩

/-- A found invite is in the table and has the token. -/
theorem of_invite? {token roleName : String} {inv : InviteRow}
    (h : db.invite? token = some (inv, roleName)) : inv ∈ db.invites ∧ inv.token = token := by
  simp only [invite?, bind, Option.bind_eq_some_iff] at h
  obtain ⟨row, hrow, r, -, hpair⟩ := h
  obtain ⟨rfl, -⟩ := Prod.mk.inj (Option.some.inj hpair)
  exact ⟨List.mem_of_find?_eq_some hrow, by simpa using (List.find?_eq_some_iff_append.mp hrow).1⟩

/-- A found invite refers to a role of the name it is joined with. -/
theorem role_of_invite? {token roleName : String} {inv : InviteRow}
    (h : db.invite? token = some (inv, roleName)) :
    ∃ r ∈ db.tenantRoles, r.id = inv.tenantRoleId ∧ r.name = roleName := by
  simp only [invite?, bind, Option.bind_eq_some_iff] at h
  obtain ⟨row, -, r, hr, hpair⟩ := h
  obtain ⟨rfl, rfl⟩ := Prod.mk.inj (Option.some.inj hpair)
  have hid : r.id = row.tenantRoleId := by simpa using (List.find?_eq_some_iff_append.mp hr).1
  exact ⟨r, List.mem_of_find?_eq_some hr, hid, rfl⟩

end Db

namespace Query

/-- The type of the result of a query. -/
def Res : Query → Type
  | tenantById _ | tenantBySlug _ => Option TenantRow
  | membership _ _ => Option MembershipRow
  | membershipsOfUser _ => List MembershipRow
  | membersOfTenant _ => List (MembershipRow × UserRow)
  | rolesOfTenant _ => List TenantRoleAggregate
  | roleIdByName _ _ => Option RoleId
  | roleByName _ _ | roleById _ _ => Option TenantRoleAggregate
  | roleIsSystem _ _ => Option Bool
  | permissionByName _ => Option PermissionRow
  | userByEmail _ | userById _ => Option UserRow
  | usersPage _ _ => List UserRow
  | usersCount => Nat
  | inviteByToken _ => Option (InviteRow × String)
  | activeSession _ => Option SessionRow
  | activeTokens _ => List SessionToken
  | activeTokenById _ _ => Option SessionToken
  | activeSessions _ => List SessionRow

/-- What a query returns. -/
def exec (now : Time) (db : Db) : (q : Query) → q.Res
  | tenantById id => db.tenants.find? (·.id = id)
  | tenantBySlug slug => db.tenants.find? (·.slug = slug)
  | membership t u => db.membership? t u
  | membershipsOfUser u =>
    (db.memberships.filter (·.userId = u)).insertionSort fun m m' => m'.joinedAt ≤ m.joinedAt
  | membersOfTenant t =>
    ((db.memberships.filter (·.tenantId = t)).flatMap fun m =>
      (db.users.filter (·.id = m.userId)).map fun u => (m, u)).insertionSort
      fun x y => y.1.joinedAt ≤ x.1.joinedAt
  | rolesOfTenant t =>
    ((db.tenantRoles.filter (·.tenantId = t)).insertionSort fun r s =>
      (r.isSystem ∧ ¬ s.isSystem) ∨ (r.isSystem = s.isSystem ∧ r.name ≤ s.name)).map
      db.roleAggregate
  | roleIdByName t name => (db.roleNamed? t name).map (·.id)
  | roleByName t name => (db.roleNamed? t name).map db.roleAggregate
  | roleById t id => (db.roleOf? t id).map db.roleAggregate
  | roleIsSystem t id => (db.roleOf? t id).map (·.isSystem)
  | permissionByName name => db.permissions.find? (·.name = name)
  | userByEmail email => db.users.find? fun u => u.email = email ∧ u.deletedAt.isNone
  | userById id => db.users.find? (·.id = id)
  | usersPage limit offset =>
    (((db.users.filter (·.deletedAt.isNone)).insertionSort fun r s =>
      s.createdAt < r.createdAt ∨ s.createdAt = r.createdAt ∧ s.id.inner.toNat ≤ r.id.inner.toNat).drop
      offset).take limit
  | usersCount => db.users.countP (·.deletedAt.isNone)
  | inviteByToken token => db.invite? token
  | activeSession token => db.sessions.find? fun s => s.token = token ∧ s.active now
  | activeTokens u => (db.activeSessionsOf now u).map (·.token)
  | activeTokenById u id =>
    (db.sessions.find? fun s => s.id = id ∧ s.userId = u ∧ s.active now).map (·.token)
  | activeSessions u =>
    (db.activeSessionsOf now u).insertionSort fun s s' => s'.createdAt ≤ s.createdAt

end Query

end Klynt
