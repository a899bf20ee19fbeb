import Mathlib.Data.List.ReduceOption
import Klynt.Persistence.Query

set_option relaxedAutoImplicit false
set_option autoImplicit false

/-!
# Statements that change the database

The `INSERT`, `UPDATE` and `DELETE` statements of the repositories with the constraints and
triggers the migrations attach to the tables.  A statement that fails changes nothing.

## Main definitions

* `Statement` — a function of `NOW()` and the database.
* `enforceTenantOwnershipLimit` — the trigger on `tenants`.
* `insertTenant`, `insertMembership`, `deleteRole`, … — one definition per statement.
* `MembershipSnapshot.addTo`, `updateIn`, `removeFrom` — the expressions that edit the JSON
  column of `sessions`.

## Implementation notes

Texts are checked where they come from a request or a hasher: for U+0000, which the server refuses,
and for the width of the column.  The slugs and the tokens a statement writes, and the texts of
`status`, `kind` and `role` columns, are within their limits and pass their checks.
-/

namespace Klynt

/-- A statement: a function of `NOW()` and the database that fails without effect or returns
a result and the new database. -/
abbrev Statement (α : Type) : Type := Time → Db → Except SqlxError (α × Db)

/-! ## Errors of the server -/

/-- A unique or primary key constraint is violated. -/
def uniqueViolation (constraint : String) : SqlxError :=
  .database ⟨.uniqueViolation, some constraint,
    "duplicate key value violates unique constraint \"" ++ constraint ++ "\""⟩

/-- A row refers to a missing row. -/
def foreignKeyViolation (table constraint : String) : SqlxError :=
  .database ⟨.foreignKeyViolation, some constraint,
    "insert or update on table \"" ++ table ++ "\" violates foreign key constraint \"" ++
      constraint ++ "\""⟩

/-- A deleted row is still referred to. -/
def restrictViolation (table constraint referrer : String) : SqlxError :=
  .database ⟨.foreignKeyViolation, some constraint,
    "update or delete on table \"" ++ table ++ "\" violates foreign key constraint \"" ++
      constraint ++ "\" on table \"" ++ referrer ++ "\""⟩

/-- An error without a constraint. -/
def serverError (message : String) : SqlxError := .database ⟨.other, none, message⟩

/-- Texts without U+0000. -/
def Storable (s : String) : Prop := Char.ofNat 0 ∉ s.toList

instance : DecidablePred Storable := fun _ => inferInstanceAs (Decidable (¬ _))

/-- The server refuses a text with U+0000. -/
def checkText (s : String) : Except SqlxError Unit :=
  if Storable s then .ok ()
  else .error (serverError "invalid byte sequence for encoding \"UTF8\": 0x00")

/-- A text as a `VARCHAR(n)` column stores it: too long a text is refused unless only spaces
are cut off. -/
def varchar (n : Nat) (s : String) : Except SqlxError String := do
  checkText s
  if s.length ≤ n then .ok s
  else if (s.toList.drop n).all (· = ' ') then .ok (String.ofList (s.toList.take n))
  else .error (serverError ("value too long for type character varying(" ++ toString n ++ ")"))

/-! ## Tenants -/

/-- The number of active tenants of an owner. -/
def Db.activeOwned (db : Db) (owner : UserId) : Nat :=
  db.tenants.countP fun t => t.ownerId = owner ∧ t.status = "active"

/-- The trigger `tenant_ownership_limit`: at most two active tenants an owner. -/
def enforceTenantOwnershipLimit (owner : UserId) (db : Db) : Except SqlxError Unit :=
  if db.activeOwned owner ≥ 2 then
    .error (.database ⟨.checkViolation, none,
      "Tenant ownership limit reached for user " ++ owner.inner.render⟩)
  else .ok ()

/-- The constraints of `tenants` on a new row. -/
def insertTenantRow (row : TenantRow) : Statement TenantRow := fun _ db =>
  if db.tenants.any (·.id = row.id) then .error (uniqueViolation "tenants_pkey")
  else if db.tenants.any (·.slug = row.slug) then .error (uniqueViolation "tenants_slug_key")
  else if ¬ db.users.any (·.id = row.ownerId) then
    .error (foreignKeyViolation "tenants" "tenants_owner_id_fkey")
  else .ok (row, { db with tenants := db.tenants ++ [row] })

/-- `INSERT INTO tenants … RETURNING …`: the trigger runs before the constraints. -/
def insertTenant (row : TenantRow) : Statement TenantRow := fun now db => do
  let name ← varchar 255 row.name
  enforceTenantOwnershipLimit row.ownerId db
  insertTenantRow { row with name } now db

/-- `UPDATE tenants SET slug, name, owner_id, … WHERE id = $9`, returning the number of rows.
The statement names `owner_id`, so the ownership trigger fires for the row, which it counts. -/
def updateTenant (row : TenantRow) : Statement Nat := fun now db => do
  let name ← varchar 255 row.name
  if db.tenants.any (·.id = row.id) then do
    enforceTenantOwnershipLimit row.ownerId db
    if db.tenants.any (fun t => t.slug = row.slug ∧ t.id ≠ row.id) then
      .error (uniqueViolation "tenants_slug_key")
    else if ¬ db.users.any (·.id = row.ownerId) then
      .error (foreignKeyViolation "tenants" "tenants_owner_id_fkey")
    else
      .ok (1, { db with
        tenants := db.tenants.map fun t =>
          if t.id = row.id then
            { row with name, createdAt := t.createdAt, updatedAt := now }
          else t })
  else .ok (0, db)

/-- `DELETE FROM tenants WHERE id = $1`, returning the number of rows.  The deletion cascades
to memberships, roles with their permissions, invites and desktop layouts of the tenant. -/
def deleteTenant (id : TenantId) : Statement Nat := fun _ db =>
  if db.tenants.any (·.id = id) then
    let memberships := db.memberships.filter (·.tenantId ≠ id)
    let invites := db.invites.filter (·.tenantId ≠ id)
    let gone := (db.tenantRoles.filter (·.tenantId = id)).map (·.id)
    if memberships.any (fun m => m.tenantRoleId.any (· ∈ gone)) then
      .error (restrictViolation "tenant_roles" "user_tenant_memberships_tenant_role_id_fkey"
        "user_tenant_memberships")
    else if invites.any (·.tenantRoleId ∈ gone) then
      .error (restrictViolation "tenant_roles" "tenant_invites_tenant_role_id_fkey"
        "tenant_invites")
    else
      .ok (1, { db with
        tenants := db.tenants.filter (·.id ≠ id)
        memberships
        invites
        tenantRoles := db.tenantRoles.filter (·.tenantId ≠ id)
        rolePermissions := db.rolePermissions.filter (·.roleId ∉ gone)
        desktopLayouts := db.desktopLayouts.filter (·.tenantId ≠ id) })
  else .ok (0, db)

/-! ## Memberships -/

/-- `INSERT INTO user_tenant_memberships … RETURNING …`. -/
def insertMembership (row : MembershipRow) : Statement MembershipRow := fun _ db =>
  if db.memberships.any (·.hasKey row.tenantId row.userId) then
    .error (uniqueViolation "user_tenant_memberships_pkey")
  else if ¬ db.tenants.any (·.id = row.tenantId) then
    .error (foreignKeyViolation "user_tenant_memberships" "user_tenant_memberships_tenant_id_fkey")
  else if ¬ db.users.any (·.id = row.userId) then
    .error (foreignKeyViolation "user_tenant_memberships" "user_tenant_memberships_user_id_fkey")
  else if ¬ row.tenantRoleId.all (fun r => db.tenantRoles.any (·.id = r)) then
    .error (foreignKeyViolation "user_tenant_memberships"
      "user_tenant_memberships_tenant_role_id_fkey")
  else .ok (row, { db with memberships := db.memberships ++ [row] })

/-- `UPDATE user_tenant_memberships SET role = $1, tenant_role_id = $4 WHERE …`, returning the
number of rows. -/
def updateMembershipRole (role : String) (t : TenantId) (u : UserId) (roleId : RoleId) :
    Statement Nat := fun _ db =>
  if db.memberships.any (·.hasKey t u) then
    if db.tenantRoles.any (·.id = roleId) then
      .ok (db.memberships.countP (·.hasKey t u), { db with
        memberships := db.memberships.map fun m =>
          if m.hasKey t u then { m with role, tenantRoleId := some roleId } else m })
    else
      .error (foreignKeyViolation "user_tenant_memberships"
        "user_tenant_memberships_tenant_role_id_fkey")
  else .ok (0, db)

/-- `DELETE FROM user_tenant_memberships WHERE …`, returning the number of rows. -/
def deleteMembership (t : TenantId) (u : UserId) : Statement Nat := fun _ db =>
  .ok (db.memberships.countP (·.hasKey t u),
    { db with memberships := db.memberships.filter fun m => ¬ m.hasKey t u })

/-! ## Roles -/

/-- `INSERT INTO tenant_roles …`. -/
def insertRole (row : TenantRoleRow) : Statement Unit := fun _ db => do
  let name ← varchar 100 row.name
  checkText row.description
  if db.tenantRoles.any (·.id = row.id) then .error (uniqueViolation "tenant_roles_pkey")
  else if db.tenantRoles.any (fun r => r.tenantId = row.tenantId ∧ r.name = name) then
    .error (uniqueViolation "tenant_roles_tenant_id_name_key")
  else if ¬ db.tenants.any (·.id = row.tenantId) then
    .error (foreignKeyViolation "tenant_roles" "tenant_roles_tenant_id_fkey")
  else .ok ((), { db with tenantRoles := db.tenantRoles ++ [{ row with name }] })

/-- `UPDATE tenant_roles SET updated_at = NOW() WHERE …`, returning the number of rows. -/
def touchRole (t : TenantId) (id : RoleId) : Statement Nat := fun now db =>
  .ok (db.tenantRoles.countP (fun r => r.tenantId = t ∧ r.id = id), { db with
    tenantRoles := db.tenantRoles.map fun r =>
      if r.tenantId = t ∧ r.id = id then { r with updatedAt := now } else r })

/-- `DELETE FROM role_permissions WHERE role_id = $1`. -/
def deleteRolePermissions (id : RoleId) : Statement Unit := fun _ db =>
  .ok ((), { db with rolePermissions := db.rolePermissions.filter (·.roleId ≠ id) })

/-- `INSERT INTO role_permissions … SELECT * FROM UNNEST (…)` of distinct permission ids. -/
def insertRolePermissionRows (id : RoleId) (permissionIds : List PermissionId) :
    Statement Unit := fun _ db =>
  if db.rolePermissions.any (fun r => r.roleId = id ∧ r.permissionId ∈ permissionIds) then
    .error (uniqueViolation "role_permissions_pkey")
  else if ¬ permissionIds = [] ∧ ¬ db.tenantRoles.any (·.id = id) then
    .error (foreignKeyViolation "role_permissions" "role_permissions_role_id_fkey")
  else if ¬ permissionIds.all (fun p => db.permissions.any (·.id = p)) then
    .error (foreignKeyViolation "role_permissions" "role_permissions_permission_id_fkey")
  else
    .ok ((), { db with
      rolePermissions := db.rolePermissions ++ permissionIds.map fun p => ⟨id, p⟩ })

/-- `DELETE FROM tenant_roles WHERE … AND is_system = FALSE`, returning the number of rows.
The deletion cascades to the role's permissions; a membership or an invite that refers to the
role prevents it. -/
def deleteRole (t : TenantId) (id : RoleId) : Statement Nat := fun _ db =>
  if db.tenantRoles.any (fun r => r.tenantId = t ∧ r.id = id ∧ ¬ r.isSystem) then
    if db.memberships.any (·.tenantRoleId = some id) then
      .error (restrictViolation "tenant_roles" "user_tenant_memberships_tenant_role_id_fkey"
        "user_tenant_memberships")
    else if db.invites.any (·.tenantRoleId = id) then
      .error (restrictViolation "tenant_roles" "tenant_invites_tenant_role_id_fkey"
        "tenant_invites")
    else
      .ok (1, { db with
        tenantRoles := db.tenantRoles.filter fun r => ¬ (r.tenantId = t ∧ r.id = id)
        rolePermissions := db.rolePermissions.filter (·.roleId ≠ id) })
  else .ok (0, db)

/-! ## Invites -/

/-- `INSERT INTO tenant_invites …`. -/
def insertInvite (row : InviteRow) : Statement Unit := fun _ db => do
  let email ← varchar 255 row.email
  if db.invites.any (·.id = row.id) then .error (uniqueViolation "tenant_invites_pkey")
  else if db.invites.any (·.token = row.token) then
    .error (uniqueViolation "tenant_invites_token_key")
  else if ¬ db.tenants.any (·.id = row.tenantId) then
    .error (foreignKeyViolation "tenant_invites" "tenant_invites_tenant_id_fkey")
  else if ¬ db.tenantRoles.any (·.id = row.tenantRoleId) then
    .error (foreignKeyViolation "tenant_invites" "tenant_invites_tenant_role_id_fkey")
  else if ¬ db.users.any (·.id = row.invitedBy) then
    .error (foreignKeyViolation "tenant_invites" "tenant_invites_invited_by_fkey")
  else .ok ((), { db with invites := db.invites ++ [{ row with email }] })

/-- `UPDATE tenant_invites SET accepted_at = NOW() WHERE id = $1`, returning the number of
rows. -/
def markInviteAccepted (id : Uuid) : Statement Nat := fun now db =>
  .ok (db.invites.countP (·.id = id), { db with
    invites := db.invites.map fun i =>
      if i.id = id then { i with acceptedAt := some now, updatedAt := now } else i })

/-! ## Sessions -/

namespace MembershipSnapshot

/-- The condition of the `CASE` expressions: `(elem->>'tenant_id')::uuid = t`. -/
def isTenant (t : Option Uuid) (elem : Json) : Except String Bool := do
  return Json.holds (Json.sqlEq (← elem.uuidAt "tenant_id") t)

/-- The expression of `add_membership`: the elements of the same tenant are replaced by
`snapshot`, which is appended if there is none. -/
def addTo (snapshot column : Json) : Except String Json := do
  let t ← snapshot.uuidAt "tenant_id"
  let elems ← column.arrayElements
  let rows ← elems.mapM fun elem => return if ← isTenant t elem then snapshot else elem
  let hits ← elems.mapM (isTenant t)
  return (Json.aggregate rows).concat (if hits.any id then Json.emptyArray else snapshot)

/-- The expression of `update_membership_for_user`: the role of the elements of the tenant is
replaced. -/
def updateIn (t : Uuid) (role : String) (column : Json) : Except String Json := do
  let elems ← column.arrayElements
  let rows ← elems.mapM fun elem => do
    if ← isTenant (some t) elem then elem.setMember "role" (.str role) else return elem
  return Json.aggregate rows

/-- The expression of `remove_membership`: the elements whose tenant is another one are
kept. -/
def removeFrom (t : Uuid) (column : Json) : Except String Json := do
  let elems ← column.arrayElements
  let rows ← elems.mapM fun elem => do
    let other := (Json.sqlEq (← elem.uuidAt "tenant_id") (some t)).map (!·)
    return if Json.holds other then some elem else none
  return Json.aggregate rows.reduceOption

end MembershipSnapshot

/-- `INSERT INTO sessions (token, user_id, kind, pair_id, expires_at) …`; `id` is the value of
the column's default. -/
def insertSession (id : Uuid) (token : SessionToken) (u : UserId) (kind : String)
    (pairId : Option Uuid) (expiresAt : Time) : Statement Unit := fun now db =>
  if db.sessions.any (·.id = id) then .error (uniqueViolation "sessions_pkey")
  else if db.sessions.any (·.token = token) then .error (uniqueViolation "sessions_token_key")
  else if ¬ db.users.any (·.id = u) then
    .error (foreignKeyViolation "sessions" "sessions_user_id_fkey")
  else
    .ok ((), { db with
      sessions := db.sessions ++
        [{ id, token, userId := u, expiresAt, createdAt := now,
           tenantMemberships := Json.emptyArray, kind, pairId }] })

/-- `DELETE FROM sessions WHERE token = $1`. -/
def deleteSession (token : SessionToken) : Statement Unit := fun _ db =>
  .ok ((), { db with sessions := db.sessions.filter (·.token ≠ token) })

/-- `DELETE FROM sessions WHERE pair_id = $1 AND token <> $2`. -/
def deletePair (pairId : Uuid) (exceptToken : SessionToken) : Statement Unit := fun _ db =>
  .ok ((), { db with
    sessions := db.sessions.filter fun s => ¬ (s.pairId = some pairId ∧ s.token ≠ exceptToken) })

/-- `UPDATE sessions SET tenant_memberships = $1 WHERE token = $2`. -/
def setSessionMemberships (token : SessionToken) (column : Json) : Statement Unit := fun _ db =>
  .ok ((), { db with
    sessions := db.sessions.map fun s =>
      if s.token = token then { s with tenantMemberships := column } else s })

/-- `UPDATE sessions SET tenant_memberships = edit (tenant_memberships) WHERE user_id = … AND
expires_at > NOW()`.  An error in one row fails the statement. -/
def editSessionMemberships (edit : Json → Except String Json) (u : UserId) :
    Statement Unit := fun now db =>
  let edited := db.sessions.mapM fun s =>
    if s.userId = u ∧ s.active now then do
      return { s with tenantMemberships := ← edit s.tenantMemberships }
    else return s
  match edited with
  | .ok sessions => .ok ((), { db with sessions })
  | .error message => .error (serverError message)

/-! ## Users and tokens -/

/-- `INSERT INTO users … ON CONFLICT (email) DO NOTHING RETURNING id`. -/
def insertUser (row : UserRow) : Statement (Option UserId) := fun _ db => do
  let email ← varchar 255 row.email
  let username ← varchar 50 row.username
  let name ← varchar 255 row.name
  checkText row.passwordHash
  if db.users.any (·.email = email) then return (none, db)
  if db.users.any (·.id = row.id) then .error (uniqueViolation "users_pkey")
  if db.users.any (·.username = username) then .error (uniqueViolation "users_username_unique")
  return (some row.id, { db with users := db.users ++ [{ row with email, username, name }] })

/-- `UPDATE users SET password_hash = $1 WHERE id = $2`, returning the number of rows. -/
def updatePassword (u : UserId) (hash : String) : Statement Nat := fun now db => do
  checkText hash
  return (db.users.countP (·.id = u), { db with
    users := db.users.map fun row =>
      if row.id = u then { row with passwordHash := hash, updatedAt := now } else row })

/-- `UPDATE users SET … WHERE id = $11`, which writes all columns but the address and the times
of creation and deletion. -/
def updateUser (new : UserRow) : Statement Nat := fun now db => do
  let username ← varchar 50 new.username
  let name ← varchar 255 new.name
  let termsVersion ← varchar 50 new.termsVersion
  checkText new.passwordHash
  if db.users.any (·.id = new.id) && db.users.any (fun row => row.username = username ∧ row.id ≠ new.id)
  then .error (uniqueViolation "users_username_unique")
  return (db.users.countP (·.id = new.id), { db with
    users := db.users.map fun row =>
      if row.id = new.id then
        { new with email := row.email, username, name, termsVersion, createdAt := row.createdAt,
                   updatedAt := now, deletedAt := row.deletedAt }
      else row })

/-- `UPDATE users SET deleted_at = NOW() WHERE id = $1 AND deleted_at IS NULL`, returning the
number of rows. -/
def deleteUser (u : UserId) : Statement Nat := fun now db =>
  .ok (db.users.countP (fun row => row.id = u ∧ row.deletedAt.isNone), { db with
    users := db.users.map fun row =>
      if row.id = u ∧ row.deletedAt.isNone then { row with deletedAt := some now, updatedAt := now }
      else row })

/-- `UPDATE users SET status = 'active', email_verified_at = NOW() WHERE id = $1`, returning
the number of rows. -/
def activateUser (u : UserId) : Statement Nat := fun now db =>
  .ok (db.users.countP (·.id = u), { db with
    users := db.users.map fun row =>
      if row.id = u then
        { row with status := "active", emailVerifiedAt := some now, updatedAt := now }
      else row })

/-- `INSERT INTO email_verification_tokens …`, and the same for `password_reset_tokens`. -/
def insertToken (kind : TokenKind) (u : UserId) (hash : String) (expiresAt : Time) :
    Statement Unit := fun _ db => do
  let tokenHash ← varchar 64 hash
  if (db.tokens kind).any (·.tokenHash = tokenHash) then
    .error (uniqueViolation (kind.table ++ "_token_hash_key"))
  if ¬ db.users.any (·.id = u) then
    .error (foreignKeyViolation kind.table (kind.table ++ "_user_id_fkey"))
  return ((), db.withTokens
    (db.tokens kind ++ [{ userId := u, tokenHash, expiresAt, usedAt := none }]) kind)

/-- Whether a token row can still be consumed. -/
def EmailVerificationTokenRow.usable (row : EmailVerificationTokenRow) (hash : String)
    (now : Time) : Bool :=
  row.tokenHash = hash ∧ row.usedAt.isNone ∧ now < row.expiresAt

/-- `UPDATE email_verification_tokens SET used_at = NOW() WHERE … RETURNING user_id`, and the same
for `password_reset_tokens`. -/
def consumeToken (kind : TokenKind) (hash : String) : Statement (Option UserId) := fun now db =>
  .ok (((db.tokens kind).find? (·.usable hash now)).map (·.userId), db.withTokens
    ((db.tokens kind).map fun row =>
      if row.usable hash now then { row with usedAt := some now } else row) kind)

end Klynt
