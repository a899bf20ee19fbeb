import Klynt.Persistence.World

set_option relaxedAutoImplicit false
set_option autoImplicit false

/-!
# Repositories

The repositories over the database: each operation issues its statements and maps rows and
errors to domain values.

## Main definitions

* `PgTenantRepository`, `PgMembershipRepository`, `PgRoleRepository`, `PgPermissionRepository`,
  `PgTenantInviteRepository`, `PgUserRepository`, `PgTokenStore` — one namespace for each
  repository, one definition for each operation.
-/

namespace Klynt

variable [Unicode]

/-! ## Rows -/

/-- `map_tenant_row`. -/
def mapTenantRow (row : TenantRow) : Except DomainError Tenant := do
  let status ← (TenantStatus.fromStr row.status).mapError fun e =>
    .internal ("invalid tenant status in DB: " ++ e.text)
  let slug ← (TenantSlug.parse row.slug).mapError fun e =>
    .internal ("invalid tenant slug in DB: " ++ e.text)
  return { id := row.id, slug, name := row.name, ownerId := row.ownerId,
           maxMembers := row.maxMembers, maxOwners := row.maxOwners, settings := row.settings,
           status, createdAt := row.createdAt, updatedAt := row.updatedAt }

/-- `map_membership_row`. -/
def mapMembershipRow (row : MembershipRow) : Except DomainError Membership := do
  let role ← (TenantRole.parse row.role).mapError fun e =>
    .internal ("invalid tenant role in DB: " ++ e.text)
  return { tenantId := row.tenantId, userId := row.userId, role, joinedAt := row.joinedAt }

/-- `map_tenant_member_row`. -/
def mapTenantMemberRow (row : MembershipRow × UserRow) : Except DomainError TenantMember := do
  let role ← (TenantRole.parse row.1.role).mapError fun e =>
    .internal ("invalid tenant role in DB: " ++ e.text)
  return { userId := row.1.userId, email := row.2.email,
           fullName := if row.2.name = "" then none else some row.2.name, role,
           joinedAt := row.1.joinedAt }

/-- `map_permission_row`. -/
def mapPermissionRow (row : PermissionRow) : Except DomainError Permission := do
  let category ← (PermissionCategory.fromStr row.category).mapError fun e =>
    .internal ("invalid permission category in DB: " ++ e.text)
  return { id := row.id, name := row.name, description := row.description, category }

/-- `map_invite_row`. -/
def mapInviteRow (row : InviteRow × String) : TenantInvite :=
  { id := row.1.id, tenantId := row.1.tenantId, email := Email.new row.1.email,
    roleId := row.1.tenantRoleId, roleName := row.2, invitedBy := row.1.invitedBy,
    expiresAt := row.1.expiresAt, acceptedAt := row.1.acceptedAt, token := row.1.token,
    createdAt := row.1.createdAt, updatedAt := row.1.updatedAt }

/-- `DbUserStatus::parse` followed by `status_from_db`. -/
def statusFromDb (raw : String) : Except DomainError UserStatus :=
  match toLowercase raw with
  | "pending_verification" => .ok .pending
  | "active" => .ok .active
  | "suspended" => .ok .suspended
  | _ => .error (.internal "invalid status in database: \"unknown status\"")

/-- `UserRow::into_user`. -/
def UserRow.intoUser (row : UserRow) : Except DomainError User := do
  let role ← (UserRole.parse row.role).mapError fun _ =>
    .internal "invalid role in database: Unknown"
  let status ← statusFromDb row.status
  let globalRole ← match row.globalRole with
    | some raw => do
      let role ← (GlobalRole.parse raw).mapError fun _ =>
        .internal "invalid global_role in database: Unknown"
      pure (some role)
    | none => pure none
  let email ← (Email.parse row.email).mapError .invalidEmail
  return { id := row.id, email, username := row.username,
           fullName := if row.name = "" then none else some row.name,
           passwordHash := row.passwordHash, status, role, globalRole,
           emailVerifiedAt := row.emailVerifiedAt, institutionId := row.institutionId,
           termsAcceptedAt := row.termsAcceptedAt, termsVersion := row.termsVersion,
           createdAt := row.createdAt, updatedAt := row.updatedAt, deletedAt := row.deletedAt }

/-- The user of a row, with the texts that were parsed for it. -/
theorem UserRow.intoUser_eq {row : UserRow} {user : User} (h : row.intoUser = .ok user) :
    ∃ role status globalRole email, UserRole.parse row.role = .ok role ∧
      statusFromDb row.status = .ok status ∧
      (∀ raw, row.globalRole = some raw → (GlobalRole.parse raw).map some = .ok globalRole) ∧
      (row.globalRole = none → globalRole = none) ∧ Email.parse row.email = .ok email ∧
      user = { id := row.id, email, username := row.username,
               fullName := if row.name = "" then none else some row.name,
               passwordHash := row.passwordHash, status, role, globalRole,
               emailVerifiedAt := row.emailVerifiedAt, institutionId := row.institutionId,
               termsAcceptedAt := row.termsAcceptedAt, termsVersion := row.termsVersion,
               createdAt := row.createdAt, updatedAt := row.updatedAt,
               deletedAt := row.deletedAt } := by
  unfold UserRow.intoUser at h
  obtain ⟨role, hrole, h⟩ := Except.bind_eq_ok.mp h
  obtain ⟨status, hstatus, h⟩ := Except.bind_eq_ok.mp h
  cases hraw : row.globalRole with
  | none =>
    rw [hraw] at h
    dsimp only at h
    obtain ⟨globalRole, hnone, h⟩ := Except.bind_eq_ok.mp h
    obtain ⟨email, hemail, h⟩ := Except.bind_eq_ok.mp h
    refine ⟨role, status, globalRole, email, Except.mapError_eq_ok.mp hrole, hstatus,
      fun raw hsome => (nomatch hsome), fun _ => (Except.ok.inj hnone).symm,
      Except.mapError_eq_ok.mp hemail, ?_⟩
    exact (Except.ok.inj h).symm
  | some raw =>
    rw [hraw] at h
    dsimp only at h
    obtain ⟨parsed, hparsed, h⟩ := Except.bind_eq_ok.mp h
    obtain ⟨globalRole, hsome, h⟩ := Except.bind_eq_ok.mp h
    obtain ⟨email, hemail, h⟩ := Except.bind_eq_ok.mp h
    obtain rfl := Except.ok.inj hsome
    refine ⟨role, status, some parsed, email, Except.mapError_eq_ok.mp hrole, hstatus, ?_,
      fun hnone => (nomatch hnone), Except.mapError_eq_ok.mp hemail, (Except.ok.inj h).symm⟩
    intro raw' hraw'
    obtain rfl := Option.some.inj hraw'
    rw [Except.mapError_eq_ok.mp hparsed]
    rfl

/-- What the user of a row has in common with it. -/
theorem UserRow.intoUser_ok {row : UserRow} {user : User} (h : row.intoUser = .ok user) :
    user.id = row.id ∧ statusFromDb row.status = .ok user.status ∧
      user.deletedAt = row.deletedAt := by
  obtain ⟨_, _, _, _, -, hstatus, -, -, -, rfl⟩ := UserRow.intoUser_eq h
  exact ⟨rfl, hstatus, rfl⟩

/-- The hash of a row's user. -/
theorem UserRow.passwordHash_intoUser {row : UserRow} {user : User} (h : row.intoUser = .ok user) :
    user.passwordHash = row.passwordHash := by
  obtain ⟨_, _, _, _, -, -, -, -, -, rfl⟩ := UserRow.intoUser_eq h
  rfl

/-- Map an optional row: `row.map (f).transpose ()`. -/
def mapOption {ε α β : Type} (f : α → Except ε β) : Option α → Except ε (Option β)
  | some a => (f a).map some
  | none => .ok none

/-! ## Tenants -/

namespace PgTenantRepository

/-- `create`: the role ids are the defaults of the inserted role rows. -/
def create (tenant : Tenant) : Action DomainError Tenant := do
  let owner ← newUuid
  let admin ← newUuid
  let member ← newUuid
  let guest ← newUuid
  let ids : TenantRole → RoleId := fun
    | .owner => ⟨owner⟩
    | .admin => ⟨admin⟩
    | .member => ⟨member⟩
    | .guest => ⟨guest⟩
  let row ← transact (.createTenant tenant ids)
  .done (mapTenantRow row)

/-- `find_by_id`. -/
def findById (id : TenantId) : Action DomainError (Option Tenant) := do
  let row ← (select (.tenantById id)).mapErr .ofSqlx
  .done (mapOption mapTenantRow row)

/-- `find_by_slug`. -/
def findBySlug (slug : TenantSlug) : Action DomainError (Option Tenant) := do
  let row ← (select (.tenantBySlug slug.text)).mapErr .ofSqlx
  .done (mapOption mapTenantRow row)

/-- `update`. -/
def update (tenant : Tenant) : Action DomainError Tenant := do
  let rows : Nat ← (execute (.tenant (.ofTenant tenant))).mapErr tenantInsertError
  .rejectIf (rows = 0) (.notFound "tenant")
  return tenant

/-- `delete`. -/
def delete (id : TenantId) : Action DomainError Unit := do
  let rows : Nat ← (execute (.dropTenant id)).mapErr .ofSqlx
  .rejectIf (rows = 0) (.notFound "tenant")

end PgTenantRepository

/-! ## Memberships -/

namespace PgMembershipRepository

/-- `find_role_id_by_name`. -/
def findRoleIdByName (t : TenantId) (name : String) : Action DomainError RoleId := do
  let id ← (select (.roleIdByName t name)).mapErr .ofSqlx
  .ofOption (.notFound "role") id

/-- The conversion of an error of the `INSERT INTO user_tenant_memberships`. -/
def insertError : SqlxError → DomainError
  | .database ⟨.uniqueViolation, _, _⟩ => .conflict "membership already exists"
  | .database ⟨.foreignKeyViolation, constraint, _⟩ =>
    .notFound (constraint.getD "tenant or user")
  | .database e => .internal e.message
  | .other m => .internal m

/-- The row of an active membership. -/
def rowOf (m : Membership) (roleId : RoleId) : MembershipRow :=
  { tenantId := m.tenantId, userId := m.userId, role := m.role.asStr, joinedAt := m.joinedAt,
    tenantRoleId := some roleId, status := "active" }

/-- `create_with_role_id`. -/
def createWithRoleId (m : Membership) (roleId : RoleId) : Action DomainError Membership := do
  let row ← (execute (.insertMembership (rowOf m roleId))).mapErr insertError
  .done (mapMembershipRow row)

/-- `create`. -/
def create (m : Membership) : Action DomainError Membership := do
  let roleId ← (findRoleIdByName m.tenantId m.role.asStr).mapErr fun _ => .notFound "tenant"
  createWithRoleId m roleId

/-- `find`. -/
def find (t : TenantId) (u : UserId) : Action DomainError (Option Membership) := do
  let row ← (select (.membership t u)).mapErr .ofSqlx
  .done (mapOption mapMembershipRow row)

/-- `list_for_user`. -/
def listForUser (u : UserId) : Action DomainError (List Membership) := do
  let rows : List MembershipRow ← (select (.membershipsOfUser u)).mapErr .ofSqlx
  .done (rows.mapM mapMembershipRow)

/-- `list_members`. -/
def listMembers (t : TenantId) : Action DomainError (List TenantMember) := do
  let rows : List (MembershipRow × UserRow) ← (select (.membersOfTenant t)).mapErr .ofSqlx
  .done (rows.mapM mapTenantMemberRow)

/-- `update_role`. -/
def updateRole (t : TenantId) (u : UserId) (role : TenantRole) : Action DomainError Unit := do
  let existing ← find t u
  .rejectIf existing.isNone (.notFound "membership")
  let roleId ← findRoleIdByName t role.asStr
  let rows : Nat ← (execute (.membershipRole role t u roleId)).mapErr .ofSqlx
  .rejectIf (rows = 0) (.notFound "membership")

/-- `delete`. -/
def delete (t : TenantId) (u : UserId) : Action DomainError Unit := do
  let rows : Nat ← (execute (.deleteMembership t u)).mapErr .ofSqlx
  .rejectIf (rows = 0) (.notFound "membership")

end PgMembershipRepository

/-! ## Permissions and roles -/

/-- `find_permission_by_name` of the permission repository. -/
def PgPermissionRepository.findPermissionByName (name : String) :
    Action DomainError (Option Permission) := do
  let row ← (select (.permissionByName name)).mapErr .ofSqlx
  .done (mapOption mapPermissionRow row)

namespace PgRoleRepository

omit [Unicode]

/-- `list_roles_for_tenant`. -/
def listRolesForTenant (t : TenantId) : Action DomainError (List TenantRoleAggregate) :=
  (select (.rolesOfTenant t)).mapErr .ofSqlx

/-- `find_role_by_name`. -/
def findRoleByName (t : TenantId) (name : String) :
    Action DomainError (Option TenantRoleAggregate) :=
  (select (.roleByName t name)).mapErr .ofSqlx

/-- `find_role_by_id`. -/
def findRoleById (t : TenantId) (id : RoleId) :
    Action DomainError (Option TenantRoleAggregate) :=
  (select (.roleById t id)).mapErr .ofSqlx

/-- `create_role`. -/
def createRole (role : TenantRoleAggregate) : Action DomainError Unit :=
  transact (.createRole role)

/-- `update_role_permissions`. -/
def updateRolePermissions (t : TenantId) (id : RoleId) (permissionIds : List PermissionId) :
    Action DomainError Unit :=
  transact (.updateRolePermissions t id permissionIds)

/-- `delete_role`. -/
def deleteRole (t : TenantId) (id : RoleId) : Action DomainError Unit := do
  let rows : Nat ← (execute (.dropRole t id)).mapErr .ofSqlx
  if rows > 0 then return ()
  let isSystem : Option Bool ← (select (.roleIsSystem t id)).mapErr .ofSqlx
  match isSystem with
  | some true => .fail (.validation "cannot delete a system role")
  | some false => .fail (.notFound "role")
  | none => .fail (.notFound "role")

end PgRoleRepository

/-! ## Invites -/

namespace PgTenantInviteRepository

/-- `find_by_token`. -/
def findByToken (token : String) : Action RepositoryError (Option TenantInvite) := do
  let row : Option (InviteRow × String) ← (select (.inviteByToken token)).mapErr .ofSqlx
  return row.map mapInviteRow

omit [Unicode] in
/-- The row of an invite. -/
def rowOf (invite : TenantInvite) : InviteRow :=
  { id := invite.id, tenantId := invite.tenantId, email := invite.email.text,
    tenantRoleId := invite.roleId, invitedBy := invite.invitedBy, expiresAt := invite.expiresAt,
    acceptedAt := invite.acceptedAt, token := invite.token, createdAt := invite.createdAt,
    updatedAt := invite.updatedAt }

/-- `create`: the row is read back by its token. -/
def create (invite : TenantInvite) : Action RepositoryError TenantInvite := do
  let _ ← (execute (.insertInvite (rowOf invite))).mapErr .ofSqlx
  let created ← findByToken invite.token
  .ofOption .notFound created

omit [Unicode] in
/-- `mark_accepted`. -/
def markAccepted (id : Uuid) : Action RepositoryError Unit := do
  let rows : Nat ← (execute (.acceptInvite id)).mapErr .ofSqlx
  .rejectIf (rows = 0) .notFound

end PgTenantInviteRepository

/-! ## Users and tokens -/

namespace PgUserRepository

/-- `find_by_email`. -/
def findByEmail (email : Email) : Action RepositoryError (Option User) := do
  let row ← (select (.userByEmail email.text)).mapErr .ofSqlx
  .done ((mapOption UserRow.intoUser row).mapError .ofDomain)

/-- `find_by_id`. -/
def findById (id : UserId) : Action RepositoryError (Option User) := do
  let row ← (select (.userById id)).mapErr .ofSqlx
  .done ((mapOption UserRow.intoUser row).mapError .ofDomain)

/-- `list`: rows that cannot be mapped are skipped. -/
def list (pagination : PaginationRequest) : Action RepositoryError (List User × Nat) := do
  let rows : List UserRow ←
    (select (.usersPage pagination.pageSize pagination.offset)).mapErr .ofSqlx
  let total : Nat ← (select .usersCount).mapErr .ofSqlx
  return (rows.filterMap (·.intoUser.toOption), total)

omit [Unicode] in
/-- `status_to_db`, as a text. -/
def statusToDb : UserStatus → String
  | .active => "active"
  | .inactive | .suspended => "suspended"
  | .pending => "pending_verification"

omit [Unicode] in
/-- `role_to_db`, as a text. -/
def roleToDb : UserRole → String
  | .student => "student"
  | .instructor => "teacher"
  | .admin => "admin"

omit [Unicode] in
/-- `create_pending_user`. -/
def createPendingUser (fullName username : String) (email : Email) (passwordHash : String)
    (role : UserRole) (institutionId : Option Uuid) : Action RepositoryError UserId := do
  let id ← newUuid
  let t ← now
  let row : UserRow :=
    { id := ⟨id⟩, email := email.text, username, name := fullName, passwordHash,
      status := statusToDb .pending, emailVerifiedAt := none, globalRole := none, createdAt := t,
      updatedAt := t, termsAcceptedAt := t, termsVersion := "1.0", role := roleToDb role,
      institutionId, deletedAt := none }
  let inserted : Option UserId ← (execute (.insertUser row)).mapErr .ofSqlx
  .rejectIf (inserted = none) (.conflict ("email already registered: " ++ email.text))
  return ⟨id⟩

omit [Unicode] in
/-- `update_password`. -/
def updatePassword (id : UserId) (passwordHash : String) : Action RepositoryError Unit := do
  let rows : Nat ← (execute (.updatePassword id passwordHash)).mapErr .ofSqlx
  .rejectIf (rows = 0) .notFound

omit [Unicode] in
/-- The row of a user. -/
def rowOf (user : User) : UserRow :=
  { id := user.id, email := user.email.text, username := user.username,
    name := user.fullName.getD "", passwordHash := user.passwordHash,
    status := statusToDb user.status, emailVerifiedAt := user.emailVerifiedAt,
    globalRole := user.globalRole.map GlobalRole.asStr, createdAt := user.createdAt,
    updatedAt := user.updatedAt, termsAcceptedAt := user.termsAcceptedAt,
    termsVersion := user.termsVersion, role := roleToDb user.role,
    institutionId := user.institutionId, deletedAt := user.deletedAt }

omit [Unicode] in
/-- `update`. -/
def update (user : User) : Action RepositoryError User := do
  let rows : Nat ← (execute (.updateUser (rowOf user))).mapErr .ofSqlx
  .rejectIf (rows = 0) .notFound
  return user

omit [Unicode] in
/-- `delete`. -/
def delete (id : UserId) : Action RepositoryError Unit := do
  let rows : Nat ← (execute (.deleteUser id)).mapErr .ofSqlx
  .rejectIf (rows = 0) .notFound

omit [Unicode] in
/-- `activate_user`. -/
def activateUser (id : UserId) : Action RepositoryError Unit := do
  let rows : Nat ← (execute (.activateUser id)).mapErr .ofSqlx
  .rejectIf (rows = 0) .notFound

end PgUserRepository

omit [Unicode] in
/-- `save` of the token store. -/
def PgTokenStore.save (kind : TokenKind) (u : UserId) (hash : String) (expiresAt : Time) :
    Action TokenError Unit :=
  (execute (.insertToken kind u hash expiresAt)).mapErr .ofSqlx

omit [Unicode] in
/-- `consume` of the token store. -/
def PgTokenStore.consume (kind : TokenKind) (hash : String) : Action TokenError UserId := do
  let u : Option UserId ← (execute (.consumeToken kind hash)).mapErr .ofSqlx
  .ofOption .invalid u

end Klynt
