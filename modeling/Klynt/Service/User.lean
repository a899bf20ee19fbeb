import Klynt.Service.Tenant

set_option relaxedAutoImplicit false
set_option autoImplicit false

/-!
# The user service

Profiles, passwords and the deletion of accounts.  Audit logging is left out.

## Main definitions

* `UserService` — the service.
* `UserService.getUser`, …, `UserService.deleteUser` — one definition for each use case.

## Implementation notes

The derived validation of a profile update belongs to another package and is a field of the
service.
-/

namespace Klynt

/-- The profile of a user. -/
structure UserProfile where
  /-- Identifier. -/
  id : UserId
  /-- Address. -/
  email : String
  /-- Login name. -/
  username : String
  /-- Full name. -/
  fullName : Option String
  /-- Role. -/
  role : UserRole
  /-- Account status. -/
  status : UserStatus
  /-- Creation time. -/
  createdAt : Time

/-- `From<User> for UserProfile`. -/
def UserProfile.ofUser (user : User) : UserProfile :=
  { id := user.id, email := user.email.text, username := user.username, fullName := user.fullName,
    role := user.role, status := user.status, createdAt := user.createdAt }

/-- A request to change a profile. -/
structure ProfileUpdate where
  /-- Full name. -/
  fullName : Option String

/-- The user service. -/
structure UserService where
  /-- `ProfileUpdate::validate ()`, with the text of its errors. -/
  validate : ProfileUpdate → Except String Unit
  /-- Whether users may delete themselves. -/
  allowSelfDelete : Bool := false

namespace UserService

variable [Unicode] (service : UserService) (ctx : ExecutionContext)

/-- Get a user. -/
def getUser (u : UserId) : Action UserError UserProfile := do
  let found ← (PgUserRepository.findById u).mapErr .ofRepository
  let user ← .ofOption .notFound found
  .rejectIf (user.isDeleted = true) .userDeleted
  return .ofUser user

/-- List the users, page by page. -/
def listUsers (pagination : PaginationRequest) :
    Action UserError (PaginatedResponse UserProfile) := do
  let (users, total) ← (PgUserRepository.list pagination).mapErr .ofRepository
  return { items := users.map .ofUser, totalCount := total, page := pagination.page,
           pageSize := pagination.pageSize }

/-- Change the profile of a user. -/
def updateProfile (u : UserId) (updates : ProfileUpdate) : Action UserError UserProfile := do
  .done ((service.validate updates).mapError .validation)
  let found ← (PgUserRepository.findById u).mapErr .ofRepository
  let user ← .ofOption .notFound found
  let t ← now
  let user ← .done (user.updateProfile updates.fullName t)
  let user ← (PgUserRepository.update user).mapErr .ofRepository
  return .ofUser user

/-- Change the password of a user. -/
def changePassword (u : UserId) (currentPassword newPassword : String) : Action UserError Unit := do
  let found ← (PgUserRepository.findById u).mapErr .ofRepository
  let user ← .ofOption .notFound found
  .rejectIf (user.isDeleted = true) .userDeleted
  let valid : Except String Bool ← .ask (.verifyPassword currentPassword user.passwordHash) pure
  let passwordValid ← .done (valid.mapError .ofPasswordHash)
  .rejectIf (passwordValid = false) .invalidPassword
  let hashed : Except String String ← .ask (.hashPassword newPassword) pure
  let newHash ← .done (hashed.mapError .ofPasswordHash)
  (PgUserRepository.updatePassword u newHash).mapErr .ofRepository

/-- Delete a user; the row stays, marked as deleted. -/
def deleteUser (u : UserId) : Action UserError Unit := do
  let found ← (PgUserRepository.findById u).mapErr .ofRepository
  let user ← .ofOption .notFound found
  .rejectIf (ctx.actorId = some u.inner ∧ service.allowSelfDelete = false) .selfDeleteNotAllowed
  let t ← now
  let _ ← .done (user.delete t)
  (PgUserRepository.delete u).mapErr .ofRepository

end UserService

end Klynt
