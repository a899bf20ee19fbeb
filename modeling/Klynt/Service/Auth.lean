import Klynt.Domain.Password
import Klynt.Persistence.Repository
import Klynt.Service.Session

set_option relaxedAutoImplicit false
set_option autoImplicit false

/-!
# The auth service

Registration, login, email verification, password resets, the sessions of a user, and the route
that verifies an email address and signs the user in.  Audit logging is left out.

## Main definitions

* `AuthService`, `AuthService.register`, `AuthService.login`, `AuthService.resetPassword`, … — the
  use cases.
* `Routes.verifyEmail` — the route.

## Implementation notes

The derived validation of a request and the SHA-256 digest belong to other packages and are
fields of the service.
-/

namespace Klynt

variable [Unicode]

/-! ## Requests and responses -/

/-- A request to log in. -/
structure LoginRequest where
  /-- Address. -/
  email : String
  /-- Password. -/
  password : String
  /-- Whether the session should be long-lived. -/
  rememberMe : Option Bool

/-- A request to register. -/
structure RegistrationRequest where
  /-- Address. -/
  email : String
  /-- Login name. -/
  username : String
  /-- Password. -/
  password : String
  /-- Full name. -/
  fullName : Option String
  /-- Role. -/
  role : UserRole
  /-- Institution. -/
  institutionId : Option Uuid

/-- What a response says about a user. -/
structure UserSessionInfo where
  /-- Identifier. -/
  id : UserId
  /-- Address. -/
  email : String
  /-- Full name. -/
  fullName : Option String
  /-- Role. -/
  role : UserRole

omit [Unicode] in
/-- `From<User> for UserSessionInfo`. -/
def UserSessionInfo.ofUser (user : User) : UserSessionInfo :=
  { id := user.id, email := user.email.text, fullName := user.fullName, role := user.role }

/-- The response to a login. -/
structure LoginResponse where
  /-- The access token. -/
  accessToken : String
  /-- The refresh token. -/
  refreshToken : String
  /-- When the access token expires. -/
  expiresAt : Time
  /-- The user. -/
  user : UserSessionInfo

/-! ## The service -/

/-- The auth service. -/
structure AuthService where
  /-- `LoginRequest::validate ()`, with the text of its errors. -/
  validate : LoginRequest → Except String Unit
  /-- `Token::sha256_hash`. -/
  sha256Hash : String → String
  /-- Creation and invalidation of sessions. -/
  sessionService : SessionService
  /-- Storage of sessions. -/
  sessionStore : SessionStore

/-- What the auth service needs for registrations and password resets only. -/
structure Registration where
  /-- `RegistrationRequest::validate ()`, with the text of its errors. -/
  validate : RegistrationRequest → Except String Unit
  /-- The rules for passwords. -/
  passwordPolicy : PasswordPolicy
  /-- The address of the platform in messages. -/
  baseUrl : String

namespace AuthService

variable (service : AuthService)

omit [Unicode] in
/-- The lifetime of a token for the verification of an address. -/
def emailVerificationTtl : Time := days 1

omit [Unicode] in
/-- `TokenEmailService::send_verification`: store the hash of a new token, and send the token. -/
def sendVerification (registration : Registration) (email : Email) (u : UserId) :
    Action AuthError Unit := do
  let token ← generateSecureToken
  let t ← now
  (PgTokenStore.save .emailVerification u (service.sha256Hash token)
    (t + emailVerificationTtl)).mapErr .ofToken
  let sent : Except String Unit ←
    .ask (.sendVerification email.text token registration.baseUrl) pure
  .done (sent.mapError .ofSendFailed)

omit [Unicode] in
/-- The lifetime of a token for a password reset. -/
def passwordResetTtl : Time := seconds (30 * 60)

omit [Unicode] in
/-- `TokenEmailService::send_password_reset`: store the hash of a new token, and send the token. -/
def sendPasswordReset (registration : Registration) (email : Email) (u : UserId) :
    Action AuthError Unit := do
  let token ← generateSecureToken
  let t ← now
  (PgTokenStore.save .passwordReset u (service.sha256Hash token)
    (t + passwordResetTtl)).mapErr .ofToken
  let sent : Except String Unit ←
    .ask (.sendPasswordReset email.text token registration.baseUrl) pure
  .done (sent.mapError .ofSendFailed)

/-- Register a user, who is pending until the address is verified. -/
def register (registration : Registration) (request : RegistrationRequest) :
    Action AuthError UserId := do
  .done ((registration.validate request).mapError .passwordPolicy)
  .done ((registration.passwordPolicy.validate request.password).mapError fun e =>
    .passwordPolicy e.text)
  let hashed : Except String String ← .ask (.hashPassword request.password) pure
  let passwordHash ← .done (hashed.mapError .ofPasswordHash)
  let email ← .done ((Email.parse request.email).mapError fun e => .domain (.invalidInput e.text))
  let username := toLowercase (trim request.username)
  .rejectIf (username = "") (.domain (.invalidInput "username is required"))
  let institutionId := if request.role.requiresInstitution then request.institutionId else none
  .rejectIf (request.role.requiresInstitution = true ∧ institutionId = none)
    (.domain (.invalidInput ("institution_id is required for role " ++ request.role.asStr)))
  let u ← (PgUserRepository.createPendingUser (request.fullName.getD "") username email
    passwordHash request.role institutionId).mapErr .ofRepository
  service.sendVerification registration email u
  return u

omit [Unicode] in
/-- The refresh session of a login.  If it cannot be created, the access session is
invalidated; a failure to do so is ignored. -/
def createPaired (u : UserId) (access : CreatedSession) (pairId : Uuid) :
    Action AuthError CreatedSession := do
  match ← (service.sessionService.createRefresh u (some pairId)).attempt with
  | .ok refresh => return refresh
  | .error e =>
    let _ ← (service.sessionService.invalidate access.token).attempt
    .fail (.ofSessionService e)

/-- Authenticate a user and create a pair of sessions. -/
def login (request : LoginRequest) : Action AuthError LoginResponse := do
  .done ((service.validate request).mapError .passwordPolicy)
  let email ← .done ((Email.parse request.email).mapError fun e => .domain (.invalidInput e.text))
  let found ← (PgUserRepository.findByEmail email).mapErr .ofRepository
  let user ← .ofOption .invalidCredentials found
  let valid : Except String Bool ← .ask (.verifyPassword request.password user.passwordHash) pure
  let passwordValid ← .done (valid.mapError fun m => .domain (.internal m))
  .rejectIf (passwordValid = false) .invalidCredentials
  .rejectIf (user.isActive = false) .accountInactive
  let rememberMe := request.rememberMe.getD false
  let pairId ← newUuid
  let access ← (service.sessionService.createAccess user.id rememberMe (some pairId)).mapErr
    .ofSessionService
  let refresh ← service.createPaired user.id access pairId
  let memberships ← (PgMembershipRepository.listForUser user.id).mapErr .domain
  let snapshots := memberships.map fun m => ⟨m.tenantId.inner, m.role⟩
  (service.sessionStore.updateMemberships access.token snapshots).mapErr .ofSession
  return { accessToken := access.token.inner.render, refreshToken := refresh.token.inner.render,
           expiresAt := access.expiresAt, user := .ofUser user }

omit [Unicode] in
/-- Verify an email address by the token that was sent to it. -/
def verifyEmail (token : String) : Action AuthError UserId := do
  let u ← (PgTokenStore.consume .emailVerification (service.sha256Hash token)).mapErr .ofToken
  (PgUserRepository.activateUser u).mapErr .ofRepository
  return u

/-- Request a password reset.  That there is no such user, or that the message could not be sent,
is not reported. -/
def requestPasswordReset (registration : Registration) (email : String) :
    Action AuthError Unit := do
  let email ← .done ((Email.parse email).mapError fun e => .domain (.invalidInput e.text))
  let found ← (PgUserRepository.findByEmail email).mapErr .ofRepository
  match found with
  | none => return ()
  | some user =>
    let _ : Except AuthError Unit ←
      (service.sendPasswordReset registration email user.id).attempt
    return ()

/-- Complete a password reset by the token that was sent for it. -/
def resetPassword (registration : Registration) (token newPassword : String) :
    Action AuthError Unit := do
  .done ((registration.passwordPolicy.validate newPassword).mapError fun e =>
    .passwordPolicy e.text)
  let u ← (PgTokenStore.consume .passwordReset (service.sha256Hash token)).mapErr .ofToken
  let hashed : Except String String ← .ask (.hashPassword newPassword) pure
  let passwordHash ← .done (hashed.mapError .ofPasswordHash)
  (PgUserRepository.updatePassword u passwordHash).mapErr .ofRepository

omit [Unicode] in
/-- End a session and the session paired with it. -/
def logout (sessionToken : String) : Action AuthError Unit := do
  let token ← .ofOption .invalidToken ((Uuid.parse? sessionToken).map SessionToken.mk)
  (service.sessionService.invalidatePair token).mapErr .ofSessionService

omit [Unicode] in
/-- The active sessions of a user. -/
def listSessions (u : UserId) : Action AuthError (List SessionSummary) :=
  (service.sessionStore.listActiveByUser u).mapErr .ofSession

omit [Unicode] in
/-- Revoke one session of a user. -/
def revokeSession (u : UserId) (id : Uuid) : Action AuthError Unit :=
  (service.sessionStore.revokeById u id).mapErr .ofSession

end AuthService

/-! ## The route -/

/-- Errors of the routes of the auth service. -/
inductive GatewayError where
  /-- An error of the auth service. -/
  | auth (e : AuthError)
  /-- An error of the user service. -/
  | user (e : UserError)
  /-- An unexpected failure. -/
  | internal (message : String)
  /-- The request is not authenticated. -/
  | unauthorized (message : String)
  deriving DecidableEq

/-- The session cookie a route sets. -/
structure SessionCookie where
  /-- The session token. -/
  value : String
  /-- The lifetime in whole seconds. -/
  maxAge : Int

omit [Unicode] in
/-- `POST /api/v1/auth/verify-email`: verify an email address and create a session. -/
def Routes.verifyEmail (auth : AuthService) (sessions : SessionService) (token : String) :
    Action GatewayError SessionCookie := do
  let u ← (auth.verifyEmail token).mapErr .auth
  let session ← (sessions.create u).mapErr fun e => .internal ("Failed to create session: " ++ e.text)
  let t ← now
  return { value := session.token.inner.render
           maxAge := max ((session.expiresAt - t).tdiv (seconds 1)) 0 }

end Klynt
