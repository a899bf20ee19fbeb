import Klynt.Service.Auth
import Klynt.Service.User

set_option relaxedAutoImplicit false
set_option autoImplicit false

/-!
# The authentication of requests, and the routes for accounts

Protected routes run behind a middleware that resolves the session token of a request to the
user who makes it.  Behind it are the routes that its source calls the admin routes of accounts.

## Main definitions

* `RequestHeaders`, `extractSessionToken` — where the token of a request comes from.
* `requireAuth` — the middleware, with the context it hands to the route.
* `Services`, `Services.fromConfig` — the services behind the routes, composed together.
* `Routes.getUser`, `Routes.listUsers`, `Routes.deleteUser` — the routes for accounts.
* `UserRequest`, `UserRequest.handle` — the requests these routes serve, with their handlers.
-/

namespace Klynt

/-- What the middleware reads of a request. -/
structure RequestHeaders where
  /-- The header `Authorization`, if it is a text. -/
  authorization : Option String
  /-- The cookie `session_token`. -/
  sessionCookie : Option String

/-- `extract_bearer_token`. -/
def extractBearerToken (headers : RequestHeaders) : Option SessionToken := do
  let text ← headers.authorization
  if "Bearer ".toList.isPrefixOf text.toList then
    (Uuid.parse? (String.ofList (text.toList.drop "Bearer ".length))).map SessionToken.mk
  else none

/-- `extract_session_token`: a token in the header goes before the cookie. -/
def extractSessionToken (headers : RequestHeaders) : Option SessionToken :=
  match extractBearerToken headers with
  | some token => some token
  | none => (headers.sessionCookie.bind Uuid.parse?).map SessionToken.mk

/-- `require_auth`: the context of an authenticated request. -/
def requireAuth (sessions : SessionService) (headers : RequestHeaders) :
    Action GatewayError ExecutionContext := do
  let token ← .ofOption (.unauthorized "Missing session token") (extractSessionToken headers)
  let session ← (sessions.validateAccess token).mapErr fun
    | .invalidToken => .unauthorized "Invalid or expired session"
    | .storeError m => .internal ("Session lookup failed: " ++ m)
  return ⟨some session.userId.inner⟩

/-- All business services, composed together. -/
structure Services where
  /-- The auth service. -/
  auth : AuthService
  /-- What it needs for registrations. -/
  registration : Registration
  /-- The user service. -/
  user : UserService
  /-- The tenant service. -/
  tenant : TenantService
  /-- The session service of the middleware. -/
  session : SessionService

/-- `from_config`: all services share one store of sessions. -/
def Services.fromConfig (validate : LoginRequest → Except String Unit)
    (sha256Hash : String → String) (registration : Registration) (user : UserService)
    (config : SessionConfig) (enabled : Bool) (store : SessionStore) : Services where
  auth := ⟨validate, sha256Hash, ⟨config, store⟩, store⟩
  registration := registration
  user := user
  tenant := ⟨⟨enabled, store⟩⟩
  session := ⟨config, store⟩

/-! ## The routes for accounts -/

/-- The query of a list of users. -/
structure ListUsersQuery where
  /-- The number of the page. -/
  page : Nat := 1
  /-- The number of entries of a page. -/
  pageSize : Nat := 20

namespace Routes

variable [Unicode]

/-- `GET /api/v1/users/{id}`. -/
def getUser (userId : Uuid) : Action GatewayError UserProfile :=
  (UserService.getUser ⟨userId⟩).mapErr .user

/-- `GET /api/v1/users`. -/
def listUsers (query : ListUsersQuery) : Action GatewayError (PaginatedResponse UserProfile) :=
  (UserService.listUsers (.new query.page query.pageSize)).mapErr .user

/-- `DELETE /api/v1/users/{id}`, with the message of its response. -/
def deleteUser (services : Services) (ctx : ExecutionContext) (userId : Uuid) :
    Action GatewayError String := do
  (services.user.deleteUser ctx ⟨userId⟩).mapErr .user
  return "User deleted successfully"

end Routes

/-- The requests of the routes for accounts. -/
inductive UserRequest where
  /-- Get a user. -/
  | getUser (userId : Uuid)
  /-- List the users. -/
  | listUsers (query : ListUsersQuery)
  /-- Delete a user. -/
  | deleteUser (userId : Uuid)

/-- What the response to a request carries. -/
def UserRequest.Res : UserRequest → Type
  | getUser _ => UserProfile
  | listUsers _ => PaginatedResponse UserProfile
  | deleteUser _ => String

/-- The handler of a request, behind the middleware. -/
def UserRequest.handle [Unicode] (services : Services) (ctx : ExecutionContext) :
    (request : UserRequest) → Action GatewayError request.Res
  | getUser userId => Routes.getUser userId
  | listUsers query => Routes.listUsers query
  | deleteUser userId => Routes.deleteUser services ctx userId

end Klynt
