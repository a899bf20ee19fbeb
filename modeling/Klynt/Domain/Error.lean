import Mathlib.Tactic.Common

set_option relaxedAutoImplicit false
set_option autoImplicit false

/-!
# Errors

The error types of the layers, with the texts they are displayed as and the conversions
between them.  Only the variants the modelled functions produce are listed.

## Main definitions

* `SqlxError`, `DatabaseError` — what a failed statement reports.
* `DomainError`, `RepositoryError`, `SessionError` — the errors of the ports.
* `TenantError`, `AuthError`, `SessionServiceError` — the errors of the services.
-/

namespace Klynt

/-! ## Statements -/

/-- The class of an error the database server reports. -/
inductive SqlState where
  /-- A unique or primary key violation. -/
  | uniqueViolation
  /-- A foreign key violation. -/
  | foreignKeyViolation
  /-- A check violation, also raised by triggers. -/
  | checkViolation
  /-- Any other class. -/
  | other
  deriving DecidableEq

/-- An error reported by the database server. -/
structure DatabaseError where
  /-- The class of the error. -/
  code : SqlState
  /-- The violated constraint, if there is one. -/
  constraint : Option String
  /-- The message. -/
  message : String
  deriving DecidableEq

/-- An error of a statement: reported by the server, or any other (the connection, a timeout,
a value that does not decode). -/
inductive SqlxError where
  /-- Reported by the server. -/
  | database (e : DatabaseError)
  /-- Any other error, with its text. -/
  | other (message : String)
  deriving DecidableEq

/-- The displayed text of a statement's error. -/
def SqlxError.text : SqlxError → String
  | database e => "error returned from database: " ++ e.message
  | other message => message

/-! ## Domain -/

/-- An invalid email address. -/
inductive EmailError where
  /-- The address is empty. -/
  | empty
  /-- The address has no valid form. -/
  | invalidFormat
  deriving DecidableEq

/-- The displayed text of an email error. -/
def EmailError.text : EmailError → String
  | empty => "email is empty"
  | invalidFormat => "invalid email format"

/-- Errors of domain operations. -/
inductive DomainError where
  /-- An entity does not exist. -/
  | notFound (entity : String)
  /-- A uniqueness rule is violated. -/
  | conflict (message : String)
  /-- A value is not valid. -/
  | validation (message : String)
  /-- The caller may not do this. -/
  | notPermitted (message : String)
  /-- An input is not valid. -/
  | invalidInput (message : String)
  /-- An unexpected failure. -/
  | internal (message : String)
  /-- An invalid email address. -/
  | invalidEmail (e : EmailError)
  /-- The owner has as many tenants as allowed. -/
  | tenantLimitReached
  deriving DecidableEq

/-- The displayed text of a domain error. -/
def DomainError.text : DomainError → String
  | notFound e => "Entity not found: " ++ e
  | conflict m => "Conflict: " ++ m
  | validation m => "Validation failed: " ++ m
  | notPermitted m => "Operation not permitted: " ++ m
  | invalidInput m => "Invalid input: " ++ m
  | internal m => "Internal error: " ++ m
  | invalidEmail e => e.text
  | tenantLimitReached => "tenant limit reached"

/-- `DomainError::internal` of a statement's error. -/
def DomainError.ofSqlx (e : SqlxError) : DomainError := .internal e.text

/-! ## Repositories -/

/-- Errors of the user and invite repositories. -/
inductive RepositoryError where
  /-- No such row. -/
  | notFound
  /-- A uniqueness rule is violated. -/
  | conflict (message : String)
  /-- A value is not valid. -/
  | validation (message : String)
  /-- An error reported by the server. -/
  | database (message : String)
  /-- An unexpected failure. -/
  | internal (message : String)
  deriving DecidableEq

/-- The displayed text of a repository error. -/
def RepositoryError.text : RepositoryError → String
  | notFound => "User not found"
  | conflict m => "User already exists (" ++ m ++ ")"
  | validation m => "Validation error: " ++ m
  | database m => "Database error: " ++ m
  | internal m => "Internal error: " ++ m

/-- `From<sqlx::Error> for RepositoryError`. -/
def RepositoryError.ofSqlx : SqlxError → RepositoryError
  | .database ⟨.uniqueViolation, constraint, _⟩ => conflict (constraint.getD "unknown")
  | .database ⟨.foreignKeyViolation, constraint, _⟩ => validation (constraint.getD "unknown")
  | .database e => database e.message
  | .other m => internal m

/-- `map_error` of the user repository. -/
def RepositoryError.ofDomain : DomainError → RepositoryError
  | .conflict m => conflict m
  | .validation m => validation m
  | .invalidInput m => validation m
  | e => internal e.text

/-! ## Sessions -/

/-- Errors of the session store. -/
inductive SessionError where
  /-- No such session. -/
  | notFound
  /-- The session has expired. -/
  | expired
  /-- The session is not the caller's. -/
  | forbidden
  /-- An error reported by the server. -/
  | database (message : String)
  /-- An unexpected failure. -/
  | internal (message : String)
  deriving DecidableEq

/-- The displayed text of a session error. -/
def SessionError.text : SessionError → String
  | notFound => "Session not found"
  | expired => "Session expired"
  | forbidden => "Forbidden"
  | database m => "Database error: " ++ m
  | internal m => "Internal error: " ++ m

/-- `From<sqlx::Error> for SessionError`. -/
def SessionError.ofSqlx : SqlxError → SessionError
  | .database e => database e.message
  | .other m => internal m

/-- Errors of the session service. -/
inductive SessionServiceError where
  /-- The token is invalid or expired. -/
  | invalidToken
  /-- The store failed. -/
  | storeError (message : String)
  deriving DecidableEq

/-- `From<SessionError> for session_service::SessionError`. -/
def SessionServiceError.ofStore : SessionError → SessionServiceError
  | .notFound | .expired => invalidToken
  | .forbidden => storeError "forbidden"
  | .database m | .internal m => storeError m

/-- The displayed text of a session service error. -/
def SessionServiceError.text : SessionServiceError → String
  | invalidToken => "Invalid or expired session token"
  | storeError m => "Session store error: " ++ m

/-- Errors of the session coordinator. -/
inductive SessionCoordinatorError where
  /-- The session store failed. -/
  | sessionStore (e : SessionError)
  deriving DecidableEq

/-- The displayed text of a coordinator error. -/
def SessionCoordinatorError.text : SessionCoordinatorError → String
  | sessionStore e => "Session store error: " ++ e.text

/-! ## Services -/

/-- Errors of the tenant service. -/
inductive TenantError where
  /-- There is no actor. -/
  | authenticationRequired
  /-- The tenant, or the target user, does not exist. -/
  | notFound
  /-- The actor is not a member of the tenant. -/
  | notMember
  /-- The actor lacks an administrative permission. -/
  | notAdmin
  /-- The actor lacks an owner's permission. -/
  | notOwner
  /-- A domain error. -/
  | domain (e : DomainError)
  /-- The sessions could not be synchronised. -/
  | sessionCoordinator (message : String)
  /-- An unexpected failure. -/
  | internal (message : String)
  deriving DecidableEq

/-- Errors of the auth service. -/
inductive AuthError where
  /-- The email or the password is wrong. -/
  | invalidCredentials
  /-- The account is not active. -/
  | accountInactive
  /-- The token is expired or invalid. -/
  | invalidToken
  /-- The request is not valid. -/
  | passwordPolicy (message : String)
  /-- No such user. -/
  | userNotFound
  /-- The caller may not do this. -/
  | forbidden
  /-- An unexpected failure. -/
  | internal (message : String)
  /-- A domain error. -/
  | domain (e : DomainError)
  deriving DecidableEq

/-- `From<RepositoryError> for AuthError`. -/
def AuthError.ofRepository : RepositoryError → AuthError
  | .notFound => userNotFound
  | .conflict m => domain (.conflict m)
  | .validation m => domain (.invalidInput m)
  | .database m | .internal m => internal m

/-- `From<SessionError> for AuthError`. -/
def AuthError.ofSession : SessionError → AuthError
  | .notFound | .expired => invalidToken
  | .forbidden => forbidden
  | .database m | .internal m => internal m

/-- `From<session_service::SessionError> for AuthError`. -/
def AuthError.ofSessionService : SessionServiceError → AuthError
  | .invalidToken => invalidToken
  | .storeError m => internal m

/-- Errors of the token store. -/
inductive TokenError where
  /-- The token is unknown, used or expired. -/
  | invalid
  /-- An error reported by the server. -/
  | database (message : String)
  /-- An unexpected failure. -/
  | internal (message : String)
  deriving DecidableEq

/-- `From<sqlx::Error> for TokenError`. -/
def TokenError.ofSqlx : SqlxError → TokenError
  | .database e => database e.message
  | .other m => internal m

/-- `From<TokenError> for AuthError`. -/
def AuthError.ofToken : TokenError → AuthError
  | .invalid => invalidToken
  | .database m | .internal m => internal m

/-- `From<PasswordHashError> for AuthError`. -/
def AuthError.ofPasswordHash (message : String) : AuthError := domain (.internal message)

/-- `From<ports::EmailError> for AuthError`, of a message that could not be sent. -/
def AuthError.ofSendFailed (message : String) : AuthError :=
  domain (.internal ("Failed to send email: " ++ message))

/-- Errors of the user service. -/
inductive UserError where
  /-- No such user. -/
  | notFound
  /-- The user is deleted. -/
  | userDeleted
  /-- The user cannot be deleted. -/
  | cannotDeleteAdmin
  /-- Users may not delete themselves. -/
  | selfDeleteNotAllowed
  /-- The password is wrong. -/
  | invalidPassword
  /-- A value is not valid. -/
  | validation (message : String)
  /-- An unexpected failure. -/
  | internal (message : String)
  /-- A domain error. -/
  | domain (e : DomainError)
  deriving DecidableEq

/-- `From<RepositoryError> for UserError`. -/
def UserError.ofRepository : RepositoryError → UserError
  | .notFound => notFound
  | .conflict m => domain (.conflict m)
  | .validation m => validation m
  | .database m | .internal m => internal m

/-- `From<PasswordHashError> for UserError`. -/
def UserError.ofPasswordHash (message : String) : UserError := domain (.internal message)

end Klynt
