import Klynt.Persistence.SessionStore

set_option relaxedAutoImplicit false
set_option autoImplicit false

/-!
# The session service and the session coordinator

## Main definitions

* `SessionConfig`, `SessionService` — creation, validation and invalidation of sessions.
* `MembershipEvent`, `SessionCoordinator` — the sessions of a user follow membership changes.
-/

namespace Klynt

/-! ## The session service -/

/-- Lifetimes of sessions, in seconds. -/
structure SessionConfig where
  /-- Of access sessions. -/
  sessionDurationSecs : Nat := 24 * 3600
  /-- Of long-lived sessions. -/
  longSessionDurationSecs : Nat := 30 * 24 * 3600
  /-- Of refresh sessions. -/
  refreshDurationSecs : Nat := 30 * 24 * 3600

/-- The lifetime of a session of a given kind. -/
def SessionConfig.duration (config : SessionConfig) : SessionKind → Time
  | .access => seconds config.sessionDurationSecs
  | .longLived => seconds config.longSessionDurationSecs
  | .refresh => seconds config.refreshDurationSecs

/-- A new session token with its expiry. -/
structure CreatedSession where
  /-- The token. -/
  token : SessionToken
  /-- When the session expires. -/
  expiresAt : Time

/-- The session service. -/
structure SessionService where
  /-- Lifetimes. -/
  config : SessionConfig
  /-- Storage. -/
  store : SessionStore

namespace SessionService

variable (service : SessionService)

/-- Create a session of a kind. -/
def createWithKind (u : UserId) (kind : SessionKind) (pairId : Option Uuid) :
    Action SessionServiceError CreatedSession := do
  let t ← now
  let expiresAt := t + service.config.duration kind
  let token ← (service.store.createWithKind u expiresAt kind pairId).mapErr .ofStore
  return { token, expiresAt }

/-- Create an access session, extended if the user asks to be remembered. -/
def createAccess (u : UserId) (rememberMe : Bool) (pairId : Option Uuid) :
    Action SessionServiceError CreatedSession :=
  service.createWithKind u (if rememberMe then .longLived else .access) pairId

/-- Create an access session. -/
def create (u : UserId) : Action SessionServiceError CreatedSession :=
  service.createAccess u false none

/-- Create a refresh session. -/
def createRefresh (u : UserId) (pairId : Option Uuid) :
    Action SessionServiceError CreatedSession :=
  service.createWithKind u .refresh pairId

/-- The session of a token, if it is valid. -/
def validate (token : SessionToken) : Action SessionServiceError Session := do
  let session ← (service.store.findValid token).mapErr .ofStore
  .ofOption .invalidToken session

/-- The session of an access token, if it is valid. -/
def validateAccess (token : SessionToken) : Action SessionServiceError Session := do
  let session ← service.validate token
  if session.kind.isAccess then return session else .fail .invalidToken

/-- Invalidate a session. -/
def invalidate (token : SessionToken) : Action SessionServiceError Unit :=
  (service.store.revoke token).mapErr .ofStore

/-- Invalidate a session and the session paired with it. -/
def invalidatePair (token : SessionToken) : Action SessionServiceError Unit := do
  let session ← service.validate token
  (service.store.revoke token).mapErr .ofStore
  match session.pairId with
  | some pairId => (service.store.revokePair pairId token).mapErr .ofStore
  | none => return ()

end SessionService

/-! ## The session coordinator -/

/-- A change of a membership. -/
inductive MembershipEvent where
  /-- A membership was created. -/
  | added (t : TenantId) (u : UserId) (role : TenantRole)
  /-- The role of a membership was changed. -/
  | updated (t : TenantId) (u : UserId) (role : TenantRole)
  /-- A membership was removed. -/
  | removed (t : TenantId) (u : UserId)
  deriving DecidableEq

/-- The user an event is about. -/
def MembershipEvent.userId : MembershipEvent → UserId
  | added _ u _ | updated _ u _ | removed _ u => u

/-- The session coordinator. -/
structure SessionCoordinator where
  /-- Whether sessions are synchronised at all. -/
  enabled : Bool
  /-- Storage. -/
  store : SessionStore

namespace SessionCoordinator

/-- The snapshot of a new membership. -/
def snapshotOf (t : TenantId) (u : UserId) (role : TenantRole) :
    Action SessionError MembershipSnapshot := do
  let joinedAt ← now
  return (Membership.new t u role joinedAt).toSessionSnapshot

/-- Update the sessions of an event's user. -/
def handleMembershipEvent (coordinator : SessionCoordinator) (event : MembershipEvent) :
    Action SessionCoordinatorError Unit :=
  if coordinator.enabled = false then return ()
  else
    Prog.mapErr .sessionStore <| match event with
      | .added t u role => do
        let snapshot ← snapshotOf t u role
        coordinator.store.addMembership u snapshot
      | .updated t u role => do
        let snapshot ← snapshotOf t u role
        coordinator.store.updateMembership u snapshot
      | .removed t u => coordinator.store.removeMembership u t

end SessionCoordinator

end Klynt
