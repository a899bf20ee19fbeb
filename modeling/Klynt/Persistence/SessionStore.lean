import Klynt.Persistence.World

set_option relaxedAutoImplicit false
set_option autoImplicit false

/-!
# Session stores

The port for session storage with its two implementations: the one over the database, and the
read-through cache over it.

## Main definitions

* `SessionStore` — the port.
* `PgSessionStore.store` — the implementation over the database.
* `CachedSessionStore.store` — the implementation with a cache, connected or not.
-/

namespace Klynt

/-- The port for session storage. -/
structure SessionStore where
  /-- Create a session and return its token. -/
  createWithKind (u : UserId) (expiresAt : Time) (kind : SessionKind) (pairId : Option Uuid) :
    Action SessionError SessionToken
  /-- Find a session that is not expired. -/
  findValid (token : SessionToken) : Action SessionError (Option Session)
  /-- Revoke a session by token. -/
  revoke (token : SessionToken) : Action SessionError Unit
  /-- Revoke a session by its public id after verifying ownership. -/
  revokeById (u : UserId) (id : Uuid) : Action SessionError Unit
  /-- Revoke the sessions of a pair but one. -/
  revokePair (pairId : Uuid) (exceptToken : SessionToken) : Action SessionError Unit
  /-- The active sessions of a user. -/
  listActiveByUser (u : UserId) : Action SessionError (List SessionSummary)
  /-- Replace the snapshots of one session. -/
  updateMemberships (token : SessionToken) (snapshots : List MembershipSnapshot) :
    Action SessionError Unit
  /-- Add a snapshot to the active sessions of a user. -/
  addMembership (u : UserId) (snapshot : MembershipSnapshot) : Action SessionError Unit
  /-- Change the role of a tenant in the active sessions of a user. -/
  updateMembershipForUser (u : UserId) (snapshot : MembershipSnapshot) : Action SessionError Unit
  /-- Remove the snapshot of a tenant from the active sessions of a user. -/
  removeMembership (u : UserId) (t : TenantId) : Action SessionError Unit

/-- The canonical name of `updateMembershipForUser`; no store overrides its default. -/
def SessionStore.updateMembership (store : SessionStore) (u : UserId)
    (snapshot : MembershipSnapshot) : Action SessionError Unit :=
  store.updateMembershipForUser u snapshot

/-! ## The store over the database -/

/-- The session of a row.  The snapshots are decoded with the row, before its kind is read. -/
def SessionRow.toSession (row : SessionRow) : Except SessionError Session := do
  let tenantMemberships ← match MembershipSnapshot.decode row.tenantMemberships with
    | some l => .ok l
    | none => .error (.internal "error occurred while decoding column \"tenant_memberships\"")
  let kind ← (SessionKind.tryFrom row.kind).mapError fun e =>
    .internal ("invalid session kind: " ++ e)
  return { userId := row.userId, expiresAt := row.expiresAt, kind, pairId := row.pairId,
           tenantMemberships }

/-- What the session of a row has in common with it. -/
theorem SessionRow.toSession_ok {row : SessionRow} {session : Session}
    (h : row.toSession = .ok session) :
    MembershipSnapshot.decode row.tenantMemberships = some session.tenantMemberships ∧
      SessionKind.tryFrom row.kind = .ok session.kind ∧ session.userId = row.userId ∧
      session.expiresAt = row.expiresAt ∧ session.pairId = row.pairId := by
  unfold SessionRow.toSession at h
  cases hdecode : MembershipSnapshot.decode row.tenantMemberships with
  | none => simp [hdecode, bind, Except.bind] at h
  | some l =>
    cases hkind : SessionKind.tryFrom row.kind with
    | error e => simp [hdecode, hkind, bind, Except.bind, Except.mapError] at h
    | ok kind =>
      simp only [hdecode, hkind, bind, Except.bind, Except.mapError, pure, Except.pure,
        Except.ok.injEq] at h
      subst h
      exact ⟨rfl, rfl, rfl, rfl, rfl⟩

/-- The summary of a row. -/
def SessionRow.toSummary (row : SessionRow) : SessionSummary :=
  { id := row.id, userId := row.userId, kind := row.kind, createdAt := row.createdAt,
    expiresAt := row.expiresAt }

namespace PgSessionStore

/-- `active_tokens_for_user`. -/
def activeTokensForUser (u : UserId) : Action SessionError (List SessionToken) :=
  (select (.activeTokens u)).mapErr .ofSqlx

/-- `resolve_active_token_by_id`. -/
def resolveActiveTokenById (u : UserId) (id : Uuid) : Action SessionError SessionToken := do
  let token : Option SessionToken ← (select (.activeTokenById u id)).mapErr .ofSqlx
  .ofOption .forbidden token

/-- `create_with_kind`: the second UUID is the default of the column `id`. -/
def createWithKind (u : UserId) (expiresAt : Time) (kind : SessionKind) (pairId : Option Uuid) :
    Action SessionError SessionToken := do
  let token ← newUuid
  let id ← newUuid
  let _ ← (execute (.insertSession id ⟨token⟩ u kind pairId expiresAt)).mapErr .ofSqlx
  return ⟨token⟩

/-- `find_valid`. -/
def findValid (token : SessionToken) : Action SessionError (Option Session) := do
  let row : Option SessionRow ← (select (.activeSession token)).mapErr .ofSqlx
  match row with
  | some r => .done (r.toSession.map some)
  | none => return none

/-- `revoke`. -/
def revoke (token : SessionToken) : Action SessionError Unit :=
  (execute (.deleteSession token)).mapErr .ofSqlx

/-- `revoke_pair`. -/
def revokePair (pairId : Uuid) (exceptToken : SessionToken) : Action SessionError Unit :=
  (execute (.deletePair pairId exceptToken)).mapErr .ofSqlx

/-- `list_active_by_user`. -/
def listActiveByUser (u : UserId) : Action SessionError (List SessionSummary) := do
  let rows : List SessionRow ← (select (.activeSessions u)).mapErr .ofSqlx
  return rows.map (·.toSummary)

/-- `revoke_by_id`. -/
def revokeById (u : UserId) (id : Uuid) : Action SessionError Unit := do
  let token ← resolveActiveTokenById u id
  revoke token

/-- `update_memberships`. -/
def updateMemberships (token : SessionToken) (snapshots : List MembershipSnapshot) :
    Action SessionError Unit :=
  (execute (.setMemberships token snapshots)).mapErr .ofSqlx

/-- `add_membership`. -/
def addMembership (u : UserId) (snapshot : MembershipSnapshot) : Action SessionError Unit :=
  (execute (.addSnapshot u snapshot)).mapErr .ofSqlx

/-- `update_membership_for_user`. -/
def updateMembershipForUser (u : UserId) (snapshot : MembershipSnapshot) :
    Action SessionError Unit :=
  (execute (.updateSnapshot u snapshot)).mapErr .ofSqlx

/-- `remove_membership`. -/
def removeMembership (u : UserId) (t : TenantId) : Action SessionError Unit :=
  (execute (.removeSnapshot u t)).mapErr .ofSqlx

/-- The store over the database. -/
def store : SessionStore :=
  { createWithKind, findValid, revoke, revokeById, revokePair, listActiveByUser,
    updateMemberships, addMembership, updateMembershipForUser, removeMembership }

end PgSessionStore

/-! ## The cache over the database -/

/-- The time-to-live of a cached session, in seconds. -/
def sessionTtlSeconds : Nat := 900

namespace CachedSessionStore

/-- The error of a store that was created without a connection. -/
def unavailable : SessionError := .internal "redis session cache unavailable"

/-- `read_cache`. -/
def readCache (connected : Bool) (token : SessionToken) :
    Action SessionError (Option Session) := do
  .rejectIf (connected = false) unavailable
  let value : Option Session ← (command (.get token)).mapErr fun e => .internal ("redis get: " ++ e)
  match value with
  | some cached => do
    let t ← now
    if cached.expiresAt ≤ t then return none else return some cached
  | none => return none

/-- `write_cache`. -/
def writeCache (connected : Bool) (token : SessionToken) (session : Session) :
    Action SessionError Unit := do
  .rejectIf (connected = false) unavailable
  (command (.setex token sessionTtlSeconds session)).mapErr fun e => .internal ("redis setex: " ++ e)

/-- `should_cache`. -/
def shouldCache (kind : SessionKind) : Bool := kind.isAccess

/-- `invalidate_cache`. -/
def invalidateCache (connected : Bool) (token : SessionToken) : Action SessionError Unit := do
  .rejectIf (connected = false) unavailable
  (command (.del [token])).mapErr fun e => .internal ("redis del: " ++ e)

/-- `invalidate_active_tokens`: failures are logged and otherwise ignored. -/
def invalidateActiveTokens (connected : Bool) (u : UserId) : Action SessionError Unit := do
  match ← (PgSessionStore.activeTokensForUser u).attempt with
  | .ok tokens =>
    if tokens = [] ∨ connected = false then return ()
    else do
      let _ ← (command (.del tokens)).attempt
      return ()
  | .error _ => return ()

/-- `create_with_kind`. -/
def createWithKind (connected : Bool) (u : UserId) (expiresAt : Time) (kind : SessionKind)
    (pairId : Option Uuid) : Action SessionError SessionToken := do
  let token ← PgSessionStore.createWithKind u expiresAt kind pairId
  if shouldCache kind then do
    let session : Session := { userId := u, expiresAt, kind, pairId, tenantMemberships := [] }
    let _ ← (writeCache connected token session).attempt
    return token
  else return token

/-- The part of `find_valid` that writes a session found in the database to the cache. -/
def fillCache (connected : Bool) (token : SessionToken) (session : Option Session) :
    Action SessionError (Option Session) :=
  match session with
  | some s =>
    if shouldCache s.kind then do
      let _ ← (writeCache connected token s).attempt
      return session
    else return session
  | none => return session

/-- `find_valid`. -/
def findValid (connected : Bool) (token : SessionToken) :
    Action SessionError (Option Session) := do
  match ← (readCache connected token).attempt with
  | .ok (some session) => return some session
  | _ => do
    let session ← PgSessionStore.findValid token
    fillCache connected token session

/-- `revoke`. -/
def revoke (connected : Bool) (token : SessionToken) : Action SessionError Unit := do
  PgSessionStore.revoke token
  let _ ← (invalidateCache connected token).attempt
  return ()

/-- `revoke_by_id`. -/
def revokeById (connected : Bool) (u : UserId) (id : Uuid) : Action SessionError Unit := do
  let token ← PgSessionStore.resolveActiveTokenById u id
  revoke connected token

/-- `update_memberships`. -/
def updateMemberships (connected : Bool) (token : SessionToken)
    (snapshots : List MembershipSnapshot) : Action SessionError Unit := do
  PgSessionStore.updateMemberships token snapshots
  let _ ← (invalidateCache connected token).attempt
  return ()

/-- `add_membership`. -/
def addMembership (connected : Bool) (u : UserId) (snapshot : MembershipSnapshot) :
    Action SessionError Unit := do
  PgSessionStore.addMembership u snapshot
  invalidateActiveTokens connected u

/-- `update_membership_for_user`. -/
def updateMembershipForUser (connected : Bool) (u : UserId) (snapshot : MembershipSnapshot) :
    Action SessionError Unit := do
  PgSessionStore.updateMembershipForUser u snapshot
  invalidateActiveTokens connected u

/-- `remove_membership`. -/
def removeMembership (connected : Bool) (u : UserId) (t : TenantId) :
    Action SessionError Unit := do
  PgSessionStore.removeMembership u t
  invalidateActiveTokens connected u

/-- The cached store; `revoke_pair` and `list_active_by_user` only reach the database. -/
def store (connected : Bool) : SessionStore :=
  { createWithKind := createWithKind connected
    findValid := findValid connected
    revoke := revoke connected
    revokeById := revokeById connected
    revokePair := PgSessionStore.revokePair
    listActiveByUser := PgSessionStore.listActiveByUser
    updateMemberships := updateMemberships connected
    addMembership := addMembership connected
    updateMembershipForUser := updateMembershipForUser connected
    removeMembership := removeMembership connected }

end CachedSessionStore

end Klynt
