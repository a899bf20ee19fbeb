import Klynt.Persistence.AccountFrame
import Klynt.Service.Gateway
import Klynt.System.LoginEffect

set_option relaxedAutoImplicit false
set_option autoImplicit false

/-!
# Runs of the platform with its accounts

The calls behind the routes of the platform, made one after another with any pattern of failing
requests, while the clock moves and administrators change accounts.  What each call does to the
tokens of one user is read off the requests it issues: only a login and a verification create a
session, and a login does so for active users only.

## Main definitions

* `Deployment` — the platform with its settings.
* `AccountCall`, `AccountStep` — the calls, and the steps of a run.
* `Db.OutOfUse` — the account of a user is deleted or not active.

## Main results

* `tokenOf_step` — a step gives no token to a user whose account is out of use, unless an address
  of the user is verified.
* `exec_requireAuth` — the middleware accepts tokens of the actor only.
-/

namespace Klynt

variable [Unicode]

/-! ## The platform -/

/-- The settings of a platform. -/
structure Deployment where
  /-- The validation of login requests. -/
  validate : LoginRequest → Except String Unit
  /-- The digest of verification tokens. -/
  sha256Hash : String → String
  /-- What registrations need. -/
  registration : Registration
  /-- The user service. -/
  user : UserService
  /-- Lifetimes of sessions. -/
  config : SessionConfig
  /-- Whether sessions are synchronised with memberships. -/
  enabled : Bool
  /-- The store of sessions. -/
  backend : SessionBackend

omit [Unicode] in
/-- The services of a platform. -/
def Deployment.services (d : Deployment) : Services :=
  .fromConfig d.validate d.sha256Hash d.registration d.user d.config d.enabled d.backend.store

/-! ## Calls -/

/-- The calls of the services behind the routes. -/
inductive AccountCall where
  /-- Register. -/
  | register (request : RegistrationRequest)
  /-- Log in. -/
  | login (request : LoginRequest)
  /-- Verify an address. -/
  | verifyEmail (token : String)
  /-- Request a password reset. -/
  | requestPasswordReset (email : String)
  /-- Complete a password reset. -/
  | resetPassword (token newPassword : String)
  /-- Log out. -/
  | logout (sessionToken : String)
  /-- Authenticate a request. -/
  | requireAuth (headers : RequestHeaders)
  /-- List the sessions of a user. -/
  | listSessions (u : UserId)
  /-- Revoke a session of a user. -/
  | revokeSession (u : UserId) (id : Uuid)
  /-- Get a user. -/
  | getUser (u : UserId)
  /-- List the users. -/
  | listUsers (pagination : PaginationRequest)
  /-- Change the profile of a user. -/
  | updateProfile (u : UserId) (updates : ProfileUpdate)
  /-- Change the password of a user. -/
  | changePassword (u : UserId) (currentPassword newPassword : String)
  /-- Delete a user. -/
  | deleteUser (ctx : ExecutionContext) (u : UserId)
  /-- A call of the tenant service. -/
  | tenant (ctx : ExecutionContext) (call : TenantCall)

namespace AccountCall

omit [Unicode] in
/-- The errors of a call. -/
def Err : AccountCall → Type
  | verifyEmail _ | requireAuth _ => GatewayError
  | getUser _ | listUsers _ | updateProfile _ _ | changePassword _ _ _ | deleteUser _ _ => UserError
  | tenant _ _ => TenantError
  | _ => AuthError

omit [Unicode] in
/-- The result of a call. -/
def Res : AccountCall → Type
  | register _ => UserId
  | login _ => LoginResponse
  | verifyEmail _ => SessionCookie
  | requireAuth _ => ExecutionContext
  | listSessions _ => List SessionSummary
  | getUser _ | updateProfile _ _ => UserProfile
  | listUsers _ => PaginatedResponse UserProfile
  | _ => Unit

/-- The use case or route behind a call. -/
def run (s : Services) : (c : AccountCall) → Action c.Err c.Res
  | register request => s.auth.register s.registration request
  | login request => s.auth.login request
  | verifyEmail token => Routes.verifyEmail s.auth s.session token
  | requestPasswordReset email => s.auth.requestPasswordReset s.registration email
  | resetPassword token newPassword => s.auth.resetPassword s.registration token newPassword
  | logout sessionToken => s.auth.logout sessionToken
  | requireAuth headers => Klynt.requireAuth s.session headers
  | listSessions u => s.auth.listSessions u
  | revokeSession u id => s.auth.revokeSession u id
  | getUser u => UserService.getUser u
  | listUsers pagination => UserService.listUsers pagination
  | updateProfile u updates => s.user.updateProfile u updates
  | changePassword u currentPassword newPassword =>
    UserService.changePassword u currentPassword newPassword
  | deleteUser ctx u => s.user.deleteUser ctx u
  | tenant ctx call => call.run s.tenant ctx

end AccountCall

/-- The labels of the steps of a run. -/
inductive AccountLabel where
  /-- A call with its outcome. -/
  | call (c : AccountCall) (r : Except c.Err c.Res)
  /-- Anything else. -/
  | other

omit [Unicode] in
/-- The clock moves, and administrators change accounts and layouts; no account comes or goes, and
no deletion is taken back. -/
def World.Administered (w w' : World) : Prop :=
  ∃ now users desktopLayouts, w.now ≤ now ∧
    List.Forall₂ (fun row row' : UserRow => row'.id = row.id ∧ row'.deletedAt = row.deletedAt)
      w.db.users users ∧
    w' = { w with now, db := { w.db with users, desktopLayouts } }

/-- The steps of a run. -/
inductive AccountStep (d : Deployment) (F : Req → Prop) : World → AccountLabel → World → Prop
  /-- A call. -/
  | call {c : AccountCall} {r : Except c.Err c.Res} {w w' : World}
      (h : (c.run d.services).Exec (Env F) w r w') : AccountStep d F w (.call c r) w'
  /-- Anything else. -/
  | other {w w' : World} (h : w.Administered w') : AccountStep d F w .other w'

/-- The account of a user is deleted or not active, if there is one. -/
def Db.OutOfUse (db : Db) (u : UserId) : Prop :=
  ∀ row ∈ db.users, row.id = u → ∀ user, row.intoUser = .ok user → user.isActive = false

section Frames

variable {d : Deployment} {F : Req → Prop} {w w' : World} {u : UserId} {token : SessionToken}

/-- A deleted account is out of use. -/
lemma Db.Deleted.outOfUse {db : Db} (h : db.Deleted u) : db.OutOfUse u := by
  intro row hrow hid user huser
  obtain ⟨-, -, hmark⟩ := UserRow.intoUser_ok huser
  have hdeleted := h.2 row hrow hid
  rw [← hmark] at hdeleted
  unfold User.isActive
  rw [Option.isNone_eq_false_iff.mpr hdeleted, Bool.and_false]

/-- **A deleted account stays deleted** in every step. -/
lemma AccountStep.deleted {l : AccountLabel} (h : AccountStep d F w l w') (hu : w.db.Deleted u) :
    w'.db.Deleted u := by
  cases h with
  | call h => exact deleted_of_exec h hu
  | other h =>
    obtain ⟨_, _, _, -, hrows, rfl⟩ := h
    exact hu.of_forall₂ (hrows.imp fun row row' hrow => ⟨hrow.1, fun hmark => hrow.2 ▸ hmark⟩)

/-! ## Tenant calls -/

/-- An effect on the tenant tables leaves accounts and sessions alone. -/
lemma TenantEffect.sameAccounts {now : Time} {actor : UserId} {db db' : Db} {call : TenantCall}
    {complete : Bool} {event : Option MembershipEvent}
    (h : TenantEffect now actor db call complete event db') : db.SameAccounts db' := by
  have hstatement : ∀ {db db' : Db} (q : Update) {r : q.Res}, q.OnTenancy →
      q.exec now db = .ok (r, db') → db.SameAccounts db' := fun _ _ hq h => hq.frame h
  cases h with
  | created _ _ h => exact Transaction.frame (t := .createTenant _ _) h
  | renamed _ _ _ h => exact hstatement (.tenant _) trivial h
  | deleted _ _ h => exact hstatement (.dropTenant _) trivial h
  | memberAdded _ _ _ _ h => exact hstatement (.insertMembership _) trivial h
  | memberUpdated _ _ _ _ h => exact hstatement (.membershipRole _ _ _ _) trivial h
  | memberRemoved _ _ _ h => exact hstatement (.deleteMembership _ _) trivial h
  | inviteCreated _ _ _ _ _ _ _ h => exact hstatement (.insertInvite _) trivial h
  | inviteInserted _ h => exact hstatement (.insertMembership _) trivial h
  | inviteAccepted _ h hmark =>
    exact (hstatement (.insertMembership _) trivial h).trans (hstatement (.acceptInvite _) trivial hmark)
  | roleCreated _ _ _ _ _ h => exact Transaction.frame (t := .createRole _) h
  | roleUpdated _ _ h => exact Transaction.frame (t := .updateRolePermissions _ _ _) h
  | roleDeleted _ _ h => exact hstatement (.dropRole _ _) trivial h

/-- A call of the tenant service adds no token. -/
lemma TenantCall.tokenOf {enabled : Bool} {backend : SessionBackend} {ctx : ExecutionContext}
    {call : TenantCall} {r : Except TenantError Unit}
    (h : (call.run (platform enabled backend) ctx).Exec (Env F) w r w')
    (ht : w'.TokenOf u token) : w.TokenOf u token := by
  cases TenantCall.outcome h with
  | nothing => exact ht
  | failed hctx heff => exact ht.congr heff.sameAccounts.sessions rfl
  | silent hctx heff => exact ht.congr heff.sameAccounts.sessions rfl
  | @notified actor event db minted r₁ r w' hctx heff hrun hr =>
    have hquiet : ({ w with db, minted } : World).Evolves w' :=
      hrun.rel World.Evolves.refl World.Evolves.trans (fun _ _ _ _ hq hE => hq.evolves hE)
        (quiet_notify enabled backend event)
    exact (hquiet.tokenOf ht).congr heff.sameAccounts.sessions rfl

/-! ## Sessions -/

omit [Unicode] in
/-- `GET` reads the cache. -/
lemma reads_get : (command (.get token)).Reads (Env F) w (· = w.redis.get w.now token) := by
  refine Prog.ensures_ask.mpr ?_
  rintro a w' (⟨rfl, rfl⟩ | ⟨-, ⟨m, rfl⟩, redis, rfl, hredis⟩)
  · exact ⟨rfl, fun _ h => (Except.ok.inj h).symm⟩
  · have hsame : redis = w.redis := funext fun k => (hredis k).elim id id
    subst hsame
    exact ⟨rfl, fun _ h => by cases h⟩

omit [Unicode] in
/-- A cached session makes its token one of its user. -/
lemma CachedSessionStore.reads_readCache (connected : Bool) :
    (readCache connected token).Reads (Env F) w
      fun found => ∀ s, found = some s → w.TokenOf s.userId token := by
  refine (Prog.reads_rejectIf _ _).bind fun _ _ => (reads_get.mapErr).bind fun found hfound => ?_
  cases found with
  | none => exact (Prog.reads_pure _).mono (by rintro _ rfl s hs; cases hs)
  | some cached =>
    refine reads_now.bind fun t ht => ?_
    split
    · exact (Prog.reads_pure _).mono (by rintro _ rfl s hs; cases hs)
    · refine (Prog.reads_pure _).mono ?_
      rintro _ rfl s hs
      obtain rfl := Option.some.inj hs
      obtain ⟨e, he, hget⟩ := Option.bind_eq_some_iff.mp hfound.symm
      split at hget
      · exact .inr ⟨e, he, congrArg Session.userId (Option.some.inj hget)⟩
      · cases hget

omit [Unicode] in
/-- A stored session makes its token one of its user. -/
lemma PgSessionStore.reads_findValid :
    (findValid token).Reads (Env F) w
      fun found => ∀ s, found = some s → w.TokenOf s.userId token := by
  refine ((reads_select _).mapErr).bind fun (found : Option SessionRow) hfound => ?_
  cases found with
  | none => exact (Prog.reads_pure _).mono (by rintro _ rfl s hs; cases hs)
  | some row =>
    refine (Prog.reads_done _).mono ?_
    rintro _ hrow s rfl
    cases hsession : row.toSession with
    | error e => rw [hsession] at hrow; cases hrow
    | ok session =>
      rw [hsession] at hrow
      obtain rfl := Option.some.inj (Except.ok.inj hrow)
      obtain ⟨-, -, huser, -⟩ := SessionRow.toSession_ok hsession
      have hmem := List.mem_of_find?_eq_some hfound.symm
      have htoken := List.find?_some hfound.symm
      exact .inl ⟨row, hmem, (of_decide_eq_true htoken).1, huser.symm⟩

omit [Unicode] in
/-- **Looking a session up** finds sessions of the token's user only, and caches no others. -/
lemma SessionBackend.wp_findValid (backend : SessionBackend) :
    (backend.store.findValid token).wp (Req.Spares u) (Env F)
      (fun r _ => ∀ s, r = .ok (some s) → w.TokenOf s.userId token) w := by
  have hstored : (PgSessionStore.findValid token).wp (Req.Spares u) (Env F)
      (fun r w' => w' = w ∧ ∀ found, r = .ok found → ∀ s, found = some s →
        w.TokenOf s.userId token) w := by
    refine Prog.All.wp ?_ PgSessionStore.reads_findValid
    refine (all_select fun _ => trivial).mapErr.bind fun (found : Option SessionRow) => ?_
    cases found with
    | none => exact Prog.all_pure _
    | some row => exact Prog.all_done _
  cases backend with
  | database => exact hstored.mono fun r w' hr s hs => hr.2 _ hs s rfl
  | cached connected =>
    -- without a cache entry, what is found in the database is cached
    have hfill : (PgSessionStore.findValid token >>= CachedSessionStore.fillCache connected token).wp
        (Req.Spares u) (Env F) (fun r _ => ∀ s, r = .ok (some s) → w.TokenOf s.userId token) w := by
      refine Prog.wp_bind.mpr (hstored.mono ?_)
      rintro r w₁ ⟨hw, hr⟩
      obtain rfl : w = w₁ := hw.symm
      cases r with
      | error e => exact fun s hs => by cases hs
      | ok found =>
        cases found with
        | none => exact Prog.wp_pure.mpr fun s hs => by cases hs
        | some session =>
          have htoken := hr _ rfl session rfl
          have hreturn : ∀ w', (pure (some session) : Action SessionError (Option Session)).wp
              (Req.Spares u) (Env F) (fun r _ => ∀ s, r = .ok (some s) →
                w.TokenOf s.userId token) w' := by
            intro w'
            refine Prog.wp_pure.mpr fun s hs => ?_
            obtain rfl := Option.some.inj (Except.ok.inj hs)
            exact htoken
          unfold CachedSessionStore.fillCache
          dsimp only
          split
          · refine Prog.wp_bind.mpr (Prog.wp_attempt.mpr ?_)
            refine Prog.wp_bind.mpr (Prog.wp_rejectIf.mpr ⟨fun _ => ?_, fun _ => hreturn _⟩)
            refine Prog.wp_mapErr.mpr (Prog.wp_ask.mpr ⟨?_, fun a w₁ _ => Prog.wp_done.mpr (hreturn _)⟩)
            rintro rfl
            exact htoken
          · exact hreturn _
    have hread : (CachedSessionStore.readCache connected token).wp (Req.Spares u) (Env F)
        (fun r w' => w' = w ∧ ∀ found, r = .ok found → ∀ s, found = some s →
          w.TokenOf s.userId token) w :=
      Prog.All.wp (CachedSessionStore.all_readCache _ _ (fun _ => trivial) fun _ => trivial)
        (CachedSessionStore.reads_readCache connected)
    refine Prog.wp_bind.mpr (Prog.wp_attempt.mpr (hread.mono ?_))
    rintro r w₁ ⟨hw, hr⟩
    obtain rfl : w = w₁ := hw.symm
    rcases r with e | _ | session
    · exact hfill
    · exact hfill
    · refine Prog.wp_pure.mpr fun s hs => ?_
      obtain rfl := Option.some.inj (Except.ok.inj hs)
      exact hr _ rfl _ rfl

omit [Unicode] in
/-- A session that validates makes its token one of its user. -/
lemma SessionService.wp_validate (config : SessionConfig) (backend : SessionBackend) :
    (SessionService.validate ⟨config, backend.store⟩ token).wp (Req.Spares u) (Env F)
      (fun r _ => ∀ s, r = .ok s → w.TokenOf s.userId token) w := by
  refine Prog.wp_bind.mpr (Prog.wp_mapErr.mpr (backend.wp_findValid.mono fun r w' hr => ?_))
  rcases r with e | found
  · exact fun s hs => by cases hs
  · refine Prog.wp_ofOption.mpr ⟨fun session hfound s hs => ?_, fun _ s hs => by cases hs⟩
    subst hfound
    obtain rfl := Except.ok.inj hs
    exact hr _ rfl

omit [Unicode] in
/-- **The middleware** accepts a token only as one of the actor it names. -/
lemma wp_requireAuth (config : SessionConfig) (backend : SessionBackend) {headers : RequestHeaders} :
    (requireAuth ⟨config, backend.store⟩ headers).wp (Req.Spares u) (Env F)
      (fun r _ => ∀ ctx, r = .ok ctx → ∃ v token, ctx.actorId = some v.inner ∧
        extractSessionToken headers = some token ∧ w.TokenOf v token) w := by
  refine Prog.wp_bind.mpr (Prog.wp_ofOption.mpr ⟨fun token htoken => ?_, fun _ _ h => by cases h⟩)
  refine Prog.wp_bind.mpr (Prog.wp_mapErr.mpr (Prog.wp_bind.mpr ?_))
  refine (SessionService.wp_validate config backend).mono fun r w' hr => ?_
  rcases r with e | session
  · exact fun ctx h => by cases h
  · dsimp only
    split
    · refine Prog.wp_pure.mpr (Prog.wp_pure.mpr fun ctx hctx => ?_)
      obtain rfl := Except.ok.inj hctx
      exact ⟨session.userId, token, rfl, htoken, hr session rfl⟩
    · exact Prog.wp_fail.mpr fun ctx h => by cases h

omit [Unicode] in
/-- **A request that was authenticated**: its token was one of the actor's. -/
theorem exec_requireAuth {config : SessionConfig} {backend : SessionBackend}
    {headers : RequestHeaders} {ctx : ExecutionContext}
    (h : (requireAuth ⟨config, backend.store⟩ headers).Exec (Env F) w (.ok ctx) w') :
    ∃ v token, ctx.actorId = some v.inner ∧ extractSessionToken headers = some token ∧
      w.TokenOf v token := by
  have hrel := (wp_requireAuth (u := ⟨0⟩) config backend).rel (R := fun _ _ => True)
    (fun _ => trivial) (fun _ _ => trivial) (fun _ _ _ _ _ _ => trivial) h
  exact hrel.2 ctx rfl

section Spares

variable {config : SessionConfig} {backend : SessionBackend}

omit [Unicode] in
/-- Revoking a session adds none. -/
lemma all_revoke : (backend.store.revoke token).All (Req.AlwaysSpares u) := by
  cases backend with
  | database => exact (all_execute fun _ => trivial).mapErr
  | cached connected =>
    refine Prog.All.bind (all_execute fun _ => trivial).mapErr fun _ => ?_
    refine (CachedSessionStore.all_invalidateCache _ _ fun _ => trivial).attempt.bind fun _ => ?_
    exact Prog.all_pure _

omit [Unicode] in
/-- Revoking a pair of sessions adds none. -/
lemma all_revokePair (pairId : Uuid) :
    (backend.store.revokePair pairId token).All (Req.AlwaysSpares u) := by
  cases backend <;> exact (all_execute fun _ => trivial).mapErr

omit [Unicode] in
/-- Revoking a session by its id adds none. -/
lemma all_revokeById (v : UserId) (id : Uuid) :
    (backend.store.revokeById v id).All (Req.AlwaysSpares u) := by
  have hresolve : (PgSessionStore.resolveActiveTokenById v id).All (Req.AlwaysSpares u) :=
    (all_select fun _ => trivial).mapErr.bind fun _ => Prog.all_ofOption _ _
  have hrevoke : ∀ backend : SessionBackend, ∀ token,
      (backend.store.revoke token).All (Req.AlwaysSpares u) := fun _ _ => all_revoke
  cases backend with
  | database => exact hresolve.bind (hrevoke .database)
  | cached connected => exact hresolve.bind (hrevoke (.cached connected))

omit [Unicode] in
/-- The sessions of a user are read only. -/
lemma all_listActiveByUser (v : UserId) :
    (backend.store.listActiveByUser v).All (Req.AlwaysSpares u) := by
  cases backend <;> exact (all_select fun _ => trivial).mapErr.bind fun _ => Prog.all_pure _

omit [Unicode] in
/-- A session of another user. -/
lemma all_createWithKind {v : UserId} (hv : v ≠ u) (kind : SessionKind) (pairId : Option Uuid) :
    (SessionService.createWithKind ⟨config, backend.store⟩ v kind pairId).All
      (Req.AlwaysSpares u) := by
  refine Prog.All.bind ⟨fun _ => trivial, fun _ => trivial⟩ fun t => ?_
  refine Prog.All.bind (Prog.All.mapErr ?_) fun _ => Prog.all_pure _
  have hinsert : ∀ expiresAt, (PgSessionStore.createWithKind v expiresAt kind pairId).All
      (Req.AlwaysSpares u) := by
    intro expiresAt
    refine Prog.All.bind ⟨fun _ => trivial, fun _ => trivial⟩ fun token => ?_
    refine Prog.All.bind ⟨fun _ => trivial, fun _ => trivial⟩ fun id => ?_
    exact (all_execute fun _ => hv).mapErr.bind fun _ => Prog.all_pure _
  cases backend with
  | database => exact hinsert _
  | cached connected =>
    refine (hinsert _).bind fun token => ?_
    dsimp only
    split
    · refine (CachedSessionStore.all_writeCache _ _ _ ?_).attempt.bind fun _ => Prog.all_pure _
      exact fun _ huser => absurd huser hv
    · exact Prog.all_pure _

omit [Unicode] in
/-- The snapshots of a session are replaced. -/
lemma all_updateMemberships (l : List MembershipSnapshot) :
    (backend.store.updateMemberships token l).All (Req.AlwaysSpares u) := by
  cases backend with
  | database => exact (all_execute fun _ => trivial).mapErr
  | cached connected =>
    refine Prog.All.bind (all_execute fun _ => trivial).mapErr fun _ => ?_
    refine (CachedSessionStore.all_invalidateCache _ _ fun _ => trivial).attempt.bind fun _ => ?_
    exact Prog.all_pure _

omit [Unicode] in
/-- Logging out adds no session. -/
lemma guarded_logout (d : Deployment) (sessionToken : String) :
    (d.services.auth.logout sessionToken).Guarded (Req.Spares u) (Env F) w := by
  refine Prog.wp_bind.mpr (Prog.wp_ofOption.mpr ⟨fun token _ => ?_, fun _ => trivial⟩)
  refine Prog.Guarded.mapErr ((SessionService.wp_validate d.config d.backend).bind_guarded ?_)
  rintro session w₁ -
  refine Prog.All.guarded (all_revoke.mapErr.bind fun _ => ?_)
  cases session.pairId with
  | some pairId => exact (all_revokePair pairId).mapErr
  | none => exact Prog.all_pure _

end Spares

/-! ## Accounts -/

omit [Unicode] in
/-- A user is stored. -/
lemma all_createPendingUser (fullName username : String) (email : Email) (hash : String)
    (role : UserRole) (institutionId : Option Uuid) :
    (PgUserRepository.createPendingUser fullName username email hash role institutionId).All
      (Req.AlwaysSpares u) := by
  refine Prog.All.bind ⟨fun _ => trivial, fun _ => trivial⟩ fun id => ?_
  refine Prog.All.bind ⟨fun _ => trivial, fun _ => trivial⟩ fun t => ?_
  refine (all_execute fun _ => trivial).mapErr.bind fun (inserted : Option UserId) => ?_
  exact (Prog.all_rejectIf _ _).bind fun _ => Prog.all_pure _

/-- A registration adds no session. -/
lemma all_register (auth : AuthService) (registration : Registration)
    (request : RegistrationRequest) :
    (auth.register registration request).All (Req.AlwaysSpares u) := by
  refine (Prog.all_done _).bind fun _ => (Prog.all_done _).bind fun _ => ?_
  refine Prog.All.bind ⟨fun _ => trivial, fun _ => Prog.all_pure _⟩ fun hashed => ?_
  -- the ascription keeps the address from being evaluated
  refine (Prog.all_done _).bind fun hash => ((Prog.all_done _).bind fun email => ?_ :
    Prog.All _ (_ >>= _))
  refine (Prog.all_rejectIf _ _).bind fun _ => (Prog.all_rejectIf _ _).bind fun _ => ?_
  refine (all_createPendingUser _ _ _ _ _ _).mapErr.bind fun v =>
    Prog.All.bind ?_ fun _ => Prog.all_pure _
  -- the verification message
  refine Prog.All.bind ⟨fun _ => trivial, fun _ => trivial⟩ fun token => ?_
  refine Prog.All.bind ⟨fun _ => trivial, fun _ => trivial⟩ fun t => ?_
  refine (all_execute fun _ => trivial).mapErr.mapErr.bind fun _ => ?_
  exact Prog.All.bind ⟨fun _ => trivial, fun _ => Prog.all_pure _⟩ fun sent => Prog.all_done _

/-- A user is looked up by id. -/
lemma all_findById (v : UserId) : (PgUserRepository.findById v).All (Req.AlwaysSpares u) :=
  (all_select fun _ => trivial).mapErr.bind fun _ => Prog.all_done _

/-- Getting a user adds no session. -/
lemma all_getUser (v : UserId) : (UserService.getUser v).All (Req.AlwaysSpares u) := by
  refine (all_findById v).mapErr.bind fun found => (Prog.all_ofOption _ _).bind fun user => ?_
  exact (Prog.all_rejectIf _ _).bind fun _ => Prog.all_pure _

/-- Listing users adds no session. -/
lemma all_listUsers (pagination : PaginationRequest) :
    (UserService.listUsers pagination).All (Req.AlwaysSpares u) := by
  refine Prog.All.bind (Prog.All.mapErr ?_) fun _ => Prog.all_pure _
  refine (all_select fun _ => trivial).mapErr.bind fun (rows : List UserRow) => ?_
  exact (all_select fun _ => trivial).mapErr.bind fun (total : Nat) => Prog.all_pure _

omit [Unicode] in
/-- A consumed token adds no session. -/
lemma all_consume (kind : TokenKind) (hash : String) :
    (PgTokenStore.consume kind hash).All (Req.AlwaysSpares u) :=
  (all_execute fun _ => trivial).mapErr.bind fun (_ : Option UserId) => Prog.all_ofOption _ _

/-- A request for a password reset adds no session. -/
lemma all_requestPasswordReset (auth : AuthService) (registration : Registration) (email : String) :
    (auth.requestPasswordReset registration email).All (Req.AlwaysSpares u) := by
  -- the ascription keeps the address from being evaluated
  refine ((Prog.all_done _).bind fun email => Prog.All.bind ?_ fun found => ?_ : Prog.All _ (_ >>= _))
  · exact ((all_select fun _ => trivial).mapErr.bind fun _ => Prog.all_done _).mapErr
  cases found with
  | none => exact Prog.all_pure _
  | some user =>
    refine Prog.All.bind (Prog.All.attempt ?_) fun _ => Prog.all_pure _
    refine Prog.All.bind ⟨fun _ => trivial, fun _ => trivial⟩ fun token => ?_
    refine Prog.All.bind ⟨fun _ => trivial, fun _ => trivial⟩ fun t => ?_
    refine (all_execute fun _ => trivial).mapErr.mapErr.bind fun _ => ?_
    exact Prog.All.bind ⟨fun _ => trivial, fun _ => Prog.all_pure _⟩ fun sent => Prog.all_done _

/-- A password reset adds no session. -/
lemma all_resetPassword (auth : AuthService) (registration : Registration)
    (code newPassword : String) :
    (auth.resetPassword registration code newPassword).All (Req.AlwaysSpares u) := by
  refine (Prog.all_done _).bind fun _ => (all_consume _ _).mapErr.bind fun v => ?_
  refine Prog.All.bind ⟨fun _ => trivial, fun _ => Prog.all_pure _⟩ fun hashed => ?_
  refine (Prog.all_done _).bind fun hash => Prog.All.mapErr ?_
  exact (all_execute fun _ => trivial).mapErr.bind fun (rows : Nat) => Prog.all_rejectIf _ _

/-- A new profile adds no session. -/
lemma all_updateProfile (service : UserService) (v : UserId) (updates : ProfileUpdate) :
    (service.updateProfile v updates).All (Req.AlwaysSpares u) := by
  refine (Prog.all_done _).bind fun _ => (all_findById v).mapErr.bind fun found => ?_
  refine (Prog.all_ofOption _ _).bind fun user => ?_
  refine Prog.All.bind ⟨fun _ => trivial, fun _ => trivial⟩ fun t => (Prog.all_done _).bind fun user => ?_
  refine Prog.All.bind (Prog.All.mapErr ?_) fun _ => Prog.all_pure _
  refine (all_execute fun _ => trivial).mapErr.bind fun (rows : Nat) => ?_
  exact (Prog.all_rejectIf _ _).bind fun _ => Prog.all_pure _

/-- A new password adds no session. -/
lemma all_changePassword (v : UserId) (currentPassword newPassword : String) :
    (UserService.changePassword v currentPassword newPassword).All (Req.AlwaysSpares u) := by
  refine (all_findById v).mapErr.bind fun found => (Prog.all_ofOption _ _).bind fun user => ?_
  refine (Prog.all_rejectIf _ _).bind fun _ => ?_
  refine Prog.All.bind ⟨fun _ => trivial, fun _ => Prog.all_pure _⟩ fun valid => ?_
  refine (Prog.all_done _).bind fun _ => (Prog.all_rejectIf _ _).bind fun _ => ?_
  refine Prog.All.bind ⟨fun _ => trivial, fun _ => Prog.all_pure _⟩ fun hashed => ?_
  refine (Prog.all_done _).bind fun hash => Prog.All.mapErr ?_
  exact (all_execute fun _ => trivial).mapErr.bind fun (rows : Nat) => Prog.all_rejectIf _ _

/-- A deletion adds no session. -/
lemma all_deleteUser (service : UserService) (ctx : ExecutionContext) (v : UserId) :
    (service.deleteUser ctx v).All (Req.AlwaysSpares u) := by
  refine (all_findById v).mapErr.bind fun found => (Prog.all_ofOption _ _).bind fun user => ?_
  refine (Prog.all_rejectIf _ _).bind fun _ => ?_
  refine Prog.All.bind ⟨fun _ => trivial, fun _ => trivial⟩ fun t => (Prog.all_done _).bind fun _ => ?_
  refine Prog.All.mapErr ?_
  exact (all_execute fun _ => trivial).mapErr.bind fun (rows : Nat) => Prog.all_rejectIf _ _

/-- Users found by email are in the table. -/
lemma reads_findByEmail (email : Email) : (PgUserRepository.findByEmail email).Reads (Env F) w
    fun found => ∀ user, found = some user →
      ∃ row ∈ w.db.users, row.intoUser = .ok user := by
  refine (Prog.ensures_iff.mpr fun r w' h => ?_)
  cases r with
  | ok found =>
    obtain ⟨hfound, rfl⟩ := exec_findByEmail h
    refine ⟨rfl, fun found' h' => ?_⟩
    obtain rfl := Except.ok.inj h'
    exact hfound
  | error e =>
    have hread : (PgUserRepository.findByEmail email).Reads (Env F) w fun _ => True :=
      ((reads_select _).mapErr).bind fun _ _ => (Prog.reads_done _).mono fun _ _ => trivial
    exact ⟨(hread.of_exec h).1, fun _ h' => by cases h'⟩

/-- **A login** gives no token to a user whose account is out of use, wherever it fails.

**Proof sketch.** Until the check of the account the login only reads.  The user it goes on for is
active and hence another one; all sessions it creates and caches are of that user. -/
lemma guarded_login (d : Deployment) (request : LoginRequest) (hu : w.db.OutOfUse u) :
    (d.services.auth.login request).Guarded (Req.Spares u) (Env F) w := by
  refine (Prog.reads_done _).bind_guarded (Prog.all_done _) fun _ _ => ?_
  refine (Prog.reads_done _).bind_guarded (Prog.all_done _) fun email _ => ?_
  refine (reads_findByEmail email).mapErr.bind_guarded ?_ fun found hfound => ?_
  · exact ((all_select fun _ => trivial).mapErr.bind fun _ => Prog.all_done _).mapErr
  refine (Prog.reads_ofOption _ _).bind_guarded (Prog.all_ofOption _ _) fun user huser => ?_
  have hverify : (Prog.ask (.verifyPassword request.password user.passwordHash) pure :
      Action AuthError (Except String Bool)).Reads (Env F) w fun _ => True := by
    refine Prog.ensures_ask.mpr ?_
    rintro a w' rfl
    exact ⟨rfl, fun _ _ => trivial⟩
  refine hverify.bind_guarded ⟨fun _ => trivial, fun _ => Prog.all_pure _⟩ fun valid _ => ?_
  refine (Prog.reads_done _).bind_guarded (Prog.all_done _) fun passwordValid _ => ?_
  refine (Prog.reads_rejectIf _ _).bind_guarded (Prog.all_rejectIf _ _) fun _ _ => ?_
  refine (Prog.reads_rejectIf _ _).bind_guarded (Prog.all_rejectIf _ _) fun _ hactive => ?_
  have hother : user.id ≠ u := by
    obtain ⟨row, hrow, hmap⟩ := hfound user huser
    intro hid
    exact hactive (hu row hrow ((UserRow.intoUser_ok hmap).1.symm.trans hid) user hmap)
  refine Prog.All.guarded (Prog.All.bind ⟨fun _ => trivial, fun _ => trivial⟩ fun pairId => ?_)
  refine (all_createWithKind hother _ _).mapErr.bind fun access => Prog.All.bind ?_ fun refresh => ?_
  · refine (all_createWithKind hother _ _).attempt.bind fun r => ?_
    cases r with
    | ok refresh => exact Prog.all_pure _
    | error e => exact (Prog.All.mapErr all_revoke).attempt.bind fun _ => Prog.all_fail _
  · refine ((all_select fun _ => trivial).mapErr.bind fun _ => Prog.all_done _).mapErr.bind fun ms => ?_
    exact (all_updateMemberships _).mapErr.bind fun _ => Prog.all_pure _

/-- The token a verification would consume is not one of the user's. -/
def AccountLabel.Spares (sha256Hash : String → String) (u : UserId) (w : World) :
    AccountLabel → Prop
  | .call (.verifyEmail token) _ => ∀ row,
      w.db.emailVerificationTokens.find? (·.usable (sha256Hash token) w.now) = some row →
      row.userId ≠ u
  | _ => True

omit [Unicode] in
/-- **The verification of another user's address** gives the user no token, wherever it fails. -/
lemma guarded_verifyEmail (d : Deployment) (code : String)
    (hu : ∀ row, w.db.emailVerificationTokens.find? (·.usable (d.sha256Hash code) w.now) = some row →
      row.userId ≠ u) :
    (Routes.verifyEmail d.services.auth d.services.session code).Guarded (Req.Spares u) (Env F) w := by
  have hconsume : (PgTokenStore.consume .emailVerification (d.sha256Hash code)).wp (Req.Spares u) (Env F)
      (fun r _ => ∀ v, r = .ok v → v ≠ u) w := by
    refine Prog.All.wp ?_ (Prog.ensures_iff.mpr fun r w' h v hv => ?_)
    · exact (all_execute fun _ => trivial).mapErr.bind fun (v : Option UserId) => Prog.all_ofOption _ _
    · subst hv
      obtain ⟨(consumed : Option UserId), w₁, hx, hv⟩ := Prog.exec_bind_ok.mp h
      obtain ⟨hx, -⟩ := exec_execute_db hx
      obtain ⟨⟨v', hsome, hv⟩ | ⟨-, hbad⟩, -⟩ := Prog.exec_ofOption.mp hv
      · obtain rfl := Except.ok.inj hv
        obtain ⟨hfind, -⟩ := Prod.mk.inj (Except.ok.inj hx)
        obtain ⟨row, hrow, rfl⟩ := Option.map_eq_some_iff.mp (hfind.trans hsome)
        exact hu row hrow
      · cases hbad
  have hverify : (d.services.auth.verifyEmail code).wp (Req.Spares u) (Env F)
      (fun r _ => ∀ v, r = .ok v → v ≠ u) w := by
    refine Prog.wp_bind.mpr (Prog.wp_mapErr.mpr (hconsume.mono fun r w' hr => ?_))
    rcases r with e | v
    · exact fun v h => by cases h
    · refine Prog.wp_bind.mpr (Prog.wp_mapErr.mpr (Prog.All.wp ?_ (Prog.ensures_iff.mpr ?_)))
      · exact (all_execute fun _ => trivial).mapErr.bind fun (rows : Nat) => Prog.all_rejectIf _ _
      · rintro r w₁ -
        rcases r with e | _
        · exact fun v h => by cases h
        · refine Prog.wp_pure.mpr fun v' hv' => ?_
          obtain rfl := Except.ok.inj hv'
          exact hr _ rfl
  have hroute : ((d.services.auth.verifyEmail code).mapErr GatewayError.auth).wp (Req.Spares u)
      (Env F) (fun r _ => ∀ v, r = .ok v → v ≠ u) w := by
    refine Prog.wp_mapErr.mpr (hverify.mono fun r _ hr v hv => ?_)
    exact hr v (Except.mapError_eq_ok.mp hv)
  refine hroute.bind_guarded fun v w₁ hv => Prog.All.guarded ?_
  refine (all_createWithKind (hv v rfl) _ _).mapErr.bind fun session => ?_
  exact Prog.All.bind ⟨fun _ => trivial, fun _ => trivial⟩ fun t => Prog.all_pure _

/-- **A step gives no token** to a user whose account is out of use, unless an address of the
user is verified in it. -/
theorem AccountStep.tokenOf {d : Deployment} {l : AccountLabel} (h : AccountStep d F w l w')
    (hu : w.db.OutOfUse u) (hl : l.Spares d.sha256Hash u w) (ht : w'.TokenOf u token) :
    w.TokenOf u token := by
  have hguarded : ∀ {ε α : Type} {p : Action ε α} {r : Except ε α},
      p.Guarded (Req.Spares u) (Env F) w → p.Exec (Env F) w r w' → w.TokenOf u token := by
    intro ε α p r hp hx
    have hrel := Prog.wp.rel (R := fun w w' : World => w'.TokenOf u token → w.TokenOf u token)
      (fun _ ht => ht) (fun h₁ h₂ ht => h₁ (h₂ ht)) (fun _ _ _ _ hq hE => hq.tokenOf hE) hp hx
    exact hrel.1 ht
  cases h with
  | other h =>
    obtain ⟨_, _, _, -, -, rfl⟩ := h
    exact ht
  | @call c r w w' h =>
    cases c with
    | register request => exact hguarded (all_register _ _ request).guarded h
    | login request => exact hguarded (guarded_login d request hu) h
    | verifyEmail code => exact hguarded (guarded_verifyEmail d code hl) h
    | requestPasswordReset email =>
      have hx : (d.services.auth.requestPasswordReset d.services.registration email).Exec (Env F) w r
        w' := by assumption
      with_reducible exact hguarded (all_requestPasswordReset _ _ email).guarded hx
    | resetPassword code new => exact hguarded (all_resetPassword _ _ code new).guarded h
    | logout sessionToken => exact hguarded (guarded_logout d sessionToken) h
    | requireAuth headers =>
      exact hguarded ((wp_requireAuth d.config d.backend).mono fun _ _ _ => trivial) h
    | listSessions v => exact hguarded (all_listActiveByUser v).mapErr.guarded h
    | revokeSession v id => exact hguarded (all_revokeById v id).mapErr.guarded h
    | getUser v => exact hguarded (all_getUser v).guarded h
    | listUsers pagination => exact hguarded (all_listUsers pagination).guarded h
    | updateProfile v updates => exact hguarded (all_updateProfile _ v updates).guarded h
    | changePassword v old new => exact hguarded (all_changePassword v old new).guarded h
    | deleteUser ctx v => exact hguarded (all_deleteUser _ ctx v).guarded h
    | tenant ctx call => exact TenantCall.tokenOf h ht

end Frames

/-! ## A small platform -/

namespace Scenario

/-- The settings of a platform over the database, with the digest that changes nothing. -/
def deployment : Deployment where
  validate := fun _ => .ok ()
  sha256Hash := id
  registration := { validate := fun _ => .ok (), passwordPolicy := {}, baseUrl := "" }
  user := { validate := fun _ => .ok () }
  config := {}
  enabled := true
  backend := .database

/-- The outcome of a call, run without failure, and the world after it. -/
def answered (c : AccountCall) (w : World) : Except c.Err c.Res × World :=
  (c.run deployment.services).eval World.answer w

/-- The world after such calls. -/
def accounts (w : World) : List AccountCall → World
  | [] => w
  | c :: earlier => (answered c (accounts w earlier)).2

/-- The history of such calls. -/
def accountHistory (w : World) : List AccountCall → List (World × AccountLabel)
  | [] => []
  | c :: earlier =>
    (accounts w earlier, .call c (answered c (accounts w earlier)).1) :: accountHistory w earlier

/-- Such calls are a run. -/
theorem run_accounts (w : World) (F : Req → Prop) (calls : List AccountCall) :
    Run (· = w) (AccountStep deployment F) (accountHistory w calls) (accounts w calls) := by
  induction calls with
  | nil => exact .start rfl
  | cons c earlier ih => exact ih.snoc (.call (Prog.exec_eval (env_answer F)))

omit [Unicode]

/-- The outcome of a call with ASCII texts, and the world after it. -/
def asked (c : AccountCall) (w : World) : Except c.Err c.Res × World :=
  letI := Unicode.ascii
  answered c w

/-- The world after calls with ASCII texts. -/
def accountsPlayed (w : World) (calls : List AccountCall) : World :=
  letI := Unicode.ascii
  accounts w calls

/-- The history of such calls. -/
def accountsHistory (w : World) (calls : List AccountCall) : List (World × AccountLabel) :=
  letI := Unicode.ascii
  accountHistory w calls

/-- Such calls are a run. -/
theorem run_accountsPlayed (w : World) (calls : List AccountCall) :
    Run (· = w) (@AccountStep Unicode.ascii deployment noFault) (accountsHistory w calls)
      (accountsPlayed w calls) :=
  @run_accounts Unicode.ascii w noFault calls

/-- The outcome of a call is one of its program. -/
theorem exec_asked {c : AccountCall} {w : World} {r : Except c.Err c.Res} (h : (asked c w).1 = r) :
    letI := Unicode.ascii
    (c.run deployment.services).Exec (Env noFault) w r (asked c w).2 :=
  letI := Unicode.ascii
  exec_answer h

/-- A call that returned. -/
theorem exec_asked_ok {c : AccountCall} {w : World} (h : (asked c w).1.isOk = true) :
    ∃ a, (@AccountCall.run Unicode.ascii deployment.services c).Exec (Env noFault) w (.ok a)
      (asked c w).2 :=
  @exec_of_isOk _ _ (@AccountCall.run Unicode.ascii deployment.services c) w h noFault

end Scenario

end Klynt
