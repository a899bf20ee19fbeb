import Klynt.System.AccountAccess

set_option relaxedAutoImplicit false
set_option autoImplicit false

/-!
# What a failed login leaves

A login opens an access session and a refresh session, and then lists the memberships of the user
and stores their snapshots.  If the refresh session cannot be created, the access session is
invalidated again.  If one of the two later calls fails, nothing is taken back.

## Main definitions

* `AuthService.authenticate`, `AuthService.openSessions` — the two parts of a login.
* `LoginPort`, `LoginFails` — the calls of the second part, and the logins that fail at one.
* `World.NoNewSession` — every session that is valid now was there before.

## Main results

* `login_failure` — a failed login leaves no new session exactly if it failed before the sessions
  or at the creation of one, or if sessions are never valid.
* `sessions_left` — a login that fails at the list of memberships leaves both sessions.
-/

namespace Klynt

/-! ## The two parts of a login -/

/-- The kind of the access session of a login. -/
def LoginRequest.kind (request : LoginRequest) : SessionKind :=
  if request.rememberMe.getD false then .longLived else .access

section Parts

variable [Unicode] (service : AuthService) (request : LoginRequest)

/-- The part of a login that finds and checks the user. -/
def AuthService.authenticate : Action AuthError User := do
  .done ((service.validate request).mapError .passwordPolicy)
  let email ← .done ((Email.parse request.email).mapError fun e => .domain (.invalidInput e.text))
  let found ← (PgUserRepository.findByEmail email).mapErr .ofRepository
  let user ← .ofOption .invalidCredentials found
  let valid : Except String Bool ← .ask (.verifyPassword request.password user.passwordHash) pure
  let passwordValid ← .done (valid.mapError fun m => .domain (.internal m))
  .rejectIf (passwordValid = false) .invalidCredentials
  .rejectIf (user.isActive = false) .accountInactive
  return user

/-- The access session of a login. -/
def AuthService.openAccess (user : User) (pairId : Uuid) : Action AuthError CreatedSession :=
  (service.sessionService.createAccess user.id (request.rememberMe.getD false) (some pairId)).mapErr
    .ofSessionService

/-- The part of a login that opens the sessions. -/
def AuthService.openSessions (user : User) : Action AuthError LoginResponse := do
  let pairId ← newUuid
  let access ← service.openAccess request user pairId
  let refresh ← service.createPaired user.id access pairId
  let memberships ← (PgMembershipRepository.listForUser user.id).mapErr .domain
  let snapshots := memberships.map fun m => ⟨m.tenantId.inner, m.role⟩
  (service.sessionStore.updateMemberships access.token snapshots).mapErr .ofSession
  return { accessToken := access.token.inner.render, refreshToken := refresh.token.inner.render,
           expiresAt := access.expiresAt, user := .ofUser user }

/-- A login is its two parts, one after the other. -/
lemma AuthService.login_eq :
    service.login request = service.authenticate request >>= service.openSessions request := by
  simp only [AuthService.login, AuthService.authenticate, bind_assoc, pure_bind]
  rfl

end Parts

/-- The calls of the second part of a login that can fail. -/
inductive LoginPort where
  /-- The creation of the access session. -/
  | createAccess
  /-- The creation of the refresh session. -/
  | createRefresh
  /-- The list of the user's memberships. -/
  | listMemberships
  /-- The update of the snapshots. -/
  | updateMemberships
  deriving DecidableEq

/-- Whether the call creates a session. -/
def LoginPort.Creates : LoginPort → Prop
  | createAccess | createRefresh => True
  | listMemberships | updateMemberships => False

/-- A login that fails at one of its calls: the calls before it returned. -/
inductive LoginFails [Unicode] (auth : AuthService) (F : Req → Prop) (request : LoginRequest)
    (w : World) : LoginPort → AuthError → World → Prop
  /-- At the creation of the access session. -/
  | createAccess {user : User} {pairId : Uuid} {e : AuthError} {w₁ w₂ w' : World}
      (hauth : (auth.authenticate request).Exec (Env F) w (.ok user) w₁)
      (hpair : (newUuid : Action AuthError Uuid).Exec (Env F) w₁ (.ok pairId) w₂)
      (h : (auth.openAccess request user pairId).Exec (Env F) w₂ (.error e) w') :
      LoginFails auth F request w .createAccess e w'
  /-- At the creation of the refresh session. -/
  | createRefresh {user : User} {pairId : Uuid} {access : CreatedSession} {e : AuthError}
      {w₁ w₂ w₃ w' : World}
      (hauth : (auth.authenticate request).Exec (Env F) w (.ok user) w₁)
      (hpair : (newUuid : Action AuthError Uuid).Exec (Env F) w₁ (.ok pairId) w₂)
      (haccess : (auth.openAccess request user pairId).Exec (Env F) w₂ (.ok access) w₃)
      (h : (auth.createPaired user.id access pairId).Exec (Env F) w₃ (.error e) w') :
      LoginFails auth F request w .createRefresh e w'
  /-- At the list of the user's memberships. -/
  | listMemberships {user : User} {pairId : Uuid} {access refresh : CreatedSession}
      {e : DomainError} {w₁ w₂ w₃ w₄ w' : World}
      (hauth : (auth.authenticate request).Exec (Env F) w (.ok user) w₁)
      (hpair : (newUuid : Action AuthError Uuid).Exec (Env F) w₁ (.ok pairId) w₂)
      (haccess : (auth.openAccess request user pairId).Exec (Env F) w₂ (.ok access) w₃)
      (hrefresh : (auth.createPaired user.id access pairId).Exec (Env F) w₃ (.ok refresh) w₄)
      (h : (PgMembershipRepository.listForUser user.id).Exec (Env F) w₄ (.error e) w') :
      LoginFails auth F request w .listMemberships (.domain e) w'
  /-- At the update of the snapshots. -/
  | updateMemberships {user : User} {pairId : Uuid} {access refresh : CreatedSession}
      {ms : List Membership} {e : SessionError} {w₁ w₂ w₃ w₄ w₅ w' : World}
      (hauth : (auth.authenticate request).Exec (Env F) w (.ok user) w₁)
      (hpair : (newUuid : Action AuthError Uuid).Exec (Env F) w₁ (.ok pairId) w₂)
      (haccess : (auth.openAccess request user pairId).Exec (Env F) w₂ (.ok access) w₃)
      (hrefresh : (auth.createPaired user.id access pairId).Exec (Env F) w₃ (.ok refresh) w₄)
      (hlist : (PgMembershipRepository.listForUser user.id).Exec (Env F) w₄ (.ok ms) w₅)
      (h : (auth.sessionStore.updateMemberships access.token
        (ms.map fun m => ⟨m.tenantId.inner, m.role⟩)).Exec (Env F) w₅ (.error e) w') :
      LoginFails auth F request w .updateMemberships (.ofSession e) w'

/-- Every session that is valid now, in the table or in the cache, was there before. -/
structure World.NoNewSession (w w' : World) : Prop where
  /-- In the table. -/
  rows : ∀ row ∈ w'.db.sessions, row.active w'.now = true →
    ∃ row₀ ∈ w.db.sessions, row₀.token = row.token
  /-- In the cache. -/
  cache : ∀ token s, w'.redis.get w'.now token = some s → w'.now < s.expiresAt →
    w.redis.get w.now token = some s

/-- Requests that revoke sessions. -/
def Req.Revokes : Req → Prop
  | .update (.deleteSession _) | .redis (.del _) => True
  | _ => False

/-! ## What the calls leave -/

section Effects

variable {config : SessionConfig} {backend : SessionBackend} {F : Req → Prop} {w w' : World}

/-- The parts of the world that sessions live in are as before. -/
def World.SameSessions (w w' : World) : Prop :=
  w'.db = w.db ∧ w'.redis = w.redis ∧ w'.now = w.now

/-- What the creation of a session leaves: its row, and with a connected cache maybe its entry. -/
structure SessionOpened (backend : SessionBackend) (w w' : World) (token : SessionToken)
    (expiresAt : Time) : Prop where
  /-- The row is new. -/
  rows : ∃ row : SessionRow, row.token = token ∧ row.expiresAt = expiresAt ∧
    w'.db = { w.db with sessions := w.db.sessions ++ [row] }
  /-- Its token is new. -/
  fresh : ∀ row ∈ w.db.sessions, row.token ≠ token
  /-- Other entries of the cache are as before. -/
  redis : ∀ k, w'.redis k = w.redis k ∨ backend = .cached true ∧ k = token ∧
    ∃ entry, w'.redis k = some entry ∧ entry.session.expiresAt = expiresAt
  /-- No time has passed. -/
  now : w'.now = w.now

/-- A row is inserted, or nothing happens. -/
lemma PgSessionStore.opens_createWithKind {u : UserId} {expiresAt : Time} {kind : SessionKind}
    {pairId : Option Uuid} :
    (createWithKind u expiresAt kind pairId).Ensures (Env F) (fun r w' => match r with
      | .ok token => (∃ row : SessionRow, row.token = token ∧ row.expiresAt = expiresAt ∧
          w'.db = { w.db with sessions := w.db.sessions ++ [row] }) ∧
          (∀ row ∈ w.db.sessions, row.token ≠ token) ∧ w'.redis = w.redis ∧ w'.now = w.now
      | .error _ => w.SameSessions w') w := by
  refine Prog.wp_bind.mpr (ensures_newUuid fun token => ?_)
  refine Prog.wp_bind.mpr (ensures_newUuid fun id => ?_)
  refine (writes_execute (.insertSession id ⟨token⟩ u kind pairId expiresAt)).mapErr.bind_ensures
    (fun e => ⟨rfl, rfl, rfl⟩) ?_
  rintro _ _ ⟨db, hx, rfl⟩
  obtain ⟨-, hfresh, -, rfl⟩ := insertSession_ok hx
  exact Prog.wp_pure.mpr ⟨⟨_, rfl, rfl, rfl⟩, hfresh, rfl, rfl⟩

/-- The cache holds the session under its key afterwards, or is as before. -/
lemma CachedSessionStore.sets_writeCache {connected : Bool} {token : SessionToken}
    {session : Session} :
    (writeCache connected token session).Ensures (Env F) (fun _ w' =>
      w'.db = w.db ∧ w'.now = w.now ∧ ∀ k, w'.redis k = w.redis k ∨ connected = true ∧ k = token ∧
        ∃ entry, w'.redis k = some entry ∧ entry.session = session) w := by
  refine Prog.wp_bind.mpr (Prog.wp_rejectIf.mpr ⟨fun hconnected => ?_, fun _ =>
    ⟨rfl, rfl, fun _ => .inl rfl⟩⟩)
  have hkeys : ∀ k, (Command.setex token sessionTtlSeconds session).effect w.now w.redis k =
      w.redis k ∨ connected = true ∧ k = token ∧ ∃ entry,
        (Command.setex token sessionTtlSeconds session).effect w.now w.redis k = some entry ∧
          entry.session = session := by
    intro k
    by_cases hk : k = token
    · subst hk
      exact .inr ⟨Bool.eq_true_of_not_eq_false hconnected, rfl, _, Function.update_self _ _ _, rfl⟩
    · exact .inl (Function.update_of_ne hk _ _)
  refine Prog.wp_mapErr.mpr (Prog.ensures_ask.mpr ?_)
  rintro a w' (⟨-, rfl⟩ | ⟨-, -, redis, rfl, hredis⟩)
  · exact ⟨rfl, rfl, hkeys⟩
  · refine ⟨rfl, rfl, fun k => ?_⟩
    rcases hredis k with hk | hk
    · exact .inl hk
    · dsimp only
      rw [hk]
      exact hkeys k

/-- Entries go away, and the entry of the token does with a connected cache that does not fail. -/
lemma CachedSessionStore.drops_invalidateCache {connected : Bool} {token : SessionToken}
    (hdel : ¬ F (.redis (.del [token]))) :
    (invalidateCache connected token).Ensures (Env F) (fun _ w' =>
      w'.db = w.db ∧ w'.now = w.now ∧ (∀ k, w'.redis k = w.redis k ∨ w'.redis k = none) ∧
        (connected = true → w'.redis token = none)) w := by
  refine Prog.wp_bind.mpr (Prog.wp_rejectIf.mpr ⟨fun _ => ?_, fun hoff =>
    ⟨rfl, rfl, fun _ => .inl rfl, fun hon => ?_⟩⟩)
  swap
  · rw [hoff] at hon
    cases hon
  refine Prog.wp_mapErr.mpr (Prog.ensures_ask.mpr ?_)
  rintro a w' (⟨-, rfl⟩ | ⟨hF, -⟩)
  · refine ⟨rfl, rfl, fun k => ?_, fun _ => if_pos (List.mem_singleton.mpr rfl)⟩
    by_cases hk : k ∈ [token]
    · exact .inr (if_pos hk)
    · exact .inl (if_neg hk)
  · exact absurd hF hdel

/-- **A session is opened, or nothing happens**, whichever the store. -/
lemma SessionService.opens_createWithKind {u : UserId} {kind : SessionKind}
    {pairId : Option Uuid} :
    (SessionService.createWithKind ⟨config, backend.store⟩ u kind pairId).Ensures (Env F)
      (fun r w' => match r with
        | .ok created => SessionOpened backend w w' created.token (w.now + config.duration kind)
        | .error _ => w.SameSessions w') w := by
  refine reads_now.bind_ensures (fun e => ⟨rfl, rfl, rfl⟩) ?_
  rintro _ rfl
  refine Prog.wp_bind.mpr (Prog.wp_mapErr.mpr ?_)
  have hpg := @PgSessionStore.opens_createWithKind F w u (w.now + config.duration kind) kind
    pairId
  cases backend with
  | database =>
    refine hpg.mono fun r w₁ h => ?_
    rcases r with e | token
    · exact h
    · obtain ⟨hrows, hfresh, hredis, hnow⟩ := h
      exact Prog.wp_pure.mpr ⟨hrows, hfresh, fun k => .inl (congrFun hredis k), hnow⟩
  | cached connected =>
    refine Prog.wp_bind.mpr (hpg.mono fun r w₁ h => ?_)
    rcases r with e | token
    · exact h
    · obtain ⟨hrows, hfresh, hredis, hnow⟩ := h
      dsimp only
      split
      · refine Prog.wp_bind.mpr (Prog.wp_attempt.mpr ?_)
        refine (CachedSessionStore.sets_writeCache (F := F)).mono ?_
        rintro _ w₂ ⟨hdb, hnow₂, hkeys⟩
        refine Prog.wp_pure.mpr (Prog.wp_pure.mpr ⟨?_, hfresh, fun k => ?_, hnow₂.trans hnow⟩)
        · obtain ⟨row, htoken, hexpires, hrow⟩ := hrows
          exact ⟨row, htoken, hexpires, hdb.trans hrow⟩
        · rcases hkeys k with hk | ⟨rfl, hk, entry, hentry, hsession⟩
          · exact .inl (hk.trans (congrFun hredis k))
          · exact .inr ⟨rfl, hk, entry, hentry, congrArg Session.expiresAt hsession⟩
      · exact Prog.wp_pure.mpr (Prog.wp_pure.mpr
          ⟨hrows, hfresh, fun k => .inl (congrFun hredis k), hnow⟩)

/-- **A session is invalidated**: its row goes, and with a connected cache its entry. -/
lemma SessionService.closes_invalidate {token : SessionToken} (hrevoke : ∀ q, q.Revokes → ¬ F q) :
    (SessionService.invalidate ⟨config, backend.store⟩ token).Ensures (Env F) (fun _ w' =>
      w'.db = { w.db with sessions := w.db.sessions.filter (·.token ≠ token) } ∧ w'.now = w.now ∧
        (∀ k, w'.redis k = w.redis k ∨ w'.redis k = none) ∧
        (backend = .cached true → w'.redis token = none)) w := by
  have hdelete : ((execute (.deleteSession token)).mapErr SessionError.ofSqlx).Ensures (Env F)
      (fun r w' => r = .ok () ∧ w' = { w with db := { w.db with
        sessions := w.db.sessions.filter (·.token ≠ token) } }) w := by
    refine Prog.wp_mapErr.mpr (Prog.ensures_ask.mpr ?_)
    rintro a w' (⟨r, db, hx, rfl, rfl⟩ | ⟨e, hx, -, -⟩ | ⟨hF, -⟩)
    · obtain ⟨-, rfl⟩ := Prod.mk.inj (Except.ok.inj hx)
      exact ⟨rfl, rfl⟩
    · cases hx
    · exact absurd hF (hrevoke _ trivial)
  refine Prog.wp_mapErr.mpr ?_
  cases backend with
  | database =>
    refine hdelete.mono ?_
    rintro _ w₁ ⟨-, rfl⟩
    exact ⟨rfl, rfl, fun _ => .inl rfl, fun h => by cases h⟩
  | cached connected =>
    refine Prog.wp_bind.mpr (hdelete.mono ?_)
    rintro _ w₁ ⟨rfl, rfl⟩
    refine Prog.wp_bind.mpr (Prog.wp_attempt.mpr ?_)
    refine (CachedSessionStore.drops_invalidateCache (hrevoke _ trivial)).mono ?_
    rintro _ w₂ ⟨hdb, hnow, hkeys, hgone⟩
    refine Prog.wp_pure.mpr ⟨hdb, hnow, hkeys, fun hcached => hgone ?_⟩
    exact SessionBackend.cached.inj hcached

/-- The snapshots are stored, or nothing happens. -/
lemma SessionBackend.fails_updateMemberships {token : SessionToken}
    {l : List MembershipSnapshot} :
    (backend.store.updateMemberships token l).Ensures (Env F) (fun r w' =>
      ∀ e, r = .error e → w.SameSessions w') w := by
  have hset : ((execute (.setMemberships token l)).mapErr SessionError.ofSqlx).Ensures (Env F)
      (fun r w' => ∀ e, r = .error e → w.SameSessions w') w := by
    refine Prog.wp.mono (writes_execute (.setMemberships token l)).mapErr fun r w' h e he => ?_
    subst he
    obtain rfl := h
    exact ⟨rfl, rfl, rfl⟩
  cases backend with
  | database => exact hset
  | cached connected =>
    refine Prog.wp_bind.mpr (hset.mono fun r w₁ h => ?_)
    rcases r with e | _
    · exact fun e' _ => h e rfl
    · refine Prog.wp_bind.mpr (Prog.wp_attempt.mpr ?_)
      refine Prog.wp.mono (Q := fun _ _ => True) (Prog.ensures_iff.mpr fun _ _ _ => trivial) ?_
      intro r w₂ _
      exact Prog.wp_pure.mpr fun e he => by cases he

end Effects

section Failure

variable [Unicode] {auth : AuthService} {F : Req → Prop} {request : LoginRequest} {w w' : World}
  {e : AuthError}

/-- **Where logins fail**: before the sessions, or at one of the calls. -/
lemma exec_login_error :
    (auth.login request).Exec (Env F) w (.error e) w' ↔
      (auth.authenticate request).Exec (Env F) w (.error e) w' ∨
        ∃ port, LoginFails auth F request w port e w' := by
  rw [AuthService.login_eq]
  constructor
  · intro h
    rcases Prog.exec_bind.mp h with ⟨user, w₁, hauth, h₁⟩ | ⟨e', he, hauth⟩
    swap
    · cases he
      exact .inl hauth
    refine .inr ?_
    rcases Prog.exec_bind.mp h₁ with ⟨pairId, w₂, hpair, h₂⟩ | ⟨e', he, hpair⟩
    swap
    · obtain ⟨_, herr, -⟩ := exec_newUuid.mp hpair
      cases herr
    rcases Prog.exec_bind.mp h₂ with ⟨access, w₃, haccess, h₃⟩ | ⟨e', he, haccess⟩
    swap
    · cases he
      exact ⟨_, .createAccess hauth hpair haccess⟩
    rcases Prog.exec_bind.mp h₃ with ⟨refresh, w₄, hrefresh, h₄⟩ | ⟨e', he, hrefresh⟩
    swap
    · cases he
      exact ⟨_, .createRefresh hauth hpair haccess hrefresh⟩
    rcases Prog.exec_bind.mp h₄ with ⟨ms, w₅, hlist, h₅⟩ | ⟨e', he, hlist⟩
    swap
    · cases he
      obtain ⟨r, hfail, hr⟩ := Prog.exec_mapErr.mp hlist
      cases r with
      | ok ms => cases hr
      | error e₁ =>
        cases hr
        exact ⟨_, .listMemberships hauth hpair haccess hrefresh hfail⟩
    rcases Prog.exec_bind.mp h₅ with ⟨_, w₆, hupdate, h₆⟩ | ⟨e', he, hupdate⟩
    · cases (Prog.exec_pure.mp h₆).1
    · cases he
      obtain ⟨r, hfail, hr⟩ := Prog.exec_mapErr.mp hupdate
      cases r with
      | ok _ => cases hr
      | error e₁ =>
        cases hr
        exact ⟨_, .updateMemberships hauth hpair haccess hrefresh
          (Prog.exec_mapErr_ok.mp hlist) hfail⟩
  · rintro (hauth | ⟨port, hfails⟩)
    · exact Prog.exec_bind.mpr (.inr ⟨e, rfl, hauth⟩)
    cases hfails with
    | createAccess hauth hpair h =>
      refine Prog.exec_bind.mpr (.inl ⟨_, _, hauth, ?_⟩)
      refine Prog.exec_bind.mpr (.inl ⟨_, _, hpair, ?_⟩)
      exact Prog.exec_bind.mpr (.inr ⟨e, rfl, h⟩)
    | createRefresh hauth hpair haccess h =>
      refine Prog.exec_bind.mpr (.inl ⟨_, _, hauth, ?_⟩)
      refine Prog.exec_bind.mpr (.inl ⟨_, _, hpair, ?_⟩)
      refine Prog.exec_bind.mpr (.inl ⟨_, _, haccess, ?_⟩)
      exact Prog.exec_bind.mpr (.inr ⟨e, rfl, h⟩)
    | listMemberships hauth hpair haccess hrefresh h =>
      refine Prog.exec_bind.mpr (.inl ⟨_, _, hauth, ?_⟩)
      refine Prog.exec_bind.mpr (.inl ⟨_, _, hpair, ?_⟩)
      refine Prog.exec_bind.mpr (.inl ⟨_, _, haccess, ?_⟩)
      refine Prog.exec_bind.mpr (.inl ⟨_, _, hrefresh, ?_⟩)
      exact Prog.exec_bind.mpr (.inr ⟨_, rfl, Prog.exec_mapErr.mpr ⟨_, h, rfl⟩⟩)
    | updateMemberships hauth hpair haccess hrefresh hlist h =>
      refine Prog.exec_bind.mpr (.inl ⟨_, _, hauth, ?_⟩)
      refine Prog.exec_bind.mpr (.inl ⟨_, _, hpair, ?_⟩)
      refine Prog.exec_bind.mpr (.inl ⟨_, _, haccess, ?_⟩)
      refine Prog.exec_bind.mpr (.inl ⟨_, _, hrefresh, ?_⟩)
      refine Prog.exec_bind.mpr (.inl ⟨_, _, Prog.exec_mapErr_ok.mpr hlist, ?_⟩)
      exact Prog.exec_bind.mpr (.inr ⟨_, rfl, Prog.exec_mapErr.mpr ⟨_, h, rfl⟩⟩)

/-- Authenticating leaves the world as it is. -/
lemma AuthService.reads_authenticate :
    (auth.authenticate request).Reads (Env F) w fun _ => True := by
  refine (Prog.reads_done _).bind fun _ _ => (Prog.reads_done _).bind fun email _ => ?_
  refine (reads_findByEmail email).mapErr.bind fun found _ => ?_
  refine (Prog.reads_ofOption _ _).bind fun user _ => ?_
  have hverify : (Prog.ask (.verifyPassword request.password user.passwordHash) pure :
      Action AuthError (Except String Bool)).Reads (Env F) w fun _ => True := by
    refine Prog.ensures_ask.mpr ?_
    rintro a w' rfl
    exact ⟨rfl, fun _ _ => trivial⟩
  refine hverify.bind fun valid _ => (Prog.reads_done _).bind fun passwordValid _ => ?_
  refine (Prog.reads_rejectIf _ _).bind fun _ _ => (Prog.reads_rejectIf _ _).bind fun _ _ => ?_
  exact (Prog.reads_pure _).mono fun _ _ => trivial

/-- Listing memberships leaves the world as it is. -/
lemma reads_listForUser {u : UserId} :
    (PgMembershipRepository.listForUser u).Reads (Env F) w fun _ => True :=
  (reads_select _).mapErr.bind fun (_ : List MembershipRow) _ =>
    (Prog.reads_done _).mono fun _ _ => trivial

end Failure

/-! ## New sessions -/

section NewSessions

variable {config : SessionConfig} {backend : SessionBackend} {F : Req → Prop} {w w' w'' : World}
  {token token' : SessionToken} {expiresAt expiresAt' : Time}

/-- Nothing happens. -/
lemma World.SameSessions.noNewSession (h : w.SameSessions w') : w.NoNewSession w' := by
  obtain ⟨hdb, hredis, hnow⟩ := h
  constructor
  · rw [hdb]
    exact fun row hrow _ => ⟨row, hrow, rfl⟩
  · rw [hredis, hnow]
    exact fun _ _ h _ => h

/-- A valid entry of the cache is an old one, after the creation of sessions that are never
valid. -/
lemma SessionOpened.get (h : SessionOpened backend w w' token expiresAt) (hexpired : expiresAt ≤ w.now)
    {k : SessionToken} {s : Session} (hget : w'.redis.get w'.now k = some s)
    (hvalid : w'.now < s.expiresAt) : w.redis.get w.now k = some s := by
  rw [h.now] at hget hvalid
  rcases h.redis k with hk | ⟨-, -, entry, hentry, hexpires⟩
  · rwa [Redis.get, hk] at hget
  · -- the entry of the new session has expired
    rw [Redis.get, hentry, Option.bind_some] at hget
    split at hget
    · obtain rfl := Option.some.inj hget
      rw [hexpires] at hvalid
      exact absurd hexpired (not_le.mpr hvalid)
    · cases hget

/-- **A pair that was opened** leaves no new session exactly if neither session is ever valid. -/
lemma noNewSession_pair (h : SessionOpened backend w w' token expiresAt)
    (h' : SessionOpened backend w' w'' token' expiresAt') :
    w.NoNewSession w'' ↔ expiresAt ≤ w.now ∧ expiresAt' ≤ w.now := by
  obtain ⟨row, htoken, hexpires, hdb⟩ := h.rows
  obtain ⟨row', htoken', hexpires', hdb'⟩ := h'.rows
  have hsessions : w''.db.sessions = w.db.sessions ++ [row] ++ [row'] := by
    rw [hdb', hdb]
  have hnow : w''.now = w.now := h'.now.trans h.now
  constructor
  · intro hnone
    constructor
    · by_contra hlive
      obtain ⟨row₀, hrow₀, heq⟩ := hnone.rows row (by rw [hsessions]; simp) (by
        rw [SessionRow.active, hexpires, hnow]
        exact decide_eq_true (not_le.mp hlive))
      exact h.fresh row₀ hrow₀ (heq.trans htoken)
    · by_contra hlive
      obtain ⟨row₀, hrow₀, heq⟩ := hnone.rows row' (by rw [hsessions]; simp) (by
        rw [SessionRow.active, hexpires', hnow]
        exact decide_eq_true (not_le.mp hlive))
      refine h'.fresh row₀ ?_ (heq.trans htoken')
      rw [hdb]
      exact List.mem_append_left _ hrow₀
  · rintro ⟨hexpired, hexpired'⟩
    constructor
    · intro r hr hactive
      have hlive : w.now < r.expiresAt := by
        rw [SessionRow.active, hnow] at hactive
        exact of_decide_eq_true hactive
      rw [hsessions] at hr
      rcases List.mem_append.mp hr with hr | hr
      · rcases List.mem_append.mp hr with hr | hr
        · exact ⟨r, hr, rfl⟩
        · obtain rfl := List.mem_singleton.mp hr
          exact absurd hexpired (not_le.mpr (hexpires ▸ hlive))
      · obtain rfl := List.mem_singleton.mp hr
        exact absurd hexpired' (not_le.mpr (hexpires' ▸ hlive))
    · intro k s hget hvalid
      have hget' := h'.get (h.now ▸ hexpired') hget hvalid
      refine h.get hexpired hget' ?_
      rwa [h'.now] at hvalid

/-- A session that was opened and whose row and entry went away again leaves no new session. -/
lemma SessionOpened.noNewSession (h : SessionOpened backend w w' token expiresAt)
    (hdb : w''.db = { w'.db with sessions := w'.db.sessions.filter (·.token ≠ token) })
    (hnow : w''.now = w'.now) (hkeys : ∀ k, w''.redis k = w'.redis k ∨ w''.redis k = none)
    (hgone : backend = .cached true → w''.redis token = none) : w.NoNewSession w'' := by
  obtain ⟨row, htoken, -, hrow⟩ := h.rows
  constructor
  · intro r hr _
    rw [hdb, hrow] at hr
    obtain ⟨hr, hne⟩ := List.mem_filter.mp hr
    rcases List.mem_append.mp hr with hr | hr
    · exact ⟨r, hr, rfl⟩
    · obtain rfl := List.mem_singleton.mp hr
      exact absurd htoken (of_decide_eq_true hne)
  · intro k s hget _
    have hentry : ∃ entry, w''.redis k = some entry := by
      obtain ⟨entry, hentry, -⟩ := Option.bind_eq_some_iff.mp hget
      exact ⟨entry, hentry⟩
    obtain ⟨entry, hentry⟩ := hentry
    have hkept : w''.redis k = w.redis k := by
      rcases hkeys k with hk | hk
      · rcases h.redis k with hk' | ⟨hcached, rfl, -⟩
        · exact hk.trans hk'
        · rw [hgone hcached] at hentry
          cases hentry
      · rw [hk] at hentry
        cases hentry
    rwa [Redis.get, hkept, hnow, h.now] at hget

/-- **The access session of a login** is opened, or nothing happens. -/
lemma exec_openAccess [Unicode] {auth : AuthService}
    (hsession : auth.sessionService = ⟨config, backend.store⟩) {request : LoginRequest} {user : User}
    {pairId : Uuid} {r : Except AuthError CreatedSession} {w₁ w₂ : World}
    (hauth : (auth.authenticate request).Exec (Env F) w (.ok user) w₁)
    (hpair : (newUuid : Action AuthError Uuid).Exec (Env F) w₁ (.ok pairId) w₂)
    (h : (auth.openAccess request user pairId).Exec (Env F) w₂ r w') :
    match r with
    | .ok access => SessionOpened backend w w' access.token (w.now + config.duration request.kind)
    | .error _ => w.SameSessions w' := by
  obtain rfl := (AuthService.reads_authenticate.of_exec hauth).1
  obtain ⟨_, -, rfl⟩ := exec_newUuid.mp hpair
  unfold AuthService.openAccess at h
  rw [hsession] at h
  obtain ⟨r', hcreate, rfl⟩ := Prog.exec_mapErr.mp h
  have hopened := SessionService.opens_createWithKind.of_exec hcreate
  cases r' with
  | error e => exact hopened
  | ok access => exact ⟨hopened.rows, hopened.fresh, hopened.redis, hopened.now⟩

/-- **The refresh session of a login** is opened, or the access session is taken back. -/
lemma opens_createPaired {auth : AuthService}
    (hauth : auth.sessionService = ⟨config, backend.store⟩) (hrevoke : ∀ q, q.Revokes → ¬ F q)
    {u : UserId} {access : CreatedSession} {pairId : Uuid}
    (h : SessionOpened backend w w' access.token expiresAt) :
    (auth.createPaired u access pairId).Ensures (Env F) (fun r w'' => match r with
      | .ok refresh =>
        SessionOpened backend w' w'' refresh.token (w'.now + config.duration .refresh)
      | .error _ => w.NoNewSession w'') w' := by
  unfold AuthService.createPaired
  rw [hauth]
  refine Prog.wp_bind.mpr (Prog.wp_attempt.mpr ?_)
  refine SessionService.opens_createWithKind.mono fun r w₁ hr => ?_
  rcases r with e | refresh
  · obtain ⟨hdb, hredis, hnow⟩ := hr
    refine Prog.wp_bind.mpr (Prog.wp_attempt.mpr ?_)
    refine (SessionService.closes_invalidate hrevoke).mono ?_
    rintro _ w₂ ⟨hdb₂, hnow₂, hkeys, hgone⟩
    refine Prog.wp_fail.mpr (h.noNewSession ?_ (hnow₂.trans hnow) (fun k => ?_) hgone)
    · rw [hdb₂, hdb]
    · rw [← hredis]
      exact hkeys k
  · exact Prog.wp_pure.mpr hr

end NewSessions

/-! ## Failed logins -/

/-- **What a failed login leaves.**  Where revocations do not fail, a login that returns an error
has failed before the sessions, and then leaves no new one; or it has failed at one of its calls,
and then leaves no new session exactly if the call creates a session, or if the lifetimes of both
sessions are such that they are never valid.

**Proof sketch.** The creation of a session that fails has done nothing, and the access session is
invalidated after the refresh session failed.  After both sessions were created, the two later calls
change nothing when they fail, so the new rows stay. -/
theorem login_failure [Unicode] {F : Req → Prop} (hrevoke : ∀ q, q.Revokes → ¬ F q)
    {validate : LoginRequest → Except String Unit} {sha256Hash : String → String}
    {config : SessionConfig} {backend : SessionBackend} {request : LoginRequest} {e : AuthError}
    {w w' : World} :
    ((((authPlatform validate sha256Hash config backend).login request).Exec (Env F) w (.error e) w' ↔
      ((authPlatform validate sha256Hash config backend).authenticate request).Exec (Env F) w
          (.error e) w' ∨
        ∃ port, LoginFails (authPlatform validate sha256Hash config backend) F request w port e w')) ∧
    (((authPlatform validate sha256Hash config backend).authenticate request).Exec (Env F) w
      (.error e) w' → w.NoNewSession w') ∧
    ∀ port, LoginFails (authPlatform validate sha256Hash config backend) F request w port e w' →
      (w.NoNewSession w' ↔ port.Creates ∨
        config.duration request.kind ≤ 0 ∧ config.duration .refresh ≤ 0) := by
  -- two sessions that were opened stay, when nothing happens afterwards
  have hleft : ∀ {access refresh w₃ w₄}, SessionOpened backend w w₃ access (w.now +
      config.duration request.kind) → SessionOpened backend w₃ w₄ refresh (w₃.now +
      config.duration .refresh) → w₄.SameSessions w' → (w.NoNewSession w' ↔ False ∨
        config.duration request.kind ≤ 0 ∧ config.duration .refresh ≤ 0) := by
    intro access refresh w₃ w₄ haccess hrefresh hsame
    obtain ⟨hdb, hredis, hnow⟩ := hsame
    have hrefresh' : SessionOpened backend w₃ w' refresh (w₃.now + config.duration .refresh) :=
      ⟨hdb ▸ hrefresh.rows, hrefresh.fresh, hredis ▸ hrefresh.redis, hnow.trans hrefresh.now⟩
    rw [noNewSession_pair haccess hrefresh', false_or, haccess.now]
    exact and_congr (add_le_iff_nonpos_right _) (add_le_iff_nonpos_right _)
  refine ⟨exec_login_error, fun hauth => ?_, fun port hfails => ?_⟩
  · rw [(AuthService.reads_authenticate.of_exec hauth).1]
    exact World.SameSessions.noNewSession ⟨rfl, rfl, rfl⟩
  cases hfails with
  | createAccess hauth hpair h =>
    have hsame : w.SameSessions w' := exec_openAccess rfl hauth hpair h
    exact iff_of_true hsame.noNewSession (.inl trivial)
  | createRefresh hauth hpair haccess h =>
    have hopened := exec_openAccess rfl hauth hpair haccess
    exact iff_of_true ((opens_createPaired rfl hrevoke hopened).of_exec h) (.inl trivial)
  | listMemberships hauth hpair haccess hrefresh h =>
    have hopened := exec_openAccess rfl hauth hpair haccess
    have hpaired := (opens_createPaired rfl hrevoke hopened).of_exec hrefresh
    obtain ⟨rfl, -⟩ := reads_listForUser.of_exec h
    exact hleft hopened hpaired ⟨rfl, rfl, rfl⟩
  | updateMemberships hauth hpair haccess hrefresh hlist h =>
    have hopened := exec_openAccess rfl hauth hpair haccess
    have hpaired := (opens_createPaired rfl hrevoke hopened).of_exec hrefresh
    obtain ⟨rfl, -⟩ := reads_listForUser.of_exec hlist
    exact hleft hopened hpaired (SessionBackend.fails_updateMemberships.of_exec h _ rfl)

namespace Scenario

/-- The lists of memberships may fail. -/
def listFault (q : Req) : Prop := ∃ u, q = .query (.membershipsOfUser u)

/-- The answers of a world in which they do. -/
def listUnavailable : (q : Req) → World → Ans q × World
  | .query (.membershipsOfUser _), w => (.error (.other "unavailable"), w)
  | q, w => w.answer q

/-- These are answers the relation allows. -/
theorem env_listUnavailable (q : Req) (w : World) :
    Env listFault q w (listUnavailable q w).1 (listUnavailable q w).2 := by
  unfold listUnavailable
  split
  · exact ⟨rfl, .inr ⟨⟨_, rfl⟩, _, rfl⟩⟩
  · exact env_answer listFault q w

/-- The login of the first user, whose memberships cannot be listed. -/
def failedLogin : Except AuthError LoginResponse × World :=
  letI := Unicode.ascii
  (deployment.services.auth.login ⟨"ada@x.org", "", none⟩).eval listUnavailable world

/-- It is a login. -/
theorem exec_failedLogin :
    (@AuthService.login Unicode.ascii deployment.services.auth ⟨"ada@x.org", "", none⟩).Exec
      (Env listFault) world failedLogin.1 failedLogin.2 :=
  Prog.exec_eval env_listUnavailable

/-- Its sessions are new. -/
theorem newSession_failedLogin : ¬ world.NoNewSession failedLogin.2 := by
  intro hnone
  have hactive : (failedLogin.2.db.sessions.any fun row => row.active failedLogin.2.now) = true := by
    decide +kernel
  obtain ⟨row, hrow, hrow'⟩ := List.any_eq_true.mp hactive
  obtain ⟨_, hmem, -⟩ := hnone.rows row hrow hrow'
  cases hmem

/-- It returned an error. -/
theorem error_failedLogin : ∃ e, failedLogin.1 = .error e := by
  have hfailed : failedLogin.1.isOk = false := by decide +kernel
  cases h : failedLogin.1 with
  | ok response =>
    rw [h] at hfailed
    cases hfailed
  | error e => exact ⟨e, rfl⟩

end Scenario

/-- A login fails at a call that creates no session, and leaves new sessions. -/
theorem login_failure_listed : ∃ port e,
    @LoginFails Unicode.ascii Scenario.deployment.services.auth Scenario.listFault
      ⟨"ada@x.org", "", none⟩ Scenario.world port e Scenario.failedLogin.2 ∧ ¬ port.Creates ∧
    ¬ Scenario.world.NoNewSession Scenario.failedLogin.2 := by
  obtain ⟨e, he⟩ := Scenario.error_failedLogin
  have hrevoke : ∀ q : Req, q.Revokes → ¬ Scenario.listFault q := by
    rintro _ hq ⟨u, rfl⟩
    exact hq
  obtain ⟨hiff, hauth, hport⟩ := @login_failure Unicode.ascii _ hrevoke (fun _ => .ok ()) id {}
    .database ⟨"ada@x.org", "", none⟩ e Scenario.world Scenario.failedLogin.2
  rcases hiff.mp (he ▸ Scenario.exec_failedLogin) with hfailed | ⟨port, hfails⟩
  · exact absurd (hauth hfailed) Scenario.newSession_failedLogin
  · refine ⟨port, e, hfails, fun hcreates => ?_, Scenario.newSession_failedLogin⟩
    exact Scenario.newSession_failedLogin ((hport port hfails).mpr (.inl hcreates))

/-- **Sessions are left.**  A login that would return without failures fails because the memberships
cannot be listed; then new sessions are valid. -/
theorem sessions_left :
    (∃ response w', (@AuthService.login Unicode.ascii Scenario.deployment.services.auth
      ⟨"ada@x.org", "", none⟩).Exec (Env noFault) Scenario.world (.ok response) w') ∧
    (∃ e, (@AuthService.login Unicode.ascii Scenario.deployment.services.auth
      ⟨"ada@x.org", "", none⟩).Exec (Env Scenario.listFault) Scenario.world (.error e)
      Scenario.failedLogin.2) ∧
    ¬ Scenario.world.NoNewSession Scenario.failedLogin.2 := by
  refine ⟨?_, ?_, Scenario.newSession_failedLogin⟩
  · have hok : (Scenario.asked Scenario.login Scenario.world).1.isOk = true := by decide +kernel
    obtain ⟨response, h⟩ := Scenario.exec_asked_ok hok
    exact ⟨response, _, h⟩
  · obtain ⟨e, he⟩ := Scenario.error_failedLogin
    exact ⟨e, he ▸ Scenario.exec_failedLogin⟩

end Klynt
