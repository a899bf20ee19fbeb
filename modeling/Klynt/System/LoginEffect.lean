import Klynt.Persistence.Mirror
import Klynt.System.SessionEffect

set_option relaxedAutoImplicit false
set_option autoImplicit false

/-!
# What a login and a verification leave

A login that returns has added an access session with the snapshots of the user's memberships
and a refresh session without any.  The verification route that returns has consumed a token,
activated its user, and added an access session without snapshots.

## Main definitions

* `authPlatform` — the auth service as the platform runs it.
* `newSessionRow` — the row of a session that was just created.

## Main results

* `exec_login` — a login that returned.
* `exec_verifyEmail` — a verification that returned.
-/

namespace Klynt

/-- The auth service of the platform. -/
def authPlatform (validate : LoginRequest → Except String Unit) (sha256Hash : String → String)
    (config : SessionConfig) (backend : SessionBackend) : AuthService :=
  ⟨validate, sha256Hash, ⟨config, backend.store⟩, backend.store⟩

/-- The row of a session that was just created. -/
def newSessionRow (id : Uuid) (token : SessionToken) (u : UserId) (kind : SessionKind)
    (pairId : Option Uuid) (expiresAt createdAt : Time) : SessionRow :=
  { id, token, userId := u, expiresAt, createdAt, tenantMemberships := MembershipSnapshot.encode [],
    kind := kind.asStr, pairId }

/-- A new session stores its snapshots, of which it has none. -/
lemma snapshots_newSessionRow (id : Uuid) (token : SessionToken) (u : UserId) (kind : SessionKind)
    (pairId : Option Uuid) (expiresAt createdAt : Time) :
    (newSessionRow id token u kind pairId expiresAt createdAt).snapshots = [] ∧
      (newSessionRow id token u kind pairId expiresAt createdAt).Stored := by
  simp [SessionRow.Stored, SessionRow.snapshots, newSessionRow]

section Exec

variable {validate : LoginRequest → Except String Unit} {sha256Hash : String → String}
  {config : SessionConfig} {backend : SessionBackend} {F : Req → Prop} {w w' : World}

/-- A session the service created. -/
lemma exec_createWithKind {u : UserId} {kind : SessionKind} {pairId : Option Uuid}
    {created : CreatedSession}
    (h : (SessionService.createWithKind ⟨config, backend.store⟩ u kind pairId).Exec (Env F) w
      (.ok created) w') :
    ∃ id, w'.db = { w.db with sessions := w.db.sessions ++
        [newSessionRow id created.token u kind pairId (w.now + config.duration kind) w.now] } ∧
      (∀ s ∈ w.db.sessions, s.token ≠ created.token) ∧ (∃ row ∈ w.db.users, row.id = u) ∧
      created.expiresAt = w.now + config.duration kind ∧ w'.now = w.now := by
  obtain ⟨t, w₁, ht, h⟩ := Prog.exec_bind_ok.mp h
  obtain ⟨ht, rfl⟩ := exec_now.mp ht
  obtain rfl := Except.ok.inj ht
  obtain ⟨token, w₂, htoken, h⟩ := Prog.exec_bind_ok.mp h
  obtain ⟨hcreated, rfl⟩ := Prog.exec_pure.mp h
  obtain rfl := Except.ok.inj hcreated
  obtain ⟨id, hx, hnow⟩ := SessionBackend.exec_createWithKind (Prog.exec_mapErr_ok.mp htoken)
  obtain ⟨-, hnew, huser, hdb⟩ := insertSession_ok hx
  exact ⟨id, hdb, hnew, huser, rfl, hnow⟩

/-- The refresh session of a login that goes on. -/
lemma exec_createPaired {auth : AuthService} {u : UserId} {access refresh : CreatedSession}
    {pairId : Uuid} (h : (auth.createPaired u access pairId).Exec (Env F) w (.ok refresh) w') :
    (auth.sessionService.createRefresh u (some pairId)).Exec (Env F) w (.ok refresh) w' := by
  obtain ⟨r, w₁, hr, h⟩ := Prog.exec_bind_ok.mp h
  obtain ⟨r', hx, hr⟩ := Prog.exec_attempt.mp hr
  obtain rfl := Except.ok.inj hr
  cases r with
  | ok refresh' =>
    obtain ⟨hrefresh, rfl⟩ := Prog.exec_pure.mp h
    rw [Except.ok.inj hrefresh]
    exact hx
  | error e =>
    obtain ⟨_, _, -, hfail⟩ := Prog.exec_bind_ok.mp h
    cases (Prog.exec_fail.mp hfail).1

variable [Unicode]

/-- The memberships a repository lists mirror the table. -/
lemma mirrors_listForUser {u : UserId} {ms : List Membership}
    (h : (PgMembershipRepository.listForUser u).Exec (Env F) w (.ok ms) w') :
    ((∀ m ∈ w.db.memberships, ∃ role : TenantRole, m.role = role.asStr) →
      Mirrors w.db u (ms.map fun m => ⟨m.tenantId.inner, m.role⟩)) ∧ w' = w := by
  obtain ⟨(rows : List MembershipRow), w₁, hrows, hrest⟩ := Prog.exec_bind_ok.mp h
  obtain ⟨hread, rfl⟩ := exec_select_ok.mp (Prog.exec_mapErr_ok.mp hrows)
  obtain ⟨hms, rfl⟩ := Prog.exec_done.mp hrest
  refine ⟨fun hnamed => ?_, rfl⟩
  have hsort : rows.Perm (w'.db.membershipsOf u) := by
    rw [hread]
    exact List.perm_insertionSort _ _
  have hmem : ∀ row ∈ rows, row ∈ w'.db.memberships :=
    fun row hrow => (List.mem_filter.mp (hsort.subset hrow)).1
  have hentries : (ms.map fun m => (⟨m.tenantId.inner, m.role⟩ : MembershipSnapshot).entry) =
      rows.map (·.entry) := by
    have hmapped := Except.mapM_eq_ok.mp hms.symm
    clear hread hrows hms hsort h hrest
    induction hmapped with
    | nil => rfl
    | @cons row m rows ms hm _ ih =>
      obtain ⟨role, hparse, rfl⟩ := mapMembershipRow_eq_ok.mp hm
      obtain ⟨role', hrole⟩ := hnamed row (hmem row List.mem_cons_self)
      rw [hrole, TenantRole.parse_asStr] at hparse
      obtain rfl := Except.ok.inj hparse
      rw [List.map_cons, List.map_cons, ih fun r hr => hmem r (List.mem_cons_of_mem _ hr)]
      simp only [MembershipSnapshot.entry, MembershipRow.entry, hrole]
  unfold Mirrors
  rw [List.map_map]
  exact (List.Perm.of_eq hentries).trans (hsort.map _)

/-- A user that was found by email. -/
lemma exec_findByEmail {email : Email} {found : Option User}
    (h : (PgUserRepository.findByEmail email).Exec (Env F) w (.ok found) w') :
    (∀ user, found = some user → ∃ row ∈ w.db.users, row.intoUser = .ok user) ∧ w' = w := by
  obtain ⟨(row : Option UserRow), w₁, hrow, hrest⟩ := Prog.exec_bind_ok.mp h
  obtain ⟨hread, rfl⟩ := exec_select_ok.mp (Prog.exec_mapErr_ok.mp hrow)
  obtain ⟨hfound, rfl⟩ := Prog.exec_done.mp hrest
  refine ⟨?_, rfl⟩
  rintro user rfl
  obtain ⟨r, hr, hmap⟩ := mapOption_eq_some.mp (Except.mapError_eq_ok.mp hfound.symm)
  subst hr
  exact ⟨r, List.mem_of_find?_eq_some hread.symm, hmap⟩

omit [Unicode] in
/-- Two new sessions, the first of which is given snapshots. -/
lemma pair_sessions {db dba dbr db' : Db} {access refresh : SessionRow} {now : Time}
    {l : List MembershipSnapshot} (hdba : dba = { db with sessions := db.sessions ++ [access] })
    (hdbr : dbr = { dba with sessions := dba.sessions ++ [refresh] })
    (hnewa : ∀ s ∈ db.sessions, s.token ≠ access.token)
    (hnewr : ∀ s ∈ dba.sessions, s.token ≠ refresh.token)
    (hset : setSessionMemberships access.token (MembershipSnapshot.encode l) now dbr =
      .ok ((), db')) :
    access.token ≠ refresh.token ∧
      (∀ s ∈ db.sessions, s.token ≠ access.token ∧ s.token ≠ refresh.token) ∧
      db' = { db with sessions := db.sessions ++ [access.withSnapshots l, refresh] } := by
  subst hdba hdbr
  have htokens : access.token ≠ refresh.token := hnewr access (by simp)
  have hkeep : db.sessions.map (fun s => if s.token = access.token then
      { s with tenantMemberships := MembershipSnapshot.encode l } else s) = db.sessions :=
    (List.map_congr_left fun s hs => if_neg (hnewa s hs)).trans (List.map_id' _)
  refine ⟨htokens, fun s hs => ⟨hnewa s hs, hnewr s (List.mem_append_left _ hs)⟩, ?_⟩
  obtain ⟨-, rfl⟩ := Prod.mk.inj (Except.ok.inj hset)
  simp only [List.map_append, List.map_cons, List.map_nil, hkeep, if_neg (Ne.symm htokens), if_true,
    List.append_assoc, List.cons_append, List.nil_append, SessionRow.withSnapshots]

/-- What a login that returned has left. -/
structure LoggedIn (config : SessionConfig) (w w' : World) (user : User) (kind : SessionKind) :
    Prop where
  /-- The two sessions. -/
  sessions : ∃ (access refresh : SessionRow) (l : List MembershipSnapshot),
    access.userId = user.id ∧ access.kind = kind.asStr ∧
    access.expiresAt = w.now + config.duration kind ∧ refresh.userId = user.id ∧
    refresh.kind = SessionKind.refresh.asStr ∧ refresh.Stored ∧ access.token ≠ refresh.token ∧
    (∀ s ∈ w.db.sessions, s.token ≠ access.token ∧ s.token ≠ refresh.token) ∧
    ((∀ m ∈ w.db.memberships, ∃ role : TenantRole, m.role = role.asStr) →
      Mirrors w.db user.id l) ∧
    w'.db = { w.db with sessions := w.db.sessions ++ [access.withSnapshots l, refresh] }
  /-- The user was found and is active. -/
  active : ∃ row ∈ w.db.users, row.intoUser = .ok user ∧ user.isActive = true
  /-- The session authorises requests. -/
  kind : kind.isAccess = true
  /-- No time has passed. -/
  now : w'.now = w.now

/-- **A login that returned** has found an active user, and has added an access session that
mirrors the memberships of the user and a refresh session.

**Proof sketch.** The steps are followed one after another.  The refresh session has another
token than the access session, so the snapshots are written to the latter only. -/
lemma exec_login {request : LoginRequest} {response : LoginResponse}
    (h : ((authPlatform validate sha256Hash config backend).login request).Exec (Env F) w
      (.ok response) w') :
    ∃ user kind, LoggedIn config w w' user kind ∧ response.user = .ofUser user := by
  obtain ⟨_, w₁, h₁, k1⟩ := Prog.exec_bind_ok.mp h
  obtain ⟨-, rfl⟩ := Prog.exec_done.mp h₁
  obtain ⟨email, w₂, h₂, k2⟩ := Prog.exec_bind_ok.mp k1
  obtain ⟨-, rfl⟩ := Prog.exec_done.mp h₂
  obtain ⟨found, w₃, h₃, k3⟩ := Prog.exec_bind_ok.mp k2
  obtain ⟨hfound, rfl⟩ := exec_findByEmail (Prog.exec_mapErr_ok.mp h₃)
  obtain ⟨user, w₄, h₄, k4⟩ := Prog.exec_bind_ok.mp k3
  obtain ⟨huser, rfl⟩ := Prog.exec_ofOption.mp h₄
  obtain ⟨user', hsome, huser'⟩ | ⟨-, hbad⟩ := huser
  swap
  · cases hbad
  obtain rfl := Except.ok.inj huser'
  obtain ⟨row, hrow, hmap⟩ := hfound user hsome
  obtain ⟨valid, w₅, h₅, k5⟩ := Prog.exec_bind_ok.mp k4
  obtain ⟨_, _, rfl, hpure⟩ := Prog.exec_ask.mp h₅
  obtain ⟨-, rfl⟩ := Prog.exec_pure.mp hpure
  obtain ⟨passwordValid, w₆, h₆, k6⟩ := Prog.exec_bind_ok.mp k5
  obtain ⟨-, rfl⟩ := Prog.exec_done.mp h₆
  obtain ⟨_, w₇, h₇, k7⟩ := Prog.exec_bind_ok.mp k6
  obtain ⟨-, rfl⟩ := Prog.exec_rejectIf.mp h₇
  obtain ⟨_, w₈, h₈, k8⟩ := Prog.exec_bind_ok.mp k7
  obtain ⟨hactive, rfl⟩ := Prog.exec_rejectIf.mp h₈
  obtain ⟨hactive, -⟩ | ⟨-, hbad⟩ := hactive
  swap
  · cases hbad
  obtain ⟨pairId, w₉, h₉, k9⟩ := Prog.exec_bind_ok.mp k8
  obtain ⟨_, -, rfl⟩ := exec_newUuid.mp h₉
  obtain ⟨access, wa, ha, k10⟩ := Prog.exec_bind_ok.mp k9
  obtain ⟨ida, hdba, hnewa, -, -, hnowa⟩ := exec_createWithKind (Prog.exec_mapErr_ok.mp ha)
  obtain ⟨refresh, wr, hr, k11⟩ := Prog.exec_bind_ok.mp k10
  obtain ⟨idr, hdbr, hnewr, -, -, hnowr⟩ := exec_createWithKind (exec_createPaired hr)
  obtain ⟨ms, wm, hm, k12⟩ := Prog.exec_bind_ok.mp k11
  obtain ⟨hmirrors, rfl⟩ := mirrors_listForUser (Prog.exec_mapErr_ok.mp hm)
  obtain ⟨_, ws, hs, k13⟩ := Prog.exec_bind_ok.mp k12
  obtain ⟨hresponse, rfl⟩ := Prog.exec_pure.mp k13
  obtain rfl := Except.ok.inj hresponse
  obtain ⟨hset, hnows⟩ := SessionBackend.exec_updateMemberships (Prog.exec_mapErr_ok.mp hs)
  obtain ⟨htokens, hold, hdb⟩ := pair_sessions hdba hdbr hnewa hnewr hset
  refine ⟨user, _, ⟨⟨_, _, _, rfl, rfl, rfl, rfl, rfl, ?_, htokens, hold, ?_, hdb⟩, ?_, ?_, ?_⟩, rfl⟩
  · exact (snapshots_newSessionRow _ _ _ _ _ _ _).2
  · intro hnamed
    rw [hdbr, hdba] at hmirrors
    exact hmirrors hnamed
  · exact ⟨row, hrow, hmap, by simpa using hactive⟩
  · split <;> rfl
  · rw [hnows, hnowr, hnowa]

omit [Unicode] in
/-- **A verification that returned** has consumed a token that could be consumed, has activated
its user, and has added an access session without snapshots. -/
lemma exec_verifyEmail {token : String} {cookie : SessionCookie}
    (h : (Routes.verifyEmail (authPlatform validate sha256Hash config backend)
      ⟨config, backend.store⟩ token).Exec (Env F) w (.ok cookie) w') :
    ∃ (row : EmailVerificationTokenRow) (id : Uuid) (sessionToken : SessionToken),
      w.db.emailVerificationTokens.find? (·.usable (sha256Hash token) w.now) = some row ∧
      (∃ user ∈ w.db.users, user.id = row.userId) ∧
      (∀ s ∈ w.db.sessions, s.token ≠ sessionToken) ∧ w'.now = w.now ∧
      w'.db = { w.db with
        emailVerificationTokens := w.db.emailVerificationTokens.map fun r =>
          if r.usable (sha256Hash token) w.now then { r with usedAt := some w.now } else r
        users := w.db.users.map fun r =>
          if r.id = row.userId then
            { r with status := "active", emailVerifiedAt := some w.now, updatedAt := w.now }
          else r
        sessions := w.db.sessions ++ [newSessionRow id sessionToken row.userId .access none
          (w.now + config.duration .access) w.now] } := by
  obtain ⟨u, w₁, h₁, k₁⟩ := Prog.exec_bind_ok.mp h
  obtain ⟨created, w₂, h₂, k₂⟩ := Prog.exec_bind_ok.mp k₁
  obtain ⟨t, w₃, h₃, k₃⟩ := Prog.exec_bind_ok.mp k₂
  obtain ⟨-, rfl⟩ := exec_now.mp h₃
  obtain ⟨-, rfl⟩ := Prog.exec_pure.mp k₃
  -- the use case: a token is consumed, and its user is activated
  obtain ⟨u', wc, hc, kc⟩ := Prog.exec_bind_ok.mp (Prog.exec_mapErr_ok.mp h₁)
  obtain ⟨_, wa, ha, ka⟩ := Prog.exec_bind_ok.mp kc
  obtain ⟨hu, rfl⟩ := Prog.exec_pure.mp ka
  obtain rfl := Except.ok.inj hu
  obtain ⟨(consumed : Option UserId), wd, hd, kd⟩ :=
    Prog.exec_bind_ok.mp (Prog.exec_mapErr_ok.mp hc)
  obtain ⟨hx, hnow₁⟩ := exec_execute_db hd
  obtain ⟨hconsumed, rfl⟩ := Prog.exec_ofOption.mp kd
  obtain ⟨_, rfl, hu'⟩ | ⟨-, hbad⟩ := hconsumed
  swap
  · cases hbad
  obtain rfl := Except.ok.inj hu'
  obtain ⟨hfind, hdb₁⟩ := Prod.mk.inj (Except.ok.inj hx)
  obtain ⟨row, hrow, rfl⟩ := Option.map_eq_some_iff.mp hfind
  obtain ⟨(n : Nat), we, he, ke⟩ := Prog.exec_bind_ok.mp (Prog.exec_mapErr_ok.mp ha)
  obtain ⟨hy, hnow₂⟩ := exec_execute_db he
  obtain ⟨hn, rfl⟩ := Prog.exec_rejectIf.mp ke
  obtain ⟨hcount, hdb₂⟩ := Prod.mk.inj (Except.ok.inj hy)
  -- the route: a session is created
  obtain ⟨id, hdb₃, hnew, huser, -, hnow₃⟩ := exec_createWithKind (Prog.exec_mapErr_ok.mp h₂)
  refine ⟨row, id, created.token, hrow, ?_, ?_, ?_, ?_⟩
  · obtain ⟨r', hr', hid⟩ := huser
    rw [← hdb₂, ← hdb₁] at hr'
    obtain ⟨r, hr, rfl⟩ := List.mem_map.mp hr'
    refine ⟨r, hr, ?_⟩
    rw [← hid]
    split <;> rfl
  · intro s hs
    refine hnew s ?_
    rw [← hdb₂, ← hdb₁]
    exact hs
  · rw [hnow₃, hnow₂, hnow₁]
  · rw [hdb₃, ← hdb₂, ← hdb₁, hnow₂, hnow₁]
    rfl

end Exec

end Klynt
