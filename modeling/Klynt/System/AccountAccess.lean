import Klynt.System.AccountRun

set_option relaxedAutoImplicit false
set_option autoImplicit false

/-!
# Access after the end of an account

Whether a request is authenticated is decided from a session alone.  The deletion of an account
leaves its sessions in place, and the middleware never looks at accounts.  What ends with an
account is the way to new sessions: no login is left, so every token that still passes is one the
user had before.  A deletion is final, and the user service refuses a deleted user.

## Main results

* `session_access` — what a deletion or a suspension leaves of the access of a user.
* `deleted_user_creates_tenant` — a deleted user goes on with a session from before.
-/

namespace Klynt

variable [Unicode] {d : Deployment} {F : Req → Prop} {w w' : World} {u : UserId}

/-! ## The middleware and accounts -/

omit [Unicode] in
/-- Requests that neither read nor write users. -/
def Req.IgnoresUsers : Req → Prop
  | .clock | .redis _ | .query (.activeSession _) => True
  | _ => False

omit [Unicode] in
/-- The world with other users. -/
def World.withUsers (w : World) (users : List UserRow) : World :=
  { w with db := { w.db with users } }

omit [Unicode] in
/-- Such a request is answered alike, whatever the database says outside its sessions. -/
lemma Req.IgnoresUsers.env {q : Req} (hq : q.IgnoresUsers) {a : Ans q} (h : Env F q w a w')
    {f : Db → Db} (hf : ∀ db, (f db).sessions = db.sessions) :
    Env F q { w with db := f w.db } a { w' with db := f w'.db } := by
  cases q with
  | clock =>
    obtain ⟨rfl, rfl⟩ := h
    exact ⟨rfl, rfl⟩
  | query q =>
    cases q with
    | activeSession token =>
      obtain ⟨rfl, ha⟩ := h
      have hexec : (Query.activeSession token).exec w'.now (f w'.db) =
          (Query.activeSession token).exec w'.now w'.db := by
        unfold Query.exec
        dsimp only
        rw [hf]
      refine ⟨rfl, ?_⟩
      dsimp only
      rw [hexec]
      exact ha
    | _ => exact hq.elim
  | redis c =>
    obtain ⟨ha, rfl⟩ | ⟨hF, ha, redis, rfl, hredis⟩ := h
    · exact .inl ⟨ha, rfl⟩
    · exact .inr ⟨hF, ha, redis, rfl, hredis⟩
  | _ => exact hq.elim

omit [Unicode] in
/-- The validation of a token issues such requests only. -/
lemma all_validateAccess (config : SessionConfig) (backend : SessionBackend)
    (token : SessionToken) :
    ((⟨config, backend.store⟩ : SessionService).validateAccess token).All Req.IgnoresUsers := by
  have hstored : ∀ token, (PgSessionStore.findValid token).All Req.IgnoresUsers := by
    intro token
    refine (all_select trivial).mapErr.bind fun (found : Option SessionRow) => ?_
    cases found with
    | none => exact Prog.all_pure _
    | some row => exact Prog.all_done _
  have hfind : ∀ token, (backend.store.findValid token).All Req.IgnoresUsers := by
    intro token
    cases backend with
    | database => exact hstored token
    | cached connected =>
      have hfill : ∀ found, (CachedSessionStore.fillCache connected token found).All
          Req.IgnoresUsers := by
        intro found
        cases found with
        | none => exact Prog.all_pure _
        | some session =>
          unfold CachedSessionStore.fillCache
          dsimp only
          split
          · exact (CachedSessionStore.all_writeCache _ _ _ trivial).attempt.bind fun _ => Prog.all_pure _
          · exact Prog.all_pure _
      refine (CachedSessionStore.all_readCache _ _ trivial trivial).attempt.bind fun r => ?_
      rcases r with e | _ | session
      · exact (hstored token).bind hfill
      · exact (hstored token).bind hfill
      · exact Prog.all_pure _
  refine Prog.All.bind ((hfind token).mapErr.bind fun _ => Prog.all_ofOption _ _) fun session => ?_
  split
  · exact Prog.all_pure _
  · exact Prog.all_fail _

omit [Unicode] in
/-- The middleware issues such requests only. -/
lemma all_requireAuth (config : SessionConfig) (backend : SessionBackend)
    (headers : RequestHeaders) :
    (requireAuth ⟨config, backend.store⟩ headers).All Req.IgnoresUsers :=
  (Prog.all_ofOption _ _).bind fun token =>
    (all_validateAccess config backend token).mapErr.bind fun _ => Prog.all_pure _

omit [Unicode] in
/-- **The middleware never looks at accounts.** -/
lemma requireAuth_withUsers {config : SessionConfig} {backend : SessionBackend}
    {headers : RequestHeaders} {r : Except GatewayError ExecutionContext}
    (h : (requireAuth ⟨config, backend.store⟩ headers).Exec (Env F) w r w') (users : List UserRow) :
    (requireAuth ⟨config, backend.store⟩ headers).Exec (Env F) (w.withUsers users) r
      (w'.withUsers users) :=
  Prog.Exec.map (g := fun w : World => w.withUsers users)
    (fun _ _ _ _ hq hE => hq.env hE (f := fun db => { db with users }) fun _ => rfl)
    (all_requireAuth config backend headers) h

omit [Unicode] in
/-- The validation of a token depends on sessions, the cache and the clock only. -/
lemma validateAccess_congr {config : SessionConfig} {backend : SessionBackend}
    {token : SessionToken} {r : Except SessionServiceError Session}
    (h : ((⟨config, backend.store⟩ : SessionService).validateAccess token).Exec (Env F) w r w')
    {db : Db} (hdb : db.sessions = w.db.sessions) :
    ∃ v', ((⟨config, backend.store⟩ : SessionService).validateAccess token).Exec (Env F)
      { w with db } r v' := by
  have hmoved := Prog.Exec.map
    (g := fun w : World => { w with db := { db with sessions := w.db.sessions } })
    (fun _ _ _ _ hq hE =>
      hq.env hE (f := fun db' => { db with sessions := db'.sessions }) fun _ => rfl)
    (all_validateAccess config backend token) h
  rw [← hdb] at hmoved
  exact ⟨_, hmoved⟩

/-! ## Deletion -/

omit [Unicode] in
/-- Requests that leave sessions and the cache as they are. -/
def Req.LeavesSessions : Req → Prop
  | .update (.deleteUser _) | .query _ | .clock => True
  | _ => False

omit [Unicode] in
/-- Such a request leaves them as they are. -/
lemma Req.LeavesSessions.env {q : Req} (hq : q.LeavesSessions) {a : Ans q} (h : Env F q w a w') :
    w'.db.sessions = w.db.sessions ∧ w'.redis = w.redis := by
  cases q with
  | clock => obtain ⟨-, rfl⟩ := h; exact ⟨rfl, rfl⟩
  | query q => obtain ⟨rfl, -⟩ := h; exact ⟨rfl, rfl⟩
  | update q =>
    cases q with
    | deleteUser v =>
      obtain ⟨r, db, hx, -, rfl⟩ | ⟨e, -, -, rfl⟩ | ⟨-, -, rfl⟩ := h
      · obtain ⟨-, rfl⟩ := Prod.mk.inj (Except.ok.inj hx)
        exact ⟨rfl, rfl⟩
      · exact ⟨rfl, rfl⟩
      · exact ⟨rfl, rfl⟩
    | _ => exact hq.elim
  | _ => exact hq.elim

/-- A deletion leaves sessions and the cache as they are, whatever fails. -/
lemma exec_deleteUser_sessions {service : UserService} {ctx : ExecutionContext}
    {r : Except UserError Unit} (h : (service.deleteUser ctx u).Exec (Env F) w r w') :
    w'.db.sessions = w.db.sessions ∧ w'.redis = w.redis := by
  refine h.rel (R := fun w w' : World => w'.db.sessions = w.db.sessions ∧ w'.redis = w.redis)
    (fun _ => ⟨rfl, rfl⟩) (fun h₁ h₂ => ⟨h₂.1.trans h₁.1, h₂.2.trans h₁.2⟩)
    (fun q _ _ _ (hq : q.LeavesSessions) hE => hq.env hE) ?_
  refine Prog.All.bind (Prog.All.mapErr ?_) fun found => (Prog.all_ofOption _ _).bind fun user => ?_
  · exact (all_select trivial).mapErr.bind fun _ => Prog.all_done _
  refine (Prog.all_rejectIf _ _).bind fun _ => ?_
  refine Prog.All.bind ⟨trivial, fun _ => trivial⟩ fun t => (Prog.all_done _).bind fun _ => ?_
  exact Prog.All.mapErr ((all_execute trivial).mapErr.bind fun (rows : Nat) => Prog.all_rejectIf _ _)

/-- A user that was found by id. -/
lemma exec_findById {found : Option User}
    (h : (PgUserRepository.findById u).Exec (Env F) w (.ok found) w') :
    (∀ user, found = some user → ∃ row ∈ w.db.users, row.id = u ∧ row.intoUser = .ok user) ∧
      w' = w := by
  obtain ⟨(row : Option UserRow), w₁, hrow, hrest⟩ := Prog.exec_bind_ok.mp h
  obtain ⟨hread, rfl⟩ := exec_select_ok.mp (Prog.exec_mapErr_ok.mp hrow)
  obtain ⟨hfound, rfl⟩ := Prog.exec_done.mp hrest
  refine ⟨?_, rfl⟩
  rintro user rfl
  obtain ⟨r, hr, hmap⟩ := mapOption_eq_some.mp (Except.mapError_eq_ok.mp hfound.symm)
  subst hr
  exact ⟨r, List.mem_of_find?_eq_some hread.symm, by simpa using List.find?_some hread.symm, hmap⟩

/-- **A deletion that returned** leaves the account marked as deleted. -/
lemma exec_deleteUser {service : UserService} {ctx : ExecutionContext}
    (h : (service.deleteUser ctx u).Exec (Env F) w (.ok ()) w') : w'.db.Deleted u := by
  obtain ⟨found, w₁, -, h₁⟩ := Prog.exec_bind_ok.mp h
  obtain ⟨user, w₂, -, h₂⟩ := Prog.exec_bind_ok.mp h₁
  obtain ⟨_, w₃, -, h₃⟩ := Prog.exec_bind_ok.mp h₂
  obtain ⟨t, w₄, -, h₄⟩ := Prog.exec_bind_ok.mp h₃
  obtain ⟨_, w₅, -, h₅⟩ := Prog.exec_bind_ok.mp h₄
  obtain ⟨(rows : Nat), w₆, hx, hrows⟩ := Prog.exec_bind_ok.mp (Prog.exec_mapErr_ok.mp h₅)
  obtain ⟨hx, -⟩ := exec_execute_db hx
  obtain ⟨⟨hpos, -⟩ | ⟨-, hbad⟩, rfl⟩ := Prog.exec_rejectIf.mp hrows
  swap
  · cases hbad
  obtain ⟨hcount, hdb⟩ := Prod.mk.inj (Except.ok.inj hx)
  -- a row was counted, and every row of the user is marked now
  have hmarked : ∀ row ∈ w'.db.users, row.id = u → row.deletedAt.isSome = true := by
    intro row' hrow' hid
    rw [← hdb] at hrow'
    obtain ⟨row, -, rfl⟩ := List.mem_map.mp hrow'
    split
    · rfl
    · rename_i hkept
      rw [if_neg hkept] at hid
      exact Option.isSome_iff_ne_none.mpr (by simpa [hid] using hkept)
  have hcounted : 0 < w₅.db.users.countP fun row => row.id = u ∧ row.deletedAt.isNone := by
    rw [hcount]
    exact Nat.pos_of_ne_zero hpos
  obtain ⟨row, hrow, hid⟩ := List.countP_pos_iff.mp hcounted
  refine ⟨?_, hmarked⟩
  rw [← hdb]
  refine ⟨_, List.mem_map_of_mem hrow, ?_⟩
  rw [if_pos (of_decide_eq_true hid)]
  exact (of_decide_eq_true hid).1

/-! ## The user service -/

/-- A deleted user that was found is known as deleted. -/
lemma Db.Deleted.isDeleted {found : Option User} {user : User} (hu : w.db.Deleted u)
    (h : (PgUserRepository.findById u).Exec (Env F) w (.ok found) w') (huser : found = some user) :
    user.isDeleted = true := by
  obtain ⟨row, hrow, hid, hmap⟩ := (exec_findById h).1 user huser
  unfold User.isDeleted
  rw [(UserRow.intoUser_ok hmap).2.2]
  exact hu.2 row hrow hid

/-- The first steps of an operation of the user service: the user is found. -/
lemma exec_findUser {ε α : Type} {f : RepositoryError → ε} {e : ε} {k : User → Action ε α} {a : α}
    (h : ((PgUserRepository.findById u).mapErr f >>= fun found =>
      Prog.ofOption e found >>= k).Exec (Env F) w (.ok a) w') (hu : w.db.Deleted u) :
    ∃ user, user.isDeleted = true ∧ (k user).Exec (Env F) w (.ok a) w' := by
  obtain ⟨found, w₁, hfound, h₁⟩ := Prog.exec_bind_ok.mp h
  replace hfound := Prog.exec_mapErr_ok.mp hfound
  obtain ⟨-, rfl⟩ := exec_findById hfound
  obtain ⟨user, w₂, huser, h₂⟩ := Prog.exec_bind_ok.mp h₁
  obtain ⟨⟨user', hsome, hok⟩ | ⟨-, hbad⟩, rfl⟩ := Prog.exec_ofOption.mp huser
  · obtain rfl := Except.ok.inj hok
    exact ⟨user, hu.isDeleted hfound hsome, h₂⟩
  · cases hbad

/-- A deleted user is not shown. -/
lemma not_exec_getUser (hu : w.db.Deleted u) {profile : UserProfile} :
    ¬ (UserService.getUser u).Exec (Env F) w (.ok profile) w' := by
  intro h
  obtain ⟨user, hdeleted, h⟩ := exec_findUser h hu
  obtain ⟨_, w₁, hreject, -⟩ := Prog.exec_bind_ok.mp h
  obtain ⟨⟨hlive, -⟩ | ⟨-, hbad⟩, -⟩ := Prog.exec_rejectIf.mp hreject
  · exact hlive hdeleted
  · cases hbad

/-- The profile of a deleted user is not changed. -/
lemma not_exec_updateProfile (hu : w.db.Deleted u) {service : UserService} {updates : ProfileUpdate}
    {profile : UserProfile} :
    ¬ (service.updateProfile u updates).Exec (Env F) w (.ok profile) w' := by
  intro h
  obtain ⟨_, w₁, hvalid, h₁⟩ := Prog.exec_bind_ok.mp h
  obtain ⟨-, rfl⟩ := Prog.exec_done.mp hvalid
  obtain ⟨user, hdeleted, h₂⟩ := exec_findUser h₁ hu
  obtain ⟨t, w₂, -, h₃⟩ := Prog.exec_bind_ok.mp h₂
  obtain ⟨user', w₃, hupdate, -⟩ := Prog.exec_bind_ok.mp h₃
  obtain ⟨hupdate, -⟩ := Prog.exec_done.mp hupdate
  rw [User.updateProfile, if_pos hdeleted] at hupdate
  cases hupdate

/-- The password of a deleted user is not changed. -/
lemma not_exec_changePassword (hu : w.db.Deleted u) {currentPassword newPassword : String} :
    ¬ (UserService.changePassword u currentPassword newPassword).Exec (Env F) w (.ok ()) w' := by
  intro h
  obtain ⟨user, hdeleted, h⟩ := exec_findUser h hu
  obtain ⟨_, w₁, hreject, -⟩ := Prog.exec_bind_ok.mp h
  obtain ⟨⟨hlive, -⟩ | ⟨-, hbad⟩, -⟩ := Prog.exec_rejectIf.mp hreject
  · exact hlive hdeleted
  · cases hbad

/-! ## Runs -/

/-- No login of a user whose account is out of use returns. -/
lemma exec_login_ne (hu : w.db.OutOfUse u) {request : LoginRequest} {response : LoginResponse}
    (h : (d.services.auth.login request).Exec (Env F) w (.ok response) w') :
    response.user.id ≠ u := by
  obtain ⟨user, kind, hlogin, hresponse⟩ := exec_login h
  obtain ⟨row, hrow, hmap, hactive⟩ := hlogin.active
  intro hid
  have huser : row.id = u := by
    rw [← (UserRow.intoUser_ok hmap).1, ← hid, hresponse]
    rfl
  rw [hu row hrow huser user hmap] at hactive
  cases hactive

/-- **The tokens of a user whose account is out of use** do not become more in a run in which no
address of the user is verified. -/
theorem tokenOf_of_run {w₀ : World} {tr : List (World × AccountLabel)}
    (hrun : Run (· = w₀) (AccountStep d F) tr w)
    (hout : ∀ e ∈ tr, e.1.db.OutOfUse u ∧ e.2.Spares d.sha256Hash u e.1) {token : SessionToken}
    (ht : w.TokenOf u token) : w₀.TokenOf u token := by
  have hI := hrun.invariant_of_forall
    (I := fun w => ∀ token, w.TokenOf u token → w₀.TokenOf u token)
    (C := fun w l => w.db.OutOfUse u ∧ l.Spares d.sha256Hash u w) ?_ ?_ hout
  · exact hI token ht
  · rintro w rfl token ht
    exact ht
  · rintro w l w' ih ⟨hu, hl⟩ hstep token ht
    exact ih token (hstep.tokenOf hu hl ht)

/-- A deletion holds in every state of a run. -/
lemma deleted_of_run {w₀ : World} {tr : List (World × AccountLabel)}
    (hrun : Run (· = w₀) (AccountStep d F) tr w) (hu : w₀.db.Deleted u) :
    w.db.Deleted u ∧ ∀ e ∈ tr, e.1.db.Deleted u := by
  have h0 : ∀ w, w = w₀ → w.db.Deleted u := by
    rintro w rfl
    exact hu
  have hstep : ∀ w l w', w.db.Deleted u → AccountStep d F w l w' → w'.db.Deleted u :=
    fun w l w' hw hs => hs.deleted hw
  exact ⟨hrun.invariant (I := fun w => w.db.Deleted u) h0 hstep,
    hrun.invariant_mem (I := fun w => w.db.Deleted u) h0 hstep⟩

/-- **Access after the end of an account.** A deletion leaves the sessions of the user in place, and
the middleware answers a token alike whatever the accounts are.  But in a run whose every state
finds the account deleted or not active, and in which no address of the user is verified, a token
that passes as the user's is one the user had at the start, and no login of the user returns.  After
a deletion the account is out of use in every state, and the user service refuses the user.

**Proof sketch.** The middleware issues requests that commute with any change of the users.  A
step of the run issues requests that spare the user: a login goes on for active users only, and
all else creates no session or one of another user. -/
theorem session_access (d : Deployment) (F : Req → Prop) (u : UserId) :
    (∀ ctx r w w', (d.services.user.deleteUser ctx u).Exec (Env F) w r w' →
      w'.db.sessions = w.db.sessions ∧ w'.redis = w.redis) ∧
    (∀ headers r w w' users, (requireAuth d.services.session headers).Exec (Env F) w r w' →
      (requireAuth d.services.session headers).Exec (Env F) (w.withUsers users) r
        (w'.withUsers users)) ∧
    (∀ tr w₀ w, Run (· = w₀) (AccountStep d F) tr w →
      (∀ e ∈ tr, e.1.db.OutOfUse u ∧ e.2.Spares d.sha256Hash u e.1) →
      (∀ headers ctx w', (requireAuth d.services.session headers).Exec (Env F) w (.ok ctx) w' →
        ctx.actorId = some u.inner →
        ∃ token, extractSessionToken headers = some token ∧ w₀.TokenOf u token) ∧
      (w.db.OutOfUse u → ∀ request response w',
        (d.services.auth.login request).Exec (Env F) w (.ok response) w' →
        response.user.id ≠ u)) ∧
    (∀ ctx tr w₀ w₁ w, (d.services.user.deleteUser ctx u).Exec (Env F) w₀ (.ok ()) w₁ →
      Run (· = w₁) (AccountStep d F) tr w →
      (∀ e ∈ tr, e.1.db.OutOfUse u) ∧ w.db.OutOfUse u ∧
      (∀ profile w', ¬ (UserService.getUser u).Exec (Env F) w (.ok profile) w') ∧
      (∀ updates profile w',
        ¬ (d.services.user.updateProfile u updates).Exec (Env F) w (.ok profile) w') ∧
      ∀ currentPassword newPassword w',
        ¬ (UserService.changePassword u currentPassword newPassword).Exec (Env F) w (.ok ()) w') := by
  refine ⟨fun ctx r w w' h => exec_deleteUser_sessions h,
    fun headers r w w' users h => requireAuth_withUsers h users, ?_, ?_⟩
  · intro tr w₀ w hrun hout
    constructor
    · intro headers ctx w' h hctx
      obtain ⟨v, token, hv, htoken, ht⟩ := exec_requireAuth h
      obtain rfl : v = u := congrArg UserId.mk (Option.some.inj (hv.symm.trans hctx))
      exact ⟨token, htoken, tokenOf_of_run hrun hout ht⟩
    · intro hu request response w' h
      exact exec_login_ne hu h
  · intro ctx tr w₀ w₁ w hdelete hrun
    obtain ⟨hu, hpast⟩ := deleted_of_run hrun (exec_deleteUser hdelete)
    refine ⟨fun e he => (hpast e he).outOfUse, hu.outOfUse, ?_, ?_, ?_⟩
    · exact fun profile w' => not_exec_getUser hu
    · exact fun updates profile w' => not_exec_updateProfile hu
    · exact fun currentPassword newPassword w' => not_exec_changePassword hu

namespace Scenario

omit [Unicode]

/-- The first user. -/
def ada : UserId := ⟨901⟩

/-- The first user logs in. -/
def login : AccountCall := .login ⟨"ada@x.org", "", none⟩

/-- The headers of the first user's requests from then on. -/
def headers : RequestHeaders := ⟨some ("Bearer " ++ Uuid.render 1), none⟩

/-- The third user deletes the first. -/
def deletion : AccountCall := .deleteUser (ctx 903) ada

/-- The first user has logged in and has been deleted. -/
def deleted : World := accountsPlayed world [deletion, login]

/-- The deletion returned. -/
theorem exec_deletion :
    (@UserService.deleteUser Unicode.ascii deployment.services.user (ctx 903) ada).Exec (Env noFault)
      (accountsPlayed world [login]) (.ok ()) deleted := by
  have hok : (asked deletion (accountsPlayed world [login])).1.isOk = true := by decide +kernel
  obtain ⟨_, hdeleted⟩ := exec_asked_ok hok
  exact hdeleted

end Scenario

omit [Unicode] in
/-- After the deletion another user logs in; the deleted user is not shown, and only tokens from
before pass as the user's. -/
theorem session_access_deleted :
    let w := Scenario.accountsPlayed Scenario.deleted [.login ⟨"bob@x.org", "", none⟩]
    (∀ profile w', ¬ (@UserService.getUser Unicode.ascii Scenario.ada).Exec (Env noFault) w
      (.ok profile) w') ∧
    ∀ headers ctx w',
      (requireAuth Scenario.deployment.services.session headers).Exec (Env noFault) w (.ok ctx) w' →
      ctx.actorId = some Scenario.ada.inner →
      ∃ token, extractSessionToken headers = some token ∧
        Scenario.deleted.TokenOf Scenario.ada token := by
  have haccess := @session_access Unicode.ascii Scenario.deployment noFault Scenario.ada
  have hrun := Scenario.run_accountsPlayed Scenario.deleted [.login ⟨"bob@x.org", "", none⟩]
  obtain ⟨hout, -, hget, -⟩ := haccess.2.2.2 _ _ _ _ _ Scenario.exec_deletion hrun
  refine ⟨hget, (haccess.2.2.1 _ _ _ hrun fun e he => ⟨hout e he, ?_⟩).1⟩
  obtain rfl := List.mem_singleton.mp he
  trivial

omit [Unicode] in
/-- **A deleted user goes on.** The first user logs in and is deleted; the token still passes, and
the user creates a tenant. -/
theorem deleted_user_creates_tenant :
    Run (· = Scenario.world) (@AccountStep Unicode.ascii Scenario.deployment noFault)
      (Scenario.accountsHistory Scenario.world [Scenario.deletion, Scenario.login])
      Scenario.deleted ∧
    (∃ w₀, (@UserService.deleteUser Unicode.ascii Scenario.deployment.services.user (Scenario.ctx 903)
      Scenario.ada).Exec (Env noFault) w₀ (.ok ()) Scenario.deleted) ∧
    (∃ ctx w', (requireAuth Scenario.deployment.services.session Scenario.headers).Exec (Env noFault)
      Scenario.deleted (.ok ctx) w' ∧ ctx.actorId = some Scenario.ada.inner) ∧
    ∃ w', (@TenantCall.run Unicode.ascii Scenario.deployment.services.tenant
      ⟨some Scenario.ada.inner⟩ (.createTenant "acme" "Acme")).Exec (Env noFault) Scenario.deleted
        (.ok ()) w' := by
  refine ⟨Scenario.run_accountsPlayed _ _, ⟨_, Scenario.exec_deletion⟩, ?_, ?_⟩
  · have hactor : ((Scenario.asked (.requireAuth Scenario.headers) Scenario.deleted).1.toOption.map
        ExecutionContext.actorId) = some (some Scenario.ada.inner) := by decide +kernel
    cases hauth : (Scenario.asked (.requireAuth Scenario.headers) Scenario.deleted).1 with
    | ok ctx =>
      rw [hauth] at hactor
      exact ⟨ctx, _, Scenario.exec_asked hauth, Option.some.inj hactor⟩
    | error e =>
      rw [hauth] at hactor
      cases hactor
  · have hcreate : (Scenario.asked (.tenant ⟨some Scenario.ada.inner⟩ (.createTenant "acme" "Acme"))
        Scenario.deleted).1.isOk = true := by decide +kernel
    obtain ⟨_, hcreated⟩ := Scenario.exec_asked_ok hcreate
    exact ⟨_, hcreated⟩

end Klynt
