import Klynt.System.AccountAccess

set_option relaxedAutoImplicit false
set_option autoImplicit false

/-!
# Who manages the accounts of others

The routes that get, list and delete users are declared as admin routes, but they run behind the
middleware of authentication alone, and no handler or use case looks at the role of the actor.
So a request of an actor who is no platform administrator keeps to the actor's own account only
where it cannot do anything with another one.

## Main definitions

* `Db.PlatformAdmin` — the user has a global role that administers the platform.
* `UserRequest.Own` — what a successful request did concerns the account of the actor only.
* `UserRequest.Touches` — another account stands where the request looks for one.

## Main results

* `user_management` — the requests of an actor are managed exactly if the actor administers the
  platform or the request touches no other account.
* `user_manages_other` — a user without a global role reads and deletes another user.
-/

namespace Klynt

variable [Unicode]

/-! ## Administrators and requests -/

/-- The user administers the platform. -/
def Db.PlatformAdmin (db : Db) (u : UserId) : Prop :=
  ∃ row ∈ db.users, row.id = u ∧ ∃ raw role, row.globalRole = some raw ∧
    GlobalRole.parse raw = .ok role ∧ role ≠ .user

/-- The user a row lookup finds. -/
def Db.Finds (db : Db) (u : UserId) (user : User) : Prop :=
  ∃ row, db.users.find? (·.id = u) = some row ∧ row.intoUser = .ok user

/-- The rows on a page of the list of users. -/
def Db.usersOn (db : Db) (pagination : PaginationRequest) : List UserRow :=
  Query.exec 0 db (.usersPage pagination.pageSize pagination.offset)

namespace UserRequest

/-- What a successful request showed is the actor's, and a deletion is one the actor may make. -/
def Own (service : UserService) (actor : UserId) : (request : UserRequest) → request.Res → Prop
  | getUser _, (profile : UserProfile) => profile.id = actor
  | listUsers _, (page : PaginatedResponse UserProfile) => ∀ profile ∈ page.items, profile.id = actor
  | deleteUser userId, _ => userId = actor.inner ∧ service.allowSelfDelete = true

/-- Another account stands where the request looks: a user who is not deleted, one on the page, or
one that can be deleted. -/
def Touches (db : Db) (actor : UserId) : UserRequest → Prop
  | getUser userId => userId ≠ actor.inner ∧ ∃ user, db.Finds ⟨userId⟩ user ∧ user.isDeleted = false
  | listUsers query =>
    ∃ row ∈ db.usersOn (.new query.page query.pageSize), ∃ user,
      row.intoUser = .ok user ∧ user.id ≠ actor
  | deleteUser userId =>
    userId ≠ actor.inner ∧ ∃ user, db.Finds ⟨userId⟩ user ∧ user.canDelete = true

end UserRequest

/-! ## What the handlers do -/

section Handlers

variable {F : Req → Prop} {w w' : World} {u : UserId}

/-- The outcome of a lookup by id. -/
lemma exec_findById_ok {found : Option User} :
    (PgUserRepository.findById u).Exec (Env F) w (.ok found) w' ↔
      mapOption UserRow.intoUser (w.db.users.find? (·.id = u)) = .ok found ∧ w' = w := by
  constructor
  · intro h
    obtain ⟨row, w₁, hrow, hmap, hw⟩ := Prog.exec_bind_ok.mp h
    obtain ⟨rfl, rfl⟩ := exec_select_ok.mp (Prog.exec_mapErr_ok.mp hrow)
    exact ⟨Except.mapError_eq_ok.mp hmap.symm, hw⟩
  · rintro ⟨hmap, rfl⟩
    refine Prog.exec_bind_ok.mpr ⟨_, w', Prog.exec_mapErr_ok.mpr (exec_select_ok.mpr
      ⟨rfl, rfl⟩), ?_, rfl⟩
    exact (Except.mapError_eq_ok.mpr hmap).symm

/-- A lookup by id that finds a user. -/
lemma exec_findById_some {user : User} :
    (PgUserRepository.findById u).Exec (Env F) w (.ok (some user)) w' ↔
      w.db.Finds u user ∧ w' = w := by
  rw [exec_findById_ok]
  refine and_congr_left fun _ => ?_
  unfold Db.Finds
  cases w.db.users.find? (·.id = u) with
  | none =>
    constructor
    · intro h
      cases h
    · rintro ⟨_, h, -⟩
      cases h
  | some row =>
    constructor
    · intro h
      cases hmap : row.intoUser with
      | error e => rw [mapOption, hmap] at h; cases h
      | ok found =>
        rw [mapOption, hmap] at h
        obtain rfl := Option.some.inj (Except.ok.inj h)
        exact ⟨row, rfl, hmap⟩
    · rintro ⟨row', hrow, hmap⟩
      obtain rfl := Option.some.inj hrow
      rw [mapOption, hmap]
      rfl

/-- **Getting a user** succeeds for a user who is found and not deleted. -/
lemma exec_getUser_ok {profile : UserProfile} :
    (UserService.getUser u).Exec (Env F) w (.ok profile) w' ↔
      ∃ user, w.db.Finds u user ∧ user.isDeleted = false ∧ profile = .ofUser user ∧ w' = w := by
  constructor
  · intro h
    obtain ⟨found, w₁, hfound, h₁⟩ := Prog.exec_bind_ok.mp h
    obtain ⟨user, w₂, huser, h₂⟩ := Prog.exec_bind_ok.mp h₁
    obtain ⟨⟨_, rfl, hok⟩ | ⟨-, herr⟩, rfl⟩ := Prog.exec_ofOption.mp huser
    · obtain rfl := Except.ok.inj hok
      obtain ⟨hfinds, rfl⟩ := exec_findById_some.mp (Prog.exec_mapErr_ok.mp hfound)
      obtain ⟨_, w₃, hcheck, hreturn, rfl⟩ := Prog.exec_bind_ok.mp h₂
      obtain ⟨⟨hlive, -⟩ | ⟨-, herr⟩, rfl⟩ := Prog.exec_rejectIf.mp hcheck
      · exact ⟨user, hfinds, Bool.eq_false_iff.mpr hlive, Except.ok.inj hreturn, rfl⟩
      · cases herr
    · cases herr
  · rintro ⟨user, hfinds, hlive, rfl, rfl⟩
    refine Prog.exec_bind_ok.mpr ⟨some user, w', Prog.exec_mapErr_ok.mpr
      (exec_findById_some.mpr ⟨hfinds, rfl⟩), ?_⟩
    refine Prog.exec_bind_ok.mpr ⟨user, w', ⟨rfl, rfl⟩, ?_⟩
    refine Prog.exec_bind_ok.mpr ⟨(), w', Prog.exec_rejectIf.mpr ⟨.inl ⟨?_, rfl⟩, rfl⟩, rfl, rfl⟩
    rw [hlive]
    exact Bool.false_ne_true

omit [Unicode] in
/-- A user that can be deleted is not deleted. -/
lemma User.isDeleted_of_canDelete {user : User} (h : user.canDelete = true) :
    user.isDeleted = false := by
  have hnot := (Bool.and_eq_true_iff.mp h).1
  exact Bool.not_eq_true' _ ▸ hnot

/-- **Deleting a user** succeeds for a user who is found and can be deleted, unless actors may not
delete themselves. -/
lemma exec_deleteUser_ok {service : UserService} {ctx : ExecutionContext} :
    (∃ w', (service.deleteUser ctx u).Exec (Env F) w (.ok ()) w') ↔
      (∃ user, w.db.Finds u user ∧ user.canDelete = true) ∧
        ¬ (ctx.actorId = some u.inner ∧ service.allowSelfDelete = false) := by
  constructor
  · rintro ⟨w', h⟩
    obtain ⟨found, w₁, hfound, h₁⟩ := Prog.exec_bind_ok.mp h
    obtain ⟨user, w₂, huser, h₂⟩ := Prog.exec_bind_ok.mp h₁
    obtain ⟨⟨_, rfl, hok⟩ | ⟨-, herr⟩, rfl⟩ := Prog.exec_ofOption.mp huser
    · obtain rfl := Except.ok.inj hok
      obtain ⟨hfinds, rfl⟩ := exec_findById_some.mp (Prog.exec_mapErr_ok.mp hfound)
      obtain ⟨_, w₃, hcheck, h₃⟩ := Prog.exec_bind_ok.mp h₂
      obtain ⟨⟨hself, -⟩ | ⟨-, herr⟩, rfl⟩ := Prog.exec_rejectIf.mp hcheck
      · obtain ⟨t, w₄, -, h₄⟩ := Prog.exec_bind_ok.mp h₃
        obtain ⟨user', w₅, ⟨hdelete, -⟩, -⟩ := Prog.exec_bind_ok.mp h₄
        refine ⟨⟨user, hfinds, ?_⟩, hself⟩
        cases hcan : user.canDelete with
        | true => rfl
        | false =>
          rw [User.delete, if_pos hcan] at hdelete
          cases hdelete
      · cases herr
    · cases herr
  · rintro ⟨⟨user, hfinds, hcan⟩, hself⟩
    obtain ⟨row, hrow, hmap⟩ := hfinds
    obtain ⟨db, hdb⟩ : ∃ db, (Update.deleteUser u).exec w.now w.db =
        .ok (w.db.users.countP (fun row => row.id = u ∧ row.deletedAt.isNone), db) := ⟨_, rfl⟩
    -- the row that was found is one the statement marks
    have hcount : w.db.users.countP (fun row => row.id = u ∧ row.deletedAt.isNone) ≠ 0 := by
      have hlive := User.isDeleted_of_canDelete hcan
      rw [User.isDeleted, (UserRow.intoUser_ok hmap).2.2] at hlive
      have hid := (List.find?_eq_some_iff_append.mp hrow).1
      refine (List.countP_pos_iff.mpr ⟨row, List.mem_of_find?_eq_some hrow, ?_⟩).ne'
      exact decide_eq_true ⟨of_decide_eq_true hid, Option.isSome_eq_false_iff.mp hlive⟩
    refine ⟨{ w with db }, Prog.exec_bind_ok.mpr ⟨some user, w, Prog.exec_mapErr_ok.mpr
      (exec_findById_some.mpr ⟨⟨row, hrow, hmap⟩, rfl⟩), ?_⟩⟩
    refine Prog.exec_bind_ok.mpr ⟨user, w, ⟨rfl, rfl⟩, ?_⟩
    refine Prog.exec_bind_ok.mpr ⟨(), w, Prog.exec_rejectIf.mpr ⟨.inl ⟨hself, rfl⟩, rfl⟩, ?_⟩
    refine Prog.exec_bind_ok.mpr ⟨w.now, w, exec_now.mpr ⟨rfl, rfl⟩, ?_⟩
    refine Prog.exec_bind_ok.mpr ⟨{ user with deletedAt := some w.now }, w, ⟨?_, rfl⟩, ?_⟩
    · rw [User.delete, if_neg (by rw [hcan]; exact Bool.true_eq_false_eq_False)]
    · refine Prog.exec_mapErr_ok.mpr (Prog.exec_bind_ok.mpr ⟨_, { w with db },
        Prog.exec_mapErr_ok.mpr ((exec_execute_ok (u := .deleteUser u)).mpr ⟨db, hdb, rfl⟩), ?_⟩)
      exact Prog.exec_rejectIf.mpr ⟨.inl ⟨hcount, rfl⟩, rfl⟩

/-- **Listing users** shows the users on the page. -/
lemma exec_listUsers_ok {pagination : PaginationRequest} {page : PaginatedResponse UserProfile} :
    (UserService.listUsers pagination).Exec (Env F) w (.ok page) w' ↔
      page = { items := ((w.db.usersOn pagination).filterMap (·.intoUser.toOption)).map .ofUser,
               totalCount := w.db.users.countP (·.deletedAt.isNone), page := pagination.page,
               pageSize := pagination.pageSize } ∧ w' = w := by
  constructor
  · intro h
    obtain ⟨x, w₁, hlist, hreturn, rfl⟩ := Prog.exec_bind_ok.mp h
    obtain ⟨rows, w₂, hrows, h⟩ := Prog.exec_bind_ok.mp (Prog.exec_mapErr_ok.mp hlist)
    obtain ⟨rfl, rfl⟩ := exec_select_ok.mp (Prog.exec_mapErr_ok.mp hrows)
    obtain ⟨total, w₃, htotal, hx, rfl⟩ := Prog.exec_bind_ok.mp h
    obtain ⟨rfl, rfl⟩ := exec_select_ok.mp (Prog.exec_mapErr_ok.mp htotal)
    obtain rfl := Except.ok.inj hx
    exact ⟨Except.ok.inj hreturn, rfl⟩
  · rintro ⟨rfl, rfl⟩
    refine Prog.exec_bind_ok.mpr ⟨_, w', Prog.exec_mapErr_ok.mpr (Prog.exec_bind_ok.mpr
      ⟨_, w', Prog.exec_mapErr_ok.mpr (exec_select_ok.mpr ⟨rfl, rfl⟩), Prog.exec_bind_ok.mpr
        ⟨_, w', Prog.exec_mapErr_ok.mpr (exec_select_ok.mpr ⟨rfl, rfl⟩), rfl, rfl⟩⟩), ?_⟩
    exact ⟨rfl, rfl⟩

end Handlers

/-! ## Management -/

section Managed

variable {F : Req → Prop} {w w' : World} {d : Deployment} {actor : UserId}
  {ctx : ExecutionContext}

omit [Unicode] in
/-- Authenticating a request leaves the database as it is. -/
lemma db_of_requireAuth {headers : RequestHeaders} {r : Except GatewayError ExecutionContext}
    (h : (requireAuth d.services.session headers).Exec (Env F) w r w') : w'.db = w.db := by
  refine h.rel (R := fun w w' : World => w'.db = w.db) (φ := Req.IgnoresUsers) (fun _ => rfl)
    (fun h h' => h'.trans h) (fun q w a w' hq hE => hE.db_eq fun hwrite => ?_)
    (all_requireAuth d.config d.backend headers)
  cases q with
  | update u => exact hq
  | transaction t => exact hq
  | _ => exact hwrite

namespace UserRequest

/-- A request that touches no other account keeps to the actor's own. -/
lemma own_of_exec {request : UserRequest} (hactor : ctx.actorId = some actor.inner)
    {response : request.Res}
    (h : (request.handle d.services ctx).Exec (Env F) w (.ok response) w')
    (htouch : ¬ request.Touches w.db actor) : request.Own d.user actor response := by
  cases request with
  | getUser userId =>
    obtain ⟨user, hfinds, hlive, rfl, -⟩ := exec_getUser_ok.mp (Prog.exec_mapErr_ok.mp h)
    obtain ⟨row, hrow, hmap⟩ := hfinds
    have hid := of_decide_eq_true (List.find?_eq_some_iff_append.mp hrow).1
    by_contra hother
    refine htouch ⟨fun heq => hother ?_, user, ⟨row, hrow, hmap⟩, hlive⟩
    calc user.id = row.id := (UserRow.intoUser_ok hmap).1
      _ = ⟨userId⟩ := hid
      _ = actor := congrArg UserId.mk heq
  | listUsers query =>
    obtain ⟨rfl, -⟩ := exec_listUsers_ok.mp (Prog.exec_mapErr_ok.mp h)
    intro profile hprofile
    obtain ⟨user, huser, rfl⟩ := List.mem_map.mp hprofile
    obtain ⟨row, hrow, hmap⟩ := List.mem_filterMap.mp huser
    by_contra hother
    exact htouch ⟨row, hrow, user, toOption_eq_some.mp hmap, hother⟩
  | deleteUser userId =>
    obtain ⟨_, w₁, hdelete, -⟩ := Prog.exec_bind_ok.mp h
    obtain ⟨hfound, hself⟩ := exec_deleteUser_ok.mp ⟨w₁, Prog.exec_mapErr_ok.mp hdelete⟩
    by_cases heq : userId = actor.inner
    · refine ⟨heq, Bool.eq_true_of_not_eq_false fun hoff => hself ⟨?_, hoff⟩⟩
      rw [hactor, heq]
    · exact absurd ⟨heq, hfound⟩ htouch

/-- A request that touches another account can go beyond the actor's own. -/
lemma exists_not_own {request : UserRequest} (hactor : ctx.actorId = some actor.inner)
    (htouch : request.Touches w.db actor) :
    ∃ response w', (request.handle d.services ctx).Exec (Env F) w (.ok response) w' ∧
      ¬ request.Own d.user actor response := by
  cases request with
  | getUser userId =>
    obtain ⟨hother, user, hfinds, hlive⟩ := htouch
    refine ⟨UserProfile.ofUser user, w, Prog.exec_mapErr_ok.mpr (exec_getUser_ok.mpr
      ⟨user, hfinds, hlive, rfl, rfl⟩), fun hown => hother ?_⟩
    obtain ⟨row, hrow, hmap⟩ := hfinds
    have hid := of_decide_eq_true (List.find?_eq_some_iff_append.mp hrow).1
    have heq : (⟨userId⟩ : UserId) = actor := by
      calc (⟨userId⟩ : UserId) = row.id := hid.symm
        _ = user.id := (UserRow.intoUser_ok hmap).1.symm
        _ = actor := hown
    exact congrArg UserId.inner heq
  | listUsers query =>
    obtain ⟨row, hrow, user, hmap, hother⟩ := htouch
    refine ⟨_, w, Prog.exec_mapErr_ok.mpr (exec_listUsers_ok.mpr ⟨rfl, rfl⟩), fun hown => ?_⟩
    refine hother (hown (.ofUser user) (List.mem_map_of_mem (List.mem_filterMap.mpr
      ⟨row, hrow, toOption_eq_some.mpr hmap⟩)))
  | deleteUser userId =>
    obtain ⟨hother, hfound⟩ := htouch
    have hself : ¬ (ctx.actorId = some userId ∧ d.user.allowSelfDelete = false) := by
      rintro ⟨hself, -⟩
      exact hother (Option.some.inj (hself.symm.trans hactor))
    obtain ⟨w', h⟩ : ∃ w', (d.user.deleteUser ctx ⟨userId⟩).Exec (Env F) w (.ok ()) w' :=
      exec_deleteUser_ok.mpr ⟨hfound, hself⟩
    refine ⟨"User deleted successfully", w', ?_, fun hown => hother hown.1⟩
    exact Prog.exec_bind_ok.mpr ⟨(), w', Prog.exec_mapErr_ok.mpr h, rfl, rfl⟩

end UserRequest

/-- **Who manages accounts.**  In every state, whether a run reaches it or not, an authenticated
request comes from an actor with a token that identifies the actor, and every way in which the
request can succeed is that of a platform administrator or concerns the actor's own account only,
exactly if the actor administers the platform or the request touches no other account.

**Proof sketch.** The middleware leaves the database as it is, and a handler succeeds exactly for
what its lookup finds; nothing else decides about the request but the check of self-deletion. -/
theorem user_management {headers : RequestHeaders} {w₁ : World}
    (hauth : (requireAuth d.services.session headers).Exec (Env F) w (.ok ctx) w₁) :
    ∃ actor token, ctx.actorId = some actor.inner ∧ extractSessionToken headers = some token ∧
      w.TokenOf actor token ∧ ∀ request : UserRequest,
        (∀ response w', (request.handle d.services ctx).Exec (Env F) w₁ (.ok response) w' →
          w.db.PlatformAdmin actor ∨ request.Own d.user actor response) ↔
        (w.db.PlatformAdmin actor ∨ ¬ request.Touches w.db actor) := by
  obtain ⟨actor, token, hactor, htoken, hof⟩ := exec_requireAuth hauth
  refine ⟨actor, token, hactor, htoken, hof, fun request => ?_⟩
  have hdb : w₁.db = w.db := db_of_requireAuth hauth
  constructor
  · intro hmanaged
    by_contra hnot
    obtain ⟨hadmin, htouch⟩ := not_or.mp hnot
    rw [not_not, ← hdb] at htouch
    obtain ⟨response, w', h, hown⟩ := request.exists_not_own (d := d) (F := F) hactor htouch
    exact (hmanaged response w' h).elim hadmin hown
  · rintro (hadmin | htouch) response w' h
    · exact .inl hadmin
    · rw [← hdb] at htouch
      exact .inr (request.own_of_exec hactor h htouch)

end Managed

namespace Scenario

omit [Unicode]

/-- The second user. -/
def bob : UserId := ⟨902⟩

/-- The second user logs in. -/
def bobsLogin : AccountCall := .login ⟨"bob@x.org", "", none⟩

/-- The second user has logged in. -/
def bobLoggedIn : World := accountsPlayed world [bobsLogin]

/-- The second user's request is authenticated. -/
theorem exec_bobsAuth :
    (requireAuth deployment.services.session headers).Exec (Env noFault) bobLoggedIn
      (.ok ⟨some bob.inner⟩) (asked (.requireAuth headers) bobLoggedIn).2 := by
  have hactor : ((asked (.requireAuth headers) bobLoggedIn).1.toOption.map
      ExecutionContext.actorId) = some (some bob.inner) := by decide +kernel
  cases hauth : (asked (.requireAuth headers) bobLoggedIn).1 with
  | ok ctx =>
    rw [hauth] at hactor
    obtain ⟨actorId⟩ := ctx
    obtain rfl : actorId = some bob.inner := Option.some.inj hactor
    exact exec_asked hauth
  | error e =>
    rw [hauth] at hactor
    cases hactor

end Scenario

omit [Unicode]

/-- A user without a global role gets the own profile. -/
theorem user_management_own :
    (requireAuth Scenario.deployment.services.session Scenario.headers).Exec (Env noFault)
      Scenario.bobLoggedIn (.ok ⟨some Scenario.bob.inner⟩)
      (Scenario.asked (.requireAuth Scenario.headers) Scenario.bobLoggedIn).2 ∧
    ∀ response w', (@UserRequest.handle Unicode.ascii Scenario.deployment.services
        ⟨some Scenario.bob.inner⟩ (.getUser 902)).Exec (Env noFault)
        (Scenario.asked (.requireAuth Scenario.headers) Scenario.bobLoggedIn).2 (.ok response) w' →
      @Db.PlatformAdmin Unicode.ascii Scenario.bobLoggedIn.db Scenario.bob ∨
        UserRequest.Own Scenario.deployment.user Scenario.bob (.getUser 902) response := by
  obtain ⟨actor, token, hactor, -, -, hiff⟩ := @user_management Unicode.ascii _ _ _ _ _ _
    Scenario.exec_bobsAuth
  obtain rfl : Scenario.bob = actor := congrArg UserId.mk (Option.some.inj hactor)
  exact ⟨Scenario.exec_bobsAuth, (hiff (.getUser 902)).mpr (.inr fun htouch => htouch.1 rfl)⟩

/-- **A user manages another.**  A user without a global role logs in; then the user gets the
profile of another user, and deletes the other user. -/
theorem user_manages_other :
    Run (· = Scenario.world) (@AccountStep Unicode.ascii Scenario.deployment noFault)
      (Scenario.accountsHistory Scenario.world [Scenario.bobsLogin]) Scenario.bobLoggedIn ∧
    (requireAuth Scenario.deployment.services.session Scenario.headers).Exec (Env noFault)
      Scenario.bobLoggedIn (.ok ⟨some Scenario.bob.inner⟩)
      (Scenario.asked (.requireAuth Scenario.headers) Scenario.bobLoggedIn).2 ∧
    ¬ @Db.PlatformAdmin Unicode.ascii Scenario.bobLoggedIn.db Scenario.bob ∧
    ∀ request ∈ [UserRequest.getUser 901, UserRequest.deleteUser 901],
      ∃ response w', (@UserRequest.handle Unicode.ascii Scenario.deployment.services
        ⟨some Scenario.bob.inner⟩ request).Exec (Env noFault)
        (Scenario.asked (.requireAuth Scenario.headers) Scenario.bobLoggedIn).2 (.ok response) w' ∧
      ¬ request.Own Scenario.deployment.user Scenario.bob response := by
  refine ⟨Scenario.run_accountsPlayed _ _, Scenario.exec_bobsAuth, ?_, ?_⟩
  · rintro ⟨row, hrow, -, raw, role, hraw, -⟩
    have hnone : (Scenario.bobLoggedIn.db.users.all fun row => row.globalRole = none) = true := by
      decide +kernel
    rw [of_decide_eq_true (List.all_eq_true.mp hnone row hrow)] at hraw
    cases hraw
  · -- the other user is found, is not deleted and is no administrator
    have hada : ∃ user, @Db.Finds Unicode.ascii
        (Scenario.asked (.requireAuth Scenario.headers) Scenario.bobLoggedIn).2.db ⟨901⟩ user ∧
        user.canDelete = true := by
      have hcan : ((Scenario.asked (.requireAuth Scenario.headers)
          Scenario.bobLoggedIn).2.db.users.find? (·.id = ⟨901⟩)).any (fun row =>
            (@UserRow.intoUser Unicode.ascii row).toOption.any User.canDelete) = true := by
        decide +kernel
      obtain ⟨row, hrow, hmap⟩ := (Option.any_eq_true _ _).mp hcan
      obtain ⟨user, huser, hcan⟩ := (Option.any_eq_true _ _).mp hmap
      exact ⟨user, ⟨row, hrow, toOption_eq_some.mp huser⟩, hcan⟩
    obtain ⟨user, hfinds, hcan⟩ := hada
    intro request hrequest
    refine @UserRequest.exists_not_own Unicode.ascii noFault _ Scenario.deployment _ _ request rfl ?_
    rcases List.mem_cons.mp hrequest with rfl | hrequest
    · exact ⟨by decide, user, hfinds, User.isDeleted_of_canDelete hcan⟩
    · obtain rfl := List.mem_singleton.mp hrequest
      exact ⟨by decide, user, hfinds, hcan⟩

end Klynt
