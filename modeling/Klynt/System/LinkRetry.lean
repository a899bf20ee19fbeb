import Klynt.System.ResetEffect

set_option relaxedAutoImplicit false
set_option autoImplicit false

/-!
# A one-time token whose operation fails

A password reset and the verification of an address consume their token in a statement of its own,
before they hash the password or write the user.  If one of these later calls fails, the token is
spent and the user is as before.

## Main definitions

* `LinkCall`, `LinkCall.run` — the operations by a one-time token, and `LinkCall.rest`, what they do
  once the token was found.
* `LinkCall.FailsLate` — a run that fails there.
* `LinkCall.Kept` — the operation took place, or the token can be used in a second attempt.

## Main results

* `late_failure_burns` — after a late failure the user is as before and the token is spent.
* `token_kept_iff` — no late failure burns the token exactly if there is none: the call is a reset
  whose password the policy rejects.
* `reset_link_dead` — a reset that fails at the update leaves a dead link.
-/

namespace Klynt

variable [Unicode]

/-- An operation by a one-time token. -/
inductive LinkCall where
  /-- Reset a password. -/
  | resetPassword (code newPassword : String)
  /-- Verify an address. -/
  | verifyEmail (code : String)

namespace LinkCall

omit [Unicode] in
/-- The kind of the token. -/
def kind : LinkCall → TokenKind
  | resetPassword _ _ => .passwordReset
  | verifyEmail _ => .emailVerification

omit [Unicode] in
/-- The token. -/
def code : LinkCall → String
  | resetPassword code _ | verifyEmail code => code

variable (service : AuthService) (registration : Registration)

/-- The operation. -/
def run : LinkCall → Action AuthError Unit
  | resetPassword code newPassword => service.resetPassword registration code newPassword
  | verifyEmail code => do
    let _ ← service.verifyEmail code
    return ()

/-- The password of a reset is rejected. -/
def Rejected : LinkCall → Prop
  | resetPassword _ newPassword =>
    ∃ e, registration.passwordPolicy.validate newPassword = .error e
  | verifyEmail _ => False

omit [Unicode] in
/-- The lookup of the token. -/
def lookup (call : LinkCall) : Action AuthError UserId :=
  (PgTokenStore.consume call.kind (service.sha256Hash call.code)).mapErr .ofToken

omit [Unicode] in
/-- The calls after the lookup of the token. -/
def rest (u : UserId) : LinkCall → Action AuthError Unit
  | resetPassword _ newPassword => do
    let hashed : Except String String ← .ask (.hashPassword newPassword) pure
    let passwordHash ← .done (hashed.mapError .ofPasswordHash)
    (PgUserRepository.updatePassword u passwordHash).mapErr .ofRepository
  | verifyEmail _ => (PgUserRepository.activateUser u).mapErr .ofRepository

/-- Unless the password is rejected, an operation looks its token up first. -/
lemma run_eq {call : LinkCall} (h : ¬ call.Rejected registration) :
    call.run service registration = call.lookup service >>= fun u => call.rest u := by
  cases call with
  | resetPassword code newPassword =>
    cases hvalid : registration.passwordPolicy.validate newPassword with
    | error e => exact absurd ⟨e, hvalid⟩ h
    | ok _ =>
      change AuthService.resetPassword _ _ _ _ = _
      unfold AuthService.resetPassword
      rw [hvalid]
      rfl
  | verifyEmail code =>
    change (AuthService.verifyEmail _ _ >>= fun _ => pure ()) = _
    unfold AuthService.verifyEmail
    simp only [bind_assoc, pure_bind]
    refine congrArg (lookup service (verifyEmail code) >>= ·) (funext fun u => ?_)
    exact bind_pure _

/-- A run that fails after its token was found. -/
def FailsLate (call : LinkCall) (w : World) (e : AuthError) (w' : World) : Prop :=
  (call.run service registration).Exec (Env anyFault) w (.error e) w' ∧
    ∃ u w₁, (call.lookup service).Exec (Env anyFault) w (.ok u) w₁ ∧
      (call.rest u).Exec (Env anyFault) w₁ (.error e) w'

/-- What a late failure should leave: the user is changed, or before the token expires a second
attempt by it, with healthy ports, can return. -/
def Kept (call : LinkCall) (w w' : World) : Prop :=
  w'.db.users ≠ w.db.users ∨
    ∃ later, w'.now ≤ later ∧
      (∃ row ∈ w.db.tokens call.kind, row.tokenHash = service.sha256Hash call.code ∧
        later < row.expiresAt) ∧
      ∃ w'', (call.run service registration).Exec (Env noFault) { w' with now := later } (.ok ()) w''

omit [Unicode] in
/-- The token can be consumed. -/
def Valid (call : LinkCall) (w : World) : Prop :=
  ∃ row ∈ w.db.tokens call.kind, row.usable (service.sha256Hash call.code) w.now = true

end LinkCall

/-! ## The calls after the lookup -/

section Rest

omit [Unicode]

variable {F : Req → Prop} {w w' : World}

/-- Where no row is counted, none is written. -/
lemma map_of_countP_eq_zero {l : List UserRow} {u : UserId} (f : UserRow → UserRow)
    (h : l.countP (·.id = u) = 0) : (l.map fun row => if row.id = u then f row else row) = l := by
  conv_rhs => rw [← List.map_id l]
  refine List.map_congr_left fun row hrow => ?_
  rw [if_neg fun hid => (List.countP_eq_zero.mp h) row hrow (decide_eq_true hid), id]

/-- A write of a user that fails leaves everything as it is. -/
lemma exec_userWrite_error (q : Update) (u : UserId) (result : q.Res → Nat)
    {f : UserRow → UserRow} {p : Action RepositoryError Unit}
    (hp : p = (execute q).mapErr RepositoryError.ofSqlx >>= fun rows =>
      Prog.rejectIf (result rows = 0) RepositoryError.notFound)
    (hq : ∀ rows db, q.exec w.now w.db = .ok (rows, db) →
      result rows = w.db.users.countP (·.id = u) ∧
        db = { w.db with users := w.db.users.map fun row => if row.id = u then f row else row })
    {e : RepositoryError} (h : p.Exec (Env F) w (.error e) w') : w' = w := by
  subst hp
  rcases Prog.exec_bind.mp h with ⟨rows, w₁, hrun, hreject⟩ | ⟨_, -, hrun⟩
  · obtain ⟨db, hx, rfl⟩ := exec_execute_ok.mp (Prog.exec_mapErr_ok.mp hrun)
    obtain ⟨hrows, rfl⟩ := hq rows db hx
    obtain ⟨⟨-, hok⟩ | ⟨hzero, -⟩, rfl⟩ := Prog.exec_rejectIf.mp hreject
    · cases hok
    · rw [map_of_countP_eq_zero f (hrows.symm.trans hzero)]
  · obtain ⟨r, hrun, hr⟩ := Prog.exec_mapErr.mp hrun
    cases r with
    | ok _ => cases hr
    | error _ => exact (writes_execute q).of_exec hrun

/-- An update of a password that fails leaves everything as it is. -/
lemma exec_updatePassword_error {u : UserId} {hash : String} {e : RepositoryError}
    (h : (PgUserRepository.updatePassword u hash).Exec (Env F) w (.error e) w') : w' = w := by
  refine exec_userWrite_error (.updatePassword u hash) u id
    (f := fun row => { row with passwordHash := hash, updatedAt := w.now }) rfl ?_ h
  intro rows db hx
  exact updatePassword_ok hx

/-- An activation that fails leaves everything as it is. -/
lemma exec_activateUser_error {u : UserId} {e : RepositoryError}
    (h : (PgUserRepository.activateUser u).Exec (Env F) w (.error e) w') : w' = w := by
  refine exec_userWrite_error (.activateUser u) u id
    (f := fun row => { row with status := "active", emailVerifiedAt := some w.now,
                                updatedAt := w.now }) rfl ?_ h
  intro rows db hx
  obtain ⟨rfl, rfl⟩ := Prod.mk.inj (Except.ok.inj hx)
  exact ⟨rfl, rfl⟩

/-- The calls after the lookup leave everything as it is if they fail. -/
lemma LinkCall.exec_rest_error {call : LinkCall} {u : UserId} {e : AuthError}
    (h : (call.rest u).Exec (Env F) w (.error e) w') : w' = w := by
  have herr : ∀ {p : Action RepositoryError Unit} {w₀ : World},
      (∀ e₀, p.Exec (Env F) w₀ (.error e₀) w' → w' = w₀) →
      (p.mapErr AuthError.ofRepository).Exec (Env F) w₀ (.error e) w' → w' = w₀ := by
    intro p w₀ hp hrun
    obtain ⟨r, hrun, hr⟩ := Prog.exec_mapErr.mp hrun
    cases r with
    | ok _ => cases hr
    | error e₀ => exact hp e₀ hrun
  cases call with
  | resetPassword code newPassword =>
    rcases Prog.exec_bind.mp h with ⟨hashed, w₁, hask, hrest⟩ | ⟨_, -, hask⟩
    · obtain ⟨_, _, rfl, -, rfl⟩ := hask
      rcases Prog.exec_bind.mp hrest with ⟨hash, w₂, hdone, hupdate⟩ | ⟨_, -, hdone⟩
      · obtain ⟨-, rfl⟩ := Prog.exec_done.mp hdone
        exact herr (fun _ => exec_updatePassword_error) hupdate
      · exact (Prog.exec_done.mp hdone).2
    · obtain ⟨_, _, -, hr, -⟩ := hask
      cases hr
  | verifyEmail code => exact herr (fun _ => exec_activateUser_error) h

/-- The calls after the lookup can fail. -/
lemma LinkCall.exists_rest_error (call : LinkCall) (u : UserId) (w : World) :
    ∃ e, (call.rest u).Exec (Env anyFault) w (.error e) w := by
  have hfault : ∀ q : Update, (execute q).Exec (Env anyFault) w (.error (.other "")) w :=
    fun q => ⟨_, _, .inr (.inr ⟨trivial, ⟨_, rfl⟩, rfl⟩), rfl, rfl⟩
  cases call with
  | resetPassword code newPassword =>
    refine ⟨.ofRepository (.ofSqlx (.other "")), ?_⟩
    refine Prog.exec_bind.mpr (.inl ⟨.ok "", w, ⟨_, _, rfl, rfl, rfl⟩, ?_⟩)
    refine Prog.exec_bind.mpr (.inl ⟨"", w, ⟨rfl, rfl⟩, ?_⟩)
    exact Prog.exec_mapErr.mpr ⟨.error (.ofSqlx (.other "")), Prog.exec_bind.mpr (.inr ⟨_, rfl,
      Prog.exec_mapErr.mpr ⟨_, hfault (.updatePassword u ""), rfl⟩⟩), rfl⟩
  | verifyEmail code =>
    refine ⟨.ofRepository (.ofSqlx (.other "")), ?_⟩
    exact Prog.exec_mapErr.mpr ⟨.error (.ofSqlx (.other "")), Prog.exec_bind.mpr (.inr ⟨_, rfl,
      Prog.exec_mapErr.mpr ⟨_, hfault (.activateUser u), rfl⟩⟩), rfl⟩

end Rest

/-! ## Late failures -/

section Late

variable {service : AuthService} {registration : Registration} {call : LinkCall} {w w' : World}

omit [Unicode] in
/-- A token that was looked up is spent. -/
lemma LinkCall.spent_of_lookup {F : Req → Prop} {u : UserId}
    (h : (call.lookup service).Exec (Env F) w (.ok u) w') :
    w'.db.users = w.db.users ∧ w'.now = w.now ∧
      w'.db.Spent call.kind (service.sha256Hash call.code) w'.now := by
  obtain ⟨hfound, db, hx, rfl⟩ := exec_consume_ok (Prog.exec_mapErr_ok.mp h)
  obtain ⟨row, hrow, -⟩ := Option.map_eq_some_iff.mp hfound
  have husable : row.usable (service.sha256Hash call.code) w.now = true := by
    simpa using List.find?_some hrow
  have hspent := Db.Spent.of_consumeToken hx
    ⟨row, List.mem_of_find?_eq_some hrow, (EmailVerificationTokenRow.of_usable husable).1⟩
  obtain ⟨-, rfl⟩ := Prod.mk.inj (Except.ok.inj hx)
  exact ⟨Db.users_withTokens .., rfl, hspent⟩

omit [Unicode] in
/-- No token that is spent is found. -/
lemma LinkCall.not_exec_lookup {F : Req → Prop} {u : UserId}
    (hs : w.db.Spent call.kind (service.sha256Hash call.code) w.now) :
    ¬ (call.lookup service).Exec (Env F) w (.ok u) w' := by
  intro h
  obtain ⟨hfound, -⟩ := exec_consume_ok (Prog.exec_mapErr_ok.mp h)
  obtain ⟨row, hrow, -⟩ := Option.map_eq_some_iff.mp hfound
  have husable := List.find?_some hrow
  rw [hs.2 row (List.mem_of_find?_eq_some hrow)] at husable
  cases husable

/-- A call whose password is rejected leaves everything as it is. -/
lemma LinkCall.exec_rejected {F : Req → Prop} {r : Except AuthError Unit}
    (hrejected : call.Rejected registration)
    (h : (call.run service registration).Exec (Env F) w r w') : w' = w ∧ r ≠ .ok () := by
  cases call with
  | resetPassword code newPassword =>
    obtain ⟨e, hvalid⟩ := hrejected
    rcases Prog.exec_bind.mp h with ⟨_, w₁, hdone, -⟩ | ⟨_, rfl, hdone⟩
    · rw [hvalid] at hdone
      cases (Prog.exec_done.mp hdone).1
    · exact ⟨(Prog.exec_done.mp hdone).2, nofun⟩
  | verifyEmail code => exact hrejected.elim

/-- **A late failure burns the token**: the users are as before, and the token is spent. -/
theorem late_failure_burns {e : AuthError} (h : call.FailsLate service registration w e w') :
    w'.db.users = w.db.users ∧ w'.now = w.now ∧
      w'.db.Spent call.kind (service.sha256Hash call.code) w'.now := by
  obtain ⟨-, u, w₁, hlookup, hrest⟩ := h
  obtain rfl := LinkCall.exec_rest_error hrest
  exact LinkCall.spent_of_lookup hlookup

/-- After a late failure nothing is kept. -/
lemma LinkCall.not_kept {e : AuthError} (h : call.FailsLate service registration w e w') :
    ¬ call.Kept service registration w w' := by
  obtain ⟨husers, -, hspent⟩ := late_failure_burns h
  rintro (hchanged | ⟨later, hlater, -, w'', hagain⟩)
  · exact hchanged husers
  · by_cases hrejected : call.Rejected registration
    · exact (LinkCall.exec_rejected hrejected hagain).2 rfl
    · rw [LinkCall.run_eq service registration hrejected] at hagain
      obtain ⟨u, w₁, hlookup, -⟩ := Prog.exec_bind_ok.mp hagain
      exact LinkCall.not_exec_lookup (w := { w' with now := later }) (hspent.later hlater) hlookup

/-- A valid token can be found, and the call can fail after that. -/
lemma LinkCall.exists_failsLate (hvalid : call.Valid service w)
    (haccepted : ¬ call.Rejected registration) :
    ∃ e w', call.FailsLate service registration w e w' := by
  obtain ⟨row, hrow, husable⟩ := hvalid
  obtain ⟨found, hfound⟩ : ∃ found, (w.db.tokens call.kind).find?
      (·.usable (service.sha256Hash call.code) w.now) = some found :=
    Option.isSome_iff_exists.mp (List.find?_isSome.mpr ⟨row, hrow, husable⟩)
  obtain ⟨db, hx⟩ : ∃ db, consumeToken call.kind (service.sha256Hash call.code) w.now w.db =
      .ok (some found.userId, db) := by
    unfold consumeToken
    rw [hfound]
    exact ⟨_, rfl⟩
  have hlookup : (call.lookup service).Exec (Env anyFault) w (.ok found.userId) { w with db } :=
    Prog.exec_mapErr_ok.mpr (Prog.exec_bind_ok.mpr ⟨some found.userId, _,
      Prog.exec_mapErr_ok.mpr (exec_execute_ok.mpr ⟨db, hx, rfl⟩), rfl, rfl⟩)
  obtain ⟨e, hrest⟩ := call.exists_rest_error found.userId { w with db }
  refine ⟨e, _, ?_, found.userId, _, hlookup, hrest⟩
  rw [LinkCall.run_eq service registration haccepted]
  exact Prog.exec_bind.mpr (.inl ⟨_, _, hlookup, hrest⟩)

end Late

/-- **No late failure burns a valid token** exactly if the call is a reset whose password the
policy rejects: such a call ends before it looks the token up.

**Proof sketch.** Otherwise the token is found, and the write of the user can fail.  The token was
consumed in a statement of its own, so it is spent then, and the user is as before. -/
theorem token_kept_iff (service : AuthService) (registration : Registration) (call : LinkCall)
    (w : World) (hvalid : call.Valid service w) :
    (∀ e w', call.FailsLate service registration w e w' → call.Kept service registration w w') ↔
      call.Rejected registration := by
  constructor
  · intro h
    by_contra haccepted
    obtain ⟨e, w', hlate⟩ := LinkCall.exists_failsLate hvalid haccepted
    exact LinkCall.not_kept hlate (h e w' hlate)
  · rintro hrejected e w' ⟨hrun, u, w₁, hlookup, hrest⟩
    obtain ⟨hsame, -⟩ := LinkCall.exec_rejected hrejected hrun
    obtain rfl := LinkCall.exec_rest_error hrest
    obtain ⟨-, -, hspent⟩ := LinkCall.spent_of_lookup hlookup
    obtain ⟨row, hrow, husable⟩ := hvalid
    rw [hsame] at hspent
    rw [hspent.2 row hrow] at husable
    cases husable

/-! ## Evaluation -/

omit [Unicode]

namespace Scenario

/-- The first user resets the password by the token that was requested. -/
def linkCall : LinkCall := .resetPassword "" "Correct7horse"

/-- The password is not rejected. -/
lemma accepted_linkCall : ¬ @LinkCall.Rejected Unicode.ascii deployment.services.registration
    linkCall := by
  rintro ⟨e, he⟩
  have hok : (@PasswordPolicy.validate Unicode.ascii deployment.services.registration.passwordPolicy
      "Correct7horse").isOk = true := by decide +kernel
  rw [he] at hok
  cases hok

/-- The token is valid. -/
lemma valid_linkCall : linkCall.Valid deployment.services.auth resetRequested := by
  unfold LinkCall.Valid
  decide +kernel

end Scenario

/-- The reset that was requested can be burnt. -/
theorem token_kept_iff_requested :
    ¬ ∀ e w', @LinkCall.FailsLate Unicode.ascii Scenario.deployment.services.auth
        Scenario.deployment.services.registration Scenario.linkCall Scenario.resetRequested e w' →
      @LinkCall.Kept Unicode.ascii Scenario.deployment.services.auth
        Scenario.deployment.services.registration Scenario.linkCall Scenario.resetRequested w' :=
  fun h => Scenario.accepted_linkCall
    ((@token_kept_iff Unicode.ascii _ _ _ _ Scenario.valid_linkCall).mp h)

/-- **A dead link.**  A password reset fails after its token was found; the password is as before,
and no second attempt by the token returns. -/
theorem reset_link_dead :
    ∃ e w', @LinkCall.FailsLate Unicode.ascii Scenario.deployment.services.auth
        Scenario.deployment.services.registration Scenario.linkCall Scenario.resetRequested e w' ∧
      w'.db.users = Scenario.resetRequested.db.users ∧
      ∀ later, w'.now ≤ later → ∀ w'', ¬ (@LinkCall.run Unicode.ascii
        Scenario.deployment.services.auth Scenario.deployment.services.registration
        Scenario.linkCall).Exec (Env noFault) { w' with now := later } (.ok ()) w'' := by
  obtain ⟨e, w', hlate⟩ :=
    @LinkCall.exists_failsLate Unicode.ascii _ _ _ _ Scenario.valid_linkCall
      Scenario.accepted_linkCall
  obtain ⟨husers, -, hspent⟩ := @late_failure_burns Unicode.ascii _ _ _ _ _ _ hlate
  refine ⟨e, w', hlate, husers, fun later hlater w'' hagain => ?_⟩
  rw [@LinkCall.run_eq Unicode.ascii _ _ _ Scenario.accepted_linkCall] at hagain
  obtain ⟨u, w₁, hlookup, -⟩ := Prog.exec_bind_ok.mp hagain
  exact LinkCall.not_exec_lookup (w := { w' with now := later }) (hspent.later hlater) hlookup

end Klynt
