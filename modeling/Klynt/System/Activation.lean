import Klynt.System.AccountRun

set_option relaxedAutoImplicit false
set_option autoImplicit false

/-!
# Activation by verified addresses

The verification of an address activates the user of the consumed token and creates a session for
the user.  The statement that activates looks at no status and no deletion, so the verification is
sound exactly where the consumed token is one of a user who is neither suspended nor deleted.

## Main definitions

* `UserRow.Barred`, `UserRow.Active` — suspended or deleted users, and active ones.
* `VerificationSound` — no barred user becomes active, and new sessions are of active users.
* `AccountLabel.VerifiesUnbarred` — a verification consumes no token of a barred user.

## Main results

* `activation` — in runs of such steps verifications are sound, and only there.
* `deleted_user_activated` — a user deleted before the verification is activated and signed in.
-/

namespace Klynt

variable [Unicode]

/-! ## Soundness -/

/-- The user is suspended or deleted. -/
def UserRow.Barred (row : UserRow) : Prop :=
  statusFromDb row.status = .ok .suspended ∨ row.deletedAt.isSome = true

/-- The user is active and not deleted. -/
def UserRow.Active (row : UserRow) : Prop :=
  statusFromDb row.status = .ok .active ∧ row.deletedAt.isSome = false

/-- A step activates no suspended or deleted user, and the users of its new sessions are active
afterwards. -/
structure VerificationSound (w w' : World) : Prop where
  /-- The status of a suspended or deleted user does not become active. -/
  barred : List.Forall₂ (fun row row' : UserRow => row'.id = row.id ∧ (row.Barred →
    statusFromDb row'.status = .ok .active → statusFromDb row.status = .ok .active))
    w.db.users w'.db.users
  /-- The user of a new session is active. -/
  minted : ∀ s ∈ w'.db.sessions, (∀ s₀ ∈ w.db.sessions, s₀.token ≠ s.token) →
    ∀ row ∈ w'.db.users, row.id = s.userId → row.Active

/-- A verification consumes no token of a suspended or deleted user. -/
def AccountLabel.VerifiesUnbarred (sha256Hash : String → String) (w : World) :
    AccountLabel → Prop
  | .call (.verifyEmail code) _ => ∀ token,
      w.db.emailVerificationTokens.find? (·.usable (sha256Hash code) w.now) = some token →
      ∀ row ∈ w.db.users, row.id = token.userId → ¬ row.Barred
  | _ => True

omit [Unicode] in
/-- A user as the activation of `u` leaves it. -/
def UserRow.activated (u : UserId) (now : Time) (row : UserRow) : UserRow :=
  if row.id = u then { row with status := "active", emailVerifiedAt := some now, updatedAt := now }
  else row

section Row

variable {u : UserId} {now : Time} {row : UserRow}

omit [Unicode] in
/-- An activated user keeps its id. -/
@[simp] lemma UserRow.id_activated : (row.activated u now).id = row.id := by
  unfold UserRow.activated
  split <;> rfl

omit [Unicode] in
/-- An activated user keeps the mark of its deletion. -/
@[simp] lemma UserRow.deletedAt_activated : (row.activated u now).deletedAt = row.deletedAt := by
  unfold UserRow.activated
  split <;> rfl

/-- The text of an active status. -/
lemma statusFromDb_active : statusFromDb "active" = .ok .active := by
  unfold statusFromDb
  rw [toLowercase_eq_self (by rfl)]
  rfl

/-- An activated user has an active status. -/
lemma UserRow.status_activated (h : row.id = u) :
    statusFromDb (row.activated u now).status = .ok .active := by
  unfold UserRow.activated
  rw [if_pos h]
  exact statusFromDb_active

omit [Unicode] in
/-- Other users are left alone. -/
lemma UserRow.activated_of_ne (h : row.id ≠ u) : row.activated u now = row := if_neg h

end Row

section Verify

variable {d : Deployment} {F : Req → Prop} {w w' : World} {code : String}
  {r : Except GatewayError SessionCookie}

/-! ## What a verification does to users -/

omit [Unicode] in
/-- A verification has activated nobody and signed nobody in, or it has activated the user of the
token it consumed. -/
def Verified (sha256Hash : String → String) (code : String) (w w' : World) : Prop :=
  (w'.db.users = w.db.users ∧ w'.db.sessions = w.db.sessions) ∨ ∃ token,
    w.db.emailVerificationTokens.find? (·.usable (sha256Hash code) w.now) = some token ∧
    w'.db.users = w.db.users.map (·.activated token.userId w.now)

omit [Unicode] in
/-- The consumption of a token. -/
lemma ensures_consume (hash : String) :
    (PgTokenStore.consume .emailVerification hash).Ensures (Env F) (fun r w' =>
    (∃ tokens, w' = { w with db := { w.db with emailVerificationTokens := tokens } }) ∧
      ∀ v, r = .ok v → ∃ token,
        w.db.emailVerificationTokens.find? (·.usable hash w.now) = some token ∧
        token.userId = v) w := by
  refine Prog.Writes.bind_ensures (writes_execute _).mapErr
    (fun e => ⟨⟨_, rfl⟩, fun v h => by cases h⟩) ?_
  rintro (consumed : Option UserId) w₁ ⟨db, hx, rfl⟩
  obtain ⟨hfind, rfl⟩ := Prod.mk.inj (Except.ok.inj hx)
  refine Prog.wp_ofOption.mpr ⟨fun v hv => ⟨⟨_, rfl⟩, fun v' hv' => ?_⟩,
    fun _ => ⟨⟨_, rfl⟩, fun v h => by cases h⟩⟩
  obtain rfl := Except.ok.inj hv'
  exact Option.map_eq_some_iff.mp (hfind.trans hv)

omit [Unicode] in
/-- An activation, which may also have failed. -/
lemma ensures_activateUser (v : UserId) : (PgUserRepository.activateUser v).Ensures (Env F)
    (fun r w' => (w' = w ∧ ∃ e, r = .error e) ∨
      w' = { w with db := { w.db with users := w.db.users.map (·.activated v w.now) } }) w := by
  refine Prog.Writes.bind_ensures (writes_execute _).mapErr (fun e => .inl ⟨rfl, e, rfl⟩) ?_
  rintro (rows : Nat) w₁ ⟨db, hx, rfl⟩
  obtain ⟨-, rfl⟩ := Prod.mk.inj (Except.ok.inj hx)
  exact Prog.wp_rejectIf.mpr ⟨fun _ => .inr rfl, fun _ => .inr rfl⟩

omit [Unicode] in
/-- The creation of a session only touches sessions. -/
lemma onSessions_create (config : SessionConfig) (backend : SessionBackend) (v : UserId)
    (kind : SessionKind) (pairId : Option Uuid) :
    (SessionService.createWithKind ⟨config, backend.store⟩ v kind pairId).All Req.OnSessions := by
  refine Prog.All.bind ⟨trivial, fun _ => trivial⟩ fun t => ?_
  refine Prog.All.bind (Prog.All.mapErr ?_) fun _ => Prog.all_pure _
  have hinsert : ∀ expiresAt, (PgSessionStore.createWithKind v expiresAt kind pairId).All
      Req.OnSessions := by
    intro expiresAt
    refine Prog.All.bind ⟨trivial, fun _ => trivial⟩ fun token => ?_
    refine Prog.All.bind ⟨trivial, fun _ => trivial⟩ fun id => ?_
    exact (all_execute trivial).mapErr.bind fun _ => Prog.all_pure _
  cases backend with
  | database => exact hinsert _
  | cached connected =>
    refine (hinsert _).bind fun token => ?_
    dsimp only
    split
    · exact (CachedSessionStore.all_writeCache _ _ _ trivial).attempt.bind fun _ => Prog.all_pure _
    · exact Prog.all_pure _

omit [Unicode] in
/-- **What a verification does to users**, wherever it fails.

**Proof sketch.** The token is consumed, which changes tokens only; its user is activated, or the
verification ends; and what comes then only touches sessions. -/
lemma verified_of_exec
    (h : (Routes.verifyEmail d.services.auth d.services.session code).Exec (Env F) w r w') :
    Verified d.sha256Hash code w w' := by
  refine Prog.Ensures.of_exec (Q := fun _ w' => Verified d.sha256Hash code w w') ?_ h
  refine Prog.wp_bind.mpr (Prog.wp_mapErr.mpr (Prog.wp_bind.mpr (Prog.wp_mapErr.mpr ?_)))
  refine (ensures_consume (d.sha256Hash code)).mono ?_
  rintro r w₁ ⟨⟨tokens, rfl⟩, hr⟩
  rcases r with e | v
  · exact .inl ⟨rfl, rfl⟩
  obtain ⟨token, hfind, rfl⟩ := hr v rfl
  refine Prog.wp_bind.mpr (Prog.wp_mapErr.mpr ((ensures_activateUser token.userId).mono ?_))
  rintro r w₂ (⟨rfl, e, rfl⟩ | rfl)
  · exact .inl ⟨rfl, rfl⟩
  rcases r with e | _
  · exact .inr ⟨token, hfind, rfl⟩
  refine Prog.wp_pure.mpr (Prog.ensures_iff.mpr fun r w₃ h₃ => ?_)
  have hmoved := by
    refine sessionsMoved_of_exec ?_ h₃
    refine (onSessions_create _ _ _ _ _).mapErr.bind fun session => ?_
    exact Prog.All.bind ⟨trivial, fun _ => trivial⟩ fun t => Prog.all_pure _
  obtain ⟨_, _, _, rfl⟩ := hmoved
  exact .inr ⟨token, hfind, rfl⟩

omit [Unicode] in
/-- **The new sessions of a verification** are of the user of the consumed token, wherever it
fails. -/
lemma new_session_of_exec
    (h : (Routes.verifyEmail d.services.auth d.services.session code).Exec (Env F) w r w')
    {s : SessionRow} (hs : s ∈ w'.db.sessions) (hnew : ∀ s₀ ∈ w.db.sessions, s₀.token ≠ s.token) :
    ∃ token, w.db.emailVerificationTokens.find? (·.usable (d.sha256Hash code) w.now) = some token ∧
      token.userId = s.userId := by
  by_contra hnone
  have hspares := guarded_verifyEmail (u := s.userId) (F := F) d code
    fun token htoken hu => hnone ⟨token, htoken, hu⟩
  -- otherwise the session has the token of a session from before
  have hrows := hspares.rel (R := fun w w' : World => ∀ row' ∈ w'.db.sessions,
      row'.userId = s.userId → ∃ row ∈ w.db.sessions, row.token = row'.token ∧ row.userId = s.userId)
    (fun _ row hrow hu => ⟨row, hrow, rfl, hu⟩) ?_ (fun _ _ _ _ hq hE => hq.rows hE) h
  · obtain ⟨row, hrow, htoken, -⟩ := hrows.1 s hs rfl
    exact hnew row hrow htoken
  · intro w₁ w₂ w₃ h₁₂ h₂₃ row' hrow' hu
    obtain ⟨row, hrow, htoken, hu⟩ := h₂₃ row' hrow' hu
    obtain ⟨row₀, hrow₀, htoken₀, hu₀⟩ := h₁₂ row hrow hu
    exact ⟨row₀, hrow₀, htoken₀.trans htoken, hu₀⟩

/-- **A verification that consumes no token of a barred user** is sound, wherever it fails. -/
lemma verificationSound_of_exec
    (h : (Routes.verifyEmail d.services.auth d.services.session code).Exec (Env F) w r w')
    (hmeets : ∀ token,
      w.db.emailVerificationTokens.find? (·.usable (d.sha256Hash code) w.now) = some token →
      ∀ row ∈ w.db.users, row.id = token.userId → ¬ row.Barred) : VerificationSound w w' := by
  rcases verified_of_exec h with ⟨husers, hsessions⟩ | ⟨token, hfind, husers⟩
  · refine ⟨?_, fun s hs hnew => ?_⟩
    · rw [husers]
      exact List.forall₂_same.mpr fun row _ => ⟨rfl, fun _ h => h⟩
    · rw [hsessions] at hs
      exact absurd rfl (hnew s hs)
  · constructor
    · rw [husers]
      refine List.forall₂_map_right_iff.mpr (List.forall₂_same.mpr fun row hrow => ?_)
      refine ⟨UserRow.id_activated, fun hbarred hactive => ?_⟩
      by_cases hid : row.id = token.userId
      · exact absurd hbarred (hmeets token hfind row hrow hid)
      · rwa [UserRow.activated_of_ne hid] at hactive
    · intro s hs hnew row' hrow' hid
      obtain ⟨token', hfind', hu⟩ := new_session_of_exec h hs hnew
      obtain rfl := Option.some.inj (hfind.symm.trans hfind')
      rw [husers] at hrow'
      obtain ⟨row, hrow, rfl⟩ := List.mem_map.mp hrow'
      rw [UserRow.id_activated, ← hu] at hid
      refine ⟨UserRow.status_activated hid, ?_⟩
      rw [UserRow.deletedAt_activated]
      have hlive := hmeets token hfind row hrow hid
      exact Bool.eq_false_iff.mpr fun hdeleted => hlive (.inr hdeleted)

/-- **A verification that returned soundly** consumed no token of a barred user. -/
lemma unbarred_of_sound {cookie : SessionCookie}
    (h : (Routes.verifyEmail d.services.auth d.services.session code).Exec (Env F) w (.ok cookie) w')
    (hsound : VerificationSound w w') {token : EmailVerificationTokenRow}
    (hfind : w.db.emailVerificationTokens.find? (·.usable (d.sha256Hash code) w.now) = some token)
    {row : UserRow} (hrow : row ∈ w.db.users) (hid : row.id = token.userId) : ¬ row.Barred := by
  obtain ⟨token', id, sessionToken, hfind', -, hnew, -, hdb⟩ := exec_verifyEmail h
  obtain rfl := Option.some.inj (hfind.symm.trans hfind')
  have husers : w'.db.users = w.db.users.map (·.activated token.userId w.now) := by
    rw [hdb]
    rfl
  intro hbarred
  rcases hbarred with hsuspended | hdeleted
  · -- a suspended user is active now
    have hrows := hsound.barred
    rw [husers] at hrows
    have hkept := List.forall₂_same.mp (List.forall₂_map_right_iff.mp hrows) row hrow
    have hactive := hkept.2 (.inl hsuspended) (UserRow.status_activated hid)
    rw [hsuspended] at hactive
    cases hactive
  · -- a deleted user is signed in
    have hminted := hsound.minted (newSessionRow id sessionToken token.userId .access none
      (w.now + d.config.duration .access) w.now) ?_ hnew (row.activated token.userId w.now) ?_ ?_
    · have hmark := hminted.2
      rw [UserRow.deletedAt_activated, hdeleted] at hmark
      cases hmark
    · rw [hdb]
      exact List.mem_append_right _ List.mem_cons_self
    · rw [husers]
      exact List.mem_map_of_mem hrow
    · rw [UserRow.id_activated, hid]
      rfl

/-! ## Runs -/

/-- **Activation by verified addresses.** In a run in which every verification consumes a token of
a user who is neither suspended nor deleted, every verification is sound.  In any run, a
verification that returned is sound exactly if it consumed such a token.

**Proof sketch.** A verification changes users only by the activation of the user of the consumed
token, and it spares every other user, so its new sessions are of that user. -/
theorem activation {init : World → Prop} {tr : List (World × AccountLabel)}
    (hrun : Run init (AccountStep d F) tr w) :
    ((∀ e ∈ tr, e.2.VerifiesUnbarred d.sha256Hash e.1) →
      ∀ w₁ w₂ code r, (w₁, .call (.verifyEmail code) r, w₂) ∈ Run.steps tr w →
        VerificationSound w₁ w₂) ∧
    ∀ w₁ w₂ code cookie, (w₁, .call (.verifyEmail code) (.ok cookie), w₂) ∈ Run.steps tr w →
      (VerificationSound w₁ w₂ ↔
        (AccountLabel.call (.verifyEmail code) (.ok cookie)).VerifiesUnbarred d.sha256Hash w₁) := by
  have hexec : ∀ w₁ w₂ code r, (w₁, .call (.verifyEmail code) r, w₂) ∈ Run.steps tr w →
      (Routes.verifyEmail d.services.auth d.services.session code).Exec (Env F) w₁ r w₂ := by
    intro w₁ w₂ code r he
    cases hrun.step_of_steps _ he with
    | call h => exact h
  constructor
  · intro hmeets w₁ w₂ code r he
    exact verificationSound_of_exec (hexec w₁ w₂ code r he) (hmeets _ (Run.mem_of_steps he))
  · intro w₁ w₂ code cookie he
    have hx := hexec w₁ w₂ code _ he
    refine ⟨fun hsound token hfind row hrow hid => ?_, verificationSound_of_exec hx⟩
    exact unbarred_of_sound hx hsound hfind hrow hid

end Verify

namespace Scenario

omit [Unicode]

/-- A fourth user registers. -/
def registration : AccountCall :=
  .register ⟨"dan@x.org", "dan", "Correct7!horse", none, .student, none⟩

/-- The fourth user verifies the address. -/
def verification : AccountCall := .verifyEmail ""

/-- The third user deletes the fourth. -/
def removal : AccountCall := .deleteUser (ctx 903) ⟨0⟩

/-- The fourth user has registered. -/
def registered : World := accountsPlayed world [registration]

/-- The fourth user has registered and has been deleted. -/
def removed : World := accountsPlayed world [removal, registration]

end Scenario

omit [Unicode] in
/-- A user registers and verifies the address; the verification returned and is sound. -/
theorem activation_registered :
    (Scenario.asked Scenario.verification Scenario.registered).1.isOk = true ∧
    @VerificationSound Unicode.ascii Scenario.registered
      (Scenario.asked Scenario.verification Scenario.registered).2 := by
  refine ⟨by decide +kernel, ?_⟩
  have hrun := Scenario.run_accountsPlayed Scenario.world [Scenario.verification, Scenario.registration]
  refine (@activation Unicode.ascii _ _ _ _ _ hrun).1 ?_ _ _ "" _ List.mem_cons_self
  intro e he
  rcases List.mem_cons.mp he with rfl | he
  · -- the user of the token is pending and not deleted
    intro token hfind row hrow hid hbarred
    have hrows : (Scenario.registered.db.users.all fun row =>
        (row.status = "active" ∨ row.status = "pending_verification") ∧
          row.deletedAt.isSome = false) = true := by decide +kernel
    obtain ⟨hstatus, hlive⟩ := of_decide_eq_true (List.all_eq_true.mp hrows row hrow)
    rcases hbarred with hsuspended | hdeleted
    · rcases hstatus with hs | hs
      · rw [hs] at hsuspended
        cases hsuspended
      · rw [hs] at hsuspended
        cases hsuspended
    · rw [hlive] at hdeleted
      cases hdeleted
  · obtain rfl := List.mem_singleton.mp he
    trivial

omit [Unicode] in
/-- **A deleted user is activated**: a user registers, is deleted, and verifies the address; then
the status is active. -/
theorem deleted_user_activated :
    Run (· = Scenario.world) (@AccountStep Unicode.ascii Scenario.deployment noFault)
      (Scenario.accountsHistory Scenario.world
        [Scenario.verification, Scenario.removal, Scenario.registration])
      (Scenario.asked Scenario.verification Scenario.removed).2 ∧
    ¬ @VerificationSound Unicode.ascii Scenario.removed
      (Scenario.asked Scenario.verification Scenario.removed).2 := by
  refine ⟨Scenario.run_accountsPlayed _ _, fun hsound => ?_⟩
  have hbefore : (Scenario.removed.db.users.any fun row => row.id = ⟨0⟩ ∧
      row.deletedAt.isSome = true ∧ row.status = "pending_verification") = true := by decide +kernel
  have hafter : ((Scenario.asked Scenario.verification Scenario.removed).2.db.users.all fun row =>
      row.id ≠ ⟨0⟩ ∨ row.status = "active") = true := by decide +kernel
  obtain ⟨row, hrow, hprops⟩ := List.any_eq_true.mp hbefore
  obtain ⟨hid, hdeleted, hpending⟩ := of_decide_eq_true hprops
  obtain ⟨row', hrow', hid', hkept⟩ :=
    (@VerificationSound.barred Unicode.ascii _ _ hsound).exists_right hrow
  have hactive : row'.status = "active" :=
    (of_decide_eq_true (List.all_eq_true.mp hafter row' hrow')).resolve_left fun h => h (hid'.trans hid)
  have hstatus := hkept (.inr hdeleted) (by rw [hactive]; rfl)
  rw [hpending] at hstatus
  cases hstatus

end Klynt
