import Klynt.Persistence.Outage
import Klynt.Service.Auth

set_option relaxedAutoImplicit false
set_option autoImplicit false

/-!
# Who has an account

What an anonymous client can learn about the accounts from a request for a password reset and
from a login with a wrong password.  Two runs from two states meet the same pattern of failures.

## Main definitions

* `World.account`, `World.Readable`, `World.Mismatch` — the stored account of an address, and what
  is assumed about it.
* `resetOutcome`, `loginRefusal` — what the client is told, from the request and the pattern.

## Main results

* `no_account_enumeration` — two runs tell the client the same.
* `refusals_differ` — a failure of the verification of passwords tells who has an account.
-/

namespace Klynt

variable [Unicode]

/-- The stored account of an address as a client writes it. -/
def World.account (w : World) (address : String) : Option UserRow :=
  match Email.parse address with
  | .ok email => (Query.userByEmail email.text).exec w.now w.db
  | .error _ => none

/-- The stored account of an address, if there is one, can be read. -/
def World.Readable (w : World) (address : String) : Prop :=
  ∀ row, w.account address = some row → ∃ user, row.intoUser = .ok user

/-- The account of a login, if there is one, can be read, and the password does not match its
hash. -/
def World.Mismatch (w : World) (verify : Verifier) (request : LoginRequest) : Prop :=
  w.Readable request.email ∧ ∀ row, w.account request.email = some row →
    verify request.password row.passwordHash = .ok false

omit [Unicode] in
/-- The error of a lookup by address that fails. -/
def lookupFailed (message : String) : AuthError := .ofRepository (.ofSqlx (.other message))

/-- What a client that requests a password reset is told. -/
def resetOutcome (pattern : FaultPattern) (before : List Operation) (address : String) :
    Except AuthError Unit :=
  match Email.parse address with
  | .error e => .error (.domain (.invalidInput e.text))
  | .ok _ =>
    match pattern before .query with
    | some m => .error (lookupFailed m)
    | none => .ok ()

/-- Why a login with a wrong password is refused. -/
def loginRefusal (pattern : FaultPattern) (before : List Operation) (address : String)
    (hasAccount : Bool) : AuthError :=
  match Email.parse address with
  | .error e => .domain (.invalidInput e.text)
  | .ok _ =>
    match pattern before .query with
    | some m => lookupFailed m
    | none =>
      match hasAccount, pattern (.query :: before) .verifyPassword with
      | true, some m => .domain (.internal m)
      | _, _ => .invalidCredentials

section Runs

variable {pattern : FaultPattern} {verify : Verifier} {w : World} {before : List Operation}

/-- The account of an address is looked up. -/
lemma ensures_findByEmail {email : Email} {address : String} (hemail : Email.parse address = .ok email)
    (hread : w.Readable address)
    {Q : Except RepositoryError (Option User) → World × List Operation → Prop}
    (hfail : ∀ m, pattern before .query = some m →
      Q (.error (.ofSqlx (.other m))) (w, .query :: before))
    (hnone : pattern before .query = none → w.account address = none →
      Q (.ok none) (w, .query :: before))
    (hsome : ∀ row user, pattern before .query = none → w.account address = some row →
      row.intoUser = .ok user → Q (.ok (some user)) (w, .query :: before)) :
    (PgUserRepository.findByEmail email).Ensures (Outage pattern verify) Q (w, before) := by
  have haccount : w.account address = (Query.userByEmail email.text).exec w.now w.db := by
    simp only [World.account, hemail]
    rfl
  refine Prog.wp_bind.mpr (Prog.wp_mapErr.mpr (Outage.ensures_select hfail fun hp => ?_))
  refine Prog.wp_done.mpr ?_
  rw [← haccount]
  cases hrow : w.account address with
  | none => exact hnone hp hrow
  | some row =>
    obtain ⟨user, huser⟩ := hread row hrow
    simp only [mapOption, huser, Except.map, Except.mapError]
    exact hsome row user hp hrow huser

variable (service : AuthService)

/-- **A request for a password reset** is answered from the request and the pattern of failures
alone.

**Proof sketch.** The lookup is the same whether or not it finds an account; what follows it is
attempted, and its outcome ignored. -/
lemma ensures_requestPasswordReset (registration : Registration) {address : String}
    (hread : w.Readable address) :
    (service.requestPasswordReset registration address).Ensures (Outage pattern verify)
      (fun r _ => r = resetOutcome pattern before address) (w, before) := by
  refine Prog.wp_bind.mpr (Prog.wp_done.mpr ?_)
  cases hemail : Email.parse address with
  | error e => simp only [Except.mapError, resetOutcome, hemail]
  | ok email =>
    refine Prog.wp_bind.mpr (Prog.wp_mapErr.mpr (ensures_findByEmail hemail hread ?_ ?_ ?_))
    · intro m hp
      simp only [Except.mapError, resetOutcome, hemail, hp, lookupFailed]
    · intro hp _
      refine Prog.wp_pure.mpr ?_
      simp only [resetOutcome, hemail, hp]
    · intro row user hp _ _
      have hsend : (service.sendPasswordReset registration email user.id).Ensures
          (Outage pattern verify) (fun _ _ => True) (w, .query :: before) :=
        Prog.ensures_iff.mpr fun _ _ _ => trivial
      refine Prog.wp_bind.mpr (Prog.wp_attempt.mpr (hsend.mono fun r s' _ => ?_))
      refine Prog.wp_pure.mpr ?_
      simp only [resetOutcome, hemail, hp]

/-- A login that validation rejects is told so, in every state. -/
lemma ensures_login_of_invalid {request : LoginRequest} {m : String}
    (hvalid : service.validate request = .error m) :
    (service.login request).Ensures (Outage pattern verify)
      (fun r _ => r = .error (.passwordPolicy m)) (w, before) := by
  refine Prog.wp_bind.mpr (Prog.wp_done.mpr ?_)
  simp only [hvalid, Except.mapError]

/-- **A login with a wrong password** is refused with an error that depends on the address, on the
pattern of failures and, if passwords cannot be verified, on whether there is an account.

**Proof sketch.** The password is verified before the status of the account is looked at. -/
lemma ensures_login_of_mismatch {request : LoginRequest} {u : Unit}
    (hvalid : service.validate request = .ok u) (hmismatch : w.Mismatch verify request) :
    (service.login request).Ensures (Outage pattern verify)
      (fun r _ => r = .error (loginRefusal pattern before request.email
        (w.account request.email).isSome)) (w, before) := by
  refine Prog.wp_bind.mpr (Prog.wp_done.mpr ?_)
  simp only [hvalid, Except.mapError]
  refine Prog.wp_bind.mpr (Prog.wp_done.mpr ?_)
  cases hemail : Email.parse request.email with
  | error e => simp only [loginRefusal, hemail]
  | ok email =>
    refine Prog.wp_bind.mpr (Prog.wp_mapErr.mpr
      (ensures_findByEmail hemail hmismatch.1 ?_ ?_ ?_))
    · intro m hp
      simp only [Except.mapError, loginRefusal, hemail, hp, lookupFailed]
    · intro hp hnone
      refine Prog.wp_bind.mpr (Prog.wp_ofOption.mpr ⟨fun a ha => (nomatch ha), fun _ => ?_⟩)
      simp only [hnone, Option.isSome_none, loginRefusal, hemail, hp]
    · intro row user hp hrow huser
      refine Prog.wp_bind.mpr (Prog.wp_ofOption.mpr ⟨?_, fun h => nomatch h⟩)
      intro a ha
      obtain rfl := Option.some.inj ha
      rw [hrow, Option.isSome_some]
      refine Prog.wp_bind.mpr (Outage.ensures_verify ?_ ?_)
      · intro m hv
        refine Prog.wp_bind.mpr (Prog.wp_done.mpr ?_)
        simp only [loginRefusal, hemail, hp, hv]
      · intro hv
        rw [UserRow.passwordHash_intoUser huser, hmismatch.2 row hrow]
        refine Prog.wp_bind.mpr (Prog.wp_done.mpr ?_)
        refine Prog.wp_bind.mpr (Prog.wp_rejectIf.mpr ⟨fun h => absurd rfl h, fun _ => ?_⟩)
        simp only [loginRefusal, hemail, hp, hv]

/-- If passwords can be verified, a refusal does not tell whether there is an account. -/
lemma loginRefusal_eq {address : String} {b b' : Bool}
    (h : b = b' ∨ pattern (.query :: before) .verifyPassword = none) :
    loginRefusal pattern before address b = loginRefusal pattern before address b' := by
  rcases h with rfl | hv
  · rfl
  · unfold loginRefusal
    rw [hv]
    cases Email.parse address with
    | error e => rfl
    | ok email =>
      cases pattern before .query with
      | some m => rfl
      | none => cases b <;> cases b' <;> rfl

/-- **No account enumeration.**  Two runs start in any two states, in which the account of an
address, if there is one, can be read, and meet the same pattern of failures.  A request for a
password reset has the same result in both.  A login whose password does not match fails with the
same error in both, whatever the status of the account, and so does one with another such password
that validation treats alike; that an account exists shows only where the verification of passwords
fails.  A login whose request is not valid fails with the error of the validation.

**Proof sketch.** What each run ensures is a function of the request and the pattern. -/
theorem no_account_enumeration (registration : Registration) (pattern : FaultPattern)
    (verify : Verifier) (before : List Operation) :
    (∀ address w₁ w₂, w₁.Readable address → w₂.Readable address → ∀ r₁ r₂ s₁ s₂,
      (service.requestPasswordReset registration address).Exec (Outage pattern verify)
        (w₁, before) r₁ s₁ →
      (service.requestPasswordReset registration address).Exec (Outage pattern verify)
        (w₂, before) r₂ s₂ → r₁ = r₂) ∧
    (∀ (request₁ request₂ : LoginRequest) w₁ w₂, request₁.email = request₂.email →
      service.validate request₁ = service.validate request₂ →
      w₁.Mismatch verify request₁ → w₂.Mismatch verify request₂ →
      (w₁.account request₁.email).isSome = (w₂.account request₂.email).isSome ∨
        pattern (.query :: before) .verifyPassword = none → ∀ r₁ r₂ s₁ s₂,
      (service.login request₁).Exec (Outage pattern verify) (w₁, before) r₁ s₁ →
      (service.login request₂).Exec (Outage pattern verify) (w₂, before) r₂ s₂ →
      r₁ = r₂ ∧ ∃ e, r₁ = .error e) ∧
    ∀ request m w, service.validate request = .error m → ∀ r s,
      (service.login request).Exec (Outage pattern verify) (w, before) r s →
      r = .error (.passwordPolicy m) := by
  refine ⟨?_, ?_, ?_⟩
  · intro address w₁ w₂ hread₁ hread₂
    have hreset : ∀ w, w.Readable address →
        (service.requestPasswordReset registration address).Ensures (Outage pattern verify)
          (fun r _ => r = resetOutcome pattern before address) (w, before) :=
      fun w hread => ensures_requestPasswordReset service registration hread
    exact (hreset w₁ hread₁).two_runs (hreset w₂ hread₂) fun r₁ _ r₂ _ hr₁ hr₂ => hr₁.trans hr₂.symm
  · intro request₁ request₂ w₁ w₂ hemail hvalid hm₁ hm₂ hsame
    cases hvalid₂ : service.validate request₂ with
    | error m =>
      have h₁ : (service.login request₁).Ensures (Outage pattern verify)
          (fun r _ => r = .error (.passwordPolicy m)) (w₁, before) :=
        ensures_login_of_invalid service (hvalid.trans hvalid₂)
      exact h₁.two_runs (ensures_login_of_invalid service hvalid₂) fun r₁ _ r₂ _ hr₁ hr₂ =>
        ⟨hr₁.trans hr₂.symm, _, hr₁⟩
    | ok u =>
      have h₁ : (service.login request₁).Ensures (Outage pattern verify)
          (fun r _ => r = .error (loginRefusal pattern before request₁.email
            (w₁.account request₁.email).isSome)) (w₁, before) :=
        ensures_login_of_mismatch service (hvalid.trans hvalid₂) hm₁
      rw [loginRefusal_eq hsame, hemail] at h₁
      exact h₁.two_runs (ensures_login_of_mismatch service hvalid₂ hm₂) fun r₁ _ r₂ _ hr₁ hr₂ =>
        ⟨hr₁.trans hr₂.symm, _, hr₁⟩
  · intro request m w hvalid
    exact Prog.ensures_iff.mp (ensures_login_of_invalid service hvalid)

end Runs

omit [Unicode]

namespace Scenario

/-- The auth service over the database, which validates the length of passwords. -/
def strictAuth : AuthService where
  validate := fun request =>
    if request.password.length < 8 then
      .error "password: Password must be at least 8 characters"
    else .ok ()
  sha256Hash := id
  sessionService := { config := {}, store := PgSessionStore.store }
  sessionStore := PgSessionStore.store

/-- Hashes that are the passwords. -/
def plainVerify : Verifier := fun password hash => .ok (password == hash)

/-- The platform without Ada's account. -/
def vacant : World :=
  { world with db := { world.db with users := world.db.users.filter (·.email ≠ "ada@x.org") } }

/-- Passwords cannot be verified. -/
def unverified : FaultPattern := fun _ operation =>
  if operation = .verifyPassword then some "verification failed" else none

/-- The outcome of a request of Ada's for a password reset. -/
def resetTold (w : World) : Except AuthError Unit × World × List Operation :=
  (@AuthService.requestPasswordReset Unicode.ascii strictAuth ⟨fun _ => .ok (), {}, ""⟩
    "ada@x.org").eval (Outage.answer (fun _ _ => none) plainVerify) (w, [])

/-- The outcome of a login of Ada's with a password. -/
def loginTold (pattern : FaultPattern) (password : String) (w : World) :
    Except AuthError LoginResponse × World × List Operation :=
  (@AuthService.login Unicode.ascii strictAuth ⟨"ada@x.org", password, none⟩).eval
    (Outage.answer pattern plainVerify) (w, [])

/-- Ada's account. -/
theorem account_world {row : UserRow} (h : @World.account Unicode.ascii world "ada@x.org" = some row) :
    row = user 901 "ada@x.org" := by
  have hada : @World.account Unicode.ascii world "ada@x.org" = some (user 901 "ada@x.org") := rfl
  exact Option.some.inj (h.symm.trans hada)

/-- Ada's account can be read. -/
theorem readable_world : @World.Readable Unicode.ascii world "ada@x.org" := by
  intro row hrow
  rw [account_world hrow]
  exact ⟨_, rfl⟩

/-- Without it there is no account. -/
theorem account_vacant : @World.account Unicode.ascii vacant "ada@x.org" = none := rfl

/-- A password that is not empty does not match Ada's hash. -/
theorem mismatch_world {password : String} (h : password ≠ "") :
    @World.Mismatch Unicode.ascii world plainVerify ⟨"ada@x.org", password, none⟩ := by
  refine ⟨readable_world, fun row hrow => ?_⟩
  rw [account_world hrow]
  exact congrArg Except.ok (beq_eq_false_iff_ne.mpr h)

/-- Without the account there is nothing to match. -/
theorem mismatch_vacant (password : String) :
    @World.Mismatch Unicode.ascii vacant plainVerify ⟨"ada@x.org", password, none⟩ := by
  have hnone : ∀ row, @World.account Unicode.ascii vacant "ada@x.org" ≠ some row := by
    intro row hrow
    rw [account_vacant] at hrow
    cases hrow
  exact ⟨fun row hrow => absurd hrow (hnone row), fun row hrow => absurd hrow (hnone row)⟩

end Scenario

/-- **A failed verification tells.**  Where passwords cannot be verified, one and the same login
with a wrong password is refused with an internal error if there is an account, and with the usual
error if there is none. -/
theorem refusals_differ :
    let request : LoginRequest := ⟨"ada@x.org", "another guess", none⟩
    @World.Mismatch Unicode.ascii Scenario.world Scenario.plainVerify request ∧
    @World.Mismatch Unicode.ascii Scenario.vacant Scenario.plainVerify request ∧
    (∃ row, @World.account Unicode.ascii Scenario.world request.email = some row) ∧
    @World.account Unicode.ascii Scenario.vacant request.email = none ∧
    (∃ s, (@AuthService.login Unicode.ascii Scenario.strictAuth request).Exec
      (Outage Scenario.unverified Scenario.plainVerify) (Scenario.world, [])
      (.error (.domain (.internal "verification failed"))) s) ∧
    ∃ s, (@AuthService.login Unicode.ascii Scenario.strictAuth request).Exec
      (Outage Scenario.unverified Scenario.plainVerify) (Scenario.vacant, [])
      (.error .invalidCredentials) s := by
  have hexec : ∀ w, (@AuthService.login Unicode.ascii Scenario.strictAuth
      ⟨"ada@x.org", "another guess", none⟩).Exec (Outage Scenario.unverified Scenario.plainVerify)
      (w, []) (Scenario.loginTold Scenario.unverified "another guess" w).1
      (Scenario.loginTold Scenario.unverified "another guess" w).2 :=
    fun w => Prog.exec_eval (outage_answer _ _)
  have hworld : (Scenario.loginTold Scenario.unverified "another guess" Scenario.world).1 =
      .error (.domain (.internal "verification failed")) := rfl
  have hvacant : (Scenario.loginTold Scenario.unverified "another guess" Scenario.vacant).1 =
      .error .invalidCredentials := rfl
  exact ⟨Scenario.mismatch_world (by decide), Scenario.mismatch_vacant _, ⟨_, rfl⟩,
    Scenario.account_vacant, ⟨_, hworld ▸ hexec _⟩, ⟨_, hvacant ▸ hexec _⟩⟩

/-- A request for a password reset and a login, with Ada's account and without it. -/
theorem no_account_enumeration_played :
    (Scenario.resetTold Scenario.world).1 = (Scenario.resetTold Scenario.vacant).1 ∧
    ((Scenario.loginTold (fun _ _ => none) "another guess" Scenario.world).1 =
        (Scenario.loginTold (fun _ _ => none) "another guess" Scenario.vacant).1 ∧
      ∃ e, (Scenario.loginTold (fun _ _ => none) "another guess" Scenario.world).1 = .error e) ∧
    (Scenario.loginTold (fun _ _ => none) "guess" Scenario.world).1 =
      .error (.passwordPolicy "password: Password must be at least 8 characters") := by
  have hworld := Scenario.mismatch_world (show "another guess" ≠ "" by decide)
  have hvacant := Scenario.mismatch_vacant "another guess"
  have hexec := outage_answer (fun _ _ => none) Scenario.plainVerify
  have hall := @no_account_enumeration Unicode.ascii Scenario.strictAuth
    ⟨fun _ => .ok (), {}, ""⟩ (fun _ _ => none) Scenario.plainVerify []
  refine ⟨?_, ?_, ?_⟩
  · exact hall.1 _ _ _ Scenario.readable_world hvacant.1 _ _ _ _
      (Prog.exec_eval hexec) (Prog.exec_eval hexec)
  · exact hall.2.1 _ _ _ _ rfl rfl hworld hvacant (.inr rfl) _ _ _ _
      (Prog.exec_eval hexec) (Prog.exec_eval hexec)
  · exact hall.2.2 ⟨"ada@x.org", "guess", none⟩ _ Scenario.world rfl _ _ (Prog.exec_eval hexec)

end Klynt
