import Klynt.Persistence.AccountFrame
import Klynt.Service.Auth
import Klynt.System.GuardedCall

set_option relaxedAutoImplicit false
set_option autoImplicit false

/-!
# A registration that fails and is tried again

A registration creates the user in a statement of its own, and then stores a token and sends a
message with it.  If one of the two later calls fails, the user stays, and the address is refused
as registered when the registration is repeated.

## Main definitions

* `AuthService.createUser` — the part of a registration that ends with the creation of the user.
* `Registrable` — what a request satisfies for which a user can be created.
* `RegistrationFailsLate`, `RegistrationRetried` — a registration that fails at the token or at the
  message, and what it should leave.

## Main results

* `registration_retried_iff` — no late failure prevents a second attempt exactly if there is none:
  no user can be created for the request.
* `registration_not_retried` — a registration whose message is not sent blocks its address.
-/

namespace Klynt

variable [Unicode]

/-! ## The two parts of a registration -/

section Parts

variable (service : AuthService) (registration : Registration) (request : RegistrationRequest)

/-- The part of a registration that ends with the creation of the user. -/
def createUser : Action AuthError (Email × UserId) := do
  .done ((registration.validate request).mapError .passwordPolicy)
  .done ((registration.passwordPolicy.validate request.password).mapError fun e =>
    .passwordPolicy e.text)
  let hashed : Except String String ← .ask (.hashPassword request.password) pure
  let passwordHash ← .done (hashed.mapError .ofPasswordHash)
  let email ← .done ((Email.parse request.email).mapError fun e => .domain (.invalidInput e.text))
  let username := toLowercase (trim request.username)
  .rejectIf (username = "") (.domain (.invalidInput "username is required"))
  let institutionId := if request.role.requiresInstitution then request.institutionId else none
  .rejectIf (request.role.requiresInstitution = true ∧ institutionId = none)
    (.domain (.invalidInput ("institution_id is required for role " ++ request.role.asStr)))
  let u ← (PgUserRepository.createPendingUser (request.fullName.getD "") username email
    passwordHash request.role institutionId).mapErr .ofRepository
  return (email, u)

/-- A registration creates the user first, and sends the message then. -/
lemma register_eq : service.register registration request =
    createUser registration request >>= fun p => do
      service.sendVerification registration p.1 p.2
      return p.2 := by
  unfold AuthService.register createUser
  simp only [bind_assoc, pure_bind]

/-- What a request satisfies for which a user can be created. -/
structure Registrable (users : List UserRow) : Prop where
  /-- It is valid. -/
  valid : registration.validate request = .ok ()
  /-- The policy accepts the password. -/
  password : registration.passwordPolicy.validate request.password = .ok ()
  /-- The address is one, and is not registered. -/
  email : ∃ email stored, Email.parse request.email = .ok email ∧
    varchar 255 email.text = .ok stored ∧ ∀ row ∈ users, row.email ≠ stored
  /-- The login name is not blank. -/
  named : toLowercase (trim request.username) ≠ ""
  /-- The login name is free. -/
  username : ∃ stored, varchar 50 (toLowercase (trim request.username)) = .ok stored ∧
    ∀ row ∈ users, row.username ≠ stored
  /-- The name can be stored. -/
  name : ∃ stored, varchar 255 (request.fullName.getD "") = .ok stored
  /-- There is an institution if one is required. -/
  institution : request.role.requiresInstitution = true → request.institutionId ≠ none
  /-- There is a free identifier. -/
  id : ∃ id : UserId, ∀ row ∈ users, row.id ≠ id

end Parts

/-! ## The creation of the user -/

section Creation

variable {F : Req → Prop} {w w' : World} {registration : Registration}
  {request : RegistrationRequest}

omit [Unicode] in
/-- A user that was inserted. -/
lemma insertUser_some {row : UserRow} {now : Time} {db db' : Db} {u : UserId}
    (h : insertUser row now db = .ok (some u, db')) : ∃ email username name,
      varchar 255 row.email = .ok email ∧ varchar 50 row.username = .ok username ∧
      varchar 255 row.name = .ok name ∧ (∀ row' ∈ db.users, row'.email ≠ email) ∧
      (∀ row' ∈ db.users, row'.id ≠ row.id) ∧ (∀ row' ∈ db.users, row'.username ≠ username) ∧
      db' = { db with users := db.users ++ [{ row with email, username, name }] } := by
  unfold insertUser at h
  obtain ⟨email, hemail, h₁⟩ := Except.bind_eq_ok.mp h
  obtain ⟨username, husername, h₂⟩ := Except.bind_eq_ok.mp h₁
  obtain ⟨name, hname, h₃⟩ := Except.bind_eq_ok.mp h₂
  obtain ⟨_, -, h₃⟩ := Except.bind_eq_ok.mp h₃
  simp only [bind, Except.bind, pure, Except.pure] at h₃
  split at h₃
  · cases h₃
  · rename_i hfree
    split at h₃
    · cases h₃
    · rename_i hid
      split at h₃
      · cases h₃
      · rename_i hlogin
        obtain ⟨-, rfl⟩ := Prod.mk.inj (Except.ok.inj h₃)
        exact ⟨email, username, name, hemail, husername, hname, by simpa using hfree,
          by simpa using hid, by simpa using hlogin, rfl⟩

omit [Unicode] in
/-- A user whose address, login name and identifier are free is inserted. -/
lemma insertUser_of (row : UserRow) (now : Time) {db : Db} {email username name : String}
    (hemail : varchar 255 row.email = .ok email) (husername : varchar 50 row.username = .ok username)
    (hname : varchar 255 row.name = .ok name) (hhash : Storable row.passwordHash)
    (hfree : ∀ row' ∈ db.users, row'.email ≠ email)
    (hid : ∀ row' ∈ db.users, row'.id ≠ row.id)
    (hlogin : ∀ row' ∈ db.users, row'.username ≠ username) :
    ∃ db', insertUser row now db = .ok (some row.id, db') := by
  refine ⟨{ db with users := db.users ++ [{ row with email, username, name }] }, ?_⟩
  unfold insertUser
  refine Except.bind_eq_ok.mpr ⟨email, hemail, Except.bind_eq_ok.mpr ⟨username, husername,
    Except.bind_eq_ok.mpr ⟨name, hname, Except.bind_eq_ok.mpr ⟨(), checkText_eq_ok.mpr hhash, ?_⟩⟩⟩⟩
  simp only [bind, Except.bind, pure, Except.pure]
  rw [if_neg (by simpa using hfree), if_neg (by simpa using hid), if_neg (by simpa using hlogin)]

/-- **A user that was created** was created for a registrable request, and is registered with its
address. -/
lemma exec_createUser_ok {p : Email × UserId}
    (h : (createUser registration request).Exec (Env F) w (.ok p) w') :
    Registrable registration request w.db.users ∧
      ∃ stored row, Email.parse request.email = .ok p.1 ∧ varchar 255 p.1.text = .ok stored ∧
        row.email = stored ∧ w'.db.users = w.db.users ++ [row] ∧ w'.now = w.now := by
  obtain ⟨_, w₁, hrun₁, h₁⟩ := Prog.exec_bind_ok.mp h
  obtain ⟨hvalid, rfl⟩ := Prog.exec_done.mp hrun₁
  obtain ⟨_, w₂, hrun₂, h₂⟩ := Prog.exec_bind_ok.mp h₁
  obtain ⟨hpassword, rfl⟩ := Prog.exec_done.mp hrun₂
  obtain ⟨hashed, w₃, ⟨_, _, rfl, -, rfl⟩, h₃⟩ := Prog.exec_bind_ok.mp h₂
  obtain ⟨hash, w₄, hrun₄, h₄⟩ := Prog.exec_bind_ok.mp h₃
  obtain ⟨-, rfl⟩ := Prog.exec_done.mp hrun₄
  obtain ⟨email, w₅, hrun₅, h₅⟩ := Prog.exec_bind_ok.mp h₄
  obtain ⟨hemail, rfl⟩ := Prog.exec_done.mp hrun₅
  obtain ⟨_, w₆, hrun₆, h₆⟩ := Prog.exec_bind_ok.mp h₅
  obtain ⟨hnamed, rfl⟩ := exec_rejectIf_ok.mp hrun₆
  obtain ⟨_, w₇, hrun₇, h₇⟩ := Prog.exec_bind_ok.mp h₆
  obtain ⟨hinstitution, rfl⟩ := exec_rejectIf_ok.mp hrun₇
  obtain ⟨u, w₈, hcreate, h₈⟩ := Prog.exec_bind_ok.mp h₇
  obtain ⟨hp, rfl⟩ := Prog.exec_pure.mp h₈
  obtain rfl := Except.ok.inj hp
  obtain ⟨id, w₉, hid, h₉⟩ := Prog.exec_bind_ok.mp (Prog.exec_mapErr_ok.mp hcreate)
  obtain ⟨_, -, rfl⟩ := exec_newUuid.mp hid
  obtain ⟨t, w₁₀, ht, h₁₀⟩ := Prog.exec_bind_ok.mp h₉
  obtain ⟨-, rfl⟩ := exec_now.mp ht
  obtain ⟨(inserted : Option UserId), w₁₁, hinsert, h₁₁⟩ := Prog.exec_bind_ok.mp h₁₀
  obtain ⟨db, hx, rfl⟩ := exec_execute_ok.mp (Prog.exec_mapErr_ok.mp hinsert)
  obtain ⟨_, w₁₂, hrun₁₂, h₁₂⟩ := Prog.exec_bind_ok.mp h₁₁
  obtain ⟨hsome, rfl⟩ := exec_rejectIf_ok.mp hrun₁₂
  obtain ⟨-, rfl⟩ := Prog.exec_pure.mp h₁₂
  obtain ⟨v, rfl⟩ := Option.ne_none_iff_exists'.mp hsome
  obtain ⟨stored, username, name, hstored, husername, hname, hfree, hnew, hlogin, rfl⟩ :=
    @insertUser_some _ w₇.now _ _ _ hx
  have hemail' : Email.parse request.email = .ok email := Except.mapError_eq_ok.mp hemail.symm
  refine ⟨⟨Except.mapError_eq_ok.mp hvalid.symm, Except.mapError_eq_ok.mp hpassword.symm,
    ⟨email, stored, hemail', hstored, hfree⟩, hnamed, ⟨username, husername, hlogin⟩,
    ⟨name, hname⟩, ?_, ⟨_, hnew⟩⟩, stored, _, hemail', hstored, rfl, rfl, rfl⟩
  intro hrequires hnone
  refine hinstitution ⟨hrequires, ?_⟩
  rw [if_pos hrequires]
  exact hnone

/-- A user can be created for a registrable request. -/
lemma exists_createUser (hreg : Registrable registration request w.db.users) :
    ∃ p w', (createUser registration request).Exec (Env anyFault) w (.ok p) w' := by
  obtain ⟨hvalid, hpassword, ⟨email, stored, hemail, hstored, hfree⟩, hnamed,
    ⟨username, husername, hlogin⟩, ⟨name, hname⟩, hinstitution, ⟨id, hid⟩⟩ := hreg
  let institutionId := if request.role.requiresInstitution then request.institutionId else none
  let row : UserRow :=
    { id, email := email.text, username := toLowercase (trim request.username),
      name := request.fullName.getD "", passwordHash := ""
      status := PgUserRepository.statusToDb .pending
      emailVerifiedAt := none, globalRole := none, createdAt := w.now, updatedAt := w.now,
      termsAcceptedAt := w.now, termsVersion := "1.0", role := PgUserRepository.roleToDb request.role,
      institutionId, deletedAt := none }
  obtain ⟨db, hx⟩ := insertUser_of row w.now hstored husername hname List.not_mem_nil hfree hid
    hlogin
  have hcreate : (PgUserRepository.createPendingUser (request.fullName.getD "")
      (toLowercase (trim request.username)) email "" request.role institutionId).Exec
      (Env anyFault) w (.ok id) { w with minted := id.inner :: w.minted, db } := by
    refine Prog.exec_bind_ok.mpr ⟨id.inner, _, exec_newUuid.mpr ⟨_, rfl, rfl⟩, ?_⟩
    refine Prog.exec_bind_ok.mpr ⟨w.now, _, exec_now.mpr ⟨rfl, rfl⟩, ?_⟩
    refine Prog.exec_bind_ok.mpr ⟨some id, _,
      Prog.exec_mapErr_ok.mpr (exec_execute_ok.mpr ⟨db, hx, rfl⟩), ?_⟩
    exact Prog.exec_bind_ok.mpr ⟨(), _, Prog.exec_rejectIf.mpr ⟨.inl ⟨nofun, rfl⟩, rfl⟩, rfl, rfl⟩
  refine ⟨(email, id), { w with minted := id.inner :: w.minted, db }, ?_⟩
  unfold createUser
  rw [hvalid, hpassword, hemail]
  refine Prog.exec_bind_ok.mpr ⟨(), w, ⟨rfl, rfl⟩, ?_⟩
  refine Prog.exec_bind_ok.mpr ⟨(), w, ⟨rfl, rfl⟩, ?_⟩
  refine Prog.exec_bind_ok.mpr ⟨.ok "", w, ⟨_, _, rfl, rfl, rfl⟩, ?_⟩
  refine Prog.exec_bind_ok.mpr ⟨"", w, ⟨rfl, rfl⟩, ?_⟩
  refine Prog.exec_bind_ok.mpr ⟨email, w, ⟨rfl, rfl⟩, ?_⟩
  refine Prog.exec_bind_ok.mpr ⟨(), w, Prog.exec_rejectIf.mpr ⟨.inl ⟨hnamed, rfl⟩, rfl⟩, ?_⟩
  refine Prog.exec_bind_ok.mpr ⟨(), w, Prog.exec_rejectIf.mpr ⟨.inl ⟨?_, rfl⟩, rfl⟩, ?_⟩
  · rintro ⟨hrequires, hnone⟩
    rw [if_pos hrequires] at hnone
    exact hinstitution hrequires hnone
  exact Prog.exec_bind_ok.mpr ⟨id, _, Prog.exec_mapErr_ok.mpr hcreate, rfl, rfl⟩

end Creation

/-! ## Late failures -/

section Late

variable (service : AuthService) (registration : Registration) (request : RegistrationRequest)

/-- A registration that fails at the storage of the token or at the message. -/
def RegistrationFailsLate (w : World) (e : AuthError) (w' : World) : Prop :=
  (service.register registration request).Exec (Env anyFault) w (.error e) w' ∧
    ∃ p w₁, (createUser registration request).Exec (Env anyFault) w (.ok p) w₁ ∧
      (service.sendVerification registration p.1 p.2).Exec (Env anyFault) w₁ (.error e) w'

/-- What a late failure should leave: no user, or a state where the same registration, at a later
time and with healthy ports, can return, and so send its message. -/
def RegistrationRetried (w w' : World) : Prop :=
  w'.db.users = w.db.users ∨
    ∃ later, w'.now ≤ later ∧ ∃ u w'',
      (service.register registration request).Exec (Env noFault) { w' with now := later } (.ok u) w''

variable {service registration request} {F : Req → Prop} {w w' : World}

omit [Unicode] in
/-- The requests of a message. -/
def Req.OfMessage : Req → Prop
  | .secureToken | .clock | .update (.insertToken _ _ _ _) | .sendVerification _ _ _ => True
  | _ => False

omit [Unicode] in
/-- A message keeps the users. -/
lemma Req.OfMessage.users_eq {q : Req} {a : Ans q} (hq : q.OfMessage) (hE : Env F q w a w') :
    w'.db.users = w.db.users := by
  cases q with
  | secureToken => rw [hE.db_eq id]
  | clock => rw [hE.db_eq id]
  | sendVerification _ _ _ => rw [hE.db_eq id]
  | update u =>
    cases u with
    | insertToken kind u hash expiresAt =>
      rcases hE with ⟨r, db, hx, -, rfl⟩ | ⟨_, -, -, rfl⟩ | ⟨-, -, rfl⟩
      · obtain ⟨_, -, -, rfl⟩ := @insertToken_ok w.now _ _ _ _ _ _ hx
        exact Db.users_withTokens ..
      · rfl
      · rfl
    | _ => exact False.elim hq
  | _ => exact False.elim hq

omit [Unicode] in
/-- The message of a registration keeps the users. -/
lemma users_of_sendVerification {email : Email} {u : UserId} {r : Except AuthError Unit}
    (h : (service.sendVerification registration email u).Exec (Env F) w r w') :
    w'.db.users = w.db.users := by
  have hall : (service.sendVerification registration email u).All Req.OfMessage := by
    refine Prog.All.bind ⟨trivial, fun _ => trivial⟩ fun token => ?_
    refine Prog.All.bind ⟨trivial, fun _ => trivial⟩ fun t => ?_
    refine Prog.All.bind ?_ fun _ => ?_
    · exact (all_execute (u := .insertToken _ _ _ _) trivial).mapErr.mapErr
    · exact Prog.All.bind ⟨trivial, fun _ => Prog.all_pure _⟩ fun sent => Prog.all_done _
  have htrans : ∀ {a b c : World}, b.db.users = a.db.users → c.db.users = b.db.users →
      c.db.users = a.db.users := fun hab hbc => hbc.trans hab
  exact h.rel (R := fun w w' : World => w'.db.users = w.db.users) (fun _ => rfl) htrans
    (fun _ _ _ _ hq hE => hq.users_eq hE) hall

/-- **After a late failure** the user stays, and no further registration of the address returns. -/
theorem late_failure_blocks {e : AuthError}
    (h : RegistrationFailsLate service registration request w e w') :
    w'.db.users ≠ w.db.users ∧ ∀ {F : Req → Prop} later u w'',
      ¬ (service.register registration request).Exec (Env F) { w' with now := later } (.ok u)
        w'' := by
  obtain ⟨-, p, w₁, hcreate, hsend⟩ := h
  obtain ⟨-, stored, row, hemail, hstored, hrow, husers, -⟩ := exec_createUser_ok hcreate
  have hleft := (users_of_sendVerification hsend).trans husers
  refine ⟨fun hsame => ?_, fun {F} later u w'' hagain => ?_⟩
  · have hlength := congrArg List.length (hleft.symm.trans hsame)
    rw [List.length_append, List.length_singleton] at hlength
    omega
  · rw [register_eq] at hagain
    obtain ⟨p', w₂, hcreate', -⟩ := Prog.exec_bind_ok.mp hagain
    obtain ⟨email, stored', hemail', hstored', hfree⟩ := (exec_createUser_ok hcreate').1.email
    obtain rfl := Except.ok.inj (hemail.symm.trans hemail')
    obtain rfl := Except.ok.inj (hstored.symm.trans hstored')
    refine hfree row ?_ hrow
    change row ∈ w'.db.users
    rw [hleft]
    exact List.mem_append_right _ List.mem_cons_self

/-- A registration for which a user can be created can fail late. -/
lemma exists_failsLate (hreg : Registrable registration request w.db.users) :
    ∃ e w', RegistrationFailsLate service registration request w e w' := by
  obtain ⟨p, w₁, hcreate⟩ := exists_createUser hreg
  let save := Update.insertToken .emailVerification p.2 (service.sha256Hash "")
    (w₁.now + AuthService.emailVerificationTtl)
  have hfault : (execute save).Exec (Env anyFault) w₁ (.error (.other "")) w₁ :=
    ⟨_, _, .inr (.inr ⟨trivial, ⟨_, rfl⟩, rfl⟩), rfl, rfl⟩
  have hsave : ((PgTokenStore.save .emailVerification p.2 (service.sha256Hash "")
      (w₁.now + AuthService.emailVerificationTtl)).mapErr AuthError.ofToken).Exec (Env anyFault) w₁
      (.error (.ofToken (.ofSqlx (.other "")))) w₁ :=
    Prog.exec_mapErr.mpr ⟨.error (.ofSqlx (.other "")),
      Prog.exec_mapErr.mpr ⟨.error (.other ""), hfault, rfl⟩, rfl⟩
  have hsend : (service.sendVerification registration p.1 p.2).Exec (Env anyFault) w₁
      (.error (.ofToken (.ofSqlx (.other "")))) w₁ := by
    refine Prog.exec_bind.mpr (.inl ⟨"", w₁, ⟨_, _, rfl, rfl, rfl⟩, ?_⟩)
    refine Prog.exec_bind.mpr (.inl ⟨w₁.now, w₁, exec_now.mpr ⟨rfl, rfl⟩, ?_⟩)
    exact Prog.exec_bind.mpr (.inr ⟨_, rfl, hsave⟩)
  refine ⟨_, w₁, ?_, p, w₁, hcreate, hsend⟩
  rw [register_eq]
  exact Prog.exec_bind.mpr (.inl ⟨p, w₁, hcreate, Prog.exec_bind.mpr (.inr ⟨_, rfl, hsend⟩)⟩)

end Late

/-- **No late failure prevents a second attempt** exactly if no user can be created for the request.

**Proof sketch.** A user that was created is registered with the address of the request.  The
message may fail after that, and then the address is taken whenever the registration is repeated.
If no user can be created, a registration fails before that, if it does. -/
theorem registration_retried_iff (service : AuthService) (registration : Registration)
    (request : RegistrationRequest) (w : World) :
    (∀ e w', RegistrationFailsLate service registration request w e w' →
      RegistrationRetried service registration request w w') ↔
      ¬ Registrable registration request w.db.users := by
  constructor
  · intro h hreg
    obtain ⟨e, w', hlate⟩ := @exists_failsLate _ service registration request w hreg
    obtain ⟨hleft, hblocked⟩ := late_failure_blocks hlate
    rcases h e w' hlate with hsame | ⟨later, -, u, w'', hagain⟩
    · exact hleft hsame
    · exact hblocked later u w'' hagain
  · rintro hreg e w' ⟨-, p, w₁, hcreate, -⟩
    exact absurd (exec_createUser_ok hcreate).1 hreg

/-! ## Evaluation -/

omit [Unicode]

namespace Scenario

/-- A registration of a new address. -/
def newRegistration : RegistrationRequest :=
  ⟨"dan@x.org", "dan", "Correct7horse", none, .student, none⟩

/-- What registrations need. -/
def registrationRules : Registration := ⟨fun _ => .ok (), {}, "https://x.org"⟩

/-- An auth service over the database. -/
def registrationService : AuthService :=
  { validate := fun _ => .ok (), sha256Hash := id,
    sessionService := ⟨{}, PgSessionStore.store⟩, sessionStore := PgSessionStore.store }

/-- A user can be created for it. -/
lemma registrable_newRegistration :
    @Registrable Unicode.ascii registrationRules newRegistration world.db.users := by
  have hpassword : (@PasswordPolicy.validate Unicode.ascii registrationRules.passwordPolicy
      newRegistration.password).isOk = true := by decide +kernel
  have hemail : (@Email.parse Unicode.ascii newRegistration.email).toOption.map (·.text) =
      some "dan@x.org" := by decide +kernel
  have hstored : varchar 255 "dan@x.org" = .ok "dan@x.org" := rfl
  refine @Registrable.mk Unicode.ascii _ _ _ rfl ?_ ?_ (by decide +kernel)
    ⟨"dan", by decide +kernel, by decide +kernel⟩ ⟨"", rfl⟩ nofun
    ⟨⟨BitVec.ofNat 128 900⟩, by decide +kernel⟩
  · cases hvalid : @PasswordPolicy.validate Unicode.ascii registrationRules.passwordPolicy
        newRegistration.password with
    | ok _ => rfl
    | error e =>
      rw [hvalid] at hpassword
      cases hpassword
  · cases hparse : @Email.parse Unicode.ascii newRegistration.email with
    | error e =>
      rw [hparse] at hemail
      cases hemail
    | ok email =>
      rw [hparse] at hemail
      have htext : email.text = "dan@x.org" := Option.some.inj hemail
      refine ⟨email, "dan@x.org", rfl, ?_, by decide +kernel⟩
      rw [htext]
      exact hstored

end Scenario

/-- **A registration that cannot be repeated.**  A registration fails after its user was created;
the user stays, no message was sent, and the address is refused from then on. -/
theorem registration_not_retried :
    ∃ e w', @RegistrationFailsLate Unicode.ascii Scenario.registrationService
        Scenario.registrationRules Scenario.newRegistration Scenario.world e w' ∧
      w'.db.users ≠ Scenario.world.db.users ∧
      ∀ later u w'', ¬ (@AuthService.register Unicode.ascii Scenario.registrationService
        Scenario.registrationRules Scenario.newRegistration).Exec (Env noFault)
          { w' with now := later } (.ok u) w'' := by
  obtain ⟨e, w', hlate⟩ := @exists_failsLate Unicode.ascii Scenario.registrationService _ _ _
    Scenario.registrable_newRegistration
  obtain ⟨hleft, hblocked⟩ := @late_failure_blocks Unicode.ascii _ _ _ _ _ _ hlate
  exact ⟨e, w', hlate, hleft, hblocked⟩

end Klynt
