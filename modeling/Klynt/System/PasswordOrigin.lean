import Klynt.System.AccountRun

set_option relaxedAutoImplicit false
set_option autoImplicit false

/-!
# Where stored passwords come from

Three calls write the hash of a password: a registration, the completion of a password reset and a
change of the password.  The first two check the password against the policy before they hash it,
the third one does not.

## Main definitions

* `PasswordCall` — the three calls.
* `hashedPasswords` — the passwords that were hashed, with their hashes.
* `PasswordsAccepted` — every stored hash is one of a password the policy accepts.

## Main results

* `passwords_accepted` — so it is in every interleaving whose changes of passwords all set
  passwords the policy accepts.
* `weak_password_stored` — an interleaving that stores the hash of another one.
-/

namespace Klynt

variable [Unicode]

/-! ## The calls -/

/-- Calls that set a password. -/
inductive PasswordCall where
  /-- `register`. -/
  | register (request : RegistrationRequest)
  /-- `reset_password`. -/
  | resetPassword (token newPassword : String)
  /-- `change_password`. -/
  | changePassword (u : UserId) (currentPassword newPassword : String)

namespace PasswordCall

omit [Unicode] in
/-- The password a call sets. -/
def password : PasswordCall → String
  | register request => request.password
  | resetPassword _ newPassword => newPassword
  | changePassword _ _ newPassword => newPassword

/-- The call. -/
def run (auth : AuthService) (registration : Registration) : PasswordCall → Action Unit Unit
  | register request => (auth.register registration request).forget
  | resetPassword token newPassword => (auth.resetPassword registration token newPassword).forget
  | changePassword u currentPassword newPassword =>
    (UserService.changePassword u currentPassword newPassword).forget

/-- Whether the policy accepts the password a call sets. -/
def Accepted (policy : PasswordPolicy) (c : PasswordCall) : Prop :=
  policy.validate c.password = .ok ()

omit [Unicode] in
/-- Whether a call changes a password. -/
def IsChange : PasswordCall → Prop
  | changePassword _ _ _ => True
  | _ => False

end PasswordCall

/-- A password that was hashed. -/
def hashedEvent (password hash : String) : Prog.Event Req Ans :=
  ⟨.hashPassword password, (.ok hash : Except String String)⟩

/-- A password and its hash, of an event that hashed it. -/
def hashedPair : Prog.Event Req Ans → Option (String × String)
  | ⟨.hashPassword password, (.ok hash : Except String String)⟩ => some (password, hash)
  | _ => none

/-- The passwords that were hashed, with their hashes. -/
def hashedPasswords {ι : Type} (log : List (ι × Prog.Event Req Ans)) : List (String × String) :=
  log.filterMap fun e => hashedPair e.2

/-- Every stored hash is one of a password the policy accepts. -/
def PasswordsAccepted {ι : Type} (policy : PasswordPolicy) (log : List (ι × Prog.Event Req Ans))
    (users : List UserRow) : Prop :=
  ∀ row ∈ users, ∃ password, (password, row.passwordHash) ∈ hashedPasswords log ∧
    policy.validate password = .ok ()

/-- What a call may write, given what it has seen: a hash of its password, which the policy accepts
unless the call is a change. -/
def PasswordCall.MayWrite (policy : PasswordPolicy) (c : PasswordCall)
    (h : List (Prog.Event Req Ans)) (hash : String) : Prop :=
  hashedEvent c.password hash ∈ h ∧ (c.IsChange ∨ c.Accepted policy)

/-- What a call may request, given what it has seen. -/
def PasswordCall.May (policy : PasswordPolicy) (c : PasswordCall) (h : List (Prog.Event Req Ans)) :
    Req → Prop
  | .update (.insertUser row) => c.MayWrite policy h row.passwordHash
  | .update (.updatePassword _ hash) => c.MayWrite policy h hash
  | .update (.insertToken _ _ _ _) | .update (.consumeToken _ _) => True
  | .update _ | .transaction _ => False
  | _ => True

/-! ## What the calls write -/

section Traced

variable (auth : AuthService) (registration : Registration)

/-- The hash of a call's password may be written right after it was computed. -/
lemma PasswordCall.mayWrite {policy : PasswordPolicy} {c : PasswordCall} {hash : String}
    {h h' : List (Prog.Event Req Ans)} (hc : c.IsChange ∨ c.Accepted policy) :
    c.MayWrite policy (h ++ hashedEvent c.password hash :: h') hash :=
  ⟨List.mem_append_right _ List.mem_cons_self, hc⟩

omit [Unicode] in
/-- A statement that is allowed. -/
lemma guarded_execute {σ ε : Type} {A : Req → σ → Prop} {E : (q : Req) → σ → Ans q → σ → Prop}
    {s : σ} {u : Update} {f : SqlxError → ε} (h : A (.update u) s) :
    ((execute u).mapErr f).Guarded A E s :=
  Prog.wp_mapErr.mpr (Prog.wp_ask.mpr ⟨h, fun _ _ _ => Prog.wp_done.mpr trivial⟩)

/-- Nothing that is requested to send a verification message is restricted. -/
lemma all_sendVerification_may {c : PasswordCall} {policy : PasswordPolicy} (email : Email)
    (u : UserId) : (auth.sendVerification registration email u).All
      fun q => ∀ h, c.May policy h q := by
  refine Prog.All.bind ⟨fun _ => trivial, fun _ => trivial⟩ fun token => ?_
  refine Prog.All.bind ⟨fun _ => trivial, fun _ => trivial⟩ fun t => ?_
  refine Prog.All.bind (Prog.All.mapErr (Prog.All.mapErr ⟨fun _ => trivial, fun _ => trivial⟩))
    fun _ => ?_
  exact Prog.All.bind ⟨fun _ => trivial, fun _ => trivial⟩ fun _ => trivial

/-- **A registration** hashes the password after the policy has accepted it, and writes the hash. -/
lemma traced_register (request : RegistrationRequest) :
    (auth.register registration request).Traced
      ((PasswordCall.register request).May registration.passwordPolicy) (fun _ _ => True) [] := by
  refine (Prog.reads_done _).bind_guarded (Prog.all_done _) fun _ _ => ?_
  refine (Prog.reads_done _).bind_guarded (Prog.all_done _) fun _ haccepted => ?_
  have hok : (PasswordCall.register request).Accepted registration.passwordPolicy :=
    Except.mapError_eq_ok.mp haccepted
  refine Prog.wp_bind.mpr (Prog.wp_ask.mpr ⟨trivial, ?_⟩)
  rintro a _ rfl
  refine Prog.wp_pure.mpr ?_
  refine (Prog.reads_done _).bind_guarded (Prog.all_done _) fun hash hhash => ?_
  obtain rfl := Except.mapError_eq_ok.mp hhash
  refine (Prog.reads_done _).bind_guarded (Prog.all_done _) fun email _ => ?_
  refine (Prog.reads_rejectIf _ _).bind_guarded (Prog.all_rejectIf _ _) fun _ _ => ?_
  refine (Prog.reads_rejectIf _ _).bind_guarded (Prog.all_rejectIf _ _) fun _ _ => ?_
  refine Prog.wp.bind_guarded (Q := fun _ _ => True) (Prog.wp_mapErr.mpr ?_) fun u h _ => ?_
  · refine Prog.wp_bind.mpr (Prog.wp_ask.mpr ⟨trivial, ?_⟩)
    rintro id _ rfl
    refine Prog.wp_done.mpr (Prog.wp_bind.mpr (Prog.wp_ask.mpr ⟨trivial, ?_⟩))
    rintro t _ rfl
    refine Prog.wp_done.mpr ?_
    refine Prog.wp.bind_guarded (Q := fun _ _ => True)
        (guarded_execute (u := .insertUser _) ?_) fun inserted _ _ => ?_
    · exact PasswordCall.mayWrite (h := [_, _]) (.inr hok)
    · exact ((Prog.all_rejectIf _ _).bind fun _ => Prog.all_pure _).guarded
  · refine Prog.wp.bind_guarded (Q := fun _ _ => True) ?_ fun _ _ _ => Prog.wp_pure.mpr trivial
    exact (all_sendVerification_may auth registration email u).guarded

/-- **A password reset** consumes its token, and hashes and writes a password the policy has
accepted. -/
lemma traced_resetPassword (token newPassword : String) :
    (auth.resetPassword registration token newPassword).Traced
      ((PasswordCall.resetPassword token newPassword).May registration.passwordPolicy)
      (fun _ _ => True) [] := by
  refine (Prog.reads_done _).bind_guarded (Prog.all_done _) fun _ haccepted => ?_
  have hok : (PasswordCall.resetPassword token newPassword).Accepted registration.passwordPolicy :=
    Except.mapError_eq_ok.mp haccepted
  refine Prog.wp.bind_guarded (Q := fun _ _ => True) (Prog.wp_mapErr.mpr ?_) fun u h _ => ?_
  · refine Prog.wp.bind_guarded (Q := fun _ _ => True)
        (guarded_execute (u := .consumeToken _ _) trivial) fun found _ _ => ?_
    exact (Prog.all_ofOption _ _).guarded
  refine Prog.wp_bind.mpr (Prog.wp_ask.mpr ⟨trivial, ?_⟩)
  rintro a _ rfl
  refine Prog.wp_pure.mpr ?_
  refine (Prog.reads_done _).bind_guarded (Prog.all_done _) fun hash hhash => ?_
  obtain rfl := Except.mapError_eq_ok.mp hhash
  refine Prog.wp_mapErr.mpr ?_
  refine Prog.wp.bind_guarded (Q := fun _ _ => True)
      (guarded_execute (u := .updatePassword _ _) ?_) fun rows _ _ => ?_
  · exact PasswordCall.mayWrite (h := []) (.inr hok)
  · exact (Prog.all_rejectIf _ _).guarded

/-- **A change of a password** hashes and writes whatever password it is given. -/
lemma traced_changePassword (policy : PasswordPolicy) (u : UserId)
    (currentPassword newPassword : String) :
    (UserService.changePassword u currentPassword newPassword).Traced
      ((PasswordCall.changePassword u currentPassword newPassword).May policy)
      (fun _ _ => True) [] := by
  refine Prog.wp.bind_guarded (Q := fun _ _ => True) (Prog.wp_mapErr.mpr ?_) fun found h _ => ?_
  · refine Prog.wp_bind.mpr (Prog.wp_mapErr.mpr (Prog.wp_ask.mpr ⟨trivial, ?_⟩))
    rintro a _ rfl
    rcases a with e | row
    · exact Prog.wp_done.mpr trivial
    · exact Prog.wp_done.mpr (Prog.wp_done.mpr trivial)
  refine (Prog.reads_ofOption _ _).bind_guarded (Prog.all_ofOption _ _) fun user _ => ?_
  refine (Prog.reads_rejectIf _ _).bind_guarded (Prog.all_rejectIf _ _) fun _ _ => ?_
  refine Prog.wp_bind.mpr (Prog.wp_ask.mpr ⟨trivial, ?_⟩)
  rintro valid _ rfl
  refine Prog.wp_pure.mpr ?_
  refine (Prog.reads_done _).bind_guarded (Prog.all_done _) fun passwordValid _ => ?_
  refine (Prog.reads_rejectIf _ _).bind_guarded (Prog.all_rejectIf _ _) fun _ _ => ?_
  refine Prog.wp_bind.mpr (Prog.wp_ask.mpr ⟨trivial, ?_⟩)
  rintro a _ rfl
  refine Prog.wp_pure.mpr ?_
  refine (Prog.reads_done _).bind_guarded (Prog.all_done _) fun hash hhash => ?_
  obtain rfl := Except.mapError_eq_ok.mp hhash
  refine Prog.wp_mapErr.mpr ?_
  refine Prog.wp.bind_guarded (Q := fun _ _ => True)
      (guarded_execute (u := .updatePassword _ _) ?_) fun rows _ _ => ?_
  · exact PasswordCall.mayWrite (h := []) (.inl trivial)
  · exact (Prog.all_rejectIf _ _).guarded

/-- **Every call** writes what it may. -/
lemma PasswordCall.traced (c : PasswordCall) :
    (c.run auth registration).Traced (c.May registration.passwordPolicy) (fun _ _ => True) [] := by
  cases c with
  | register request => exact Prog.wp_forget.mpr (traced_register auth registration request)
  | resetPassword token newPassword =>
    exact Prog.wp_forget.mpr (traced_resetPassword auth registration token newPassword)
  | changePassword u currentPassword newPassword =>
    exact Prog.wp_forget.mpr (traced_changePassword _ u currentPassword newPassword)

end Traced

/-! ## What is stored -/

section Stored

variable {ι : Type} {policy : PasswordPolicy} {log : List (ι × Prog.Event Req Ans)} {i : ι}
  {c : PasswordCall} {now : Time} {db db' : Db}

omit [Unicode] in
/-- A hash that was computed. -/
lemma mem_hashedPasswords {password hash : String} (h : (i, hashedEvent password hash) ∈ log) :
    (password, hash) ∈ hashedPasswords log :=
  List.mem_filterMap.mpr ⟨_, h, rfl⟩

/-- A longer log has seen more. -/
lemma PasswordsAccepted.cons {users : List UserRow} (h : PasswordsAccepted policy log users)
    (e : ι × Prog.Event Req Ans) : PasswordsAccepted policy (e :: log) users := by
  intro row hrow
  obtain ⟨password, hmem, hok⟩ := h row hrow
  obtain ⟨e', he', hpair⟩ := List.mem_filterMap.mp hmem
  exact ⟨password, List.mem_filterMap.mpr ⟨e', List.mem_cons_of_mem _ he', hpair⟩, hok⟩

/-- A hash that a call may write is one of a password the policy accepts. -/
lemma PasswordCall.MayWrite.accepted [DecidableEq ι] {hash : String}
    (hmay : c.MayWrite policy (Pool.mine i log) hash) (hc : c.IsChange → c.Accepted policy) :
    ∃ password, (password, hash) ∈ hashedPasswords log ∧ policy.validate password = .ok () :=
  ⟨c.password, mem_hashedPasswords (Pool.mem_mine.mp hmay.1), hmay.2.elim hc id⟩

/-- **A statement of a call** keeps all stored passwords accepted. -/
lemma PasswordsAccepted.update [DecidableEq ι] {u : Update} {r : u.Res}
    (h : PasswordsAccepted policy log db.users)
    (hmay : c.May policy (Pool.mine i log) (.update u)) (hc : c.IsChange → c.Accepted policy)
    (hx : u.exec now db = .ok (r, db')) : PasswordsAccepted policy log db'.users := by
  cases u with
  | insertUser row =>
    obtain ⟨-, rfl⟩ | ⟨-, -, email, username, name, rfl⟩ := @insertUser_ok now _ _ _ _ hx
    · exact h
    · intro x hmem
      rcases List.mem_append.mp hmem with hold | hnew
      · exact h x hold
      · obtain rfl := List.mem_singleton.mp hnew
        exact PasswordCall.MayWrite.accepted hmay hc
  | updatePassword v hash =>
    obtain ⟨-, rfl⟩ := updatePassword_ok hx
    intro x hmem
    obtain ⟨row, hrow, rfl⟩ := List.mem_map.mp hmem
    split
    · exact PasswordCall.MayWrite.accepted hmay hc
    · exact h row hrow
  | insertToken kind v hash expiresAt =>
    obtain ⟨_, -, -, rfl⟩ := @insertToken_ok now _ _ _ _ _ _ hx
    rw [Db.users_withTokens]
    exact h
  | consumeToken kind hash =>
    obtain ⟨-, rfl⟩ := Prod.mk.inj (Except.ok.inj hx)
    rw [Db.users_withTokens]
    exact h
  | _ => exact hmay.elim

/-- **A request of a call** keeps all stored passwords accepted. -/
lemma PasswordsAccepted.step [DecidableEq ι] {F : Req → Prop} {q : Req} {a : Ans q} {w w' : World}
    (h : PasswordsAccepted policy log w.db.users) (hmay : c.May policy (Pool.mine i log) q)
    (hc : c.IsChange → c.Accepted policy) (hE : Env F q w a w') :
    PasswordsAccepted policy log w'.db.users := by
  by_cases hq : q.WritesDb
  · cases q with
    | update u =>
      rcases hE with ⟨r, db, hx, -, rfl⟩ | ⟨e, -, -, rfl⟩ | ⟨-, -, rfl⟩
      · exact h.update hmay hc hx
      · exact h
      · exact h
    | transaction t => exact hmay.elim
    | _ => exact hq.elim
  · rw [hE.db_eq hq]
    exact h

end Stored

/-! ## Interleavings -/

/-- Clients that set passwords. -/
abbrev PasswordPool (ι : Type) : Type := Pool ι Req Ans Unit Unit World

/-- Clients that are about to call, while there are no users yet. -/
def PasswordInit {ι : Type} (auth : AuthService) (registration : Registration)
    (calls : ι → PasswordCall) (P : PasswordPool ι) : Prop :=
  (∀ i, P.threads i = (calls i).run auth registration) ∧ P.world.db.users = []

section Runs

variable {ι : Type} [DecidableEq ι] {auth : AuthService} {registration : Registration}
  {calls : ι → PasswordCall} {F : Req → Prop}
  {tr : List (PasswordPool ι × Pool.Label ι Req Ans)} {P : PasswordPool ι}

/-- **Stored passwords.**  In every interleaving of registrations, password resets and changes of
passwords, from a platform without users: if every change sets a password the policy accepts, then
every stored hash is one of a password the policy accepts.

**Proof sketch.** Induction on the run.  A call writes a hash only after it has seen it computed
from its own password (`PasswordCall.traced`), and every other statement leaves hashes alone. -/
theorem passwords_accepted
    (hr : Run (PasswordInit auth registration calls) (Pool.Step (Env F) World.Later) tr P)
    (hcalls : ∀ i u currentPassword newPassword,
      calls i = .changePassword u currentPassword newPassword →
      registration.passwordPolicy.validate newPassword = .ok ()) :
    PasswordsAccepted registration.passwordPolicy (Pool.log tr) P.world.db.users := by
  have hchange : ∀ i, (calls i).IsChange → (calls i).Accepted registration.passwordPolicy := by
    intro i hi
    have hi' := hcalls i
    revert hi hi'
    cases calls i with
    | register request => exact fun hi => hi.elim
    | resetPassword token newPassword => exact fun hi => hi.elim
    | changePassword u currentPassword newPassword => exact fun _ hi' => hi' _ _ _ rfl
  have htraced : ∀ P, PasswordInit auth registration calls P → ∀ i,
      (P.threads i).Traced ((calls i).May registration.passwordPolicy) (fun _ _ => True) [] := by
    intro P hi i
    rw [hi.1 i]
    exact (calls i).traced auth registration
  induction hr with
  | start hi =>
    intro row hrow
    rw [hi.2] at hrow
    cases hrow
  | @snoc older P P' l hrun hstep ih =>
    have hjust := Pool.justified_of_run htraced (hrun.snoc hstep)
    cases hstep with
    | tick hT => obtain ⟨_, -, rfl⟩ := hT; exact ih
    | @run i q k a w hi hE => exact (ih.step hjust.1 (hchange i) hE).cons _

end Runs

omit [Unicode]

namespace Scenario

/-- Ada registers, and then sets another password. -/
def passwordCalls (newPassword : String) : Bool → PasswordCall
  | true => .register ⟨"ada@x.org", "ada", "Correct7horse", none, .student, none⟩
  | false => .changePassword ⟨0⟩ "Correct7horse" newPassword

/-- The two calls, one after the other. -/
def passwordsPlayed (newPassword : String) :
    List (PasswordPool Bool × Pool.Label Bool Req Ans) × PasswordPool Bool :=
  letI := Unicode.ascii
  Pool.schedule World.answer (List.replicate 8 true ++ List.replicate 4 false)
    { threads := fun i => (passwordCalls newPassword i).run deployment.services.auth
        deployment.registration
      world := { world with db := { world.db with users := [] } } } []

/-- They are an interleaving. -/
theorem run_passwordsPlayed (newPassword : String) :
    Run (@PasswordInit Unicode.ascii Bool deployment.services.auth deployment.registration
        (passwordCalls newPassword))
      (Pool.Step (Env noFault) World.Later) (passwordsPlayed newPassword).1
      (passwordsPlayed newPassword).2 :=
  Pool.run_schedule (env_answer noFault) _ (.start ⟨fun _ => rfl, rfl⟩)

end Scenario

/-- Ada sets a password the policy accepts. -/
theorem passwords_accepted_played :
    (Scenario.passwordsPlayed "Another8donkey").2.world.db.users.map (·.passwordHash) =
      ["Another8donkey"] ∧
    @PasswordsAccepted Unicode.ascii Bool {} (Pool.log (Scenario.passwordsPlayed "Another8donkey").1)
      (Scenario.passwordsPlayed "Another8donkey").2.world.db.users := by
  refine ⟨rfl, @passwords_accepted Unicode.ascii _ _ _ _ _ _ _ _
    (Scenario.run_passwordsPlayed "Another8donkey") ?_⟩
  intro i u currentPassword newPassword hi
  cases i with
  | true => cases hi
  | false =>
    obtain ⟨-, -, rfl⟩ := PasswordCall.changePassword.inj hi
    rfl

/-- Ada sets a password the policy refuses: its hash is stored. -/
theorem weak_password_stored :
    Run (@PasswordInit Unicode.ascii Bool Scenario.deployment.services.auth
        Scenario.deployment.registration (Scenario.passwordCalls "weak"))
      (Pool.Step (Env noFault) World.Later) (Scenario.passwordsPlayed "weak").1
      (Scenario.passwordsPlayed "weak").2 ∧
    (∀ i, (Scenario.passwordsPlayed "weak").2.threads i = .done (.ok ())) ∧
    (Scenario.passwordsPlayed "weak").2.world.db.users.map (·.passwordHash) = ["weak"] ∧
    ¬ @PasswordsAccepted Unicode.ascii Bool {} (Pool.log (Scenario.passwordsPlayed "weak").1)
      (Scenario.passwordsPlayed "weak").2.world.db.users := by
  have husers : (Scenario.passwordsPlayed "weak").2.world.db.users.map (·.passwordHash) = ["weak"] :=
    rfl
  have hhashed : hashedPasswords (Pool.log (Scenario.passwordsPlayed "weak").1) =
      [("weak", "weak"), ("Correct7horse", "Correct7horse")] := rfl
  refine ⟨Scenario.run_passwordsPlayed "weak", fun i => by cases i <;> rfl, husers, fun h => ?_⟩
  obtain ⟨row, hrow, hhash⟩ : ∃ row ∈ (Scenario.passwordsPlayed "weak").2.world.db.users,
      row.passwordHash = "weak" := by
    refine List.mem_map.mp ?_
    rw [husers]
    exact List.mem_singleton.mpr rfl
  obtain ⟨password, hmem, hok⟩ := h row hrow
  rw [hhashed, hhash] at hmem
  rcases List.mem_cons.mp hmem with heq | hmem
  · obtain ⟨rfl, -⟩ := Prod.mk.inj heq
    cases hok
  · exact absurd (Prod.mk.inj (List.mem_singleton.mp hmem)).2 (by decide)

end Klynt
