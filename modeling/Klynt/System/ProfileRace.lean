import Klynt.System.Activation

set_option relaxedAutoImplicit false
set_option autoImplicit false

/-!
# A profile update racing with another change of the account

The update of a profile reads the row of a user, changes the full name and writes the row back.
A change of the password, a verification of the address or a deletion writes its own columns of
the row.  If it writes them between the two requests of the profile update, they are overwritten
with what the profile update had read.

## Main definitions

* `AccountWrite` — the statements that write columns of a user's row.
* `RowCall` — the calls that issue them.
* `ProfileKept` — the row carries what both calls have set.
* `Clobbered` — the interleavings described above.

## Main results

* `profile_kept_iff` — after both calls the row carries what they have set unless it was
  overwritten.
* `password_restored` — an interleaving that restores an old password.
-/

namespace Klynt

variable [Unicode]

/-! ## The calls -/

/-- Statements that write columns of a user's row. -/
inductive AccountWrite where
  /-- The hash of the password. -/
  | password (hash : String)
  /-- The status and the verification of the address. -/
  | activate
  /-- The deletion. -/
  | delete

namespace AccountWrite

/-- The statement. -/
def statement (u : UserId) : AccountWrite → Update
  | password hash => .updatePassword u hash
  | activate => .activateUser u
  | delete => .deleteUser u

/-- The statement was executed and changed `n` rows. -/
def event (u : UserId) (n : Nat) : AccountWrite → Prog.Event Req Ans
  | password hash => ⟨.update (.updatePassword u hash), (.ok n : Except SqlxError Nat)⟩
  | activate => ⟨.update (.activateUser u), (.ok n : Except SqlxError Nat)⟩
  | delete => ⟨.update (.deleteUser u), (.ok n : Except SqlxError Nat)⟩

/-- The row carries what the statement sets, executed at a given time. -/
def SetIn (now : Time) (row : UserRow) : AccountWrite → Prop
  | password hash => row.passwordHash = hash
  | activate => row.status = "active" ∧ row.emailVerifiedAt = some now
  | delete => row.deletedAt = some now

/-- A row that was read lacks what the statement sets in columns that are written back. -/
def LackedBy (now : Time) (row : UserRow) : AccountWrite → Prop
  | password hash => row.passwordHash ≠ hash
  | activate => ¬ (statusFromDb row.status = .ok .active ∧ row.emailVerifiedAt = some now)
  | delete => False

/-- The row after the statement. -/
def apply (now : Time) (row : UserRow) : AccountWrite → UserRow
  | password hash => { row with passwordHash := hash, updatedAt := now }
  | activate => { row with status := "active", emailVerifiedAt := some now, updatedAt := now }
  | delete =>
    if row.deletedAt.isNone then { row with deletedAt := some now, updatedAt := now } else row

end AccountWrite

/-- Calls that change an account other than by its profile. -/
inductive RowCall where
  /-- `change_password`. -/
  | changePassword (currentPassword newPassword : String)
  /-- `reset_password`. -/
  | resetPassword (token newPassword : String)
  /-- `verify_email`. -/
  | verifyEmail (token : String)
  /-- `delete_user`. -/
  | deleteUser (ctx : ExecutionContext)

/-- The call, on the account of a user. -/
def RowCall.run (s : Services) (u : UserId) : RowCall → Action Unit Unit
  | changePassword currentPassword newPassword =>
    (UserService.changePassword u currentPassword newPassword).forget
  | resetPassword token newPassword => (s.auth.resetPassword s.registration token newPassword).forget
  | verifyEmail token => (s.auth.verifyEmail token).forget
  | deleteUser ctx => (s.user.deleteUser ctx u).forget

omit [Unicode] in
/-- The row of a user was found. -/
def userFound (u : UserId) (row : UserRow) : Prog.Event Req Ans :=
  ⟨.query (.userById u), (.ok (some row) : Except SqlxError (Option UserRow))⟩

omit [Unicode] in
/-- A user was written back. -/
def userWritten (new : UserRow) (n : Nat) : Prog.Event Req Ans :=
  ⟨.update (.updateUser new), (.ok n : Except SqlxError Nat)⟩

/-- Requests that are known to leave the rows of users as they are. -/
def Req.KeepsUsers : Req → Prop
  | .update (.consumeToken _ _) => True
  | .update _ | .transaction _ => False
  | _ => True

/-- What a profile update may request, given what it has seen. -/
def ProfileMay (u : UserId) (updates : ProfileUpdate) (h : List (Prog.Event Req Ans)) (q : Req) :
    Prop :=
  q.KeepsUsers ∨ ∃ row user t user', h = [⟨.clock, t⟩, userFound u row] ∧ row.intoUser = .ok user ∧
    user.updateProfile updates.fullName t = .ok user' ∧
    q = .update (.updateUser (PgUserRepository.rowOf user'))

/-- A profile update that returns has written a row. -/
def ProfileEnds (u : UserId) (r : Except Unit Unit) (h : List (Prog.Event Req Ans)) : Prop :=
  r = .ok () → ∃ new n t row, n ≠ 0 ∧ h = [userWritten new n, ⟨.clock, t⟩, userFound u row]

/-- What another call may request, given what it has seen. -/
def RowMay (h : List (Prog.Event Req Ans)) (q : Req) : Prop :=
  q.KeepsUsers ∨ (∃ v write, q = .update (AccountWrite.statement v write)) ∧ ∀ e ∈ h, e.1.KeepsUsers

/-- Another call that returns has written a row. -/
def RowEnds (r : Except Unit Unit) (h : List (Prog.Event Req Ans)) : Prop :=
  r = .ok () → ∃ v write n, n ≠ 0 ∧ AccountWrite.event v n write ∈ h

/-! ## What the calls request -/

section Traced

variable {u : UserId} {h : List (Prog.Event Req Ans)}

omit [Unicode] in
/-- A profile update that fails need not have written anything. -/
lemma profileEnds_error : ProfileEnds u (.error ()) h := nofun

omit [Unicode] in
/-- Another call that fails need not have written anything. -/
lemma rowEnds_error : RowEnds (.error ()) h := nofun

/-- **A profile update** reads the row and writes back what it has read with another full name. -/
lemma traced_updateProfile (service : UserService) (u : UserId) (updates : ProfileUpdate) :
    (service.updateProfile u updates).forget.Traced (ProfileMay u updates) (ProfileEnds u) [] := by
  refine Prog.wp_forget.mpr (Prog.wp_bind.mpr (Prog.wp_done.mpr ?_))
  rcases (service.validate updates).mapError UserError.validation with e | ⟨⟩
  · exact profileEnds_error
  refine Prog.wp_bind.mpr (Prog.wp_mapErr.mpr (Prog.wp_bind.mpr (Prog.wp_mapErr.mpr
    (Prog.wp_ask.mpr ⟨.inl trivial, ?_⟩))))
  rintro (e | (found : Option UserRow)) h rfl
  · exact Prog.wp_done.mpr profileEnds_error
  refine Prog.wp_done.mpr ?_
  cases found with
  | none =>
    refine Prog.wp_done.mpr (Prog.wp_bind.mpr (Prog.wp_ofOption.mpr ⟨?_, fun _ => profileEnds_error⟩))
    intro a ha
    cases ha
  | some row =>
    refine Prog.wp_done.mpr ?_
    cases huser : row.intoUser with
    | error e =>
      simp only [mapOption, huser, Except.map, Except.mapError]
      exact profileEnds_error
    | ok user =>
      simp only [mapOption, huser, Except.map, Except.mapError]
      refine Prog.wp_bind.mpr (Prog.wp_ofOption.mpr
        ⟨?_, fun hnone => absurd hnone (Option.some_ne_none _)⟩)
      intro user₁ huser₁
      obtain rfl := Option.some.inj huser₁
      refine Prog.wp_bind.mpr (Prog.wp_ask.mpr ⟨.inl trivial, ?_⟩)
      rintro t h rfl
      refine Prog.wp_done.mpr (Prog.wp_bind.mpr (Prog.wp_done.mpr ?_))
      cases hupdated : user.updateProfile updates.fullName t with
      | error e => exact profileEnds_error
      | ok user' =>
        refine Prog.wp_bind.mpr (Prog.wp_mapErr.mpr (Prog.wp_bind.mpr (Prog.wp_mapErr.mpr
          (Prog.wp_ask.mpr ⟨.inr ⟨row, user, t, user', rfl, huser, hupdated, rfl⟩, ?_⟩))))
        rintro (e | (n : Nat)) h rfl
        · exact Prog.wp_done.mpr profileEnds_error
        · refine Prog.wp_done.mpr (Prog.wp_bind.mpr
            (Prog.wp_rejectIf.mpr ⟨fun hn => ?_, fun _ => profileEnds_error⟩))
          exact Prog.wp_pure.mpr (Prog.wp_pure.mpr fun _ => ⟨_, n, t, row, hn, rfl⟩)

omit [Unicode] in
/-- The operation of the repository that executes a statement. -/
def AccountWrite.perform (v : UserId) : AccountWrite → Action RepositoryError Unit
  | password hash => PgUserRepository.updatePassword v hash
  | activate => PgUserRepository.activateUser v
  | delete => PgUserRepository.delete v

omit [Unicode] in
/-- A statement may be executed if none was before. -/
lemma wp_perform (v : UserId) (write : AccountWrite) (hh : ∀ e ∈ h, e.1.KeepsUsers) :
    (write.perform v).wp (fun q h => RowMay h q) (fun q h a h' => h' = ⟨q, a⟩ :: h)
      (fun r h' => r = .ok () → ∃ n, n ≠ 0 ∧ h' = write.event v n :: h) h := by
  have hmay : RowMay h (.update (write.statement v)) := .inr ⟨⟨v, write, rfl⟩, hh⟩
  cases write with
  | password hash =>
    refine Prog.wp_bind.mpr (Prog.wp_mapErr.mpr (Prog.wp_ask.mpr ⟨hmay, ?_⟩))
    rintro (e | (n : Nat)) _ rfl
    · exact Prog.wp_done.mpr nofun
    · exact Prog.wp_done.mpr (Prog.wp_rejectIf.mpr ⟨fun hn _ => ⟨n, hn, rfl⟩, fun _ => nofun⟩)
  | activate =>
    refine Prog.wp_bind.mpr (Prog.wp_mapErr.mpr (Prog.wp_ask.mpr ⟨hmay, ?_⟩))
    rintro (e | (n : Nat)) _ rfl
    · exact Prog.wp_done.mpr nofun
    · exact Prog.wp_done.mpr (Prog.wp_rejectIf.mpr ⟨fun hn _ => ⟨n, hn, rfl⟩, fun _ => nofun⟩)
  | delete =>
    refine Prog.wp_bind.mpr (Prog.wp_mapErr.mpr (Prog.wp_ask.mpr ⟨hmay, ?_⟩))
    rintro (e | (n : Nat)) _ rfl
    · exact Prog.wp_done.mpr nofun
    · exact Prog.wp_done.mpr (Prog.wp_rejectIf.mpr ⟨fun hn _ => ⟨n, hn, rfl⟩, fun _ => nofun⟩)

omit [Unicode] in
/-- Requests that keep the rows of users may be issued at any time. -/
lemma wp_keeps {ε α : Type} {p : Action ε α} (hp : p.All Req.KeepsUsers)
    (hh : ∀ e ∈ h, e.1.KeepsUsers) :
    p.wp (fun q h => RowMay h q) (fun q h a h' => h' = ⟨q, a⟩ :: h)
      (fun _ h' => ∀ e ∈ h', e.1.KeepsUsers) h := by
  induction p generalizing h with
  | done r => exact Prog.wp_done.mpr hh
  | ask q k ih =>
    refine Prog.wp_ask.mpr ⟨.inl hp.1, ?_⟩
    rintro a _ rfl
    exact ih a (hp.2 a) (List.forall_mem_cons.mpr ⟨hp.1, hh⟩)

omit [Unicode] in
/-- Such requests first, and then the rest of the call. -/
lemma keeps_bind {ε α β : Type} {p : Action ε α} {f : α → Action ε β} (hp : p.All Req.KeepsUsers)
    (hh : ∀ e ∈ h, e.1.KeepsUsers)
    (hf : ∀ a h', (∀ e ∈ h', e.1.KeepsUsers) →
      (f a).wp (fun q h => RowMay h q) (fun q h a h' => h' = ⟨q, a⟩ :: h)
        (fun r h' => RowEnds ((r.map fun _ => ()).mapError fun _ => ()) h') h') :
    (p >>= f).wp (fun q h => RowMay h q) (fun q h a h' => h' = ⟨q, a⟩ :: h)
      (fun r h' => RowEnds ((r.map fun _ => ()).mapError fun _ => ()) h') h := by
  refine Prog.wp_bind.mpr ((wp_keeps hp hh).mono fun r h' hr => ?_)
  cases r with
  | ok a => exact hf a h' hr
  | error e => exact rowEnds_error

omit [Unicode] in
/-- A call that ends with a statement. -/
lemma wp_perform_mapErr {ε : Type} (f : RepositoryError → ε) (v : UserId) (write : AccountWrite)
    (hh : ∀ e ∈ h, e.1.KeepsUsers) :
    ((write.perform v).mapErr f).wp (fun q h => RowMay h q) (fun q h a h' => h' = ⟨q, a⟩ :: h)
      (fun r h' => RowEnds ((r.map fun _ => ()).mapError fun _ => ()) h') h := by
  refine Prog.wp_mapErr.mpr ((wp_perform v write hh).mono fun r h' hr => ?_)
  cases r with
  | ok a =>
    obtain ⟨n, hn, rfl⟩ := hr rfl
    exact fun _ => ⟨v, write, n, hn, List.mem_cons_self⟩
  | error e => exact rowEnds_error

/-- A lookup keeps the rows. -/
lemma all_keeps_findById (v : UserId) : (PgUserRepository.findById v).All Req.KeepsUsers :=
  Prog.All.bind (Prog.All.mapErr ⟨trivial, fun _ => trivial⟩) fun _ => Prog.all_done _

omit [Unicode] in
/-- The consumption of a token keeps the rows. -/
lemma all_keeps_consume (kind : TokenKind) (hash : String) :
    (PgTokenStore.consume kind hash).All Req.KeepsUsers :=
  Prog.All.bind (Prog.All.mapErr ⟨trivial, fun _ => trivial⟩) fun _ => Prog.all_ofOption _ _

omit [Unicode] in
/-- Nothing has been requested yet. -/
lemma keeps_nil : ∀ e ∈ ([] : List (Prog.Event Req Ans)), e.1.KeepsUsers :=
  fun _ he => (List.not_mem_nil he).elim

/-- A change of a password. -/
lemma wp_changePassword (u : UserId) (currentPassword newPassword : String) :
    (UserService.changePassword u currentPassword newPassword).wp (fun q h => RowMay h q)
      (fun q h a h' => h' = ⟨q, a⟩ :: h)
      (fun r h' => RowEnds ((r.map fun _ => ()).mapError fun _ => ()) h') [] := by
  refine keeps_bind (all_keeps_findById u).mapErr keeps_nil fun found h hh => ?_
  refine keeps_bind (Prog.all_ofOption _ _) hh fun user h hh => ?_
  refine keeps_bind (Prog.all_rejectIf _ _) hh fun _ h hh => ?_
  refine keeps_bind ⟨trivial, fun _ => Prog.all_pure _⟩ hh fun valid h hh => ?_
  refine keeps_bind (Prog.all_done _) hh fun passwordValid h hh => ?_
  refine keeps_bind (Prog.all_rejectIf _ _) hh fun _ h hh => ?_
  refine keeps_bind ⟨trivial, fun _ => Prog.all_pure _⟩ hh fun hashed h hh => ?_
  refine keeps_bind (Prog.all_done _) hh fun hash h hh => ?_
  exact wp_perform_mapErr _ u (.password hash) hh

/-- A password reset. -/
lemma wp_resetPassword (auth : AuthService) (registration : Registration)
    (token newPassword : String) :
    (auth.resetPassword registration token newPassword).wp (fun q h => RowMay h q)
      (fun q h a h' => h' = ⟨q, a⟩ :: h)
      (fun r h' => RowEnds ((r.map fun _ => ()).mapError fun _ => ()) h') [] := by
  refine keeps_bind (Prog.all_done _) keeps_nil fun _ h hh => ?_
  refine keeps_bind (all_keeps_consume _ _).mapErr hh fun v h hh => ?_
  refine keeps_bind ⟨trivial, fun _ => Prog.all_pure _⟩ hh fun hashed h hh => ?_
  refine keeps_bind (Prog.all_done _) hh fun hash h hh => ?_
  exact wp_perform_mapErr _ v (.password hash) hh

omit [Unicode] in
/-- A verification. -/
lemma wp_verifyEmail (auth : AuthService) (token : String) :
    (auth.verifyEmail token).wp (fun q h => RowMay h q)
      (fun q h a h' => h' = ⟨q, a⟩ :: h)
      (fun r h' => RowEnds ((r.map fun _ => ()).mapError fun _ => ()) h') [] := by
  refine keeps_bind (all_keeps_consume _ _).mapErr keeps_nil fun v h hh => ?_
  refine Prog.wp_bind.mpr ((wp_perform_mapErr _ v .activate hh).mono fun r h' hr => ?_)
  cases r with
  | ok a => exact Prog.wp_pure.mpr hr
  | error e => exact rowEnds_error

/-- A deletion. -/
lemma wp_deleteUser (service : UserService) (ctx : ExecutionContext) (u : UserId) :
    (service.deleteUser ctx u).wp (fun q h => RowMay h q)
      (fun q h a h' => h' = ⟨q, a⟩ :: h)
      (fun r h' => RowEnds ((r.map fun _ => ()).mapError fun _ => ()) h') [] := by
  refine keeps_bind (all_keeps_findById u).mapErr keeps_nil fun found h hh => ?_
  refine keeps_bind (Prog.all_ofOption _ _) hh fun user h hh => ?_
  refine keeps_bind (Prog.all_rejectIf _ _) hh fun _ h hh => ?_
  refine keeps_bind ⟨trivial, fun _ => Prog.all_done _⟩ hh fun t h hh => ?_
  refine keeps_bind (Prog.all_done _) hh fun user' h hh => ?_
  exact wp_perform_mapErr _ u .delete hh

/-- **Another call** writes columns of one row, once. -/
lemma RowCall.traced (s : Services) (u : UserId) (c : RowCall) :
    (c.run s u).Traced (fun h q => RowMay h q) RowEnds [] := by
  cases c with
  | changePassword currentPassword newPassword =>
    exact Prog.wp_forget.mpr (wp_changePassword u currentPassword newPassword)
  | resetPassword token newPassword =>
    exact Prog.wp_forget.mpr (wp_resetPassword s.auth s.registration token newPassword)
  | verifyEmail token => exact Prog.wp_forget.mpr (wp_verifyEmail s.auth token)
  | deleteUser ctx => exact Prog.wp_forget.mpr (wp_deleteUser s.user ctx u)

end Traced

/-! ## Rows -/

/-- The row of a user. -/
def Db.userRow (db : Db) (u : UserId) : Option UserRow := db.users.find? (·.id = u)

section Rows

omit [Unicode]

variable {F : Req → Prop} {w w' : World} {u : UserId} {n : Nat}

/-- A change of rows that keeps their ids. -/
lemma find_map_row {users : List UserRow} {f : UserRow → UserRow} (hf : ∀ row, (f row).id = row.id) :
    (users.map f).find? (·.id = u) = (users.find? (·.id = u)).map f := by
  rw [List.find?_map]
  refine congrArg (Option.map f) (congrArg (List.find? · users) ?_)
  funext row
  simp only [Function.comp_apply, hf]

/-- A change of rows that keeps their ids, by id. -/
lemma map_id_map {users : List UserRow} {f : UserRow → UserRow} (hf : ∀ row, (f row).id = row.id) :
    (users.map f).map (·.id) = users.map (·.id) := by
  rw [List.map_map]
  exact List.map_congr_left fun row _ => hf row

/-- A row that is counted is found. -/
lemma exists_userRow {db : Db} {p : UserRow → Bool} (hn : db.users.countP p ≠ 0)
    (hp : ∀ row, p row = true → row.id = u) : ∃ row, db.userRow u = some row := by
  obtain ⟨row, hmem, hrow⟩ := List.countP_pos_iff.mp (Nat.pos_of_ne_zero hn)
  refine Option.isSome_iff_exists.mp (List.find?_isSome.mpr ⟨row, hmem, ?_⟩)
  exact decide_eq_true (hp row hrow)

/-- The id of the row that is found. -/
lemma id_of_userRow {db : Db} {row : UserRow} (h : db.userRow u = some row) : row.id = u := by
  have hfound := List.find?_some h
  simpa using hfound

/-- The row of a user that is found is the only one. -/
lemma userRow_eq {db : Db} (hids : (db.users.map (·.id)).Nodup) {row row' : UserRow}
    (h : db.userRow u = some row) (hmem : row' ∈ db.users) (hid : row'.id = u) : row' = row := by
  have hrow := id_of_userRow h
  exact Keyed.eq_of_key_eq _ hids hmem (List.mem_of_find?_eq_some h) (hid.trans hrow.symm)

/-- **A statement that writes columns** of a row sets them. -/
lemma AccountWrite.row_of_event {write : AccountWrite}
    (hE : Env F (write.event u n).1 w (write.event u n).2 w') (hn : n ≠ 0)
    (hids : (w.db.users.map (·.id)).Nodup) :
    ∃ row, w.db.userRow u = some row ∧ w'.db.userRow u = some (write.apply w.now row) ∧
      write.SetIn w.now (write.apply w.now row) := by
  cases write with
  | password hash =>
    rcases hE with ⟨r, db, hx, ha, rfl⟩ | ⟨e, -, ha, -⟩ | ⟨-, ⟨m, ha⟩, -⟩
    · obtain ⟨rfl, rfl⟩ := updatePassword_ok hx
      obtain rfl := Except.ok.inj ha
      obtain ⟨row, hrow⟩ := exists_userRow hn fun row h => of_decide_eq_true h
      have hid := id_of_userRow hrow
      refine ⟨row, hrow, ?_, rfl⟩
      refine (find_map_row fun row => by split <;> rfl).trans ?_
      rw [show w.db.users.find? (·.id = u) = some row from hrow, Option.map_some, if_pos hid]
      rfl
    · cases ha
    · cases ha
  | activate =>
    rcases hE with ⟨r, db, hx, ha, rfl⟩ | ⟨e, -, ha, -⟩ | ⟨-, ⟨m, ha⟩, -⟩
    · obtain ⟨rfl, rfl⟩ := Prod.mk.inj (Except.ok.inj hx)
      obtain rfl := Except.ok.inj ha
      obtain ⟨row, hrow⟩ := exists_userRow hn fun row h => of_decide_eq_true h
      have hid := id_of_userRow hrow
      refine ⟨row, hrow, ?_, rfl, rfl⟩
      refine (find_map_row fun row => by split <;> rfl).trans ?_
      rw [show w.db.users.find? (·.id = u) = some row from hrow, Option.map_some, if_pos hid]
      rfl
    · cases ha
    · cases ha
  | delete =>
    rcases hE with ⟨r, db, hx, ha, rfl⟩ | ⟨e, -, ha, -⟩ | ⟨-, ⟨m, ha⟩, -⟩
    · obtain ⟨rfl, rfl⟩ := Prod.mk.inj (Except.ok.inj hx)
      obtain rfl := Except.ok.inj ha
      obtain ⟨row', hmem, hrow'⟩ := List.countP_pos_iff.mp (Nat.pos_of_ne_zero hn)
      obtain ⟨hid', hlive⟩ := of_decide_eq_true hrow'
      obtain ⟨row, hrow⟩ := exists_userRow hn fun row h => (of_decide_eq_true h).1
      obtain rfl := userRow_eq hids hrow hmem hid'
      refine ⟨row', hrow, ?_, ?_⟩
      · refine (find_map_row fun row => by split <;> rfl).trans ?_
        rw [show w.db.users.find? (·.id = u) = some row' from hrow, Option.map_some,
          if_pos ⟨hid', hlive⟩]
        exact congrArg some (if_pos hlive).symm
      · unfold AccountWrite.SetIn AccountWrite.apply
        rw [if_pos hlive]
    · cases ha
    · cases ha

/-- **A user written back** replaces the row, but for the times of creation and deletion. -/
lemma row_of_written {new : UserRow} (hE : Env F (userWritten new n).1 w (userWritten new n).2 w')
    (hn : n ≠ 0) :
    ∃ row username name termsVersion, w.db.userRow new.id = some row ∧
      varchar 255 new.name = .ok name ∧ w'.db.userRow new.id = some { new with
        email := row.email, username, name, termsVersion, createdAt := row.createdAt,
        updatedAt := w.now, deletedAt := row.deletedAt } := by
  rcases hE with ⟨r, db, hx, ha, rfl⟩ | ⟨e, -, ha, -⟩ | ⟨-, ⟨m, ha⟩, -⟩
  · obtain ⟨username, name, termsVersion, -, hname, -, -, rfl, rfl⟩ := updateUser_ok hx
    obtain rfl := Except.ok.inj ha
    obtain ⟨row, hrow⟩ := exists_userRow hn fun row h => of_decide_eq_true h
    refine ⟨row, username, name, termsVersion, hrow, hname, ?_⟩
    refine (find_map_row fun row => ?_).trans ?_
    · split
      · rename_i hid
        exact hid.symm
      · rfl
    · rw [show w.db.users.find? (·.id = new.id) = some row from hrow, Option.map_some,
        if_pos (id_of_userRow hrow)]
  · cases ha
  · cases ha

/-- Requests that keep the rows of users. -/
lemma Req.KeepsUsers.users_eq {q : Req} {a : Ans q} (hq : q.KeepsUsers) (hE : Env F q w a w') :
    w'.db.users = w.db.users := by
  by_cases hw : q.WritesDb
  · cases q with
    | update statement =>
      cases statement with
      | consumeToken kind hash =>
        rcases hE with ⟨r, db, hx, -, rfl⟩ | ⟨e, -, -, rfl⟩ | ⟨-, -, rfl⟩
        · obtain ⟨-, rfl⟩ := Prod.mk.inj (Except.ok.inj hx)
          exact Db.users_withTokens ..
        · rfl
        · rfl
      | _ => exact hq.elim
    | transaction t => exact hq.elim
    | _ => exact hw.elim
  · rw [hE.db_eq hw]

/-- The requests of the two calls. -/
def Req.OnRows (q : Req) : Prop :=
  q.KeepsUsers ∨ (∃ new, q = .update (.updateUser new)) ∨
    ∃ v write, q = .update (AccountWrite.statement v write)

/-- None of them changes the ids of users. -/
lemma Req.OnRows.ids_eq {q : Req} {a : Ans q} (hq : q.OnRows) (hE : Env F q w a w') :
    w'.db.users.map (·.id) = w.db.users.map (·.id) := by
  obtain hq | ⟨new, rfl⟩ | ⟨v, write, rfl⟩ := hq
  · rw [hq.users_eq hE]
  · rcases hE with ⟨r, db, hx, -, rfl⟩ | ⟨e, -, -, rfl⟩ | ⟨-, -, rfl⟩
    · obtain ⟨username, name, termsVersion, -, -, -, -, -, rfl⟩ := updateUser_ok hx
      refine map_id_map fun row => ?_
      split
      · rename_i hid
        exact hid.symm
      · rfl
    · rfl
    · rfl
  · rcases hE with ⟨r, db, hx, -, rfl⟩ | ⟨e, -, -, rfl⟩ | ⟨-, -, rfl⟩
    · cases write with
      | password hash =>
        obtain ⟨-, rfl⟩ := updatePassword_ok hx
        exact map_id_map fun row => by split <;> rfl
      | activate =>
        obtain ⟨-, rfl⟩ := Prod.mk.inj (Except.ok.inj hx)
        exact map_id_map fun row => by split <;> rfl
      | delete =>
        obtain ⟨-, rfl⟩ := Prod.mk.inj (Except.ok.inj hx)
        exact map_id_map fun row => by split <;> rfl
    · rfl
    · rfl

/-- What is written back, in terms of the row that was found. -/
lemma written_of_found [Unicode] {row : UserRow} {user user' : User} {fullName : Option String}
    {t : Time} (huser : row.intoUser = .ok user) (h : user.updateProfile fullName t = .ok user') :
    (PgUserRepository.rowOf user').id = row.id ∧
      (PgUserRepository.rowOf user').passwordHash = row.passwordHash ∧
      (PgUserRepository.rowOf user').emailVerifiedAt = row.emailVerifiedAt ∧
      (PgUserRepository.rowOf user').name = fullName.getD "" ∧
      ∃ status, statusFromDb row.status = .ok status ∧
        (PgUserRepository.rowOf user').status = PgUserRepository.statusToDb status := by
  have huser' : user' = { user with fullName, updatedAt := t } := by
    unfold User.updateProfile at h
    split at h
    · cases h
    · exact (Except.ok.inj h).symm
  obtain ⟨_, status, _, _, -, hstatus, -, -, -, rfl⟩ := UserRow.intoUser_eq huser
  rw [huser']
  exact ⟨rfl, rfl, rfl, rfl, status, hstatus, rfl⟩

/-- The text of a status is that of the active one for the active status only. -/
lemma statusToDb_eq_active {status : UserStatus} :
    PgUserRepository.statusToDb status = "active" ↔ status = .active := by
  cases status <;> decide

/-- **A row written back** carries what another statement has set unless the row that was found
lacked it. -/
lemma AccountWrite.setIn_written [Unicode] {write : AccountWrite} {now : Time}
    {found new before : UserRow} (username name termsVersion email : String) (t t' : Time)
    {status : UserStatus}
    (hset : write.SetIn now before) (hhash : new.passwordHash = found.passwordHash)
    (hverified : new.emailVerifiedAt = found.emailVerifiedAt)
    (hfound : statusFromDb found.status = .ok status)
    (hstatus : new.status = PgUserRepository.statusToDb status) :
    write.SetIn now { new with email, username, name, termsVersion, createdAt := t, updatedAt := t',
                               deletedAt := before.deletedAt } ↔ ¬ write.LackedBy now found := by
  cases write with
  | password hash =>
    show new.passwordHash = hash ↔ ¬ found.passwordHash ≠ hash
    rw [hhash, not_not]
  | activate =>
    show new.status = "active" ∧ new.emailVerifiedAt = some now ↔
      ¬ ¬ (statusFromDb found.status = .ok .active ∧ found.emailVerifiedAt = some now)
    rw [not_not, hverified, hstatus, hfound, statusToDb_eq_active]
    refine and_congr_left fun _ => ?_
    exact ⟨congrArg Except.ok, Except.ok.inj⟩
  | delete => exact ⟨fun _ => id, fun _ => hset⟩

/-- A row that carries what a statement sets does not lack it. -/
lemma AccountWrite.SetIn.not_lackedBy [Unicode] {write : AccountWrite} {now : Time} {row : UserRow}
    (h : write.SetIn now row) : ¬ write.LackedBy now row := by
  cases write with
  | password hash => exact fun hne => hne h
  | activate =>
    refine fun hlacked => hlacked ⟨?_, h.2⟩
    rw [h.1]
    exact statusFromDb_active
  | delete => exact id

end Rows

/-! ## Interleavings -/

/-- The two calls over one world. -/
abbrev ProfilePool : Type := Pool Bool Req Ans Unit Unit World

/-- The history of the two calls. -/
abbrev ProfileHistory : Type := List (ProfilePool × Pool.Label Bool Req Ans)

/-- A profile update and another call, about to start. -/
structure ProfileInit (s : Services) (u : UserId) (updates : ProfileUpdate) (c : RowCall)
    (P : ProfilePool) : Prop where
  /-- The profile update. -/
  profile : P.threads true = (s.user.updateProfile u updates).forget
  /-- The other call. -/
  other : P.threads false = c.run s u
  /-- The primary key of the users. -/
  ids : (P.world.db.users.map (·.id)).Nodup

/-- The row of the user carries the full name and what the other call has set. -/
def ProfileKept (u : UserId) (updates : ProfileUpdate) (tr : ProfileHistory) (P : ProfilePool) :
    Prop :=
  ∃ row, P.world.db.userRow u = some row ∧ varchar 255 (updates.fullName.getD "") = .ok row.name ∧
    ∀ Q write n, (Q, some (false, AccountWrite.event u n write)) ∈ tr → write.SetIn Q.world.now row

/-- The other call wrote between the two requests of the profile update, and what it set was not in
the row that the profile update had found. -/
def Clobbered (u : UserId) (tr : ProfileHistory) : Prop :=
  ∃ newer Q write n older row,
    tr = newer ++ (Q, some (false, AccountWrite.event u n write)) :: older ∧
    (true, userFound u row) ∈ Pool.log older ∧
    (∃ new n', (true, userWritten new n') ∈ Pool.log newer) ∧ write.LackedBy Q.world.now row

/-- What the two calls may request. -/
def MayOnRow (u : UserId) (updates : ProfileUpdate) : Bool →
    List (Prog.Event Req Ans) → Req → Prop
  | true => ProfileMay u updates
  | false => RowMay

/-- What the two calls have done when they return. -/
def EndsOnRow (u : UserId) : Bool → Except Unit Unit → List (Prog.Event Req Ans) → Prop
  | true => ProfileEnds u
  | false => RowEnds

section Runs

variable {s : Services} {u : UserId} {updates : ProfileUpdate} {c : RowCall}
  {F : Req → Prop} {tr newer older : ProfileHistory} {P Q : ProfilePool}

/-- The calls keep to their traces. -/
lemma onRow_traced {P : ProfilePool} (hi : ProfileInit s u updates c P) (i : Bool) :
    (P.threads i).Traced (MayOnRow u updates i) (EndsOnRow u i) [] := by
  cases i with
  | true =>
    rw [hi.profile]
    exact traced_updateProfile s.user u updates
  | false =>
    rw [hi.other]
    exact c.traced s u

/-- Every request of a run is one of its call's. -/
lemma onRow_justified (hr : Run (ProfileInit s u updates c) (Pool.Step (Env F) World.Later) tr P) :
    Pool.Justified (MayOnRow u updates) (Pool.log tr) :=
  Pool.justified_of_run (fun _ hi => onRow_traced hi) hr

/-- A call that has returned has done its work. -/
lemma onRow_done (hr : Run (ProfileInit s u updates c) (Pool.Step (Env F) World.Later) tr P)
    {i : Bool} (hdone : P.threads i = .done (.ok ())) :
    EndsOnRow u i (.ok ()) (Pool.mine i (Pool.log tr)) := by
  have htr := Pool.traced_of_run (fun _ hi => onRow_traced hi) hr i
  rw [hdone] at htr
  exact Prog.wp_done.mp htr

/-- Each call changes a row at most once. -/
lemma mayOnRow_once {i : Bool} {h : List (Prog.Event Req Ans)} {q : Req}
    (hmay : MayOnRow u updates i h q) (hq : ¬ q.KeepsUsers) : ∀ e ∈ h, ¬ ¬ e.1.KeepsUsers := by
  cases i with
  | true =>
    obtain hkeeps | ⟨row, user, t, user', rfl, -⟩ := hmay
    · exact absurd hkeeps hq
    · exact List.forall_mem_cons.mpr ⟨not_not_intro trivial,
        List.forall_mem_singleton.mpr (not_not_intro trivial)⟩
  | false =>
    obtain hkeeps | ⟨-, hall⟩ := hmay
    · exact absurd hkeeps hq
    · exact fun e he => not_not_intro (hall e he)

/-- The requests of the calls are known. -/
lemma mayOnRow_onRows {i : Bool} {h : List (Prog.Event Req Ans)} {q : Req}
    (hmay : MayOnRow u updates i h q) : q.OnRows := by
  cases i with
  | true =>
    obtain hkeeps | ⟨row, user, t, user', -, -, -, rfl⟩ := hmay
    · exact .inl hkeeps
    · exact .inr (.inl ⟨_, rfl⟩)
  | false =>
    obtain hkeeps | ⟨hwrite, -⟩ := hmay
    · exact .inl hkeeps
    · exact .inr (.inr hwrite)

/-- Around the request with which a call changes a row, the call keeps the rows. -/
lemma keeps_around (hr : Run (ProfileInit s u updates c) (Pool.Step (Env F) World.Later) tr P)
    {i : Bool} {e : Prog.Event Req Ans} (htr : tr = newer ++ (Q, some (i, e)) :: older)
    (he : ¬ e.1.KeepsUsers) {x : Bool × Prog.Event Req Ans}
    (hx : x ∈ Pool.log newer ∨ x ∈ Pool.log older) (hi : x.1 = i) : x.2.1.KeepsUsers := by
  have hjust := onRow_justified hr
  rw [htr, Pool.log_append, Pool.log_cons_some] at hjust
  exact not_not.mp (hjust.once (φ := fun q => ¬ q.KeepsUsers)
    (fun _ _ hmay hq => mayOnRow_once hmay hq) he x hx hi)

/-- The ids of users stay distinct. -/
lemma nodup_ids (hr : Run (ProfileInit s u updates c) (Pool.Step (Env F) World.Later) tr P) :
    (P.world.db.users.map (·.id)).Nodup := by
  induction hr with
  | start hi => exact hi.ids
  | @snoc older P P' l hrun hstep ih =>
    have hjust := onRow_justified (hrun.snoc hstep)
    cases hstep with
    | tick hT => obtain ⟨_, -, rfl⟩ := hT; exact ih
    | @run i q k a w hi hE =>
      rw [(mayOnRow_onRows hjust.1).ids_eq hE]
      exact ih

omit [Unicode] in
/-- A part of a run whose requests keep the rows of users. -/
lemma users_eq_of_keeps {m P : ProfilePool} {tr : ProfileHistory}
    (hr : Run (· = m) (Pool.Step (Env F) World.Later) tr P)
    (hkeeps : ∀ x ∈ Pool.log tr, x.2.1.KeepsUsers) : P.world.db.users = m.world.db.users := by
  induction hr with
  | start hi => rw [hi]
  | snoc hrun hstep ih =>
    cases hstep with
    | tick hT => obtain ⟨_, -, rfl⟩ := hT; exact ih hkeeps
    | run hi hE =>
      have hhead := hkeeps _ List.mem_cons_self
      have husers := Req.KeepsUsers.users_eq hhead hE
      exact husers.trans (ih fun x hx => hkeeps x (List.mem_cons_of_mem _ hx))

omit [Unicode] in
/-- A statement on a row changes it. -/
lemma AccountWrite.not_keeps (write : AccountWrite) (n : Nat) :
    ¬ (write.event u n).1.KeepsUsers := by
  cases write <;> exact id

omit [Unicode] in
/-- A request of a run, with what came before it and after it. -/
lemma request_at {init : ProfilePool → Prop} {i : Bool} {e : Prog.Event Req Ans}
    (hr : Run init (Pool.Step (Env F) World.Later) tr P)
    (htr : tr = newer ++ (Q, some (i, e)) :: older) :
    ∃ m : ProfilePool, Env F e.1 Q.world e.2 m.world ∧
      Run init (Pool.Step (Env F) World.Later) older Q ∧
      Run (· = m) (Pool.Step (Env F) World.Later) newer P := by
  subst htr
  obtain ⟨m, hm, hnewer⟩ := Run.split hr
  cases hm with
  | snoc hrun hstep =>
    cases hstep with
    | run hi hE => exact ⟨_, hE, hrun, hnewer⟩

/-- The row a profile update finds. -/
lemma row_of_found (hr : Run (ProfileInit s u updates c) (Pool.Step (Env F) World.Later) tr P)
    {row : UserRow} (hmem : (Q, some (true, userFound u row)) ∈ tr) :
    Q.world.db.userRow u = some row := by
  obtain ⟨newer, older, htr⟩ := List.append_of_mem hmem
  obtain ⟨m, ⟨-, hanswer⟩, -, -⟩ := request_at hr htr
  rcases hanswer with hok | ⟨-, message, herr⟩
  · exact (Except.ok.inj hok).symm
  · cases herr

/-- A request of a run is one its call may issue there. -/
lemma may_at (hr : Run (ProfileInit s u updates c) (Pool.Step (Env F) World.Later) tr P) {i : Bool}
    {e : Prog.Event Req Ans} (htr : tr = newer ++ (Q, some (i, e)) :: older) :
    MayOnRow u updates i (Pool.mine i (Pool.log older)) e.1 := by
  subst htr
  obtain ⟨m, hm, -⟩ := Run.split hr
  exact (onRow_justified hm).1

/-- What a profile update writes. -/
lemma written_at (hr : Run (ProfileInit s u updates c) (Pool.Step (Env F) World.Later) tr P)
    {new : UserRow} {n : Nat} (htr : tr = newer ++ (Q, some (true, userWritten new n)) :: older) :
    ∃ row user t user', Pool.mine true (Pool.log older) = [⟨.clock, t⟩, userFound u row] ∧
      row.intoUser = .ok user ∧ user.updateProfile updates.fullName t = .ok user' ∧
      new = PgUserRepository.rowOf user' := by
  obtain hkeeps | ⟨row, user, t, user', hmine, huser, hupdated, hnew⟩ :
    ProfileMay u updates _ _ := may_at hr htr
  · exact absurd hkeeps id
  · exact ⟨row, user, t, user', hmine, huser, hupdated, Update.updateUser.inj (Req.update.inj hnew)⟩

omit [Unicode] in
/-- A profile update finds one row. -/
lemma found_unique {log : List (Bool × Prog.Event Req Ans)} {t : Time} {row row' : UserRow}
    (hmine : Pool.mine true log = [⟨.clock, t⟩, userFound u row])
    (h : (true, userFound u row') ∈ log) : row' = row := by
  have hmem := Pool.mem_mine.mpr h
  rw [hmine] at hmem
  rcases List.mem_cons.mp hmem with heq | hmem
  · cases congrArg Sigma.fst heq
  · have heq := eq_of_heq (Sigma.mk.inj (List.mem_singleton.mp hmem)).2
    exact Option.some.inj (Except.ok.inj heq)

/-- **The row after a profile update**, if the other call has written before. -/
lemma row_of_profile (hr : Run (ProfileInit s u updates c) (Pool.Step (Env F) World.Later) tr P)
    {new : UserRow} {n : Nat} (hn : n ≠ 0)
    (htr : tr = newer ++ (Q, some (true, userWritten new n)) :: older)
    (hother : ∀ x ∈ Pool.log newer, x.1 = false → x.2.1.KeepsUsers) :
    ∃ before username name termsVersion, Q.world.db.userRow new.id = some before ∧
      varchar 255 new.name = .ok name ∧ P.world.db.userRow new.id = some { new with
        email := before.email, username, name, termsVersion, createdAt := before.createdAt,
        updatedAt := Q.world.now, deletedAt := before.deletedAt } := by
  obtain ⟨m, hE, -, hnewer⟩ := request_at hr htr
  obtain ⟨before, username, name, termsVersion, hbefore, hname, hafter⟩ := row_of_written hE hn
  refine ⟨before, username, name, termsVersion, hbefore, hname, ?_⟩
  have husers : P.world.db.users = m.world.db.users := by
    refine users_eq_of_keeps hnewer fun x hx => ?_
    cases hi : x.1 with
    | true => exact keeps_around hr htr id (.inl hx) hi
    | false => exact hother x hx hi
  unfold Db.userRow at hafter ⊢
  rw [husers]
  exact hafter

/-- **The row after another call's statement**, as long as the profile update does not write. -/
lemma row_of_other (hr : Run (ProfileInit s u updates c) (Pool.Step (Env F) World.Later) tr P)
    {write : AccountWrite} {n : Nat} (hn : n ≠ 0)
    (htr : tr = newer ++ (Q, some (false, write.event u n)) :: older)
    (hprofile : ∀ x ∈ Pool.log newer, x.1 = true → x.2.1.KeepsUsers) :
    ∃ row, Q.world.db.userRow u = some row ∧
      P.world.db.userRow u = some (write.apply Q.world.now row) ∧
      write.SetIn Q.world.now (write.apply Q.world.now row) := by
  obtain ⟨m, hE, hrun, hnewer⟩ := request_at hr htr
  obtain ⟨row, hbefore, hafter, hset⟩ := AccountWrite.row_of_event hE hn (nodup_ids hrun)
  refine ⟨row, hbefore, ?_, hset⟩
  have husers : P.world.db.users = m.world.db.users := by
    refine users_eq_of_keeps hnewer fun x hx => ?_
    cases hi : x.1 with
    | true => exact hprofile x hx hi
    | false => exact keeps_around hr htr (write.not_keeps n) (.inl hx) hi
  unfold Db.userRow at hafter ⊢
  rw [husers]
  exact hafter

omit [Unicode] in
/-- A statement leaves the name alone. -/
lemma AccountWrite.name_apply (write : AccountWrite) (now : Time) (row : UserRow) :
    (write.apply now row).name = row.name := by
  cases write with
  | password hash => rfl
  | activate => rfl
  | delete =>
    show (if _ then _ else row).name = row.name
    split <;> rfl

/-- The other call has one statement, at one place of the history. -/
lemma other_unique (hr : Run (ProfileInit s u updates c) (Pool.Step (Env F) World.Later) tr P)
    {write write' : AccountWrite} {n n' : Nat} {Q' : ProfilePool} {newer' older' : ProfileHistory}
    (htr : tr = newer ++ (Q, some (false, write.event u n)) :: older)
    (htr' : tr = newer' ++ (Q', some (false, write'.event u n')) :: older') :
    newer' = newer ∧ older' = older ∧ Q' = Q ∧ write' = write := by
  -- a part of the history in which the call keeps the rows has no such statement
  have hnot : ∀ {l : ProfileHistory} {Q : ProfilePool} {write : AccountWrite} {n : Nat},
      (∀ x ∈ Pool.log l, x.1 = false → x.2.1.KeepsUsers) →
      (Q, some (false, write.event u n)) ∉ l := fun hkeeps hl =>
    AccountWrite.not_keeps _ _ (hkeeps _ (Pool.mem_log.mpr ⟨_, hl⟩) rfl)
  have hnewer : ∀ x ∈ Pool.log newer, x.1 = false → x.2.1.KeepsUsers :=
    fun x hx => keeps_around hr htr (write.not_keeps n) (.inl hx)
  have holder : ∀ x ∈ Pool.log older, x.1 = false → x.2.1.KeepsUsers :=
    fun x hx => keeps_around hr htr (write.not_keeps n) (.inr hx)
  obtain ⟨hn, heq, ho⟩ := (List.append_cons_inj_of_notMem (hnot hnewer) (hnot holder)).mp
    (htr.symm.trans htr')
  obtain ⟨rfl, hevent⟩ := Prod.mk.inj heq
  have hevent' := (Prod.mk.inj (Option.some.inj hevent)).2
  refine ⟨hn.symm, ho.symm, rfl, ?_⟩
  cases write <;> cases write' <;> cases hevent' <;> rfl

/-- **The row if the profile update writes last.**  It has the full name, and what the other call
has set unless the row that was found lacked it. -/
lemma kept_iff_of_profile_last
    (hr : Run (ProfileInit s u updates c) (Pool.Step (Env F) World.Later) tr P)
    {new : UserRow} {n k : Nat} {write : AccountWrite} {Q' : ProfilePool}
    {middle : ProfileHistory} {row : UserRow} (hn : n ≠ 0) (hk : k ≠ 0)
    (htr : tr = newer ++ (Q', some (true, userWritten new n)) ::
      (middle ++ (Q, some (false, write.event u k)) :: older))
    (hrow : (true, userFound u row) ∈ Pool.log (middle ++ (Q, some (false, write.event u k)) :: older)) :
    ProfileKept u updates tr P ↔ ¬ write.LackedBy Q.world.now row := by
  have htr' : tr = (newer ++ (Q', some (true, userWritten new n)) :: middle) ++
      (Q, some (false, write.event u k)) :: older := by
    rw [htr, List.append_assoc, List.cons_append]
  obtain ⟨row', user, t, user', hmine, huser, hupdated, rfl⟩ := written_at hr htr
  -- the row that was found is the one that was written back
  obtain rfl : row = row' := found_unique hmine hrow
  obtain ⟨hid, hhash, hverified, hname, status, hstatus, htext⟩ := written_of_found huser hupdated
  have hu : row.id = u := by
    obtain ⟨Q'', hQ''⟩ := Pool.mem_log.mp hrow
    refine id_of_userRow (row_of_found hr (Q := Q'') ?_)
    rw [htr]
    exact List.mem_append_right _ (List.mem_cons_of_mem _ hQ'')
  rw [hu] at hid
  obtain ⟨before, username, name, termsVersion, hbefore, hstored, hafter⟩ := row_of_profile hr hn htr
    fun x hx => keeps_around hr htr' (write.not_keeps k)
      (.inl (by rw [Pool.log_append]; exact List.mem_append_left _ hx))
  rw [hid] at hbefore hafter
  -- what the profile update found in place of its row is what the other call left
  have hset : write.SetIn Q.world.now before := by
    obtain ⟨m, -, hrun, -⟩ := request_at hr htr
    obtain ⟨row₀, -, hleft, hset⟩ := row_of_other hrun hk rfl fun x hx hi =>
      keeps_around hr htr id (.inr (by rw [Pool.log_append]; exact List.mem_append_left _ hx)) hi
    obtain rfl := Option.some.inj (hbefore.symm.trans hleft)
    exact hset
  have hsetIn := AccountWrite.setIn_written username name termsVersion before.email before.createdAt
    Q'.world.now hset hhash hverified hstatus htext
  rw [← hsetIn]
  constructor
  · rintro ⟨final, hfinal, -, hall⟩
    obtain rfl := Option.some.inj (hafter.symm.trans hfinal)
    exact hall Q write k (htr' ▸ List.mem_append_right _ List.mem_cons_self)
  · intro hcarries
    refine ⟨_, hafter, hname ▸ hstored, fun Q₁ write₁ k₁ hmem => ?_⟩
    obtain ⟨_, _, hsplit⟩ := List.append_of_mem hmem
    obtain ⟨-, -, rfl, rfl⟩ := other_unique hr htr' hsplit
    exact hcarries

/-- **The row if the other call writes last.** -/
lemma kept_of_other_last
    (hr : Run (ProfileInit s u updates c) (Pool.Step (Env F) World.Later) tr P)
    {new : UserRow} {n k : Nat} {write : AccountWrite} {Q' : ProfilePool}
    {middle : ProfileHistory} (hn : n ≠ 0) (hk : k ≠ 0)
    (htr : tr = newer ++ (Q, some (false, write.event u k)) ::
      (middle ++ (Q', some (true, userWritten new n)) :: older)) :
    ProfileKept u updates tr P := by
  have htr' : tr = (newer ++ (Q, some (false, write.event u k)) :: middle) ++
      (Q', some (true, userWritten new n)) :: older := by
    rw [htr, List.append_assoc, List.cons_append]
  obtain ⟨row, user, t, user', hmine, huser, hupdated, rfl⟩ := written_at hr htr'
  obtain ⟨hid, -, -, hname, -⟩ := written_of_found huser hupdated
  have hu : row.id = u := by
    obtain ⟨Q'', hQ''⟩ := Pool.mem_log.mp (Pool.mem_mine.mp
      (hmine ▸ List.mem_cons_of_mem _ List.mem_cons_self : userFound u row ∈ Pool.mine true _))
    refine id_of_userRow (row_of_found hr (Q := Q'') ?_)
    rw [htr']
    exact List.mem_append_right _ (List.mem_cons_of_mem _ hQ'')
  rw [hu] at hid
  obtain ⟨before, hbefore, hafter, hset⟩ := row_of_other hr hk htr fun x hx =>
    keeps_around hr htr' id (.inl (by rw [Pool.log_append]; exact List.mem_append_left _ hx))
  obtain ⟨m, -, hrun, -⟩ := request_at hr htr
  obtain ⟨_, username, name, termsVersion, -, hstored, hleft⟩ := row_of_profile hrun hn rfl fun x hx =>
    keeps_around hr htr (write.not_keeps k)
      (.inr (by rw [Pool.log_append]; exact List.mem_append_left _ hx))
  rw [hid] at hleft
  obtain rfl := Option.some.inj (hbefore.symm.trans hleft)
  refine ⟨_, hafter, ?_, fun Q₁ write₁ k₁ hmem => ?_⟩
  · rw [AccountWrite.name_apply, ← hname]
    exact hstored
  · obtain ⟨_, _, hsplit⟩ := List.append_of_mem hmem
    obtain ⟨-, -, rfl, rfl⟩ := other_unique hr htr hsplit
    exact hset

/-- **When nothing is overwritten.**  A profile update and a change of the password, a password
reset, a verification of the address or a deletion of the same account run in any interleaving of
their requests, and both return.  Afterwards the row of the user carries the full name of the
profile update and what the other call has set, exactly if the other call did not write between the
two requests of the profile update, or set what the row had before.

**Proof sketch.** Each call changes the row once.  If the other call's statement comes last, it
changes its own columns only; if it comes first, the profile update writes back what it has found,
which is what the other call has left if it looked afterwards. -/
theorem profile_kept_iff
    (hr : Run (ProfileInit s u updates c) (Pool.Step (Env F) World.Later) tr P)
    (hon : ∀ v write n, (false, AccountWrite.event v n write) ∈ Pool.log tr → v = u)
    (hprofile : P.threads true = .done (.ok ())) (hother : P.threads false = .done (.ok ())) :
    ProfileKept u updates tr P ↔ ¬ Clobbered u tr := by
  obtain ⟨new, n, t₀, row₀, hn, hmine⟩ := onRow_done hr hprofile rfl
  obtain ⟨v, write, k, hk, hmem⟩ := onRow_done hr hother rfl
  obtain rfl := hon v write k (Pool.mem_mine.mp hmem)
  obtain ⟨Q', hU⟩ := Pool.mem_log.mp (Pool.mem_mine.mp
    (hmine ▸ List.mem_cons_self : userWritten new n ∈ Pool.mine true (Pool.log tr)))
  obtain ⟨Q, hW⟩ := Pool.mem_log.mp (Pool.mem_mine.mp hmem)
  obtain ⟨newer, older, htr⟩ := List.append_of_mem hW
  have hplace : (Q', some (true, userWritten new n)) ∈ newer ∨
      (Q', some (true, userWritten new n)) ∈ older := by
    rw [htr] at hU
    rcases List.mem_append.mp hU with hnewer | hrest
    · exact .inl hnewer
    · rcases List.mem_cons.mp hrest with heq | holder
      · exact nomatch (Prod.mk.inj (Option.some.inj (Prod.mk.inj heq).2)).1
      · exact .inr holder
  rcases hplace with hnewer | holder
  · -- the profile update writes last
    obtain ⟨newest, middle, rfl⟩ := List.append_of_mem hnewer
    have htr' : tr = newest ++ (Q', some (true, userWritten new n)) ::
        (middle ++ (Q, some (false, write.event v k)) :: older) := by
      rw [htr, List.append_assoc, List.cons_append]
    obtain ⟨row, user, t, user', hseen, -⟩ := written_at hr htr'
    have hrow : (true, userFound v row) ∈
        Pool.log (middle ++ (Q, some (false, write.event v k)) :: older) :=
      Pool.mem_mine.mp (hseen ▸ List.mem_cons_of_mem _ List.mem_cons_self)
    rw [kept_iff_of_profile_last hr hn hk htr' hrow]
    refine not_congr ⟨fun hlacked => ?_, ?_⟩
    · have hfirst : (true, userFound v row) ∈ Pool.log older := by
        rw [Pool.log_append, Pool.log_cons_some] at hrow
        rcases List.mem_append.mp hrow with hbetween | hrest
        · -- a lookup after the other call's statement does not lack what it has set
          obtain ⟨Q'', hF⟩ := Pool.mem_log.mp hbetween
          obtain ⟨late, early, rfl⟩ := List.append_of_mem hF
          have hlookup : tr = (newest ++ (Q', some (true, userWritten new n)) :: late) ++
              (Q'', some (true, userFound v row)) ::
                (early ++ (Q, some (false, write.event v k)) :: older) := by
            simp only [htr', List.append_assoc, List.cons_append]
          obtain ⟨m, -, hrun, -⟩ := request_at hr hlookup
          obtain ⟨before, -, hleft, hset⟩ := row_of_other hrun hk rfl fun x hx =>
            keeps_around hr htr' id (.inr (by
              simp only [Pool.log_append, Pool.log_cons_some, List.mem_append, List.mem_cons]
              exact .inl (.inr (.inr hx))))
          have hread := row_of_found hr (Q := Q'') (hlookup ▸ List.mem_append_right _ List.mem_cons_self)
          obtain rfl := Option.some.inj (hread.symm.trans hleft)
          exact absurd hlacked hset.not_lackedBy
        · rcases List.mem_cons.mp hrest with heq | hearly
          · exact nomatch (Prod.mk.inj heq).1
          · exact hearly
      exact ⟨_, Q, write, k, older, row, htr, hfirst,
        ⟨new, n, Pool.mem_log.mpr ⟨Q', hnewer⟩⟩, hlacked⟩
    · rintro ⟨newer', Q₁, write₁, k₁, older', row₁, hsplit, hfirst, -, hlacked⟩
      obtain ⟨-, rfl, rfl, rfl⟩ := other_unique hr htr hsplit
      have hsame : row₁ = row := found_unique hseen (by
        rw [Pool.log_append, Pool.log_cons_some]
        exact List.mem_append_right _ (List.mem_cons_of_mem _ hfirst))
      exact hsame ▸ hlacked
  · -- the other call writes last
    obtain ⟨middle, oldest, rfl⟩ := List.append_of_mem holder
    refine ⟨fun _ => ?_, fun _ => kept_of_other_last hr hn hk htr⟩
    rintro ⟨newer', Q₁, write₁, k₁, older', row₁, hsplit, -, ⟨new₁, n₁, hlate⟩, -⟩
    obtain ⟨rfl, -, -, -⟩ := other_unique hr htr hsplit
    have htr' : tr = (newer' ++ (Q, some (false, write.event v k)) :: middle) ++
        (Q', some (true, userWritten new n)) :: oldest := by
      rw [htr, List.append_assoc, List.cons_append]
    exact keeps_around hr htr' id
      (.inl (by rw [Pool.log_append]; exact List.mem_append_left _ hlate)) rfl

end Runs

omit [Unicode]

namespace Scenario

/-- Ada changes her name and her password, with the requests in a given order. -/
def profilePlayed (turns : List Bool) : ProfileHistory × ProfilePool :=
  letI := Unicode.ascii
  Pool.schedule World.answer turns
    { threads := fun
        | true => (deployment.services.user.updateProfile ⟨901⟩ ⟨some "Ada"⟩).forget
        | false => (RowCall.changePassword "" "Another8donkey").run deployment.services ⟨901⟩
      world } []

/-- They are an interleaving. -/
theorem run_profilePlayed (turns : List Bool) :
    Run (@ProfileInit Unicode.ascii deployment.services ⟨901⟩ ⟨some "Ada"⟩
        (.changePassword "" "Another8donkey"))
      (Pool.Step (Env noFault) World.Later) (profilePlayed turns).1 (profilePlayed turns).2 :=
  Pool.run_schedule (env_answer noFault) turns
    (.start (@ProfileInit.mk Unicode.ascii _ _ _ _ _ rfl rfl (by decide)))

/-- The user a statement changes, and what it writes. -/
def writtenColumns : Bool × Prog.Event Req Ans → Option (UserId × AccountWrite)
  | (false, ⟨.update (.updatePassword v hash), _⟩) => some (v, .password hash)
  | (false, ⟨.update (.activateUser v), _⟩) => some (v, .activate)
  | (false, ⟨.update (.deleteUser v), _⟩) => some (v, .delete)
  | _ => none

/-- A statement writes its columns. -/
theorem mem_writtenColumns {log : List (Bool × Prog.Event Req Ans)} {v : UserId} {n : Nat}
    {write : AccountWrite} (h : (false, write.event v n) ∈ log) :
    (v, write) ∈ log.filterMap writtenColumns :=
  List.mem_filterMap.mpr ⟨_, h, by cases write <;> rfl⟩

end Scenario

/-- The password is changed after the profile update has read the row: the old hash is restored,
and both calls return. -/
theorem password_restored :
    Run (@ProfileInit Unicode.ascii Scenario.deployment.services ⟨901⟩ ⟨some "Ada"⟩
        (.changePassword "" "Another8donkey"))
      (Pool.Step (Env noFault) World.Later)
      (Scenario.profilePlayed [true, false, false, false, false, true, true]).1
      (Scenario.profilePlayed [true, false, false, false, false, true, true]).2 ∧
    (∀ i, (Scenario.profilePlayed [true, false, false, false, false, true, true]).2.threads i =
      .done (.ok ())) ∧
    ¬ ProfileKept ⟨901⟩ ⟨some "Ada"⟩
      (Scenario.profilePlayed [true, false, false, false, false, true, true]).1
      (Scenario.profilePlayed [true, false, false, false, false, true, true]).2 := by
  refine ⟨Scenario.run_profilePlayed _, fun i => by cases i <;> rfl, ?_⟩
  rintro ⟨row, hrow, -, hset⟩
  have hevent : (Pool.log (Scenario.profilePlayed
      [true, false, false, false, false, true, true]).1)[2]? =
        some (false, AccountWrite.event ⟨901⟩ 1 (.password "Another8donkey")) := rfl
  have hhash : ((Scenario.profilePlayed
      [true, false, false, false, false, true, true]).2.world.db.userRow ⟨901⟩).map
        (·.passwordHash) = some "" := rfl
  obtain ⟨Q, hQ⟩ := Pool.mem_log.mp (List.mem_of_getElem? hevent)
  have hnew : row.passwordHash = "Another8donkey" := hset Q _ 1 hQ
  rw [hrow, Option.map_some, hnew] at hhash
  exact absurd hhash (by decide)

/-- The password is changed after the profile update: both changes are kept, and nothing was
overwritten. -/
theorem profile_kept_iff_played :
    ProfileKept ⟨901⟩ ⟨some "Ada"⟩
      (Scenario.profilePlayed [true, true, true, false, false, false, false]).1
      (Scenario.profilePlayed [true, true, true, false, false, false, false]).2 ∧
    ¬ @Clobbered Unicode.ascii ⟨901⟩
      (Scenario.profilePlayed [true, true, true, false, false, false, false]).1 := by
  have hone : ∀ v write n, (false, AccountWrite.event v n write) ∈ Pool.log
      (Scenario.profilePlayed [true, true, true, false, false, false, false]).1 →
      (v, write) = (⟨901⟩, .password "Another8donkey") :=
    fun v write n h => List.mem_singleton.mp (Scenario.mem_writtenColumns h)
  have hkept : ProfileKept ⟨901⟩ ⟨some "Ada"⟩
      (Scenario.profilePlayed [true, true, true, false, false, false, false]).1
      (Scenario.profilePlayed [true, true, true, false, false, false, false]).2 := by
    refine ⟨_, rfl, rfl, fun Q write n hmem => ?_⟩
    obtain ⟨-, rfl⟩ := Prod.mk.inj (hone _ _ _ (Pool.mem_log.mpr ⟨Q, hmem⟩))
    rfl
  refine ⟨hkept, (@profile_kept_iff Unicode.ascii _ _ _ _ _ _ _ (Scenario.run_profilePlayed _) ?_
    rfl rfl).mp hkept⟩
  exact fun v write n h => (Prod.mk.inj (hone v write n h)).1

end Klynt
