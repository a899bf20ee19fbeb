import Klynt.Persistence.AccountFrame
import Klynt.System.UserManagement

set_option relaxedAutoImplicit false
set_option autoImplicit false

/-!
# Users are read back as they were written

A user is written to a row and read from it again.  The tables of both directions differ: the
database has three statuses for four, a missing name is an empty one, and columns have widths.

## Main definitions

* `UserStatus.stored`, `storedName` — what is read back of a status and of a name.
* `User.Fits` — the users that a row can hold.
* `HasRow` — the row of a user is there.

## Main results

* `intoUser_rowOf` — the user of a row that was written.
* `update_findById_iff` — the users that are read back as they were written.
-/

namespace Klynt

/-! ## Tables -/

/-- What is read back of a status. -/
def UserStatus.stored : UserStatus → UserStatus
  | inactive => suspended
  | status => status

/-- What is read back of a full name. -/
def storedName (name : String) : Option String := if name = "" then none else some name

/-- The users that a row can hold: a status that the database has, a full name that is not empty,
and texts without U+0000 that are not longer than their columns are wide. -/
structure User.Fits (user : User) : Prop where
  /-- The database has the status. -/
  status : user.status ≠ .inactive
  /-- An empty name is a missing one. -/
  fullName : user.fullName ≠ some ""
  /-- `username VARCHAR(50)`. -/
  username_length : user.username.length ≤ 50
  /-- `name VARCHAR(255)`. -/
  fullName_length : (user.fullName.getD "").length ≤ 255
  /-- `terms_version VARCHAR(50)`. -/
  termsVersion_length : user.termsVersion.length ≤ 50
  /-- The login name has no U+0000. -/
  username_storable : Storable user.username
  /-- The full name has no U+0000. -/
  fullName_storable : Storable (user.fullName.getD "")
  /-- The version of the terms has no U+0000. -/
  termsVersion_storable : Storable user.termsVersion
  /-- The hash of the password has no U+0000. -/
  passwordHash_storable : Storable user.passwordHash

/-- A column keeps a text without U+0000 that is not longer than it is wide, and no other one. -/
lemma varchar_eq_self_iff {n : ℕ} {s : String} : varchar n s = .ok s ↔ Storable s ∧ s.length ≤ n := by
  rw [varchar_eq_ok]
  refine and_congr_right fun _ => ⟨?_, fun h => .inl ⟨h, rfl⟩⟩
  rintro (⟨hshort, -⟩ | ⟨hlong, -, hcut⟩)
  · exact hshort
  · have hlist := congrArg String.length hcut
    rw [String.length_ofList, List.length_take, String.length_toList] at hlist
    omega

section Tables

variable [Unicode]

/-- A status is read back. -/
lemma statusFromDb_statusToDb (status : UserStatus) :
    statusFromDb (PgUserRepository.statusToDb status) = .ok status.stored := by
  unfold statusFromDb
  rw [toLowercase_eq_self (by cases status <;> rfl)]
  cases status <;> rfl

/-- A role is read back, although an instructor is a teacher in the database. -/
lemma UserRole.parse_roleToDb (role : UserRole) :
    UserRole.parse (PgUserRepository.roleToDb role) = .ok role := by
  unfold UserRole.parse
  rw [toLowercase_eq_self (by cases role <;> rfl)]
  cases role <;> rfl

/-- A platform-wide role is read back. -/
lemma GlobalRole.parse_asStr (role : GlobalRole) : GlobalRole.parse role.asStr = .ok role := by
  unfold GlobalRole.parse
  rw [toLowercase_eq_self (by cases role <;> rfl)]
  cases role <;> rfl

/-! ## Rows -/

/-- The row that an update leaves of a user. -/
def writtenRow (user : User) (row : UserRow) (username name termsVersion : String) (now : Time) :
    UserRow :=
  { PgUserRepository.rowOf user with
    email := row.email, username, name, termsVersion, createdAt := row.createdAt, updatedAt := now,
    deletedAt := row.deletedAt }

/-- **The user of a row that was written.** -/
lemma intoUser_writtenRow {user : User} {row : UserRow} (username name termsVersion : String)
    (now : Time) (hemail : Email.parse row.email = .ok user.email) :
    (writtenRow user row username name termsVersion now).intoUser = .ok { user with
      username, fullName := storedName name, status := user.status.stored, termsVersion,
      createdAt := row.createdAt, updatedAt := now, deletedAt := row.deletedAt } := by
  have hrole := UserRole.parse_roleToDb user.role
  have hstatus := statusFromDb_statusToDb user.status
  unfold UserRow.intoUser writtenRow PgUserRepository.rowOf
  dsimp only
  rw [hrole, hstatus, hemail]
  cases hglobal : user.globalRole with
  | none => rfl
  | some role =>
    dsimp only [Option.map_some]
    rw [GlobalRole.parse_asStr]
    rfl

/-- The row of a user is there, with the address, which is a canonical one, and the times of
creation and deletion. -/
structure HasRow (w : World) (user : User) (row : UserRow) : Prop where
  /-- The id. -/
  find : w.db.users.find? (·.id = user.id) = some row
  /-- The address. -/
  email : row.email = user.email.text
  /-- The address is canonical. -/
  canonical : Email.parse user.email.text = .ok user.email
  /-- The time of creation. -/
  createdAt : row.createdAt = user.createdAt
  /-- The time of deletion. -/
  deletedAt : row.deletedAt = user.deletedAt

variable {w w' : World} {user : User} {row : UserRow} {F : Req → Prop}

omit [Unicode] in
/-- A search by id goes through a change that keeps ids. -/
lemma find_written {users : List UserRow} {u : UserId} {f : UserRow → UserRow}
    (hf : ∀ row, (f row).id = row.id) :
    (users.map f).find? (·.id = u) = (users.find? (·.id = u)).map f := by
  have hid : (fun row : UserRow => decide (row.id = u)) ∘ f = fun row => decide (row.id = u) := by
    funext row
    rw [Function.comp_apply, hf]
  rw [List.find?_map, hid]

/-- **The row after an update.** -/
lemma exec_update_row (hrow : HasRow w user row) {r : User}
    (h : (PgUserRepository.update user).Exec (Env F) w (.ok r) w') :
    ∃ username name termsVersion, varchar 50 user.username = .ok username ∧
      varchar 255 (user.fullName.getD "") = .ok name ∧
      varchar 50 user.termsVersion = .ok termsVersion ∧ Storable user.passwordHash ∧
      w'.db.users.find? (·.id = user.id) =
        some (writtenRow user row username name termsVersion w.now) := by
  obtain ⟨n, w₁, hwrite, h⟩ := Prog.exec_bind_ok.mp h
  obtain ⟨db, hdb, rfl⟩ := exec_execute_ok.mp (Prog.exec_mapErr_ok.mp hwrite)
  obtain ⟨_, w₂, hcount, -, rfl⟩ := Prog.exec_bind_ok.mp h
  obtain ⟨-, rfl⟩ := Prog.exec_rejectIf.mp hcount
  obtain ⟨username, name, termsVersion, husername, hname, hterms, hhash, -, rfl⟩ := updateUser_ok hdb
  refine ⟨username, name, termsVersion, husername, hname, hterms, hhash, ?_⟩
  refine (find_written fun row => ?_).trans ?_
  · split
    · rename_i hid
      exact hid.symm
    · rfl
  · have hid : row.id = user.id := by simpa using List.find?_some hrow.find
    rw [hrow.find, Option.map_some]
    exact congrArg some (if_pos hid)

/-- **What is read back** after an update. -/
lemma exec_update_findById (hrow : HasRow w user row) {r : User}
    (h : (PgUserRepository.update user).Exec (Env F) w (.ok r) w') :
    ∃ username name termsVersion, varchar 50 user.username = .ok username ∧
      varchar 255 (user.fullName.getD "") = .ok name ∧
      varchar 50 user.termsVersion = .ok termsVersion ∧ Storable user.passwordHash ∧
      ∀ found w'', (PgUserRepository.findById user.id).Exec (Env F) w' (.ok found) w'' ↔
        found = some { user with
          username, fullName := storedName name, status := user.status.stored, termsVersion,
          updatedAt := w.now } ∧ w'' = w' := by
  obtain ⟨username, name, termsVersion, husername, hname, hterms, hhash, hfind⟩ :=
    exec_update_row hrow h
  refine ⟨username, name, termsVersion, husername, hname, hterms, hhash, fun found w'' => ?_⟩
  have hemail : Email.parse row.email = .ok user.email := by
    rw [hrow.email, hrow.canonical]
  have hinto := intoUser_writtenRow username name termsVersion w.now hemail
  rw [hrow.createdAt, hrow.deletedAt] at hinto
  rw [exec_findById_ok, hfind, mapOption, hinto]
  exact and_congr_left fun _ => ⟨fun h => (Except.ok.inj h).symm, fun h => congrArg Except.ok h.symm⟩

omit [Unicode] in
/-- A user comes back as it was, but for the time of the last change, iff it fits. -/
lemma stored_eq_iff {username name termsVersion : String} (now : Time)
    (husername : varchar 50 user.username = .ok username)
    (hname : varchar 255 (user.fullName.getD "") = .ok name)
    (hterms : varchar 50 user.termsVersion = .ok termsVersion)
    (hhash : Storable user.passwordHash) :
    (∃ t, { user with
        username, fullName := storedName name, status := user.status.stored, termsVersion,
        updatedAt := now } = { user with updatedAt := t }) ↔ user.Fits := by
  constructor
  · rintro ⟨t, heq⟩
    have hfull : storedName name = user.fullName := congrArg User.fullName heq
    have hstatus : user.status.stored = user.status := congrArg User.status heq
    have hnotEmpty : user.fullName ≠ some "" := by
      intro hempty
      rw [hempty] at hfull
      unfold storedName at hfull
      split at hfull
      · cases hfull
      · rename_i hne
        exact hne (Option.some.inj hfull)
    have hsame : name = user.fullName.getD "" := by
      rw [← hfull]
      unfold storedName
      split
      · rename_i hempty
        exact hempty
      · rfl
    have husername' : varchar 50 user.username = .ok user.username :=
      husername.trans (congrArg (Except.ok ∘ User.username) heq)
    have hname' : varchar 255 (user.fullName.getD "") = .ok (user.fullName.getD "") :=
      hname.trans (congrArg Except.ok hsame)
    have hterms' : varchar 50 user.termsVersion = .ok user.termsVersion :=
      hterms.trans (congrArg (Except.ok ∘ User.termsVersion) heq)
    exact
      { status := by
          intro hinactive
          rw [hinactive] at hstatus
          cases hstatus
        fullName := hnotEmpty
        username_length := (varchar_eq_self_iff.mp husername').2
        fullName_length := (varchar_eq_self_iff.mp hname').2
        termsVersion_length := (varchar_eq_self_iff.mp hterms').2
        username_storable := (varchar_eq_self_iff.mp husername').1
        fullName_storable := (varchar_eq_self_iff.mp hname').1
        termsVersion_storable := (varchar_eq_self_iff.mp hterms').1
        passwordHash_storable := hhash }
  · intro hfits
    refine ⟨now, ?_⟩
    have husername' := varchar_eq_self_iff.mpr ⟨hfits.username_storable, hfits.username_length⟩
    have hname' := varchar_eq_self_iff.mpr ⟨hfits.fullName_storable, hfits.fullName_length⟩
    have hterms' := varchar_eq_self_iff.mpr ⟨hfits.termsVersion_storable, hfits.termsVersion_length⟩
    obtain rfl := Except.ok.inj (husername'.symm.trans husername)
    obtain rfl := Except.ok.inj (hname'.symm.trans hname)
    obtain rfl := Except.ok.inj (hterms'.symm.trans hterms)
    have hstatus : user.status.stored = user.status := by
      cases hs : user.status with
      | inactive => exact absurd hs hfits.status
      | active => rfl
      | suspended => rfl
      | pending => rfl
    have hfull : storedName (user.fullName.getD "") = user.fullName := by
      cases hn : user.fullName with
      | none => rfl
      | some text =>
        refine if_neg fun hempty => hfits.fullName ?_
        rw [hn]
        exact congrArg some hempty
    rw [hstatus, hfull]

/-- **A user can be written** whose texts fit, if nobody else has its name. -/
lemma exec_update_of_texts (hrow : HasRow w user row)
    (husername : varchar 50 user.username = .ok user.username)
    (hname : varchar 255 (user.fullName.getD "") = .ok (user.fullName.getD ""))
    (hterms : varchar 50 user.termsVersion = .ok user.termsVersion)
    (hhash : Storable user.passwordHash)
    (hfree : ∀ other ∈ w.db.users, other.username = user.username → other.id = user.id) :
    ∃ w', (PgUserRepository.update user).Exec (Env noFault) w (.ok user) w' := by
  have hid : row.id = user.id := by simpa using List.find?_some hrow.find
  have hmem : row ∈ w.db.users := List.mem_of_find?_eq_some hrow.find
  have hcount : w.db.users.countP (·.id = user.id) ≠ 0 :=
    (List.countP_pos_iff.mpr ⟨row, hmem, decide_eq_true hid⟩).ne'
  have hnone : ¬ (w.db.users.any (·.id = user.id) &&
      w.db.users.any (fun row => row.username = user.username ∧ row.id ≠ user.id)) = true := by
    rw [Bool.and_eq_true, not_and_or]
    right
    rw [List.any_eq_true]
    rintro ⟨other, hother, htaken⟩
    obtain ⟨hsame, hne⟩ := of_decide_eq_true htaken
    exact hne (hfree other hother hsame)
  have hwrite : ∃ db, updateUser (PgUserRepository.rowOf user) w.now w.db =
      .ok (w.db.users.countP (·.id = user.id), db) := by
    unfold updateUser PgUserRepository.rowOf
    dsimp only
    have hstored : checkText user.passwordHash = .ok () := checkText_eq_ok.mpr hhash
    rw [husername, hname, hterms, hstored]
    dsimp only [bind, Except.bind]
    rw [if_neg hnone]
    exact ⟨_, rfl⟩
  obtain ⟨db, hdb⟩ := hwrite
  refine ⟨{ w with db }, Prog.exec_bind_ok.mpr ⟨_, { w with db }, Prog.exec_mapErr_ok.mpr
    (exec_execute_ok.mpr ⟨db, hdb, rfl⟩), ?_⟩⟩
  exact Prog.exec_bind_ok.mpr ⟨(), { w with db }, Prog.exec_rejectIf.mpr ⟨.inl ⟨hcount, rfl⟩, rfl⟩,
    rfl, rfl⟩

end Tables

/-- **Users are read back as they were written.** A user whose row is there comes back from
`find_by_id` after an `update` that succeeds, with another time of the last change only, iff it
fits: it is not inactive, which the database stores as suspended, its full name is not the empty
text, which stands for a missing name, and its texts have no U+0000 and are not longer than their
columns. An update of a user that fits succeeds if nobody else has its name.

**Proof sketch.** Each table of the way back inverts the one of the way there on the values that
fit; columns cut blanks that are too many, and refuse other texts that are too long. -/
theorem update_findById_iff [Unicode] (w : World) (user : User) (row : UserRow)
    (hrow : HasRow w user row) :
    (∀ F r w' found w'', (PgUserRepository.update user).Exec (Env F) w (.ok r) w' →
      (PgUserRepository.findById user.id).Exec (Env F) w' (.ok found) w'' →
        ((∃ t, found = some { user with updatedAt := t }) ↔ user.Fits)) ∧
    (user.Fits → (∀ other ∈ w.db.users, other.username = user.username → other.id = user.id) →
      ∃ w' t, (PgUserRepository.update user).Exec (Env noFault) w (.ok user) w' ∧
        (PgUserRepository.findById user.id).Exec (Env noFault) w'
          (.ok (some { user with updatedAt := t })) w') := by
  constructor
  · intro F r w' found w'' hupdate hfind
    obtain ⟨username, name, termsVersion, husername, hname, hterms, hhash, hread⟩ :=
      exec_update_findById hrow hupdate
    obtain ⟨rfl, -⟩ := (hread found w'').mp hfind
    rw [← stored_eq_iff w.now husername hname hterms hhash]
    exact exists_congr fun t => ⟨fun h => Option.some.inj h, fun h => congrArg some h⟩
  · intro hfits hfree
    obtain ⟨w', hupdate⟩ := exec_update_of_texts hrow
      (varchar_eq_self_iff.mpr ⟨hfits.username_storable, hfits.username_length⟩)
      (varchar_eq_self_iff.mpr ⟨hfits.fullName_storable, hfits.fullName_length⟩)
      (varchar_eq_self_iff.mpr ⟨hfits.termsVersion_storable, hfits.termsVersion_length⟩)
      hfits.passwordHash_storable hfree
    obtain ⟨username, name, termsVersion, husername, hname, hterms, hhash, hread⟩ :=
      exec_update_findById hrow hupdate
    obtain ⟨t, ht⟩ := (stored_eq_iff w.now husername hname hterms hhash).mpr hfits
    refine ⟨w', t, hupdate, ?_⟩
    rw [← ht]
    exact (hread _ w').mpr ⟨rfl, rfl⟩

namespace Scenario

/-- A user whose row is there. -/
def readBackUser (status : UserStatus) : User :=
  { id := ⟨901⟩, email := ⟨"ada@x.org"⟩, username := "ada", fullName := some "Ada", passwordHash := "h",
    status, role := .instructor, globalRole := some .owner, emailVerifiedAt := none,
    institutionId := none, termsAcceptedAt := 0, termsVersion := "1.0", createdAt := 0, updatedAt := 0,
    deletedAt := none }

/-- The row of the user. -/
lemma hasRow_readBackUser (status : UserStatus) :
    @HasRow Unicode.ascii world (readBackUser status) (user 901 "ada@x.org") :=
  @HasRow.mk Unicode.ascii _ _ _ rfl rfl
    (show @Email.parse Unicode.ascii "ada@x.org" = .ok ⟨"ada@x.org"⟩ by decide +kernel) rfl rfl

end Scenario

/-- An instructor with a name and a platform-wide role is read back. -/
theorem update_findById_instructor :
    letI := Unicode.ascii
    ∃ w' t, (PgUserRepository.update (Scenario.readBackUser .pending)).Exec (Env noFault) Scenario.world
        (.ok (Scenario.readBackUser .pending)) w' ∧
      (PgUserRepository.findById ⟨901⟩).Exec (Env noFault) w'
        (.ok (some { Scenario.readBackUser .pending with updatedAt := t })) w' := by
  let _ := Unicode.ascii
  have hfits : (Scenario.readBackUser .pending).Fits :=
    ⟨by decide, by decide, by decide, by decide, by decide, by decide, by decide, by decide,
      by decide⟩
  refine (update_findById_iff Scenario.world (Scenario.readBackUser .pending) _
    (Scenario.hasRow_readBackUser .pending)).2 hfits ?_
  decide

/-- An inactive user comes back suspended. -/
theorem inactive_comes_back_suspended :
    letI := Unicode.ascii
    HasRow Scenario.world (Scenario.readBackUser .inactive) (Scenario.user 901 "ada@x.org") ∧
      ∃ w' found, (PgUserRepository.update (Scenario.readBackUser .inactive)).Exec (Env noFault)
          Scenario.world (.ok (Scenario.readBackUser .inactive)) w' ∧
        (PgUserRepository.findById ⟨901⟩).Exec (Env noFault) w' (.ok (some found)) w' ∧
          found.status = .suspended ∧
          ∀ t, found ≠ { Scenario.readBackUser .inactive with updatedAt := t } := by
  let _ := Unicode.ascii
  have hrow := Scenario.hasRow_readBackUser .inactive
  obtain ⟨w', hupdate⟩ := exec_update_of_texts hrow (by decide) (by decide) (by decide) (by decide)
    (by decide)
  obtain ⟨username, name, termsVersion, -, -, -, -, hread⟩ := exec_update_findById hrow hupdate
  refine ⟨hrow, w', _, hupdate, (hread _ w').mpr ⟨rfl, rfl⟩, rfl, fun t heq => ?_⟩
  have hstatus : UserStatus.suspended = .inactive := congrArg User.status heq
  cases hstatus

end Klynt
