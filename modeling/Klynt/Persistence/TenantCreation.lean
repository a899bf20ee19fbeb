import Klynt.Lib.Transactional
import Klynt.Persistence.Inversion
import Klynt.Persistence.Repository

set_option relaxedAutoImplicit false
set_option autoImplicit false

/-!
# The creation of a tenant, statement by statement

`PgTenantRepository::create` opens a transaction, runs five statements in it, with a rollback
after each of them that fails, commits, and only then maps the row it returns.

## Main definitions

* `NewTenant` — a tenant with the times of the program's clock, and what is stored of it.
* `CreateStatement`, `CreateStatement.exec` — the statements and what they do.
* `TenantCreation.prepare`, `TenantCreation.create` — the operation up to its commit, and as a
  whole.

## Main results

* `TenantCreation.exec_prepare_ok` — if the statements succeed, the transaction is the one that
  `createTenantTx` runs in one step.
-/

namespace Klynt

/-! ## The tenant to be created -/

/-- An instant of the program's clock, in nanoseconds. -/
abbrev Instant : Type := Int

/-- An instant as `TIMESTAMPTZ` stores it: what is less than a microsecond is cut off. -/
def Instant.stored (t : Instant) : Time := t / 1000

/-- A tenant that is not stored yet: its times are those of the program's clock. -/
structure NewTenant where
  /-- Identifier. -/
  id : TenantId
  /-- Name in URLs. -/
  slug : TenantSlug
  /-- Display name. -/
  name : String
  /-- The user who owns the tenant. -/
  ownerId : UserId
  /-- Cap on memberships. -/
  maxMembers : Int
  /-- Cap on owners. -/
  maxOwners : Int
  /-- Free-form settings. -/
  settings : Json
  /-- Lifecycle status. -/
  status : TenantStatus
  /-- Creation time. -/
  createdAt : Instant
  /-- Time of the last change. -/
  updatedAt : Instant

namespace NewTenant

/-- `Tenant::create`. -/
def create (id : TenantId) (slug : TenantSlug) (name : String) (ownerId : UserId) (now : Instant) :
    Except DomainError NewTenant :=
  if (trim name).toList = [] then .error (.validation "tenant name is required")
  else .ok
    { id, slug, name, ownerId, maxMembers := defaultMaxMembers, maxOwners := defaultMaxOwners,
      settings := .obj [], status := .active, createdAt := now, updatedAt := now }

/-- What the statements are given. -/
def stored (tenant : NewTenant) : Tenant :=
  { id := tenant.id, slug := tenant.slug, name := tenant.name, ownerId := tenant.ownerId
    maxMembers := tenant.maxMembers, maxOwners := tenant.maxOwners, settings := tenant.settings
    status := tenant.status, createdAt := tenant.createdAt.stored
    updatedAt := tenant.updatedAt.stored }

/-- A tenant is created with the time at which it is stored. -/
lemma create_stored {id : TenantId} {slug : TenantSlug} {name : String} {ownerId : UserId}
    {now : Instant} {tenant : NewTenant} (h : create id slug name ownerId now = .ok tenant) :
    Tenant.create id slug name ownerId now.stored = .ok tenant.stored := by
  unfold create at h
  split at h
  · cases h
  · rename_i hname
    obtain rfl := Except.ok.inj h
    exact if_neg hname

end NewTenant

/-! ## Statements -/

/-- `INSERT INTO tenant_roles … VALUES` with its four rows. -/
def insertSystemRoles (t : TenantId) (ids : TenantRole → RoleId) : Statement Unit := fun now db =>
  (systemRoles.forM fun role db => insertSystemRole t (ids role.1) role.1 role.2 now db :
    StateT Db (Except SqlxError) Unit) db

/-- The statements of the creation of a tenant. -/
inductive CreateStatement where
  /-- Insert the tenant. -/
  | insertTenant (row : TenantRow)
  /-- Insert its system roles; `ids` are the values of the column's default. -/
  | insertSystemRoles (t : TenantId) (ids : TenantRole → RoleId)
  /-- Insert the permissions of its system roles. -/
  | insertSeedPermissions (t : TenantId)
  /-- Select the id of a role. -/
  | roleIdByName (t : TenantId) (name : String)
  /-- Insert the membership of its owner. -/
  | insertMembership (row : MembershipRow)

namespace CreateStatement

/-- The type of the result of a statement. -/
def Res : CreateStatement → Type
  | insertTenant _ => TenantRow
  | insertSystemRoles _ _ | insertSeedPermissions _ => Unit
  | roleIdByName _ _ => Option RoleId
  | insertMembership _ => MembershipRow

/-- What a statement does. -/
def exec (now : Time) : (st : CreateStatement) → Db → Except SqlxError (st.Res × Db)
  | insertTenant row, db => Klynt.insertTenant row now db
  | insertSystemRoles t ids, db => Klynt.insertSystemRoles t ids now db
  | insertSeedPermissions t, db => Klynt.insertSeedPermissions t now db
  | roleIdByName t name, db => .ok ((db.roleNamed? t name).map (·.id), db)
  | insertMembership row, db => Klynt.insertMembership row now db

end CreateStatement

/-- Programs of the creation of a tenant. -/
abbrev CreateProg (α : Type) : Type := TxProg SqlxError CreateStatement.Res DomainError α

/-- Run a statement and convert its error. -/
def CreateStatement.run (st : CreateStatement) (convert : SqlxError → DomainError) :
    CreateProg st.Res := (TxProg.run st).mapErr convert

/-! ## The operation -/

namespace TenantCreation

/-- `seed_system_roles`. -/
def seedSystemRoles (ids : TenantRole → RoleId) (t : TenantId) : CreateProg Unit := do
  CreateStatement.run (.insertSystemRoles t ids) .ofSqlx
  CreateStatement.run (.insertSeedPermissions t) .ofSqlx

/-- `find_role_id_by_name`. -/
def findRoleIdByName (t : TenantId) (name : String) : CreateProg RoleId := do
  let id : Option RoleId ← CreateStatement.run (.roleIdByName t name) .ofSqlx
  .ofOption (.internal ("missing " ++ name ++ " role for tenant")) id

variable (tenant : Tenant) (ids : TenantRole → RoleId)

/-- The statements of `create`, each with its rollback. -/
def prepare : CreateProg TenantRow := do
  Prog.mapErr .ofSqlx TxProg.begin
  let row : TenantRow ← TxProg.orRollback
    (CreateStatement.run (.insertTenant (.ofTenant tenant)) tenantInsertError)
  TxProg.orRollback (seedSystemRoles ids tenant.id)
  let ownerRoleId ← TxProg.orRollback (findRoleIdByName tenant.id "owner")
  let _ ← TxProg.orRollback
    (CreateStatement.run (.insertMembership (ownerMembership tenant ownerRoleId)) .ofSqlx)
  return row

/-- `create`: the row is mapped after the commit. -/
def create (tenant : NewTenant) (ids : TenantRole → RoleId) [Unicode] : CreateProg Tenant := do
  let row ← prepare tenant.stored ids
  Prog.mapErr .ofSqlx TxProg.commit
  .done (mapTenantRow row)

/-- A statement is not a commit. -/
lemma all_statement (st : CreateStatement) (convert : SqlxError → DomainError) :
    (st.run convert).All (· ≠ .commit) := (TxProg.all_run st).mapErr

/-- Up to the commit nothing is committed. -/
lemma all_prepare : (prepare tenant ids).All (· ≠ .commit) := by
  unfold prepare
  refine TxProg.all_begin.mapErr.bind fun _ => ?_
  refine (TxProg.all_orRollback (all_statement _ _)).bind fun row => ?_
  refine (TxProg.all_orRollback ?_).bind fun _ => ?_
  · unfold seedSystemRoles
    exact (all_statement _ _).bind fun _ => all_statement _ _
  · refine (TxProg.all_orRollback ?_).bind fun _ => ?_
    · unfold findRoleIdByName
      exact (all_statement _ _).bind fun _ => Prog.all_ofOption _ _
    · exact (TxProg.all_orRollback (all_statement _ _)).bind fun _ => trivial

/-! ## A run that succeeds -/

section Success

variable {lost : Prop} {now : Time} {s s' : Connection Db} {db : Db}

/-- A statement of the creation that succeeds. -/
lemma exec_statement_ok (db : Db) {st : CreateStatement} {convert : SqlxError → DomainError} {v : st.Res}
    (htx : s.tx = some (some db))
    (h : (st.run convert).Exec (Connection.Env lost (CreateStatement.exec now)) s (.ok v) s') :
    ∃ db', st.exec now db = .ok (v, db') ∧ s' = { s with tx := some (some db') } :=
  Connection.exec_run_ok htx (Prog.exec_mapErr_ok.mp h)

/-- Rows that are inserted by one statement are inserted one by one. -/
lemma forM_run {A : Type} (l : List A) (f : A → Statement Unit)
    (convert : SqlxError → DomainError) {db' : Db}
    (h : (l.forM fun x db => f x now db : StateT Db (Except SqlxError) Unit) db = .ok ((), db')) :
    (l.forM fun x => Tx.run now (f x) convert : Tx Unit) db = .ok ((), db') := by
  induction l generalizing db with
  | nil => exact congrArg Except.ok (Except.ok.inj h)
  | cons x l ih =>
    change (f x now db >>= fun p => _) = _ at h
    obtain ⟨⟨⟨⟩, db₁⟩, hx, hrest⟩ := Except.bind_eq_ok.mp h
    exact Tx.bind_ok.mpr ⟨(), db₁, Tx.run_ok.mpr hx, ih hrest⟩

/-- The roles of a tenant are seeded. -/
lemma exec_seedSystemRoles_ok (db : Db) {t : TenantId} (htx : s.tx = some (some db))
    (h : (seedSystemRoles ids t).Exec (Connection.Env lost (CreateStatement.exec now)) s (.ok ()) s') :
    ∃ db', Klynt.seedSystemRoles now t ids db = .ok ((), db') ∧
      s' = { s with tx := some (some db') } := by
  unfold seedSystemRoles at h
  obtain ⟨_, s₁, hroles, hgrants⟩ := Prog.exec_bind_ok.mp h
  obtain ⟨db₁, hexec₁, rfl⟩ := exec_statement_ok db htx hroles
  obtain ⟨db₂, hexec₂, rfl⟩ := exec_statement_ok db₁ rfl hgrants
  refine ⟨db₂, Tx.bind_ok.mpr ⟨(), db₁, ?_, Tx.run_ok.mpr hexec₂⟩, rfl⟩
  exact forM_run systemRoles (fun role => insertSystemRole t (ids role.1) role.1 role.2) .ofSqlx
    hexec₁

/-- The role of a name is found. -/
lemma exec_findRoleIdByName_ok (db : Db) {t : TenantId} {name : String} {id : RoleId}
    (htx : s.tx = some (some db))
    (h : (findRoleIdByName t name).Exec (Connection.Env lost (CreateStatement.exec now)) s (.ok id)
      s') : txRoleIdByName t name db = .ok (id, db) ∧ s' = s := by
  unfold findRoleIdByName at h
  obtain ⟨found, s₁, hrun, hfound⟩ := Prog.exec_bind_ok.mp h
  obtain ⟨db', hexec, rfl⟩ := exec_statement_ok db htx hrun
  obtain ⟨hselect, rfl⟩ := Prod.mk.inj (Except.ok.inj hexec)
  obtain ⟨⟨id', hid, hr⟩ | ⟨-, hr⟩, rfl⟩ := Prog.exec_ofOption.mp hfound
  · obtain rfl := Except.ok.inj hr
    refine ⟨?_, ?_⟩
    · unfold txRoleIdByName
      refine Tx.bind_ok.mpr ⟨some id, db, ?_, rfl⟩
      rw [← hid, ← hselect]
      rfl
    · obtain ⟨committed, tx⟩ := s
      obtain rfl : tx = some (some db) := htx
      rfl
  · cases hr

/-- The name of an inserted tenant. -/
lemma name_of_insertTenant {row r : TenantRow} {db' : Db}
    (h : insertTenant row now db = .ok (r, db')) : varchar 255 row.name = .ok r.name := by
  obtain ⟨name, hname, h⟩ := Except.bind_eq_ok.mp h
  obtain ⟨_, -, h⟩ := Except.bind_eq_ok.mp h
  unfold insertTenantRow at h
  split at h
  · cases h
  · split at h
    · cases h
    · split at h
      · cases h
      · obtain ⟨rfl, -⟩ := Prod.mk.inj (Except.ok.inj h)
        exact hname

/-- **The statements succeed** as the transaction does that runs them in one step, and the row
they return is the tenant's. -/
theorem exec_prepare_ok {row : TenantRow}
    (h : (prepare tenant ids).Exec (Connection.Env lost (CreateStatement.exec now)) s (.ok row) s') :
    ∃ db', createTenantTx now tenant ids s.committed = .ok (row, db') ∧
      varchar 255 tenant.name = .ok row.name ∧ s' = ⟨s.committed, some (some db')⟩ := by
  unfold prepare at h
  obtain ⟨_, s₁, hbegin, h⟩ := Prog.exec_bind_ok.mp h
  obtain rfl := Connection.exec_begin_ok (Prog.exec_mapErr_ok.mp hbegin)
  obtain ⟨row₀, s₂, hins, h⟩ := Prog.exec_bind_ok.mp h
  obtain ⟨db₂, hinsert, rfl⟩ := exec_statement_ok s.committed rfl
    (Connection.exec_orRollback_ok.mp hins)
  obtain ⟨_, s₃, hseed, h⟩ := Prog.exec_bind_ok.mp h
  obtain ⟨db₃, hseeded, rfl⟩ := exec_seedSystemRoles_ok ids db₂ rfl
    (Connection.exec_orRollback_ok.mp hseed)
  obtain ⟨ownerRoleId, s₄, hrole, h⟩ := Prog.exec_bind_ok.mp h
  obtain ⟨hfound, rfl⟩ := exec_findRoleIdByName_ok db₃ rfl
    (Connection.exec_orRollback_ok.mp hrole)
  obtain ⟨m, s₅, hmem, h⟩ := Prog.exec_bind_ok.mp h
  obtain ⟨db₅, hmember, rfl⟩ := exec_statement_ok db₃ rfl
    (Connection.exec_orRollback_ok.mp hmem)
  obtain ⟨hrow, rfl⟩ := Prog.exec_pure.mp h
  obtain rfl := Except.ok.inj hrow
  refine ⟨db₅, ?_, ?_, rfl⟩
  · unfold createTenantTx
    refine Tx.bind_ok.mpr ⟨row, db₂, Tx.run_ok.mpr hinsert, ?_⟩
    refine Tx.bind_ok.mpr ⟨(), db₃, hseeded, ?_⟩
    refine Tx.bind_ok.mpr ⟨ownerRoleId, db₃, hfound, ?_⟩
    exact Tx.bind_ok.mpr ⟨m, db₅, Tx.run_ok.mpr hmember, rfl⟩
  · exact name_of_insertTenant hinsert

end Success

end TenantCreation

end Klynt
