import Klynt.Persistence.Repository

set_option relaxedAutoImplicit false
set_option autoImplicit false

/-!
# Authorization

The policy engine of the tenant service: a user's membership names a role, and the role of
that name grants permissions.

## Main definitions

* `AuthorizationService.hasPermission`, `AuthorizationService.requirePermissionWithContext`.
* `Db.RoleGrants`, `Db.Grants` — what a tenant's role and a member are granted, on the tables.

## Main results

* `AuthorizationService.exec_hasPermission_true`, `AuthorizationService.reads_requirePermission`
  — the two decisions are `Db.Grants`.
-/

namespace Klynt

variable [Unicode]

namespace AuthorizationService

omit [Unicode] in
/-- `role_has_permission`. -/
def roleHasPermission (role : TenantRoleAggregate) (id : PermissionId) : Bool :=
  role.permissionIds.contains id

/-- Whether a user has a permission within a tenant. -/
def hasPermission (t : TenantId) (u : UserId) (name : String) : Action DomainError Bool := do
  match ← PgMembershipRepository.find t u with
  | none => return false
  | some membership =>
    match ← PgRoleRepository.findRoleByName t membership.role.asStr with
    | none => return false
    | some role =>
      match ← PgPermissionRepository.findPermissionByName name with
      | none => return false
      | some permission => return roleHasPermission role permission.id

/-- Ensure that a user has a permission within a tenant. -/
def requirePermissionWithContext (t : TenantId) (u : UserId) (name : String) :
    Action DomainError Unit := do
  let found ← PgMembershipRepository.find t u
  let membership ← .ofOption (.notFound "user is not a member of tenant") found
  let found ← PgRoleRepository.findRoleByName t membership.role.asStr
  let role ← .ofOption (.notPermitted ("tenant role not found: " ++ membership.role.asStr)) found
  let found ← PgPermissionRepository.findPermissionByName name
  let permission ← .ofOption (.notPermitted ("permission not found: " ++ name)) found
  .rejectIf (roleHasPermission role permission.id = false)
    (.notPermitted ("missing permission: " ++ name))

end AuthorizationService

/-! ## What is granted -/

/-- A tenant's role of a canonical name grants a permission. -/
def Db.RoleGrants (db : Db) (t : TenantId) (role : TenantRole) (name : String) : Prop :=
  ∃ r p c, db.roleNamed? t role.asStr = some r ∧ db.permissions.find? (·.name = name) = some p ∧
    PermissionCategory.fromStr p.category = .ok c ∧ ⟨r.id, p.id⟩ ∈ db.rolePermissions

/-- A user has a permission within a tenant: the role the membership names grants it. -/
def Db.Grants (db : Db) (t : TenantId) (u : UserId) (name : String) : Prop :=
  ∃ m role, db.membership? t u = some m ∧ TenantRole.parse m.role = .ok role ∧
    db.RoleGrants t role name

/-- Whether a user has a permission within a tenant, as a computation. -/
def Db.grants (db : Db) (t : TenantId) (u : UserId) (name : String) : Bool :=
  (db.membership? t u).any fun m => (TenantRole.parse m.role).toOption.any fun role =>
    (db.roleNamed? t role.asStr).any fun r => (db.permissions.find? (·.name = name)).any fun p =>
      (PermissionCategory.fromStr p.category).toOption.isSome &&
        decide (⟨r.id, p.id⟩ ∈ db.rolePermissions)

omit [Unicode] in
/-- A value that is there. -/
theorem toOption_eq_some {ε α : Type} {x : Except ε α} {a : α} :
    x.toOption = some a ↔ x = .ok a := by
  cases x <;> simp [Except.toOption]

/-- The computation decides what is granted. -/
theorem Db.grants_iff {db : Db} {t : TenantId} {u : UserId} {name : String} :
    db.grants t u name = true ↔ db.Grants t u name := by
  simp only [grants, Grants, RoleGrants, Option.any_eq_true, toOption_eq_some, Bool.and_eq_true,
    Option.isSome_iff_exists, decide_eq_true_eq]
  constructor
  · rintro ⟨m, hm, role, hrole, r, hr, p, hp, ⟨c, hc⟩, hrp⟩
    exact ⟨m, role, hm, hrole, r, p, c, hr, hp, hc, hrp⟩
  · rintro ⟨m, role, hm, hrole, r, p, c, hr, hp, hc, hrp⟩
    exact ⟨m, hm, role, hrole, r, hr, p, hp, ⟨c, hc⟩, hrp⟩

instance {db : Db} {t : TenantId} {u : UserId} {name : String} :
    Decidable (db.Grants t u name) := decidable_of_iff _ Db.grants_iff

omit [Unicode] in
/-- The permissions of a role aggregate are those linked to its row. -/
theorem mem_permissionIds {db : Db} {r : TenantRoleRow} {p : PermissionId} :
    p ∈ (db.roleAggregate r).permissionIds ↔ ⟨r.id, p⟩ ∈ db.rolePermissions := by
  simp only [Db.roleAggregate, Db.permissionIdsOf, List.mem_insertionSort, List.mem_map,
    List.mem_filter, decide_eq_true_eq]
  constructor
  · rintro ⟨⟨id, p'⟩, ⟨hmem, rfl⟩, rfl⟩; exact hmem
  · intro hmem; exact ⟨_, ⟨hmem, rfl⟩, rfl⟩

/-- A membership row is mapped if its role parses. -/
theorem mapMembershipRow_eq_ok {row : MembershipRow} {m : Membership} :
    mapMembershipRow row = .ok m ↔ ∃ role, TenantRole.parse row.role = .ok role ∧
      m = { tenantId := row.tenantId, userId := row.userId, role, joinedAt := row.joinedAt } := by
  unfold mapMembershipRow
  cases TenantRole.parse row.role with
  | ok role => simpa [Except.mapError, bind, Except.bind, pure, Except.pure] using eq_comm
  | error e => simp [Except.mapError, bind, Except.bind]

/-- A permission row is mapped if its category parses. -/
theorem mapPermissionRow_eq_ok {row : PermissionRow} {p : Permission} :
    mapPermissionRow row = .ok p ↔ ∃ category, PermissionCategory.fromStr row.category = .ok category ∧
      p = { id := row.id, name := row.name, description := row.description, category } := by
  unfold mapPermissionRow
  cases PermissionCategory.fromStr row.category with
  | ok category => simpa [Except.mapError, bind, Except.bind, pure, Except.pure] using eq_comm
  | error e => simp [Except.mapError, bind, Except.bind]

omit [Unicode] in
/-- An optional row is mapped to a value. -/
theorem mapOption_eq_some {ε α β : Type} {f : α → Except ε β} {o : Option α} {b : β} :
    mapOption f o = .ok (some b) ↔ ∃ a, o = some a ∧ f a = .ok b := by
  cases o with
  | none => simp [mapOption]
  | some a => cases h : f a <;> simp [mapOption, h, Except.map]

/-! ## The decisions -/

section Exec

variable {F : Req → Prop} {w w' : World} {t : TenantId} {u : UserId} {name : String}

/-- A successful lookup of a membership. -/
theorem PgMembershipRepository.exec_find_ok {m : Option Membership} :
    (find t u).Exec (Env F) w (.ok m) w' ↔
      mapOption mapMembershipRow (w.db.membership? t u) = .ok m ∧ w' = w := by
  simp only [find, Prog.exec_bind_ok, Prog.exec_mapErr_ok, exec_select_ok, Prog.exec_done]
  constructor
  · rintro ⟨a, w₁, ⟨rfl, rfl⟩, h, rfl⟩; exact ⟨h.symm, rfl⟩
  · rintro ⟨h, rfl⟩; exact ⟨_, _, ⟨rfl, rfl⟩, h.symm, rfl⟩

omit [Unicode] in
/-- A successful lookup of a role by name. -/
theorem PgRoleRepository.exec_findRoleByName_ok {r : Option TenantRoleAggregate} :
    (findRoleByName t name).Exec (Env F) w (.ok r) w' ↔
      r = (w.db.roleNamed? t name).map w.db.roleAggregate ∧ w' = w :=
  Prog.exec_mapErr_ok.trans exec_select_ok

/-- A successful lookup of a permission. -/
theorem PgPermissionRepository.exec_findPermissionByName_ok {p : Option Permission} :
    (findPermissionByName name).Exec (Env F) w (.ok p) w' ↔
      mapOption mapPermissionRow (w.db.permissions.find? (·.name = name)) = .ok p ∧ w' = w := by
  simp only [findPermissionByName, Prog.exec_bind_ok, Prog.exec_mapErr_ok, exec_select_ok,
    Prog.exec_done]
  constructor
  · rintro ⟨a, w₁, ⟨rfl, rfl⟩, h, rfl⟩; exact ⟨h.symm, rfl⟩
  · rintro ⟨h, rfl⟩; exact ⟨_, _, ⟨rfl, rfl⟩, h.symm, rfl⟩

/-- **`has_permission` decides what is granted.** -/
theorem AuthorizationService.exec_hasPermission_true :
    (hasPermission t u name).Exec (Env F) w (.ok true) w' ↔ w.db.Grants t u name ∧ w' = w := by
  simp only [hasPermission, Prog.exec_bind_ok, PgMembershipRepository.exec_find_ok]
  constructor
  · rintro ⟨m, w₁, ⟨hm, rfl⟩, h⟩
    cases m with
    | none => exact absurd h (by simp)
    | some m =>
      obtain ⟨row, hrow, hmap⟩ := mapOption_eq_some.mp hm
      obtain ⟨role, hrole, rfl⟩ := mapMembershipRow_eq_ok.mp hmap
      simp only [Prog.exec_bind_ok, PgRoleRepository.exec_findRoleByName_ok] at h
      obtain ⟨r, w₁, ⟨hr, rfl⟩, h⟩ := h
      cases r with
      | none => exact absurd h (by simp)
      | some r =>
        obtain ⟨rrow, hrrow, rfl⟩ := Option.map_eq_some_iff.mp hr.symm
        simp only [Prog.exec_bind_ok, PgPermissionRepository.exec_findPermissionByName_ok] at h
        obtain ⟨p, w₁, ⟨hp, rfl⟩, h⟩ := h
        cases p with
        | none => exact absurd h (by simp)
        | some p =>
          obtain ⟨prow, hprow, hpmap⟩ := mapOption_eq_some.mp hp
          obtain ⟨c, hc, rfl⟩ := mapPermissionRow_eq_ok.mp hpmap
          obtain ⟨hgr, rfl⟩ := Prog.exec_pure.mp h
          have hmem : prow.id ∈ (w'.db.roleAggregate rrow).permissionIds := by
            simpa [roleHasPermission] using (Except.ok.inj hgr).symm
          exact ⟨⟨row, role, hrow, hrole, rrow, prow, c, hrrow, hprow, hc,
            mem_permissionIds.mp hmem⟩, rfl⟩
  · rintro ⟨⟨row, role, hrow, hrole, rrow, prow, c, hrrow, hprow, hc, hmem⟩, rfl⟩
    refine ⟨_, _, ⟨mapOption_eq_some.mpr ⟨row, hrow, mapMembershipRow_eq_ok.mpr
      ⟨role, hrole, rfl⟩⟩, rfl⟩, ?_⟩
    simp only [Prog.exec_bind_ok, PgRoleRepository.exec_findRoleByName_ok, hrrow]
    refine ⟨_, _, ⟨rfl, rfl⟩, ?_⟩
    simp only [Option.map_some, Prog.exec_bind_ok,
      PgPermissionRepository.exec_findPermissionByName_ok]
    refine ⟨_, _, ⟨mapOption_eq_some.mpr ⟨prow, hprow, mapPermissionRow_eq_ok.mpr
      ⟨c, hc, rfl⟩⟩, rfl⟩, ?_⟩
    refine Prog.exec_pure.mpr ⟨?_, rfl⟩
    have := mem_permissionIds.mpr hmem
    simp [roleHasPermission, this]

/-- Looking up a membership changes nothing. -/
theorem PgMembershipRepository.reads_find :
    (find t u).Reads (Env F) w
      (fun m => mapOption mapMembershipRow (w.db.membership? t u) = .ok m) :=
  (reads_select _).mapErr.bind fun row hrow => by
    subst hrow; exact Prog.reads_done _

omit [Unicode] in
/-- Looking up a role by name changes nothing. -/
theorem PgRoleRepository.reads_findRoleByName :
    (findRoleByName t name).Reads (Env F) w
      (· = (w.db.roleNamed? t name).map w.db.roleAggregate) :=
  (reads_select _).mapErr

/-- Looking up a permission changes nothing. -/
theorem PgPermissionRepository.reads_findPermissionByName :
    (findPermissionByName name).Reads (Env F) w
      (fun p => mapOption mapPermissionRow (w.db.permissions.find? (·.name = name)) = .ok p) :=
  (reads_select _).mapErr.bind fun row hrow => by
    subst hrow; exact Prog.reads_done _

/-- **`require_permission` returns only if the permission is granted.** -/
theorem AuthorizationService.reads_requirePermission :
    (requirePermissionWithContext t u name).Reads (Env F) w (fun _ => w.db.Grants t u name) := by
  refine PgMembershipRepository.reads_find.bind fun found hfound => ?_
  refine (Prog.reads_ofOption _ _).bind fun m hm => ?_
  subst hm
  obtain ⟨row, hrow, hmap⟩ := mapOption_eq_some.mp hfound
  obtain ⟨role, hrole, rfl⟩ := mapMembershipRow_eq_ok.mp hmap
  refine PgRoleRepository.reads_findRoleByName.bind fun found hr => ?_
  refine (Prog.reads_ofOption _ _).bind fun r hr' => ?_
  subst hr'
  obtain ⟨rrow, hrrow, rfl⟩ := Option.map_eq_some_iff.mp hr.symm
  refine PgPermissionRepository.reads_findPermissionByName.bind fun found hp => ?_
  refine (Prog.reads_ofOption _ _).bind fun p hp' => ?_
  subst hp'
  obtain ⟨prow, hprow, hpmap⟩ := mapOption_eq_some.mp hp
  obtain ⟨c, hc, rfl⟩ := mapPermissionRow_eq_ok.mp hpmap
  refine (Prog.reads_rejectIf _ _).mono fun _ hgr => ?_
  have hmem : prow.id ∈ (w.db.roleAggregate rrow).permissionIds := by
    simpa [roleHasPermission] using hgr
  exact ⟨row, role, hrow, hrole, rrow, prow, c, hrrow, hprow, hc, mem_permissionIds.mp hmem⟩

end Exec

end Klynt
