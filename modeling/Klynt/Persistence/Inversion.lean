import Klynt.Lib.Prog
import Klynt.Persistence.Transaction

set_option relaxedAutoImplicit false
set_option autoImplicit false

/-!
# What successful statements and transactions do

For each statement, what was checked when it succeeded and what the new database is.  Later
proofs use these and never unfold a statement.

## Main results

* `insertMembership_ok`, `updateTenant_ok`, … — one lemma for each statement.
* `createTenantTx_ok` — a created tenant: its row, its four system roles with their seeded
  permissions, and its owner's membership.
-/

namespace Klynt

variable {now : Time} {db db' : Db}

/-! ## Texts -/

/-- The texts that are not refused. -/
theorem checkText_eq_ok {s : String} {u : Unit} : checkText s = .ok u ↔ Storable s := by
  unfold checkText
  split
  · rename_i h
    exact iff_of_true rfl h
  · rename_i h
    exact iff_of_false (nomatch ·) h

/-- What a column stores of a text: all of it, or all but the spaces that are too many. -/
theorem varchar_eq_ok {n : Nat} {s stored : String} :
    varchar n s = .ok stored ↔ Storable s ∧ ((s.length ≤ n ∧ stored = s) ∨
      n < s.length ∧ (s.toList.drop n).all (· = ' ') = true ∧
        stored = String.ofList (s.toList.take n)) := by
  unfold varchar
  rw [Except.bind_eq_ok]
  constructor
  · rintro ⟨_, htext, h⟩
    refine ⟨checkText_eq_ok.mp htext, ?_⟩
    split at h
    · rename_i hshort
      exact .inl ⟨hshort, (Except.ok.inj h).symm⟩
    · rename_i hlong
      split at h
      · rename_i hspaces
        exact .inr ⟨not_le.mp hlong, hspaces, (Except.ok.inj h).symm⟩
      · cases h
  · rintro ⟨htext, ⟨hshort, rfl⟩ | ⟨hlong, hspaces, rfl⟩⟩
    · exact ⟨(), checkText_eq_ok.mpr htext, if_pos hshort⟩
    · exact ⟨(), checkText_eq_ok.mpr htext, (if_neg (not_le.mpr hlong)).trans (if_pos hspaces)⟩

/-! ## Tenants -/

/-- A stored tenant row differs from the given one in trailing spaces of its name at most. -/
theorem insertTenant_ok {row r : TenantRow} (h : insertTenant row now db = .ok (r, db')) :
    ∃ name, r = { row with name } ∧ db.activeOwned row.ownerId < 2 ∧
      (∀ t ∈ db.tenants, t.id ≠ row.id) ∧ (∀ t ∈ db.tenants, t.slug ≠ row.slug) ∧
      (∃ u ∈ db.users, u.id = row.ownerId) ∧ db' = { db with tenants := db.tenants ++ [r] } := by
  unfold insertTenant at h
  cases hv : varchar 255 row.name with
  | error e => simp [hv, bind, Except.bind] at h
  | ok name =>
    simp only [hv, bind, Except.bind, enforceTenantOwnershipLimit, insertTenantRow] at h
    split at h
    · cases h
    · rename_i hlimit
      split at hlimit
      · cases hlimit
      · rename_i hcount
        split at h
        · cases h
        · rename_i hid
          split at h
          · cases h
          · rename_i hslug
            split at h
            · cases h
            · rename_i huser
              obtain ⟨rfl, rfl⟩ := Prod.mk.inj (Except.ok.inj h)
              exact ⟨name, rfl, by omega, by simpa using hid, by simpa using hslug,
                by simpa using huser, rfl⟩

/-- The row of an update as it is stored. -/
def TenantRow.stored (row old : TenantRow) (name : String) (now : Time) : TenantRow :=
  { row with name, createdAt := old.createdAt, updatedAt := now }

/-- An updated tenant. -/
theorem updateTenant_ok {row : TenantRow} {n : Nat} (h : updateTenant row now db = .ok (n, db')) :
    (n = 0 ∧ db' = db) ∨ n = 1 ∧
      ∃ name, db.activeOwned row.ownerId < 2 ∧
        (∀ t ∈ db.tenants, t.slug = row.slug → t.id = row.id) ∧
        db' = { db with
          tenants := db.tenants.map fun t =>
            if t.id = row.id then row.stored t name now else t } := by
  unfold updateTenant at h
  cases hv : varchar 255 row.name with
  | error e => simp [hv, bind, Except.bind] at h
  | ok name =>
    simp only [hv, bind, Except.bind, enforceTenantOwnershipLimit] at h
    split at h
    · split at h
      · cases h
      · rename_i hlimit
        split at hlimit
        · cases hlimit
        · rename_i hcount
          split at h
          · cases h
          · rename_i hslug
            split at h
            · cases h
            · obtain ⟨rfl, rfl⟩ := Prod.mk.inj (Except.ok.inj h)
              exact .inr ⟨rfl, name, by omega, by simpa using hslug, rfl⟩
    · obtain ⟨rfl, rfl⟩ := Prod.mk.inj (Except.ok.inj h)
      exact .inl ⟨rfl, rfl⟩

/-- A tenant is updated if its row is there, its owner owns fewer than two active tenants and
exists, and no other tenant has its slug. -/
theorem updateTenant_of {row : TenantRow} {name : String} (hname : varchar 255 row.name = .ok name)
    (hthere : ∃ t ∈ db.tenants, t.id = row.id) (hcount : db.activeOwned row.ownerId < 2)
    (hslug : ∀ t ∈ db.tenants, t.slug = row.slug → t.id = row.id)
    (howner : ∃ u ∈ db.users, u.id = row.ownerId) :
    updateTenant row now db = .ok (1, { db with
      tenants := db.tenants.map fun t => if t.id = row.id then row.stored t name now else t }) := by
  have hrow : db.tenants.any (·.id = row.id) = true := by simpa using hthere
  have hlimit : enforceTenantOwnershipLimit row.ownerId db = .ok () := if_neg (by omega)
  have hown : ¬ db.tenants.any (fun t => t.slug = row.slug ∧ t.id ≠ row.id) = true := by
    simpa using hslug
  have huser : db.users.any (·.id = row.ownerId) = true := by simpa using howner
  unfold updateTenant
  simp only [hname, hlimit, bind, Except.bind, if_pos hrow, if_neg hown,
    if_neg (not_not.mpr huser)]
  rfl

/-- The ids of the roles of a tenant. -/
def Db.roleIdsOf (db : Db) (t : TenantId) : List RoleId :=
  (db.tenantRoles.filter (·.tenantId = t)).map (·.id)

/-- A deleted tenant. -/
theorem deleteTenant_ok {id : TenantId} {n : Nat} (h : deleteTenant id now db = .ok (n, db')) :
    (n = 0 ∧ db' = db ∧ ∀ t ∈ db.tenants, t.id ≠ id) ∨
      n = 1 ∧ db' = { db with
        tenants := db.tenants.filter (·.id ≠ id)
        memberships := db.memberships.filter (·.tenantId ≠ id)
        invites := db.invites.filter (·.tenantId ≠ id)
        tenantRoles := db.tenantRoles.filter (·.tenantId ≠ id)
        rolePermissions := db.rolePermissions.filter (·.roleId ∉ db.roleIdsOf id)
        desktopLayouts := db.desktopLayouts.filter (·.tenantId ≠ id) } := by
  unfold deleteTenant at h
  simp only at h
  split at h
  · split at h
    · cases h
    · split at h
      · cases h
      · obtain ⟨rfl, rfl⟩ := Prod.mk.inj (Except.ok.inj h)
        exact .inr ⟨rfl, rfl⟩
  · rename_i hnone
    obtain ⟨rfl, rfl⟩ := Prod.mk.inj (Except.ok.inj h)
    exact .inl ⟨rfl, rfl, by simpa using hnone⟩

/-! ## Memberships -/

/-- An inserted membership. -/
theorem insertMembership_ok {row m : MembershipRow}
    (h : insertMembership row now db = .ok (m, db')) :
    (∀ x ∈ db.memberships, ¬ x.hasKey row.tenantId row.userId) ∧
      (∃ t ∈ db.tenants, t.id = row.tenantId) ∧ (∃ u ∈ db.users, u.id = row.userId) ∧
      (∀ id, row.tenantRoleId = some id → ∃ r ∈ db.tenantRoles, r.id = id) ∧
      m = row ∧ db' = { db with memberships := db.memberships ++ [row] } := by
  unfold insertMembership at h
  split at h
  · cases h
  · rename_i hkey
    split at h
    · cases h
    · rename_i htenant
      split at h
      · cases h
      · rename_i huser
        split at h
        · cases h
        · rename_i hrole
          obtain ⟨rfl, rfl⟩ := Prod.mk.inj (Except.ok.inj h)
          refine ⟨by simpa using hkey, by simpa using htenant, by simpa using huser, ?_, rfl, rfl⟩
          intro id hid
          simpa [hid] using hrole

/-- A membership with another role. -/
theorem updateMembershipRole_ok {role : String} {t : TenantId} {u : UserId} {id : RoleId} {n : Nat}
    (h : updateMembershipRole role t u id now db = .ok (n, db')) :
    n = db.memberships.countP (·.hasKey t u) ∧
      (n ≠ 0 → ∃ r ∈ db.tenantRoles, r.id = id) ∧
      db' = { db with
        memberships := db.memberships.map fun m =>
          if m.hasKey t u then { m with role, tenantRoleId := some id } else m } := by
  unfold updateMembershipRole at h
  split at h
  · split at h
    · rename_i hrole
      obtain ⟨rfl, rfl⟩ := Prod.mk.inj (Except.ok.inj h)
      exact ⟨rfl, fun _ => by simpa using hrole, rfl⟩
    · cases h
  · rename_i hnone
    obtain ⟨rfl, rfl⟩ := Prod.mk.inj (Except.ok.inj h)
    have hno : ∀ m ∈ db.memberships, ¬ m.hasKey t u = true := by simpa using hnone
    refine ⟨(List.countP_eq_zero.mpr hno).symm, fun h => absurd rfl h, ?_⟩
    have hmap : db.memberships.map (fun m =>
        if m.hasKey t u then { m with role, tenantRoleId := some id } else m) = db.memberships :=
      (List.map_congr_left fun m hm => if_neg (hno m hm)).trans (List.map_id' _)
    rw [hmap]

/-- Without a row to update, nothing changes. -/
theorem updateMembershipRole_zero {role : String} {t : TenantId} {u : UserId} {id : RoleId}
    (h : updateMembershipRole role t u id now db = .ok (0, db')) : db' = db := by
  obtain ⟨hn, -, rfl⟩ := updateMembershipRole_ok h
  have hno := List.countP_eq_zero.mp hn.symm
  have hmap : db.memberships.map (fun m =>
      if m.hasKey t u then { m with role, tenantRoleId := some id } else m) = db.memberships :=
    (List.map_congr_left fun m hm => if_neg (hno m hm)).trans (List.map_id' _)
  rw [hmap]

/-- A deleted membership. -/
theorem deleteMembership_ok {t : TenantId} {u : UserId} {n : Nat}
    (h : deleteMembership t u now db = .ok (n, db')) :
    n = db.memberships.countP (·.hasKey t u) ∧
      db' = { db with memberships := db.memberships.filter fun m => ¬ m.hasKey t u } := by
  obtain ⟨rfl, rfl⟩ := Prod.mk.inj (Except.ok.inj h)
  exact ⟨rfl, rfl⟩

/-- Without a row to delete, nothing changes. -/
theorem deleteMembership_zero {t : TenantId} {u : UserId}
    (h : deleteMembership t u now db = .ok (0, db')) : db' = db := by
  obtain ⟨hn, rfl⟩ := deleteMembership_ok h
  have hno := List.countP_eq_zero.mp hn.symm
  have hfilter : db.memberships.filter (fun m => ¬ m.hasKey t u) = db.memberships :=
    List.filter_eq_self.mpr fun m hm => decide_eq_true (hno m hm)
  rw [hfilter]

/-! ## Roles -/

/-- An inserted role. -/
theorem insertRole_ok {row : TenantRoleRow} (h : insertRole row now db = .ok ((), db')) :
    ∃ name, (∀ r ∈ db.tenantRoles, r.id ≠ row.id) ∧
      (∀ r ∈ db.tenantRoles, r.tenantId = row.tenantId → r.name ≠ name) ∧
      (∃ t ∈ db.tenants, t.id = row.tenantId) ∧ varchar 100 row.name = .ok name ∧
      db' = { db with tenantRoles := db.tenantRoles ++ [{ row with name }] } := by
  unfold insertRole at h
  obtain ⟨name, hv, h⟩ := Except.bind_eq_ok.mp h
  obtain ⟨_, -, h⟩ := Except.bind_eq_ok.mp h
  split at h
  · cases h
  · rename_i hid
    split at h
    · cases h
    · rename_i hname
      split at h
      · cases h
      · rename_i htenant
        obtain ⟨-, rfl⟩ := Prod.mk.inj (Except.ok.inj h)
        exact ⟨name, by simpa using hid, by simpa using hname, by simpa using htenant, hv, rfl⟩

/-- Inserted permissions of a role. -/
theorem insertRolePermissionRows_ok {id : RoleId} {ps : List PermissionId}
    (h : insertRolePermissionRows id ps now db = .ok ((), db')) :
    (∀ p ∈ ps, ∃ row ∈ db.permissions, row.id = p) ∧
      db' = { db with rolePermissions := db.rolePermissions ++ ps.map fun p => ⟨id, p⟩ } := by
  unfold insertRolePermissionRows at h
  split at h
  · cases h
  · split at h
    · cases h
    · split at h
      · cases h
      · rename_i hperms
        obtain ⟨-, rfl⟩ := Prod.mk.inj (Except.ok.inj h)
        exact ⟨by simpa using hperms, rfl⟩

/-- A deleted role. -/
theorem deleteRole_ok {t : TenantId} {id : RoleId} {n : Nat}
    (h : deleteRole t id now db = .ok (n, db')) :
    (n = 0 ∧ db' = db) ∨
      (n = 1 ∧ (∃ r ∈ db.tenantRoles, r.tenantId = t ∧ r.id = id ∧ r.isSystem = false) ∧
        (∀ m ∈ db.memberships, m.tenantRoleId ≠ some id) ∧
        (∀ i ∈ db.invites, i.tenantRoleId ≠ id) ∧
        db' = { db with
          tenantRoles := db.tenantRoles.filter fun r => ¬ (r.tenantId = t ∧ r.id = id)
          rolePermissions := db.rolePermissions.filter (·.roleId ≠ id) }) := by
  unfold deleteRole at h
  split at h
  · rename_i hrole
    split at h
    · cases h
    · rename_i hm
      split at h
      · cases h
      · rename_i hi
        obtain ⟨rfl, rfl⟩ := Prod.mk.inj (Except.ok.inj h)
        exact .inr ⟨rfl, by simpa using hrole, by simpa using hm, by simpa using hi, rfl⟩
  · obtain ⟨rfl, rfl⟩ := Prod.mk.inj (Except.ok.inj h)
    exact .inl ⟨rfl, rfl⟩

/-! ## Invites -/

/-- An inserted invite. -/
theorem insertInvite_ok {row : InviteRow} (h : insertInvite row now db = .ok ((), db')) :
    ∃ email, varchar 255 row.email = .ok email ∧
      (∀ i ∈ db.invites, i.id ≠ row.id) ∧ (∀ i ∈ db.invites, i.token ≠ row.token) ∧
      (∃ t ∈ db.tenants, t.id = row.tenantId) ∧
      (∃ r ∈ db.tenantRoles, r.id = row.tenantRoleId) ∧
      db' = { db with invites := db.invites ++ [{ row with email }] } := by
  unfold insertInvite at h
  cases hv : varchar 255 row.email with
  | error e => simp [hv, bind, Except.bind] at h
  | ok email =>
    simp only [hv, bind, Except.bind] at h
    split at h
    · cases h
    · rename_i hid
      split at h
      · cases h
      · rename_i htoken
        split at h
        · cases h
        · rename_i htenant
          split at h
          · cases h
          · rename_i hrole
            split at h
            · cases h
            · obtain ⟨-, rfl⟩ := Prod.mk.inj (Except.ok.inj h)
              exact ⟨email, rfl, by simpa using hid, by simpa using htoken, by simpa using htenant,
                by simpa using hrole, rfl⟩

/-- An accepted invite. -/
theorem markInviteAccepted_ok {id : Uuid} {n : Nat}
    (h : markInviteAccepted id now db = .ok (n, db')) :
    n = db.invites.countP (·.id = id) ∧
      db' = { db with
        invites := db.invites.map fun i =>
          if i.id = id then { i with acceptedAt := some now, updatedAt := now } else i } := by
  obtain ⟨rfl, rfl⟩ := Prod.mk.inj (Except.ok.inj h)
  exact ⟨rfl, rfl⟩

/-- Without an invite to mark, nothing changes. -/
theorem markInviteAccepted_zero {id : Uuid} (h : markInviteAccepted id now db = .ok (0, db')) :
    db' = db := by
  obtain ⟨hn, rfl⟩ := markInviteAccepted_ok h
  have hno : ∀ i ∈ db.invites, i.id ≠ id := by simpa using List.countP_eq_zero.mp hn.symm
  have hmap : db.invites.map (fun i =>
      if i.id = id then { i with acceptedAt := some now, updatedAt := now } else i) = db.invites :=
    (List.map_congr_left fun i hi => if_neg (hno i hi)).trans (List.map_id' _)
  rw [hmap]

/-! ## Sessions -/

/-- An inserted session. -/
theorem insertSession_ok {id : Uuid} {token : SessionToken} {u : UserId} {kind : String}
    {pairId : Option Uuid} {expiresAt : Time}
    (h : insertSession id token u kind pairId expiresAt now db = .ok ((), db')) :
    (∀ s ∈ db.sessions, s.id ≠ id) ∧ (∀ s ∈ db.sessions, s.token ≠ token) ∧
      (∃ row ∈ db.users, row.id = u) ∧
      db' = { db with sessions := db.sessions ++
        [{ id, token, userId := u, expiresAt, createdAt := now,
           tenantMemberships := Json.emptyArray, kind, pairId }] } := by
  unfold insertSession at h
  split at h
  · cases h
  · rename_i hid
    split at h
    · cases h
    · rename_i htoken
      split at h
      · cases h
      · rename_i huser
        obtain ⟨-, rfl⟩ := Prod.mk.inj (Except.ok.inj h)
        exact ⟨by simpa using hid, by simpa using htoken, by simpa using huser, rfl⟩

/-! ## Transactions -/

/-- A statement of a transaction succeeds as the statement does. -/
theorem Tx.run_ok {α : Type} {s : Statement α} {convert : SqlxError → DomainError} {r : α × Db} :
    Tx.run now s convert db = .ok r ↔ s now db = .ok r := by
  unfold Tx.run
  cases s now db with
  | ok r' => exact ⟨fun h => congrArg _ (Except.ok.inj h), fun h => congrArg _ (Except.ok.inj h)⟩
  | error e => exact ⟨fun h => (by cases h), fun h => (by cases h)⟩

/-- A transaction that succeeds ran its parts one after another. -/
theorem Tx.bind_ok {α β : Type} {x : Tx α} {f : α → Tx β} {b : β} :
    (x >>= f) db = .ok (b, db') ↔ ∃ a db₁, x db = .ok (a, db₁) ∧ f a db₁ = .ok (b, db') := by
  change (x db >>= fun p => f p.1 p.2) = _ ↔ _
  cases x db with
  | ok p => exact ⟨fun h => ⟨p.1, p.2, rfl, h⟩, fun ⟨a, db₁, hp, h⟩ => (by cases hp; exact h)⟩
  | error e => exact ⟨fun h => (by cases h), fun ⟨_, _, hp, _⟩ => (by cases hp)⟩

/-- An inserted system role. -/
theorem insertSystemRole_ok {t : TenantId} {id : RoleId} {role : TenantRole} {description : String}
    (hnew : ∀ r ∈ db.tenantRoles, ¬ (r.tenantId = t ∧ r.name = role.asStr))
    (h : insertSystemRole t id role description now db = .ok ((), db')) :
    (∀ r ∈ db.tenantRoles, r.id ≠ id) ∧
      db' = { db with
        tenantRoles := db.tenantRoles ++ [systemRoleRow now t id role description] } := by
  unfold insertSystemRole at h
  split at h
  · rename_i hex
    obtain ⟨r, hr, hname⟩ := List.any_eq_true.mp hex
    exact absurd (by simpa using hname) (hnew r hr)
  · split at h
    · cases h
    · rename_i hid
      split at h
      · cases h
      · obtain ⟨-, rfl⟩ := Prod.mk.inj (Except.ok.inj h)
        exact ⟨by simpa using hid, rfl⟩

/-- The rows of the system roles of a tenant. -/
def systemRoleRows (now : Time) (t : TenantId) (ids : TenantRole → RoleId) : List TenantRoleRow :=
  systemRoles.map fun x => systemRoleRow now t (ids x.1) x.1 x.2

/-- **The seeded roles** of a tenant that has none.

**Proof sketch.** Induction on the list of roles still to insert, whose names are new and
distinct; an inserted row makes one name of the tenant old, which is none of the others. -/
theorem insertSystemRoles_ok {t : TenantId} {ids : TenantRole → RoleId}
    (l : List (TenantRole × String)) (hl : (l.map (·.1)).Nodup)
    (h : (l.forM fun role =>
      Tx.run now (insertSystemRole t (ids role.1) role.1 role.2) .ofSqlx : Tx Unit) db =
        .ok ((), db'))
    (hnew : ∀ r ∈ db.tenantRoles, ∀ x ∈ l, ¬ (r.tenantId = t ∧ r.name = x.1.asStr))
    (hid : (db.tenantRoles.map (·.id)).Nodup) :
    db' = { db with
        tenantRoles := db.tenantRoles ++ l.map fun x => systemRoleRow now t (ids x.1) x.1 x.2 } ∧
      (db'.tenantRoles.map (·.id)).Nodup := by
  induction l generalizing db with
  | nil =>
    obtain ⟨-, rfl⟩ := Prod.mk.inj (Except.ok.inj h)
    exact ⟨by simp, hid⟩
  | cons x l ih =>
    obtain ⟨_, db₁, hx, hrest⟩ := Tx.bind_ok.mp h
    obtain ⟨hfresh, rfl⟩ := insertSystemRole_ok (fun r hr => hnew r hr x List.mem_cons_self)
      (Tx.run_ok.mp hx)
    obtain ⟨hxl, hl⟩ := List.nodup_cons.mp hl
    have hstep := ih hl hrest ?_ ?_
    · obtain ⟨rfl, hnd⟩ := hstep
      exact ⟨by simp, hnd⟩
    · intro r hr y hy
      rcases List.mem_append.mp hr with hr | hr
      · exact hnew r hr y (List.mem_cons_of_mem _ hy)
      · obtain rfl := List.mem_singleton.mp hr
        rintro ⟨-, hname⟩
        have hxy : x.1 = y.1 := TenantRole.asStr_injective hname
        exact hxl (List.mem_map.mpr ⟨y, hy, hxy.symm⟩)
    · simp only [List.map_append, List.map_cons, List.map_nil]
      refine List.nodup_append.mpr ⟨hid, List.nodup_singleton _, ?_⟩
      intro a ha b hb hab
      obtain ⟨r, hr, rfl⟩ := List.mem_map.mp ha
      exact hfresh r hr (hab.trans (List.mem_singleton.mp hb))

/-- The owner's role is among the rows of the system roles. -/
theorem find?_systemRoleRows (now : Time) (t : TenantId) (ids : TenantRole → RoleId) (role : TenantRole) :
    ∃ row ∈ systemRoleRows now t ids, row.id = ids role ∧ row.name = role.asStr ∧
      (systemRoleRows now t ids).find? (fun r => r.tenantId = t ∧ r.name = role.asStr) =
        some row := by
  cases role <;>
    simp [systemRoleRows, systemRoles, systemRoleRow, TenantRole.asStr]

/-- A role found by name inside a transaction. -/
theorem txRoleIdByName_ok {t : TenantId} {name : String} {id : RoleId}
    (h : txRoleIdByName t name db = .ok (id, db')) :
    ∃ r, db.roleNamed? t name = some r ∧ r.id = id ∧ db' = db := by
  unfold txRoleIdByName at h
  obtain ⟨found, db₁, hfound, h⟩ := Tx.bind_ok.mp h
  obtain ⟨hid, rfl⟩ := Prod.mk.inj (Except.ok.inj hfound)
  change (db.roleNamed? t name).map (·.id) = found at hid
  cases hr : db.roleNamed? t name with
  | none =>
    obtain rfl : none = found := by rw [← hid, hr]; rfl
    cases h
  | some r =>
    obtain rfl : some r.id = found := by rw [← hid, hr]; rfl
    obtain ⟨rfl, rfl⟩ := Prod.mk.inj (Except.ok.inj h)
    exact ⟨r, rfl, rfl, rfl⟩

/-- A pair of the seeded permissions. -/
theorem mem_seedPairs {t : TenantId} {rp : RolePermissionRow} :
    rp ∈ db.seedPairs t ↔ ∃ r ∈ db.tenantRoles, r.tenantId = t ∧ r.isSystem = true ∧
      ∃ p ∈ db.permissions, rp = ⟨r.id, p.id⟩ ∧ seedGrants r.name p.name = true := by
  simp only [Db.seedPairs, List.mem_flatMap, List.mem_map, List.mem_filter, decide_eq_true_eq]
  constructor
  · rintro ⟨r, ⟨hr, ht, hs⟩, p, ⟨hp, hg⟩, rfl⟩; exact ⟨r, hr, ht, hs, p, hp, rfl, hg⟩
  · rintro ⟨r, hr, ht, hs, p, hp, rfl, hg⟩; exact ⟨r, ⟨hr, ht, hs⟩, p, ⟨hp, hg⟩, rfl⟩

/-- The row a created tenant is returned with. -/
theorem createTenantTx_row {tenant : Tenant} {ids : TenantRole → RoleId} {row : TenantRow}
    (h : createTenantTx now tenant ids db = .ok (row, db')) :
    ∃ name, row = { TenantRow.ofTenant tenant with name } := by
  unfold createTenantTx at h
  obtain ⟨row₀, _, hins, h⟩ := Tx.bind_ok.mp h
  obtain ⟨_, _, -, h⟩ := Tx.bind_ok.mp h
  obtain ⟨_, _, -, h⟩ := Tx.bind_ok.mp h
  obtain ⟨_, _, -, h⟩ := Tx.bind_ok.mp h
  obtain ⟨rfl, rfl⟩ := Prod.mk.inj (Except.ok.inj h)
  obtain ⟨name, rfl, -⟩ := insertTenant_ok (Tx.run_ok.mp hins)
  exact ⟨name, rfl⟩

/-- **A created tenant**, in a database where no row refers to it yet: its row, its four
system roles with their seeded permissions, and its owner's membership. -/
theorem createTenantTx_ok {tenant : Tenant} {ids : TenantRole → RoleId} {row : TenantRow}
    (hroles : ∀ r ∈ db.tenantRoles, ∃ t ∈ db.tenants, t.id = r.tenantId)
    (hids : (db.tenantRoles.map (·.id)).Nodup)
    (h : createTenantTx now tenant ids db = .ok (row, db')) :
    ∃ name, row = { TenantRow.ofTenant tenant with name } ∧ db.activeOwned tenant.ownerId < 2 ∧
      (∀ t ∈ db.tenants, t.id ≠ tenant.id) ∧ (∀ t ∈ db.tenants, t.slug ≠ tenant.slug.text) ∧
      (∃ u ∈ db.users, u.id = tenant.ownerId) ∧
      (∀ m ∈ db.memberships, ¬ m.hasKey tenant.id tenant.ownerId) ∧
      ((db.tenantRoles ++ systemRoleRows now tenant.id ids).map (·.id)).Nodup ∧
      ∃ seeds : List RolePermissionRow,
        (∀ rp : RolePermissionRow, rp ∈ seeds → ∃ r ∈ systemRoleRows now tenant.id ids,
          ∃ p ∈ db.permissions, rp = ⟨r.id, p.id⟩ ∧ seedGrants r.name p.name = true) ∧
        (∀ r ∈ systemRoleRows now tenant.id ids, ∀ p ∈ db.permissions,
          seedGrants r.name p.name = true →
            ⟨r.id, p.id⟩ ∈ db.rolePermissions ∨ (⟨r.id, p.id⟩ : RolePermissionRow) ∈ seeds) ∧
        db' = { db with
          tenants := db.tenants ++ [row]
          memberships := db.memberships ++ [ownerMembership tenant (ids .owner)]
          tenantRoles := db.tenantRoles ++ systemRoleRows now tenant.id ids
          rolePermissions := db.rolePermissions ++ seeds } := by
  unfold createTenantTx at h
  obtain ⟨row₀, db₁, hins, h⟩ := Tx.bind_ok.mp h
  obtain ⟨_, db₂, hseed, h⟩ := Tx.bind_ok.mp h
  obtain ⟨ownerId, db₃, hown, h⟩ := Tx.bind_ok.mp h
  obtain ⟨m, db₄, hmem, h⟩ := Tx.bind_ok.mp h
  obtain ⟨rfl, rfl⟩ := Prod.mk.inj (Except.ok.inj h)
  obtain ⟨name, rfl, hlimit, hid, hslug, huser, rfl⟩ := insertTenant_ok (Tx.run_ok.mp hins)
  have hnone : ∀ r ∈ db.tenantRoles, r.tenantId ≠ tenant.id := by
    intro r hr heq
    obtain ⟨t, ht, hte⟩ := hroles r hr
    exact hid t ht (hte.trans heq)
  unfold seedSystemRoles at hseed
  obtain ⟨_, db₅, hroles', hseed⟩ := Tx.bind_ok.mp hseed
  obtain ⟨rfl, hnd⟩ := insertSystemRoles_ok systemRoles (by decide) hroles'
    (fun r hr x _ hx => hnone r hr hx.1) hids
  obtain ⟨-, rfl⟩ := Prod.mk.inj (Except.ok.inj (Tx.run_ok.mp hseed))
  obtain ⟨orow, hrowmem, horow, -, hfind⟩ := find?_systemRoleRows now tenant.id ids .owner
  have hname : (db.tenantRoles ++ systemRoleRows now tenant.id ids).find?
      (fun r => r.tenantId = tenant.id ∧ r.name = "owner") = some orow := by
    rw [List.find?_append, List.find?_eq_none.mpr (by simpa using fun r hr h => absurd h (hnone r hr))]
    exact hfind
  obtain ⟨r, hr, hrid, rfl⟩ := txRoleIdByName_ok hown
  obtain rfl := Option.some.inj (hname.symm.trans hr)
  obtain rfl := hrid.symm.trans horow
  obtain ⟨hkey, -, -, -, -, rfl⟩ := insertMembership_ok (Tx.run_ok.mp hmem)
  refine ⟨name, rfl, hlimit, hid, hslug, huser, hkey, hnd, _, ?_, ?_, rfl⟩
  · intro rp hrp
    obtain ⟨r, hr, hrt, -, p, hp, rfl, hg⟩ := mem_seedPairs.mp (List.mem_filter.mp hrp).1
    rcases List.mem_append.mp hr with hr | hr
    · exact absurd hrt (hnone r hr)
    · exact ⟨r, hr, p, hp, rfl, hg⟩
  · intro r hr p hp hg
    by_cases hold : ⟨r.id, p.id⟩ ∈ db.rolePermissions
    · exact .inl hold
    · obtain ⟨x, -, rfl⟩ := List.mem_map.mp hr
      refine .inr (List.mem_filter.mpr ⟨mem_seedPairs.mpr ?_, decide_eq_true hold⟩)
      exact ⟨_, List.mem_append_right _ hr, rfl, rfl, p, hp, rfl, hg⟩

/-- Permissions inserted for a role. -/
theorem insertRolePermissions_ok {id : RoleId} {ps : List PermissionId}
    (h : insertRolePermissions now id ps db = .ok ((), db')) :
    db' = { db with rolePermissions := db.rolePermissions ++ ps.dedup.map fun p => ⟨id, p⟩ } := by
  unfold insertRolePermissions at h
  split at h
  · rename_i hnil
    obtain ⟨-, rfl⟩ := Prod.mk.inj (Except.ok.inj h)
    simp [hnil]
  · obtain ⟨-, rfl⟩ := insertRolePermissionRows_ok (Tx.run_ok.mp h)
    rfl

/-- A created role. -/
theorem createRoleTx_ok {role : TenantRoleAggregate}
    (h : createRoleTx now role db = .ok ((), db')) :
    ∃ name, (∀ r ∈ db.tenantRoles, r.id ≠ role.id) ∧
      (∀ r ∈ db.tenantRoles, r.tenantId = role.tenantId → r.name ≠ name) ∧
      (∃ t ∈ db.tenants, t.id = role.tenantId) ∧
      db' = { db with
        tenantRoles := db.tenantRoles ++ [{ TenantRoleRow.ofRole role with name }]
        rolePermissions :=
          db.rolePermissions ++ role.permissionIds.dedup.map fun p => ⟨role.id, p⟩ } := by
  unfold createRoleTx at h
  obtain ⟨_, db₁, hins, h⟩ := Tx.bind_ok.mp h
  obtain ⟨name, hid, hname, htenant, -, rfl⟩ := insertRole_ok (Tx.run_ok.mp hins)
  obtain rfl := insertRolePermissions_ok h
  exact ⟨name, hid, hname, htenant, rfl⟩

/-- A role row after its permissions were replaced. -/
def TenantRoleRow.touched (r : TenantRoleRow) (t : TenantId) (id : RoleId) (now : Time) :
    TenantRoleRow :=
  if r.tenantId = t ∧ r.id = id then { r with updatedAt := now } else r

/-- Replaced permissions of a role. -/
theorem updateRolePermissionsTx_ok {t : TenantId} {id : RoleId} {ps : List PermissionId}
    (h : updateRolePermissionsTx now t id ps db = .ok ((), db')) :
    (∃ r ∈ db.tenantRoles, r.tenantId = t ∧ r.id = id) ∧
      db' = { db with
        tenantRoles := db.tenantRoles.map (·.touched t id now)
        rolePermissions :=
          db.rolePermissions.filter (·.roleId ≠ id) ++ ps.dedup.map fun p => ⟨id, p⟩ } := by
  unfold updateRolePermissionsTx at h
  obtain ⟨rows, db₁, htouch, h⟩ := Tx.bind_ok.mp h
  obtain ⟨hrows, rfl⟩ := Prod.mk.inj (Except.ok.inj (Tx.run_ok.mp htouch))
  split at h
  · obtain ⟨_, _, hfail, -⟩ := Tx.bind_ok.mp h
    cases hfail
  · rename_i hpos
    obtain ⟨_, db₂, hdel, h⟩ := Tx.bind_ok.mp h
    obtain ⟨-, rfl⟩ := Prod.mk.inj (Except.ok.inj (Tx.run_ok.mp hdel))
    obtain rfl := insertRolePermissions_ok h
    refine ⟨?_, rfl⟩
    have hcount : 0 < db.tenantRoles.countP fun r => r.tenantId = t ∧ r.id = id := by omega
    simpa using List.countP_pos_iff.mp hcount

end Klynt
