import Mathlib.Data.Set.Basic
import Klynt.System.WellFormed

set_option relaxedAutoImplicit false
set_option autoImplicit false

/-!
# What roles grant

Four writers link permissions to roles: the creation of a tenant seeds its system roles, and
custom roles are created, updated and deleted.  `RoleOrigin` says once for all of them where a
role and what it grants comes from, and an invariant on roles and what they grant is a condition
on the calls.

## Main definitions

* `Db.granted`, `Db.seeded` — what a role grants, and what a system role is seeded with.
* `RoleOrigin` — where a role comes from with what it grants.
* `RoleProperty`, `TenantCall.Respects` — a property of roles, and the calls that keep it.

## Main results

* `TenantEffect.roleOrigin` — every role after a call has such an origin.
* `rolesHave_of_run` — in runs of calls that respect a property, every role has it.
-/

namespace Klynt

/-! ## Granted permissions -/

/-- The permissions linked to a role. -/
def Db.granted (db : Db) (id : RoleId) : Set PermissionId := {p | ⟨id, p⟩ ∈ db.rolePermissions}

/-- The permissions a system role of a given name is seeded with. -/
def Db.seeded (db : Db) (name : String) : Set PermissionId :=
  {p | ∃ row ∈ db.permissions, row.id = p ∧ seedGrants name row.name = true}

/-- Permissions are linked to existing roles. -/
def Db.PairsOk (db : Db) : Prop := ∀ rp ∈ db.rolePermissions, ∃ r ∈ db.tenantRoles, r.id = rp.roleId

section Granted

variable {db : Db} {id id' : RoleId} {l : List RolePermissionRow} {ps : List PermissionId}

/-- A permission linked to a role. -/
lemma mem_granted {p : PermissionId} : p ∈ db.granted id ↔ ⟨id, p⟩ ∈ db.rolePermissions := Iff.rfl

/-- A role that does not exist grants nothing. -/
lemma Db.PairsOk.granted_of_fresh (h : db.PairsOk) (hid : ∀ r ∈ db.tenantRoles, r.id ≠ id) :
    db.granted id = ∅ := by
  refine Set.eq_empty_of_forall_notMem fun p hp => ?_
  obtain ⟨r, hr, hrid⟩ := h _ hp
  exact hid r hr hrid

/-- Links of other roles do not matter. -/
lemma granted_append_of_ne (h : ∀ rp ∈ l, rp.roleId ≠ id) :
    ({ db with rolePermissions := db.rolePermissions ++ l } : Db).granted id = db.granted id := by
  ext p
  rw [mem_granted, mem_granted]
  change _ ∈ db.rolePermissions ++ l ↔ _
  rw [List.mem_append]
  exact or_iff_left fun hp => h _ hp rfl

/-- Linked permissions are granted. -/
lemma granted_append_map :
    ({ db with rolePermissions := db.rolePermissions ++ ps.map fun p => ⟨id, p⟩ } : Db).granted id =
      db.granted id ∪ {p | p ∈ ps} := by
  ext p
  rw [Set.mem_union, mem_granted, mem_granted]
  change _ ∈ db.rolePermissions ++ _ ↔ _
  rw [List.mem_append]
  refine or_congr_right ?_
  constructor
  · intro hp
    obtain ⟨q, hq, heq⟩ := List.mem_map.mp hp
    obtain rfl := (RolePermissionRow.mk.inj heq).2
    exact hq
  · intro hp
    exact List.mem_map.mpr ⟨p, hp, rfl⟩

/-- Dropping the links of other roles does not matter. -/
lemma granted_filter {q : RolePermissionRow → Bool} (h : ∀ p, q ⟨id, p⟩ = true) :
    ({ db with rolePermissions := db.rolePermissions.filter q } : Db).granted id =
      db.granted id := by
  ext p
  rw [mem_granted, mem_granted]
  change _ ∈ db.rolePermissions.filter q ↔ _
  rw [List.mem_filter]
  exact and_iff_left (h p)

/-- The links of a role are replaced. -/
lemma granted_replace :
    ({ db with rolePermissions := db.rolePermissions.filter (·.roleId ≠ id) ++
        ps.dedup.map fun p => ⟨id, p⟩ } : Db).granted id = {p | p ∈ ps} := by
  ext p
  rw [mem_granted]
  constructor
  · intro hp
    rcases List.mem_append.mp hp with hp | hp
    · exact absurd rfl (of_decide_eq_true (List.mem_filter.mp hp).2)
    · obtain ⟨q, hq, heq⟩ := List.mem_map.mp hp
      obtain rfl := (RolePermissionRow.mk.inj heq).2
      exact List.mem_dedup.mp hq
  · intro hp
    exact List.mem_append_right _ (List.mem_map.mpr ⟨p, List.mem_dedup.mpr hp, rfl⟩)

end Granted

/-! ## Where roles come from -/

variable [Unicode]

/-- The checks of `createTenant` and of its transaction on the arguments and the tables. -/
def Db.MayCreate (db : Db) (actor : UserId) (slug name : String) : Prop :=
  ∃ s, TenantSlug.parse slug = .ok s ∧ (trim name).toList ≠ [] ∧
    (∀ t ∈ db.tenants, t.slug ≠ s.text) ∧ db.activeOwned actor < 2 ∧ ∃ u ∈ db.users, u.id = actor

/-- Where a role `r'` found after a call comes from, and what it grants. -/
inductive RoleOrigin (db db' : Db) (actor : UserId) (call : TenantCall) (r' : TenantRoleRow) : Prop
  /-- The role existed and grants what it granted. -/
  | kept {r : TenantRoleRow} (hr : r ∈ db.tenantRoles)
      (hsame : ∃ time, r' = { r with updatedAt := time })
      (hgranted : db'.granted r'.id = db.granted r.id)
  /-- The role existed, and the call replaced what it grants. -/
  | replaced {slug : String} {permissionIds : List PermissionId} {row : TenantRow}
      {r : TenantRoleRow} (hcall : call = .updateRole slug r.id permissionIds)
      (hrow : db.tenantNamed? slug = some row)
      (hgrant : db.Grants row.id actor Permission.manageRoles) (hr : r ∈ db.tenantRoles)
      (ht : r.tenantId = row.id) (hsame : ∃ time, r' = { r with updatedAt := time })
      (hgranted : db'.granted r'.id = {p | p ∈ permissionIds})
  /-- The role was seeded with a new tenant. -/
  | seeded {slug name : String} {role : TenantRole} (hcall : call = .createTenant slug name)
      (hmay : db.MayCreate actor slug name)
      (hname : r'.name = role.asStr) (hsystem : r'.isSystem = true) (hcustom : r'.isCustom = false)
      (hgranted : db'.granted r'.id = db.seeded role.asStr)
  /-- The role was created by the call. -/
  | created {slug name description : String} {permissionIds : List PermissionId} {row : TenantRow}
      (hcall : call = .createRole slug name description permissionIds)
      (hrow : db.tenantNamed? slug = some row)
      (hgrant : db.Grants row.id actor Permission.manageRoles) (hsystem : r'.isSystem = false)
      (hcustom : r'.isCustom = true) (hgranted : db'.granted r'.id = {p | p ∈ permissionIds})

section Effect

variable {now : Time} {actor : UserId} {db db' : Db} {call : TenantCall} {complete : Bool}
  {event : Option MembershipEvent}

/-- A call that leaves roles and links alone. -/
lemma RoleOrigin.of_eq {r : TenantRoleRow} (hr : r ∈ db.tenantRoles)
    (hlinks : db'.rolePermissions = db.rolePermissions) : RoleOrigin db db' actor call r := by
  refine .kept hr ⟨r.updatedAt, rfl⟩ ?_
  unfold Db.granted
  rw [hlinks]

/-- **Where every role after a call comes from**, and links still belong to roles. -/
lemma TenantEffect.roleOrigin (h : TenantEffect now actor db call complete event db')
    (hw : db.WellFormed) (hpairs : db.PairsOk) :
    db'.PairsOk ∧ ∀ r' ∈ db'.tenantRoles, RoleOrigin db db' actor call r' := by
  have hkept : ∀ {db' : Db}, db'.tenantRoles = db.tenantRoles →
      db'.rolePermissions = db.rolePermissions →
      db'.PairsOk ∧ ∀ r' ∈ db'.tenantRoles, RoleOrigin db db' actor call r' := by
    intro db' hroles hlinks
    refine ⟨?_, fun r hr => .of_eq (hroles ▸ hr) hlinks⟩
    unfold Db.PairsOk
    rwa [hroles, hlinks]
  cases h with
  | @created slug name tenant ids row db' hslug hnew h =>
    obtain ⟨_, rfl, hlimit, -, htaken, huser, -, hids, seeds, hseeds, hall, rfl⟩ :=
      createTenantTx_ok hw.roles.roleTenant hw.roles.roleIds h
    have hmay : db.MayCreate actor slug name := by
      obtain ⟨hblank, htenant⟩ := Tenant.create_eq_ok.mp hnew
      have howner : tenant.ownerId = actor := congrArg Tenant.ownerId htenant
      rw [howner] at hlimit huser
      exact ⟨tenant.slug, hslug, hblank, htaken, hlimit, huser⟩
    rw [List.map_append] at hids
    have hdisjoint := (List.nodup_append.mp hids).2.2
    refine ⟨fun rp hrp => ?_, fun r' hr' => ?_⟩
    · rcases List.mem_append.mp hrp with hrp | hrp
      · obtain ⟨r, hr, hid⟩ := hpairs rp hrp
        exact ⟨r, List.mem_append_left _ hr, hid⟩
      · obtain ⟨r, hr, p, -, rfl, -⟩ := hseeds rp hrp
        exact ⟨r, List.mem_append_right _ hr, rfl⟩
    · rcases List.mem_append.mp hr' with hr' | hr'
      · refine .kept hr' ⟨r'.updatedAt, rfl⟩ ?_
        refine granted_append_of_ne fun rp hrp hid => ?_
        obtain ⟨r, hr, p, -, rfl, -⟩ := hseeds rp hrp
        exact hdisjoint _ (List.mem_map_of_mem hr') _ (List.mem_map_of_mem hr) hid.symm
      · obtain ⟨x, hx, rfl⟩ := List.mem_map.mp hr'
        have hname : (systemRoleRow now tenant.id (ids x.1) x.1 x.2).name = x.1.asStr := rfl
        refine .seeded rfl hmay hname rfl rfl ?_
        have hfresh : db.granted (ids x.1) = ∅ := hpairs.granted_of_fresh fun r hr hid =>
          hdisjoint _ (List.mem_map_of_mem hr) _ (List.mem_map_of_mem hr') hid
        ext p
        rw [mem_granted]
        constructor
        · intro hp
          rcases List.mem_append.mp hp with hp | hp
          · have hnone : p ∈ db.granted (ids x.1) := hp
            rw [hfresh] at hnone
            exact hnone.elim
          · obtain ⟨r, hr, q, hq, heq, hseed⟩ := hseeds _ hp
            obtain ⟨hrid, rfl⟩ := RolePermissionRow.mk.inj heq
            -- the seeded rows have distinct ids
            have hr : r = systemRoleRow now tenant.id (ids x.1) x.1 x.2 :=
              Keyed.eq_of_key_eq _ (List.nodup_append.mp hids).2.1 hr hr' hrid.symm
            rw [hr] at hseed
            exact ⟨q, hq, rfl, hseed⟩
        · rintro ⟨q, hq, rfl, hseed⟩
          rcases hall _ hr' q hq hseed with hold | hnew
          · exact List.mem_append_left _ hold
          · exact List.mem_append_right _ hnew
  | renamed hrow htenant hgrant h =>
    obtain ⟨-, rfl⟩ | ⟨-, name', -, -, rfl⟩ := updateTenant_ok h
    · exact hkept rfl rfl
    · exact hkept rfl rfl
  | @deleted slug row n db' hrow hgrant h =>
    obtain ⟨-, rfl, -⟩ | ⟨-, rfl⟩ := deleteTenant_ok h
    · exact hkept rfl rfl
    · have hgone : ∀ r ∈ db.tenantRoles, r.id ∈ db.roleIdsOf row.id → r.tenantId = row.id := by
        intro r hr hid
        obtain ⟨s, hs, hsid⟩ := List.mem_map.mp hid
        obtain ⟨hs, hst⟩ := List.mem_filter.mp hs
        obtain rfl := Keyed.eq_of_key_eq _ hw.roles.roleIds hs hr hsid
        exact of_decide_eq_true hst
      refine ⟨fun rp hrp => ?_, fun r' hr' => ?_⟩
      · obtain ⟨hrp, hid⟩ := List.mem_filter.mp hrp
        obtain ⟨r, hr, hrid⟩ := hpairs rp hrp
        refine ⟨r, List.mem_filter.mpr ⟨hr, decide_eq_true fun ht => ?_⟩, hrid⟩
        refine of_decide_eq_true hid ?_
        rw [← hrid]
        exact List.mem_map.mpr ⟨r, List.mem_filter.mpr ⟨hr, decide_eq_true ht⟩, rfl⟩
      · obtain ⟨hr', hne⟩ := List.mem_filter.mp hr'
        refine .kept hr' ⟨r'.updatedAt, rfl⟩ (granted_filter fun p => decide_eq_true fun hid => ?_)
        exact of_decide_eq_true hne (hgone r' hr' hid)
  | memberAdded hrow hgrant hu hr h =>
    obtain ⟨-, -, -, -, -, rfl⟩ := insertMembership_ok h
    exact hkept rfl rfl
  | memberUpdated hrow hgrant hu hr h hn =>
    obtain ⟨-, -, rfl⟩ := updateMembershipRole_ok h
    exact hkept rfl rfl
  | memberRemoved hrow hgrant hu h hn =>
    obtain ⟨-, rfl⟩ := deleteMembership_ok h
    exact hkept rfl rfl
  | inviteCreated hrow hgrant hr htenant hroleId hby hpending h =>
    obtain ⟨email, -, -, -, -, -, rfl⟩ := insertInvite_ok h
    exact hkept rfl rfl
  | inviteInserted hinv h =>
    obtain ⟨-, -, -, -, -, rfl⟩ := insertMembership_ok h
    exact hkept rfl rfl
  | inviteAccepted hinv h hmark =>
    obtain ⟨-, -, -, -, -, rfl⟩ := insertMembership_ok h
    obtain ⟨-, rfl⟩ := markInviteAccepted_ok hmark
    exact hkept rfl rfl
  | @roleCreated slug name description permissionIds row role db' hrow hgrant htenant hcustom hperms h =>
    obtain ⟨name', hid, -, -, rfl⟩ := createRoleTx_ok h
    refine ⟨fun rp hrp => ?_, fun r' hr' => ?_⟩
    · rcases List.mem_append.mp hrp with hrp | hrp
      · obtain ⟨r, hr, hid⟩ := hpairs rp hrp
        exact ⟨r, List.mem_append_left _ hr, hid⟩
      · obtain ⟨p, -, rfl⟩ := List.mem_map.mp hrp
        exact ⟨_, List.mem_append_right _ (List.mem_singleton_self _), rfl⟩
    · rcases List.mem_append.mp hr' with hr' | hr'
      · refine .kept hr' ⟨r'.updatedAt, rfl⟩ (granted_append_of_ne fun rp hrp heq => ?_)
        obtain ⟨p, -, rfl⟩ := List.mem_map.mp hrp
        exact hid r' hr' heq.symm
      · obtain rfl := List.mem_singleton.mp hr'
        refine .created rfl hrow hgrant hcustom.1 hcustom.2 ?_
        have hgranted := @granted_append_map db role.id role.permissionIds.dedup
        rw [hpairs.granted_of_fresh hid, Set.empty_union] at hgranted
        refine hgranted.trans (Set.ext fun p => ?_)
        change p ∈ role.permissionIds.dedup ↔ p ∈ permissionIds
        rw [List.mem_dedup, hperms]
  | @roleUpdated slug roleId permissionIds row db' hrow hgrant h =>
    obtain ⟨⟨s, hs, hst, hsid⟩, rfl⟩ := updateRolePermissionsTx_ok h
    have htouched : ∀ r : TenantRoleRow, ∃ time,
        r.touched row.id roleId now = { r with updatedAt := time } := by
      intro r
      unfold TenantRoleRow.touched
      split
      · exact ⟨now, rfl⟩
      · exact ⟨r.updatedAt, rfl⟩
    refine ⟨fun rp hrp => ?_, fun r' hr' => ?_⟩
    · have hrole : ∀ r ∈ db.tenantRoles, ∃ r' ∈ db.tenantRoles.map (·.touched row.id roleId now),
          r'.id = r.id := by
        intro r hr
        obtain ⟨time, heq⟩ := htouched r
        exact ⟨_, List.mem_map_of_mem hr, by rw [heq]⟩
      rcases List.mem_append.mp hrp with hrp | hrp
      · obtain ⟨r, hr, hid⟩ := hpairs rp (List.mem_filter.mp hrp).1
        obtain ⟨r', hr', hid'⟩ := hrole r hr
        exact ⟨r', hr', hid'.trans hid⟩
      · obtain ⟨p, -, rfl⟩ := List.mem_map.mp hrp
        obtain ⟨r', hr', hid'⟩ := hrole s hs
        exact ⟨r', hr', hid'.trans hsid⟩
    · obtain ⟨r, hr, rfl⟩ := List.mem_map.mp hr'
      obtain ⟨time, heq⟩ := htouched r
      by_cases hid : r.id = roleId
      · obtain rfl := Keyed.eq_of_key_eq _ hw.roles.roleIds hr hs (hid.trans hsid.symm)
        subst hid
        refine .replaced rfl hrow hgrant hr hst ⟨time, heq⟩ ?_
        rw [heq]
        exact granted_replace
      · refine .kept hr ⟨time, heq⟩ ?_
        rw [heq]
        refine (granted_append_of_ne fun rp hrp hne => ?_).trans
          (granted_filter fun p => decide_eq_true hid)
        obtain ⟨p, -, rfl⟩ := List.mem_map.mp hrp
        exact hid hne.symm
  | @roleDeleted slug roleId row n db' hrow hgrant h hn =>
    obtain ⟨-, rfl⟩ | ⟨-, ⟨s, hs, hst, hsid, -⟩, -, -, rfl⟩ := deleteRole_ok h
    · exact hkept rfl rfl
    · refine ⟨fun rp hrp => ?_, fun r' hr' => ?_⟩
      · obtain ⟨hrp, hid⟩ := List.mem_filter.mp hrp
        obtain ⟨r, hr, hrid⟩ := hpairs rp hrp
        refine ⟨r, List.mem_filter.mpr ⟨hr, decide_eq_true fun hgone => ?_⟩, hrid⟩
        exact of_decide_eq_true hid (hrid.symm.trans hgone.2)
      · obtain ⟨hr', hkeep⟩ := List.mem_filter.mp hr'
        refine .kept hr' ⟨r'.updatedAt, rfl⟩ (granted_filter fun p => decide_eq_true fun hid => ?_)
        obtain rfl := Keyed.eq_of_key_eq _ hw.roles.roleIds hr' hs (Eq.trans hid hsid.symm)
        exact of_decide_eq_true hkeep ⟨hst, hsid⟩

/-- No call changes the permission catalogue. -/
lemma TenantEffect.permissions (h : TenantEffect now actor db call complete event db')
    (hw : db.WellFormed) : db'.permissions = db.permissions := by
  cases h with
  | created hslug hnew h =>
    obtain ⟨_, rfl, -, -, -, -, -, -, seeds, -, -, rfl⟩ :=
      createTenantTx_ok hw.roles.roleTenant hw.roles.roleIds h
    rfl
  | renamed hrow htenant hgrant h => obtain ⟨-, rfl⟩ | ⟨-, _, -, -, rfl⟩ := updateTenant_ok h <;> rfl
  | deleted hrow hgrant h => obtain ⟨-, rfl, -⟩ | ⟨-, rfl⟩ := deleteTenant_ok h <;> rfl
  | memberAdded hrow hgrant hu hr h => obtain ⟨-, -, -, -, -, rfl⟩ := insertMembership_ok h; rfl
  | memberUpdated hrow hgrant hu hr h hn => obtain ⟨-, -, rfl⟩ := updateMembershipRole_ok h; rfl
  | memberRemoved hrow hgrant hu h hn => obtain ⟨-, rfl⟩ := deleteMembership_ok h; rfl
  | inviteCreated hrow hgrant hr htenant hroleId hby hpending h =>
    obtain ⟨_, -, -, -, -, -, rfl⟩ := insertInvite_ok h; rfl
  | inviteInserted hinv h => obtain ⟨-, -, -, -, -, rfl⟩ := insertMembership_ok h; rfl
  | inviteAccepted hinv h hmark =>
    obtain ⟨-, -, -, -, -, rfl⟩ := insertMembership_ok h
    obtain ⟨-, rfl⟩ := markInviteAccepted_ok hmark
    rfl
  | roleCreated hrow hgrant htenant hcustom hperms h =>
    obtain ⟨_, -, -, -, rfl⟩ := createRoleTx_ok h; rfl
  | roleUpdated hrow hgrant h => obtain ⟨-, rfl⟩ := updateRolePermissionsTx_ok h; rfl
  | roleDeleted hrow hgrant h hn => obtain ⟨-, rfl⟩ | ⟨-, -, -, -, rfl⟩ := deleteRole_ok h <;> rfl

end Effect

/-! ## Invariants on roles -/

/-- A property of roles with what they grant. -/
abbrev RoleProperty : Type := TenantRoleRow → Set PermissionId → Prop

/-- Every role has the property. -/
def Db.EachRole (db : Db) (Φ : RoleProperty) : Prop :=
  ∀ r ∈ db.tenantRoles, Φ r (db.granted r.id)

/-- What a call writes has the property: the seeds of a tenant it may create, the permissions of
a role it creates, and those it replaces the permissions of a role of the tenant by. -/
def TenantCall.Respects (Φ : RoleProperty) (db : Db) (ctx : ExecutionContext) : TenantCall → Prop
  | createTenant slug name => ∀ actor : UserId, ctx.actorId = some actor.inner →
    db.MayCreate actor slug name → ∀ (r : TenantRoleRow) (role : TenantRole), r.name = role.asStr →
      r.isSystem = true → r.isCustom = false → Φ r (db.seeded role.asStr)
  | createRole slug _ _ permissionIds => ∀ (actor : UserId) (row : TenantRow),
    ctx.actorId = some actor.inner → db.tenantNamed? slug = some row →
    db.Grants row.id actor Permission.manageRoles → ∀ r : TenantRoleRow, r.isSystem = false →
      r.isCustom = true → Φ r {p | p ∈ permissionIds}
  | updateRole slug roleId permissionIds => ∀ (actor : UserId) (row : TenantRow),
    ctx.actorId = some actor.inner → db.tenantNamed? slug = some row →
    db.Grants row.id actor Permission.manageRoles → ∀ r ∈ db.tenantRoles, r.tenantId = row.id →
      r.id = roleId → Φ r (db.granted r.id) → Φ r {p | p ∈ permissionIds}
  | _ => True

/-- The label of a step respects a property. -/
def TenantLabel.Respects (Φ : RoleProperty) (db : Db) : TenantLabel → Prop
  | call ctx c _ => c.Respects Φ db ctx
  | other => True

/-- A state in which every role has the property, with the permission catalogue `catalogue`. -/
structure Db.RolesHave (Φ : RoleProperty) (catalogue : List PermissionRow) (db : Db) : Prop where
  /-- The tenant tables are well formed. -/
  wellFormed : db.WellFormed
  /-- Permissions are linked to existing roles. -/
  pairs : db.PairsOk
  /-- The permission catalogue. -/
  permissions : db.permissions = catalogue
  /-- Every role has the property. -/
  each : db.EachRole Φ

section Invariant

variable {Φ : RoleProperty} {catalogue : List PermissionRow} {enabled : Bool}
  {backend : SessionBackend} {F : Req → Prop}

omit [Unicode] in
/-- Without tenants there are no roles. -/
lemma Db.NoTenants.rolesHave {db : Db} (h : db.NoTenants) : db.RolesHave Φ db.permissions where
  wellFormed := h.wellFormed
  pairs := by
    unfold Db.PairsOk
    rw [h.rolePermissions]
    nofun
  permissions := rfl
  each := by
    unfold Db.EachRole
    rw [h.tenantRoles]
    nofun

omit [Unicode] in
/-- The tables of the other services do not matter. -/
lemma Db.RolesHave.congr {db db' : Db} (h : db.RolesHave Φ catalogue) (hs : db.SameTenancy db') :
    db'.RolesHave Φ catalogue := by
  have hw := h.wellFormed.congr hs
  obtain ⟨_, _, _, _, _, rfl⟩ := hs
  exact ⟨hw, h.pairs, h.permissions, h.each⟩

/-- **A step that respects a property keeps it.** -/
lemma TenantStep.rolesHave (hΦ : ∀ r time S, Φ r S → Φ { r with updatedAt := time } S)
    {w w' : World} {l : TenantLabel} (h : w.db.RolesHave Φ catalogue) (hl : l.Respects Φ w.db)
    (hstep : TenantStep (platform enabled backend) F w l w') : w'.db.RolesHave Φ catalogue := by
  cases hstep with
  | other hs => exact h.congr hs
  | @call ctx call r w w' hexec =>
    obtain ⟨hs, -⟩ | ⟨actor, _, _, db, hctx, heff, hs, -⟩ := TenantCall.effect_of_exec hexec
    · exact h.congr hs
    · obtain ⟨hpairs, horigin⟩ := heff.roleOrigin h.wellFormed h.pairs
      refine Db.RolesHave.congr ⟨heff.wellFormed h.wellFormed, hpairs,
        (heff.permissions h.wellFormed).trans h.permissions, fun r' hr' => ?_⟩ hs
      cases horigin r' hr' with
      | @kept r hr hsame hgranted =>
        obtain ⟨time, rfl⟩ := hsame
        rw [hgranted]
        exact hΦ _ _ _ (h.each r hr)
      | @replaced slug permissionIds row r hcall hrow hgrant hr ht hsame hgranted =>
        obtain ⟨time, rfl⟩ := hsame
        subst hcall
        rw [hgranted]
        exact hΦ _ _ _ (hl actor row hctx hrow hgrant r hr ht rfl (h.each r hr))
      | @seeded slug name role hcall hmay hname hsystem hcustom hgranted =>
        subst hcall
        rw [hgranted]
        exact hl actor hctx hmay r' role hname hsystem hcustom
      | @created slug name description permissionIds row hcall hrow hgrant hsystem hcustom hgranted =>
        subst hcall
        rw [hgranted]
        exact hl actor row hctx hrow hgrant r' hsystem hcustom

/-- **Runs of steps that respect a property keep it.** -/
theorem rolesHave_of_run (hΦ : ∀ r time S, Φ r S → Φ { r with updatedAt := time } S)
    {init : World → Prop} (hinit : ∀ w, init w → w.db.RolesHave Φ catalogue)
    {tr : List (World × TenantLabel)} {w : World}
    (h : Run init (TenantStep (platform enabled backend) F) tr w)
    (hl : ∀ e ∈ tr, e.2.Respects Φ e.1.db) : w.db.RolesHave Φ catalogue :=
  h.invariant_of_forall (I := fun w => w.db.RolesHave Φ catalogue)
    (C := fun w l => l.Respects Φ w.db) hinit (fun _ _ _ hI hC hs => hs.rolesHave hΦ hI hC) hl

end Invariant

end Klynt
