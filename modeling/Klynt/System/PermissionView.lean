import Klynt.Service.UsePermissions
import Klynt.System.Privilege
import Klynt.System.Renaming
import Klynt.System.RolePermissions

set_option relaxedAutoImplicit false
set_option autoImplicit false

/-!
# What a client shows of permissions

A client looks the permissions of its user up in three answers of the service, one of which only
those get who may manage roles.

## Main definitions

* `Db.Linked` — the role of a membership is linked to a permission.
* `UsePermissions.Answered` — no answer is lost.
* `PermissionsAgree` — the client and the service decide alike.

## Main results

* `Db.grants_iff_linked` — what the service decides, on the tables.
* `UsePermissions.hasPermission_settled_iff` — what the client decides, on the tables.
* `permissionsAgree_iff` — when they agree.
* `member_shown_nothing` — a member whose permissions the client does not show.
-/

namespace Klynt

/-- The role of a membership is linked to a permission of a given name. -/
def Db.Linked (db : Db) (m : MembershipRow) (name : String) : Prop :=
  ∃ r ∈ db.tenantRoles, ∃ p ∈ db.permissions, r.tenantId = m.tenantId ∧ r.name = m.role ∧
    p.name = name ∧ ⟨r.id, p.id⟩ ∈ db.rolePermissions

variable [Unicode]

/-! ## Reachable tables -/

/-- What runs keep of the tables that the decisions read. -/
structure Db.Readable (db : Db) : Prop where
  /-- Keys are unique, and rows refer to each other. -/
  wellFormed : db.WellFormed
  /-- The roles of memberships are canonical. -/
  refs : db.RefsOk
  /-- The catalogue is that of the migrations. -/
  migrated : db.Migrated
  /-- Tenants are read back. -/
  tenants : TenantsSound db.tenants db.users

section Run

variable {enabled : Bool} {backend : SessionBackend} {F : Req → Prop}
  {tr : List (World × TenantLabel)} {w : World}

/-- Every step respects no property at all. -/
lemma TenantLabel.respects_trivial (db : Db) (l : TenantLabel) :
    l.Respects (fun _ _ => True) db := by
  cases l with
  | other => trivial
  | call ctx c r =>
    cases c with
    | createTenant slug name => exact fun _ _ _ _ _ _ _ _ => trivial
    | createRole slug name description permissionIds => exact fun _ _ _ _ _ _ _ _ => trivial
    | updateRole slug roleId permissionIds => exact fun _ _ _ _ _ _ _ _ _ _ => trivial
    | _ => trivial

/-- **The catalogue stays** as the migrations leave it. -/
lemma migrated_of_run (h : Run MigratedInit (TenantStep (platform enabled backend) F) tr w) :
    w.db.Migrated := by
  obtain ⟨w₀, ⟨hno, hmigrated⟩, hrun⟩ := h.exists_start
  have hsame : w.db.RolesHave (fun _ _ => True) w₀.db.permissions := by
    refine rolesHave_of_run (fun _ _ _ _ => trivial) ?_ hrun
      fun e _ => TenantLabel.respects_trivial e.1.db e.2
    rintro w rfl
    exact hno.rolesHave
  exact ⟨hsame.permissions ▸ hmigrated.catalogue, hsame.permissions ▸ hmigrated.ids⟩

/-- **Reachable tables are readable.** -/
lemma readable_of_run (laws : LowercaseLaws)
    (h : Run MigratedInit (RestrictedStep (platform enabled backend) F) tr w) : w.db.Readable := by
  have hempty : Run (·.db.NoTenants) (RestrictedStep (platform enabled backend) F) tr w :=
    h.mono_init fun _ hinit => hinit.1
  obtain ⟨hwell, htenants⟩ := tenantsSound_of_run laws hempty
  exact ⟨hwell, refsOk_of_run (hempty.mono_step fun _ _ _ hstep => hstep.1),
    migrated_of_run (h.mono_step fun _ _ _ hstep => hstep.1), htenants⟩

end Run

/-! ## What the service decides -/

section Grants

variable {db : Db} {t : TenantId} {u : UserId} {m : MembershipRow} {name : String}

omit [Unicode] in
/-- The categories of the catalogue. -/
lemma category_of_catalogue : ∀ entry ∈ permissionCatalogue,
    entry.2.2 = "tenant" ∨ entry.2.2 = "content" ∨ entry.2.2 = "platform" := by
  decide

/-- A migrated permission is read back. -/
lemma Db.Migrated.category {p : PermissionRow} (h : db.Migrated) (hp : p ∈ db.permissions) :
    ∃ category, PermissionCategory.fromStr p.category = .ok category := by
  have hentry : (p.name, p.description, p.category) ∈ permissionCatalogue := by
    rw [← h.catalogue]
    exact List.mem_map_of_mem hp
  unfold PermissionCategory.fromStr
  rcases category_of_catalogue _ hentry with hcat | hcat | hcat
  · refine ⟨.tenant, ?_⟩
    rw [show p.category = "tenant" from hcat, toLowercase_eq_self (by rfl)]
    rfl
  · refine ⟨.content, ?_⟩
    rw [show p.category = "content" from hcat, toLowercase_eq_self (by rfl)]
    rfl
  · refine ⟨.platform, ?_⟩
    rw [show p.category = "platform" from hcat, toLowercase_eq_self (by rfl)]
    rfl

omit [Unicode] in
/-- A permission is found by its name. -/
lemma Db.Migrated.find?_name {p : PermissionRow} (h : db.Migrated) (hp : p ∈ db.permissions) :
    db.permissions.find? (·.name = p.name) = some p := by
  have hnames : (db.permissions.map (·.name)).Nodup := by
    have hmap := congrArg (List.map (·.1)) h.catalogue
    rw [List.map_map] at hmap
    rw [show db.permissions.map (·.name) = permissionCatalogue.map (·.1) from hmap]
    decide
  exact Keyed.find?_key_eq _ hnames hp

/-- The role of a membership is found by its name. -/
lemma Db.Readable.roleNamed? (h : db.Readable) {r : TenantRoleRow} (hr : r ∈ db.tenantRoles) :
    db.roleNamed? r.tenantId r.name = some r := by
  have hfind := Keyed.find?_key_eq _ h.wellFormed.roles.roleNames hr
  unfold Db.roleNamed?
  rw [← hfind]
  congr 1
  funext r'
  simp only [Prod.mk.injEq]

/-- **What is granted to a member** is what the role of the membership is linked to. -/
theorem Db.grants_iff_linked (h : db.Readable) (hm : db.membership? t u = some m) :
    db.Grants t u name ↔ db.Linked m name := by
  obtain ⟨hmem, rfl, rfl⟩ := Db.of_membership? hm
  obtain ⟨role, hrole⟩ := h.refs.named m hmem
  have hparse : TenantRole.parse m.role = .ok role := by rw [hrole, TenantRole.parse_asStr]
  constructor
  · rintro ⟨m', role', hm', hparse', r, p, c, hr, hp, -, hlink⟩
    obtain rfl := Option.some.inj (hm.symm.trans hm')
    obtain rfl := Except.ok.inj (hparse.symm.trans hparse')
    obtain ⟨hrmem, ht, hname⟩ := Db.of_roleNamed? hr
    exact ⟨r, hrmem, p, List.mem_of_find?_eq_some hp, ht, hname.trans hrole.symm,
      of_decide_eq_true (List.find?_eq_some_iff_append.mp hp).1, hlink⟩
  · rintro ⟨r, hr, p, hp, ht, hname, rfl, hlink⟩
    obtain ⟨c, hc⟩ := h.migrated.category hp
    refine ⟨m, role, hm, hparse, r, p, c, ?_, h.migrated.find?_name hp, hc, hlink⟩
    rw [← hrole, ← ht, ← hname]
    exact h.roleNamed? hr

end Grants

/-! ## What the client is answered -/

section Answers

variable {w : World} {row : TenantRow} {u : UserId} {m : MembershipRow}

/-- A tenant is found by its slug. -/
lemma Db.Readable.tenantNamed? (h : w.db.Readable) (hrow : row ∈ w.db.tenants) :
    w.db.tenantNamed? row.slug = some row := by
  have hsound := h.tenants.rows row hrow
  unfold Db.tenantNamed?
  rw [hsound.parse_slug hsound.lower]
  exact Keyed.find?_key_eq _ h.tenants.slugs hrow

omit [Unicode] in
/-- The roles of a tenant in the order of the answer. -/
def World.rolesOf (w : World) (t : TenantId) : List TenantRoleAggregate :=
  (Query.rolesOfTenant t).exec w.now w.db

omit [Unicode] in
/-- The roles of a tenant are those of its rows. -/
lemma mem_rolesOf {t : TenantId} {x : TenantRoleAggregate} : x ∈ w.rolesOf t ↔
    ∃ r ∈ w.db.tenantRoles, r.tenantId = t ∧ w.db.roleAggregate r = x := by
  simp [World.rolesOf, Query.exec, List.mem_insertionSort, and_assoc]

/-- **The roles of a tenant** are answered to those who may manage roles. -/
lemma listRoles_answer (h : w.db.Readable) (hrow : row ∈ w.db.tenants)
    {roles : List TenantRoleAggregate} :
    ((TenantService.listRoles ⟨some u.inner⟩ row.slug).eval World.answer w).1 = .ok roles ↔
      w.db.Grants row.id u Permission.manageRoles ∧
        roles = w.rolesOf row.id := by
  have hsound := h.tenants.rows row hrow
  have hmap := mapTenantRow_ok hsound.parse_status (hsound.parse_slug hsound.lower)
  constructor
  · intro hanswer
    obtain ⟨actor, row', tenant, hctx, hrow', hmap', hgrant, hrun⟩ :=
      exec_guarded_ok.mp (exec_answer (F := noFault) hanswer)
    obtain rfl := Option.some.inj ((h.tenantNamed? hrow).symm.trans hrow')
    have hactor : u = actor := by
      cases u
      cases actor
      exact congrArg UserId.mk (Option.some.inj hctx)
    subst hactor
    obtain ⟨hroles, -⟩ := exec_select_ok.mp (Prog.exec_mapErr_ok.mp (Prog.exec_mapErr_ok.mp hrun))
    rw [mapTenantRow_id hmap'] at hroles
    exact ⟨hgrant, hroles⟩
  · rintro ⟨hgrant, rfl⟩
    have hexec : (TenantService.listRoles ⟨some u.inner⟩ row.slug).Exec (Env noFault) w
        (.ok (w.rolesOf row.id)) w := by
      refine exec_guarded_ok.mpr ⟨u, row, _, rfl, h.tenantNamed? hrow, hmap, hgrant, ?_⟩
      exact Prog.exec_mapErr_ok.mpr (Prog.exec_mapErr_ok.mpr (exec_select_ok.mpr ⟨rfl, rfl⟩))
    have hall : (TenantService.listRoles ⟨some u.inner⟩ row.slug).All Req.Selects :=
      all_guarded fun _ _ => (all_select trivial).mapErr.mapErr
    have hdetermined : (TenantService.listRoles ⟨some u.inner⟩ row.slug).All Req.Determined := by
      refine hall.mono fun q hq => ?_
      cases q with
      | query q => trivial
      | _ => exact hq.elim
    exact (exec_unique hdetermined (exec_answer rfl) hexec).1

/-- **The catalogue** is answered to everybody. -/
lemma exists_catalog (h : w.db.Readable) :
    ∃ catalog, TenantService.listPermissions w.db = .ok catalog ∧ ∀ id name,
      (∃ p ∈ catalog, p.id = id ∧ p.name = name) ↔
        ∃ row ∈ w.db.permissions, row.id = id ∧ row.name = name := by
  have hrows : ∀ row, row ∈ w.db.permissionRows ↔ row ∈ w.db.permissions :=
    fun row => List.mem_insertionSort _
  obtain ⟨catalog, hcatalog⟩ := Except.exists_mapM_eq_ok (f := mapPermissionRow)
    (l := w.db.permissionRows) <| by
    intro row hrow
    obtain ⟨category, hcategory⟩ := h.migrated.category ((hrows row).mp hrow)
    exact ⟨_, mapPermissionRow_eq_ok.mpr ⟨category, hcategory, rfl⟩⟩
  have hpairs := Except.mapM_eq_ok.mp hcatalog
  refine ⟨catalog, congrArg (Except.mapError TenantError.domain) hcatalog, fun id name => ?_⟩
  constructor
  · rintro ⟨p, hp, rfl, rfl⟩
    obtain ⟨row, hrow, hmap⟩ := hpairs.exists_left hp
    obtain ⟨category, -, rfl⟩ := mapPermissionRow_eq_ok.mp hmap
    exact ⟨row, (hrows row).mp hrow, rfl, rfl⟩
  · rintro ⟨row, hrow, rfl, rfl⟩
    obtain ⟨p, hp, hmap⟩ := hpairs.exists_right ((hrows row).mpr hrow)
    obtain ⟨category, -, rfl⟩ := mapPermissionRow_eq_ok.mp hmap
    exact ⟨_, hp, rfl, rfl⟩

/-- A membership of a readable table is read back together with its tenant. -/
lemma Db.Readable.readBack (h : w.db.Readable) (hrow : row ∈ w.db.tenants)
    (hm : m ∈ w.db.memberships) : ∃ slug role, slug.text = row.slug ∧ role.asStr = m.role ∧
      mapTenantMembershipRow row m =
        .ok { id := row.id, slug, name := row.name, role, joinedAt := m.joinedAt } := by
  have hsound := h.tenants.rows row hrow
  obtain ⟨role, hrole⟩ := h.refs.named m hm
  refine ⟨⟨row.slug, hsound.slug⟩, role, rfl, hrole.symm, ?_⟩
  unfold mapTenantMembershipRow
  rw [hsound.parse_slug hsound.lower, hrole, TenantRole.parse_asStr]
  rfl

omit [Unicode] in
/-- The joined rows of a user. -/
lemma mem_tenantRowsOf {x : TenantRow × MembershipRow} : x ∈ w.db.tenantRowsOf u ↔
    x.1 ∈ w.db.tenants ∧ x.2 ∈ w.db.memberships ∧ x.2.tenantId = x.1.id ∧ x.2.userId = u := by
  obtain ⟨t, m'⟩ := x
  simp [Db.tenantRowsOf, List.mem_insertionSort]

/-- **The tenants of a user** are answered to the user, with the role of each membership. -/
lemma exists_myTenants (h : w.db.Readable) (hrow : row ∈ w.db.tenants)
    (hm : w.db.membership? row.id u = some m) :
    ∃ tenants, TenantService.listMyTenants w.db u = .ok tenants ∧
      (∃ s ∈ tenants.map MyTenant.ofSummary, s.slug = row.slug) ∧
      ∀ s ∈ tenants.map MyTenant.ofSummary, s.slug = row.slug → s.role = m.role := by
  obtain ⟨hmem, ht, hu⟩ := Db.of_membership? hm
  obtain ⟨tenants, htenants⟩ := Except.exists_mapM_eq_ok (l := w.db.tenantRowsOf u)
      (f := fun x => mapTenantMembershipRow x.1 x.2) <| by
    intro x hx
    obtain ⟨ht, hm, -, -⟩ := mem_tenantRowsOf.mp hx
    obtain ⟨_, _, -, -, hmap⟩ := h.readBack ht hm
    exact ⟨_, hmap⟩
  have hpairs := Except.mapM_eq_ok.mp htenants
  refine ⟨tenants, congrArg (Except.mapError TenantError.domain) htenants, ?_, ?_⟩
  · have hjoined : (row, m) ∈ w.db.tenantRowsOf u := mem_tenantRowsOf.mpr ⟨hrow, hmem, ht, hu⟩
    obtain ⟨summary, hsummary, hmap⟩ := hpairs.exists_right hjoined
    obtain ⟨slug, role, hslug, -, hmap'⟩ := h.readBack hrow hmem
    obtain rfl := Except.ok.inj (hmap.symm.trans hmap')
    exact ⟨_, List.mem_map_of_mem hsummary, hslug⟩
  · intro s hs hslug
    obtain ⟨summary, hsummary, rfl⟩ := List.mem_map.mp hs
    obtain ⟨⟨row', m'⟩, hx, hmap⟩ := hpairs.exists_left hsummary
    obtain ⟨hrow', hm', ht', hu'⟩ := mem_tenantRowsOf.mp hx
    obtain ⟨slug, role, hslug', hrole, hmap'⟩ := h.readBack hrow' hm'
    obtain rfl := Except.ok.inj (hmap.symm.trans hmap')
    obtain rfl := Keyed.eq_of_key_eq _ h.tenants.slugs hrow' hrow (hslug'.symm.trans hslug)
    have hkey : (m'.tenantId, m'.userId) = (m.tenantId, m.userId) := by
      rw [ht', hu', ht, hu]
    obtain rfl := Keyed.eq_of_key_eq _ h.wellFormed.members.keys hm' hmem hkey
    exact hrole

end Answers

/-! ## What the client decides -/

/-- The client of a user asks for the permissions in a tenant; the active tenant, if there is one,
was answered among the tenants of the user. -/
structure UsePermissions.AsksFor (hook : UsePermissions) (w : World) (u : UserId) (row : TenantRow) :
    Prop where
  /-- The argument is the slug of the tenant. -/
  slug : hook.tenantSlug = some row.slug
  /-- The active tenant is one of the user's. -/
  active : ∀ a, hook.activeTenant = some a → ∃ tenants,
    TenantService.listMyTenants w.db u = .ok tenants ∧ a ∈ tenants.map MyTenant.ofSummary

/-- **No answer is lost.** -/
def UsePermissions.Answered (hook : UsePermissions) (lost : PermissionQuery → Bool) : Prop :=
  ∀ q, hook.enabled q = true → lost q = false

section Client

variable {w : World} {row : TenantRow} {u : UserId} {m : MembershipRow} {hook : UsePermissions}
  {lost : PermissionQuery → Bool}

omit [Unicode] in
/-- The data of a query. -/
lemma fetched_eq_some {ε α : Type} {q : PermissionQuery} {answer : Except ε α} {a : α} :
    hook.fetched lost q answer = some a ↔
      (hook.enabled q = true ∧ lost q = false) ∧ answer = .ok a := by
  unfold UsePermissions.fetched
  by_cases hq : hook.enabled q = true ∧ lost q = false
  · simp [hq, toOption_eq_some]
  · simp [hq]

omit [Unicode] in
/-- What is shown, from the data. -/
lemma hasPermission_iff {data : PermissionData} {name : String} :
    hook.hasPermission data name = true ↔ ∃ catalog roles role resolvedRole,
      data.catalog = some catalog ∧ data.roles = some roles ∧ hook.role data = some role ∧
        role ≠ "" ∧ roles.find? (·.name = role) = some resolvedRole ∧
        ∃ p ∈ catalog, p.id ∈ resolvedRole.permissionIds ∧ p.name = name := by
  unfold UsePermissions.hasPermission UsePermissions.allowedPermissions
  cases hcatalog : data.catalog with
  | none => simp
  | some catalog =>
    cases hroles : data.roles with
    | none => simp
    | some roles =>
      cases hrole : hook.role data with
      | none => simp
      | some role =>
        by_cases hempty : role = ""
        · simp [hempty]
        · cases hfind : roles.find? (·.name = role) with
          | none => simp [hempty, hfind]
          | some resolvedRole => simp [hempty, hfind, and_assoc]

/-- The slug of a tenant is given. -/
lemma UsePermissions.AsksFor.hasSlug (hask : hook.AsksFor w u row) (h : w.db.Readable)
    (hrow : row ∈ w.db.tenants) : hook.hasSlug = true := by
  have hne : row.slug ≠ "" := by
    intro hempty
    have hvalid := (h.tenants.rows row hrow).slug
    rw [hempty] at hvalid
    revert hvalid
    decide
  unfold UsePermissions.hasSlug
  simp [hask.slug, hne]

/-- **The role** is that of the membership, unless the tenants are asked for in vain.

**Proof sketch.** The active tenant and the tenants of the answer are read from the same rows, and
those with the slug have the role of the membership. -/
lemma UsePermissions.AsksFor.role_settled (hask : hook.AsksFor w u row) (h : w.db.Readable)
    (hrow : row ∈ w.db.tenants) (hm : w.db.membership? row.id u = some m)
    (lost : PermissionQuery → Bool) :
    hook.role (hook.settled lost w u) =
      if hook.enabled .tenants = true ∧ lost .tenants = true then none else some m.role := by
  obtain ⟨tenants, htenants, ⟨s, hs, hsslug⟩, hrole⟩ := exists_myTenants h hrow hm
  have hgiven := hask.hasSlug h hrow
  have henabled : hook.enabled .tenants = ! hook.activeIs row.slug := by
    simp [UsePermissions.enabled, hgiven, hask.slug]
  unfold UsePermissions.role
  rw [if_pos hgiven, hask.slug, Option.bind_some, henabled]
  cases hactive : hook.activeIs row.slug with
  | true =>
    obtain ⟨a, ha, haslug⟩ := (Option.any_eq_true _ _).mp hactive
    obtain ⟨tenants', htenants', hamem⟩ := hask.active a ha
    obtain rfl := Except.ok.inj (htenants.symm.trans htenants')
    simp [ha, hrole a hamem (of_decide_eq_true haslug)]
  | false =>
    cases hlost : lost .tenants with
    | true =>
      have hdata : (hook.settled lost w u).tenants = none := by
        simp [UsePermissions.settled, UsePermissions.fetched, hlost]
      simp [hdata]
    | false =>
      have hdata : (hook.settled lost w u).tenants = some (tenants.map MyTenant.ofSummary) := by
        refine Option.map_eq_some_iff.mpr ⟨tenants, fetched_eq_some.mpr ⟨⟨?_, hlost⟩, htenants⟩, rfl⟩
        rw [henabled, hactive]
        rfl
      cases hfind : (tenants.map MyTenant.ofSummary).find? (·.slug = row.slug) with
      | none => exact absurd (decide_eq_true hsslug) (List.find?_eq_none.mp hfind s hs)
      | some s' =>
        have hs' : s'.slug = row.slug :=
          of_decide_eq_true (List.find?_eq_some_iff_append.mp hfind).1
        simp [hdata, hfind, hrole s' (List.mem_of_find?_eq_some hfind) hs']

/-- **The role is resolved** to the one that has the name of the membership. -/
lemma exists_resolved (h : w.db.Readable) (hm : w.db.membership? row.id u = some m) :
    ∃ r ∈ w.db.tenantRoles, r.tenantId = m.tenantId ∧ r.name = m.role ∧
      (w.rolesOf row.id).find? (·.name = m.role) =
        some (w.db.roleAggregate r) := by
  obtain ⟨hmem, ht, -⟩ := Db.of_membership? hm
  obtain ⟨role, hrole⟩ := h.refs.named m hmem
  obtain ⟨r, hr, hrmem, hrt, -⟩ := h.wellFormed.systemRole_of_member hm role
  have hname : r.name = m.role := (Db.of_roleNamed? hr).2.2.trans hrole.symm
  refine ⟨r, hrmem, hrt.trans ht.symm, hname, ?_⟩
  cases hfind : (w.rolesOf row.id).find? (·.name = m.role) with
  | none =>
    have hlisted := mem_rolesOf.mpr ⟨r, hrmem, hrt, rfl⟩
    exact absurd (decide_eq_true hname) (List.find?_eq_none.mp hfind _ hlisted)
  | some x =>
    obtain ⟨r', hr', hrt', rfl⟩ := mem_rolesOf.mp (List.mem_of_find?_eq_some hfind)
    have hname' : r'.name = m.role :=
      of_decide_eq_true (List.find?_eq_some_iff_append.mp hfind).1
    have hkey : (r'.tenantId, r'.name) = (r.tenantId, r.name) := by
      rw [hrt', hrt, hname', hname]
    rw [Keyed.eq_of_key_eq _ h.wellFormed.roles.roleNames hr' hrmem hkey]

/-- What a resolved role shows is what the role of the membership is linked to. -/
lemma shown_iff_linked (h : w.db.Readable) {catalog : List Permission} {r : TenantRoleRow}
    (hcatalog : ∀ id name, (∃ p ∈ catalog, p.id = id ∧ p.name = name) ↔
      ∃ row ∈ w.db.permissions, row.id = id ∧ row.name = name)
    (hr : r ∈ w.db.tenantRoles) (hrt : r.tenantId = m.tenantId) (hrname : r.name = m.role)
    {name : String} :
    (∃ p ∈ catalog, p.id ∈ (w.db.roleAggregate r).permissionIds ∧ p.name = name) ↔
      w.db.Linked m name := by
  constructor
  · rintro ⟨p, hp, hid, rfl⟩
    obtain ⟨prow, hprow, hpid, hpname⟩ := (hcatalog p.id p.name).mp ⟨p, hp, rfl, rfl⟩
    refine ⟨r, hr, prow, hprow, hrt, hrname, hpname, ?_⟩
    rw [hpid]
    exact mem_permissionIds.mp hid
  · rintro ⟨r', hr', prow, hprow, ht, hname, rfl, hlink⟩
    have hkey : (r'.tenantId, r'.name) = (r.tenantId, r.name) := by
      rw [ht, hname, hrt, hrname]
    obtain rfl := Keyed.eq_of_key_eq _ h.wellFormed.roles.roleNames hr' hr hkey
    obtain ⟨p, hp, hpid, hpname⟩ := (hcatalog prow.id prow.name).mpr ⟨prow, hprow, rfl, rfl⟩
    refine ⟨p, hp, ?_, hpname⟩
    rw [hpid]
    exact mem_permissionIds.mpr hlink

/-- **What is shown once the queries have settled**: if no answer is lost and the role of the
membership is linked to the management of roles, the permissions it is linked to. -/
theorem UsePermissions.AsksFor.hasPermission_iff (hask : hook.AsksFor w u row) (h : w.db.Readable)
    (hrow : row ∈ w.db.tenants) (hm : w.db.membership? row.id u = some m) {name : String} :
    hook.hasPermission (hook.settled lost w u) name = true ↔
      (hook.Answered lost ∧ w.db.Linked m Permission.manageRoles) ∧ w.db.Linked m name := by
  have hgiven := hask.hasSlug h hrow
  have hslug : hook.tenantSlug.getD "" = row.slug := by rw [hask.slug]; rfl
  have hrole := hask.role_settled h hrow hm lost
  obtain ⟨catalog, hcatalog, hpermissions⟩ := exists_catalog h
  obtain ⟨r, hr, hrt, hrname, hresolved⟩ := exists_resolved h hm
  have hroles : ∀ roles, (hook.settled lost w u).roles = some roles ↔
      (hook.enabled .roles = true ∧ lost .roles = false) ∧
        w.db.Linked m Permission.manageRoles ∧
          roles = w.rolesOf row.id := by
    intro roles
    refine fetched_eq_some.trans (and_congr_right fun _ => ?_)
    rw [hslug, listRoles_answer h hrow, Db.grants_iff_linked h hm]
  rw [Klynt.hasPermission_iff]
  constructor
  · rintro ⟨catalog', roles, role, resolvedRole, hc, hrs, hro, -, hfind, hshown⟩
    obtain ⟨⟨-, hcatalogLost⟩, hanswer⟩ := fetched_eq_some.mp hc
    obtain rfl := Except.ok.inj (hcatalog.symm.trans hanswer)
    obtain ⟨⟨-, hrolesLost⟩, hmanage, rfl⟩ := (hroles roles).mp hrs
    rw [hrole] at hro
    split at hro
    · cases hro
    · rename_i htenants
      obtain rfl := Option.some.inj hro
      obtain rfl := Option.some.inj (hresolved.symm.trans hfind)
      refine ⟨⟨?_, hmanage⟩, (shown_iff_linked h hpermissions hr hrt hrname).mp hshown⟩
      rintro (_ | _) henabled
      · exact hcatalogLost
      · exact hrolesLost
      · exact Bool.eq_false_iff.mpr fun hlost => htenants ⟨henabled, hlost⟩
  · rintro ⟨⟨hanswered, hmanage⟩, hlinked⟩
    refine ⟨catalog, w.rolesOf row.id, m.role, w.db.roleAggregate r,
      fetched_eq_some.mpr ⟨⟨hgiven, hanswered .catalog hgiven⟩, hcatalog⟩,
      (hroles _).mpr ⟨⟨hgiven, hanswered .roles hgiven⟩, hmanage, rfl⟩, ?_, ?_, hresolved,
      (shown_iff_linked h hpermissions hr hrt hrname).mpr hlinked⟩
    · rw [hrole, if_neg]
      rintro ⟨henabled, hlost⟩
      rw [hanswered .tenants henabled] at hlost
      cases hlost
    · obtain ⟨role, hcanonical⟩ := h.refs.named m (Db.of_membership? hm).1
      rw [hcanonical]
      cases role <;> decide

/-- **The client and the service decide alike.** -/
def PermissionsAgree (hook : UsePermissions) (lost : PermissionQuery → Bool) (w : World) (u : UserId)
    (row : TenantRow) : Prop :=
  ∀ name, hook.hasPermission (hook.settled lost w u) name = true ↔
    ∃ w', (AuthorizationService.hasPermission row.id u name).Exec (Env noFault) w (.ok true) w'

/-- **When the client and the service agree**: if no answer is lost and the role of the membership
is linked to the management of roles, or if it is linked to nothing.

**Proof sketch.** Both look a permission up in the same tables, but the client is only told the
roles if its user may manage them; otherwise it shows nothing. -/
theorem permissionsAgree_iff (laws : LowercaseLaws) {enabled : Bool} {backend : SessionBackend}
    {F : Req → Prop} {tr : List (World × TenantLabel)}
    (hrun : Run MigratedInit (RestrictedStep (platform enabled backend) F) tr w)
    (hrow : row ∈ w.db.tenants) (hm : w.db.membership? row.id u = some m)
    (hask : hook.AsksFor w u row) :
    PermissionsAgree hook lost w u row ↔
      (hook.Answered lost ∧ w.db.Linked m Permission.manageRoles) ∨
        ∀ name, ¬ w.db.Linked m name := by
  have h := readable_of_run laws hrun
  have hservice : ∀ name, (∃ w', (AuthorizationService.hasPermission row.id u name).Exec
      (Env noFault) w (.ok true) w') ↔ w.db.Linked m name := by
    intro name
    rw [← Db.grants_iff_linked h hm]
    constructor
    · rintro ⟨w', hexec⟩
      exact (AuthorizationService.exec_hasPermission_true.mp hexec).1
    · exact fun hgrant => ⟨w, AuthorizationService.exec_hasPermission_true.mpr ⟨hgrant, rfl⟩⟩
  unfold PermissionsAgree
  simp only [hservice, hask.hasPermission_iff h hrow hm]
  constructor
  · intro hagree
    by_cases hnone : ∀ name, ¬ w.db.Linked m name
    · exact .inr hnone
    · obtain ⟨name, hname⟩ := not_forall_not.mp hnone
      exact .inl ((hagree name).mpr hname).1
  · rintro (hshown | hnone) name
    · exact ⟨fun hboth => hboth.2, fun hlinked => ⟨hshown, hlinked⟩⟩
    · exact ⟨fun hboth => hboth.2, fun hlinked => absurd hlinked (hnone name)⟩

end Client

/-! ## Scenario -/

namespace Scenario

/-- Ada creates a tenant and adds Bob as a member. -/
def acmeWithBob : List (Nat × TenantCall) :=
  [(901, .addMember "acme" "bob@x.org" .member), (901, .createTenant "acme" "Acme")]

/-- A client that asks for the permissions in it, without an active tenant. -/
def acmeClient : UsePermissions := ⟨none, some "acme"⟩

omit [Unicode] in
/-- It is a run over the migrated permissions that loses no owner. -/
lemma run_restricted_migrated (calls : List (Nat × TenantCall)) :
    Run MigratedInit (@RestrictedStep Unicode.ascii (platform true .database) noFault)
      (playedHistory calls) (played calls) := by
  induction calls with
  | nil => exact .start ⟨⟨rfl, rfl, rfl, rfl, rfl⟩, by decide +kernel, by decide +kernel⟩
  | cons c earlier ih => exact ih.snoc ⟨step_played c earlier, nofun⟩

omit [Unicode] in
/-- The tenant, in which Ada may manage roles, and Bob may view the tenant only. -/
lemma acmeWithBob_grants : ∃ row ∈ (played acmeWithBob).db.tenants, row.slug = "acme" ∧
    (∃ m, (played acmeWithBob).db.membership? row.id ⟨901⟩ = some m) ∧
    (∃ m, (played acmeWithBob).db.membership? row.id ⟨902⟩ = some m) ∧
    @Db.Grants Unicode.ascii (played acmeWithBob).db row.id ⟨901⟩ Permission.manageRoles ∧
    @Db.Grants Unicode.ascii (played acmeWithBob).db row.id ⟨902⟩ Permission.view := by
  have hrow : ∃ row ∈ (played acmeWithBob).db.tenants, row.slug = "acme" ∧
      ((played acmeWithBob).db.membership? row.id ⟨901⟩).isSome = true ∧
      ((played acmeWithBob).db.membership? row.id ⟨902⟩).isSome = true ∧
      @Db.Grants Unicode.ascii (played acmeWithBob).db row.id ⟨901⟩ Permission.manageRoles ∧
      @Db.Grants Unicode.ascii (played acmeWithBob).db row.id ⟨902⟩ Permission.view := by
    decide +kernel
  obtain ⟨row, hmem, hslug, hada, hbob, hgrants⟩ := hrow
  exact ⟨row, hmem, hslug, Option.isSome_iff_exists.mp hada, Option.isSome_iff_exists.mp hbob,
    hgrants⟩

end Scenario

omit [Unicode] in
/-- The creator of a tenant is shown what is granted. -/
theorem owner_shown_permissions : ∃ row ∈ (Scenario.played Scenario.acmeWithBob).db.tenants,
    @PermissionsAgree Unicode.ascii Scenario.acmeClient (fun _ => false)
      (Scenario.played Scenario.acmeWithBob) ⟨901⟩ row := by
  let := Unicode.ascii
  obtain ⟨row, hrow, hslug, ⟨m, hm⟩, -, hgrant, -⟩ := Scenario.acmeWithBob_grants
  have hrun := Scenario.run_restricted_migrated Scenario.acmeWithBob
  have hask : Scenario.acmeClient.AsksFor (Scenario.played Scenario.acmeWithBob) ⟨901⟩ row :=
    ⟨congrArg some hslug.symm, nofun⟩
  have hreadable := readable_of_run lowercaseLaws_ascii hrun
  refine ⟨row, hrow, (permissionsAgree_iff lowercaseLaws_ascii hrun hrow hm hask).mpr (.inl ⟨?_, ?_⟩)⟩
  · exact fun _ _ => rfl
  · exact (Db.grants_iff_linked hreadable hm).mp hgrant

omit [Unicode] in
/-- **A member who may view a tenant is shown nothing**, although every query is answered. -/
theorem member_shown_nothing :
    (∃ tr, Run MigratedInit (@RestrictedStep Unicode.ascii (platform true .database) noFault) tr
      (Scenario.played Scenario.acmeWithBob)) ∧
    ∃ row ∈ (Scenario.played Scenario.acmeWithBob).db.tenants,
      (∃ m, (Scenario.played Scenario.acmeWithBob).db.membership? row.id ⟨902⟩ = some m) ∧
      @UsePermissions.AsksFor Unicode.ascii Scenario.acmeClient
        (Scenario.played Scenario.acmeWithBob) ⟨902⟩ row ∧
      ¬ @PermissionsAgree Unicode.ascii Scenario.acmeClient (fun _ => false)
        (Scenario.played Scenario.acmeWithBob) ⟨902⟩ row := by
  let := Unicode.ascii
  obtain ⟨row, hrow, hslug, -, hmember, -, hgrant⟩ := Scenario.acmeWithBob_grants
  refine ⟨⟨_, Scenario.run_restricted_migrated _⟩, row, hrow, hmember,
    ⟨congrArg some hslug.symm, nofun⟩, fun hagree => ?_⟩
  have hshown : Scenario.acmeClient.hasPermission (Scenario.acmeClient.settled (fun _ => false)
      (Scenario.played Scenario.acmeWithBob) ⟨902⟩) Permission.view = false := by decide +kernel
  have hservice := (hagree Permission.view).mpr
    ⟨_, AuthorizationService.exec_hasPermission_true.mpr ⟨hgrant, rfl⟩⟩
  rw [hshown] at hservice
  cases hservice

end Klynt
