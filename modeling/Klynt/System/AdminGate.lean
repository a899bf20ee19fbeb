import Klynt.System.RolePermissions
import Klynt.System.Privilege

set_option relaxedAutoImplicit false
set_option autoImplicit false

/-!
# The two gates of the settings

Whoever changes the settings of a tenant passes the permission `tenant.manage_settings`, except
at the shared desktop layout: its gate `ensure_admin` looks at the name of the actor's role.  The
gates agree on the roles a tenant is seeded with, and part when the permissions of a system role
are replaced.

## Main definitions

* `GatesAgree` — the gates let an actor through at the same time.
* `TenantLabel.KeepsSettings` — a call leaves the permission with the roles that administer.

## Main results

* `gatesAgree_iff` — they agree exactly if the actor's role grants what its name promises.
* `admin_gate_agrees` — in runs of such calls they agree on everybody.
* `admin_gate_open` — the update of a role closes one gate only.
-/

namespace Klynt

variable [Unicode]

/-! ## One state -/

/-- `ensure_admin` lets an actor through to a tenant exactly if the slug leads to the tenant and
the actor has `tenant.manage_settings` there. -/
def GatesAgree (F : Req → Prop) (w : World) (slug : String) (actor : UserId) : Prop :=
  ∀ tenant : Tenant,
    (∃ w', (TenantService.ensureAdmin ⟨some actor.inner⟩ slug).Exec (Env F) w (.ok tenant) w') ↔
    (∃ w', (fetchTenant slug).Exec (Env F) w (.ok tenant) w') ∧
      ∃ w', (AuthorizationService.hasPermission tenant.id actor Permission.manageSettings).Exec
        (Env F) w (.ok true) w'

section State

variable {F : Req → Prop} {w w' : World} {slug : String} {actor : UserId} {tenant : Tenant}

/-- Fetching a tenant changes nothing. -/
lemma fetchTenant_world (h : (fetchTenant slug).Exec (Env F) w (.ok tenant) w') : w' = w :=
  (reads_fetchTenant.of_exec h).1

/-- Whom `ensure_admin` lets through: the members whose role can administer. -/
lemma TenantService.exec_ensureAdmin_ok :
    (ensureAdmin ⟨some actor.inner⟩ slug).Exec (Env F) w (.ok tenant) w' ↔
      (fetchTenant slug).Exec (Env F) w (.ok tenant) w' ∧
        ∃ m role, w.db.membership? tenant.id actor = some m ∧
          TenantRole.parse m.role = .ok role ∧ role.canAdminister = true := by
  simp only [ensureAdmin, Prog.exec_bind_ok, Prog.exec_mapErr_ok,
    PgMembershipRepository.exec_find_ok]
  constructor
  · rintro ⟨u, w₁, hactor, found, w₂, hfetch, o, w₃, ⟨ho, rfl⟩, h⟩
    obtain ⟨⟨_, hu, hok⟩ | ⟨-, hfail⟩, rfl⟩ := Prog.exec_ofOption.mp hactor
    · obtain rfl := Option.some.inj hu
      obtain rfl := Except.ok.inj hok
      obtain rfl := fetchTenant_world hfetch
      cases o with
      | none => cases (Prog.exec_fail.mp h).1
      | some m =>
        obtain ⟨row, hrow, hmap⟩ := mapOption_eq_some.mp ho
        obtain ⟨role, hrole, rfl⟩ := mapMembershipRow_eq_ok.mp hmap
        by_cases hcan : role.canAdminister = true
        · simp only [hcan, if_true] at h
          obtain ⟨heq, rfl⟩ := Prog.exec_pure.mp h
          obtain rfl := Except.ok.inj heq
          exact ⟨hfetch, row, role, hrow, hrole, hcan⟩
        · simp only [hcan] at h
          cases (Prog.exec_fail.mp h).1
    · cases hfail
  · rintro ⟨hfetch, row, role, hrow, hrole, hcan⟩
    obtain rfl := fetchTenant_world hfetch
    refine ⟨actor, w', Prog.exec_ofOption.mpr ⟨.inl ⟨_, rfl, rfl⟩, rfl⟩, tenant, w', hfetch, _, w',
      ⟨mapOption_eq_some.mpr ⟨row, hrow, mapMembershipRow_eq_ok.mpr ⟨role, hrole, rfl⟩⟩, rfl⟩, ?_⟩
    simp only [hcan, if_true]
    exact Prog.exec_pure.mpr ⟨rfl, rfl⟩

/-- **Where the gates agree.** The role of the actor, if there is one, grants
`tenant.manage_settings` exactly if its name is that of a role that can administer. -/
theorem gatesAgree_iff :
    GatesAgree F w slug actor ↔
      ∀ tenant : Tenant, (∃ w', (fetchTenant slug).Exec (Env F) w (.ok tenant) w') →
        ∀ (m : MembershipRow) (role : TenantRole), w.db.membership? tenant.id actor = some m →
          TenantRole.parse m.role = .ok role →
          (w.db.RoleGrants tenant.id role Permission.manageSettings ↔ role.canAdminister = true) := by
  unfold GatesAgree
  simp only [TenantService.exec_ensureAdmin_ok, AuthorizationService.exec_hasPermission_true,
    exists_and_left, exists_eq, and_true, exists_and_right]
  refine forall_congr' fun tenant => ?_
  constructor
  · intro hagree hfetch m role hm hrole
    constructor
    · intro hgrants
      obtain ⟨-, m', hm', role', hrole', hcan⟩ :=
        hagree.mpr ⟨hfetch, m, role, hm, hrole, hgrants⟩
      obtain rfl := Option.some.inj (hm.symm.trans hm')
      obtain rfl := Except.ok.inj (hrole.symm.trans hrole')
      exact hcan
    · intro hcan
      obtain ⟨-, m', role', hm', hrole', hgrants⟩ := hagree.mp ⟨hfetch, m, hm, role, hrole, hcan⟩
      obtain rfl := Option.some.inj (hm.symm.trans hm')
      obtain rfl := Except.ok.inj (hrole.symm.trans hrole')
      exact hgrants
  · intro hrole
    refine and_congr_right fun hfetch => ?_
    constructor
    · rintro ⟨m, hm, role, hparse, hcan⟩
      exact ⟨m, role, hm, hparse, (hrole hfetch m role hm hparse).mpr hcan⟩
    · rintro ⟨m, role, hm, hparse, hgrants⟩
      exact ⟨m, hm, role, hparse, (hrole hfetch m role hm hparse).mp hgrants⟩

end State

/-! ## Runs -/

/-- The call leaves `tenant.manage_settings` with the system roles that administer, and with no
other system role: it is not the update of a system role, by an actor who may manage the roles of
the tenant, to a list that says otherwise. -/
def TenantLabel.KeepsSettings (db : Db) : TenantLabel → Prop
  | call ctx (.updateRole slug roleId permissionIds) _ => ∀ (actor : UserId) (row : TenantRow),
    ctx.actorId = some actor.inner → db.tenantNamed? slug = some row →
      db.Grants row.id actor Permission.manageRoles → ∀ r ∈ db.tenantRoles, r.tenantId = row.id →
        r.id = roleId → r.isSystem = true → ∀ (role : TenantRole) (p : PermissionRow),
          r.name = role.asStr → p ∈ db.permissions → p.name = Permission.manageSettings →
            (p.id ∈ permissionIds ↔ role.canAdminister = true)
  | _ => True

omit [Unicode] in
/-- A system role grants a permission exactly if it can administer. -/
def AdminsHold (p : PermissionId) : RoleProperty := fun r granted =>
  r.isSystem = true → ∀ role : TenantRole, r.name = role.asStr →
    (p ∈ granted ↔ role.canAdminister = true)

/-- The permission to manage settings is in the migrated catalogue. -/
lemma Db.Migrated.find?_manageSettings {db : Db} (h : db.Migrated) :
    ∃ p c, db.permissions.find? (·.name = Permission.manageSettings) = some p ∧
      PermissionCategory.fromStr p.category = .ok c ∧ p ∈ db.permissions ∧
        p.name = Permission.manageSettings := by
  have hmap := congrArg (List.find? (·.1 = Permission.manageSettings)) h.catalogue
  rw [List.find?_map] at hmap
  have hentry : permissionCatalogue.find? (·.1 = Permission.manageSettings) =
      some ("tenant.manage_settings", "Manage tenant settings", "tenant") := by decide
  rw [hentry] at hmap
  obtain ⟨p, hp, heq⟩ := Option.map_eq_some_iff.mp hmap
  obtain ⟨hname, hrest⟩ := Prod.mk.inj heq
  refine ⟨p, .tenant, hp, ?_, List.mem_of_find?_eq_some hp, hname⟩
  rw [(Prod.mk.inj hrest).2, PermissionCategory.fromStr, toLowercase_eq_self (by rfl)]
  rfl

omit [Unicode] in
/-- The seeds give the permission to manage settings to the roles that can administer. -/
lemma Db.Migrated.mem_seeded {db : Db} (h : db.Migrated) {p : PermissionRow}
    (hp : p ∈ db.permissions) (hname : p.name = Permission.manageSettings) (role : TenantRole) :
    p.id ∈ db.seeded role.asStr ↔ role.canAdminister = true := by
  have hseed : seedGrants role.asStr p.name = role.canAdminister := by
    rw [hname]
    cases role <;> decide
  rw [← hseed]
  constructor
  · rintro ⟨row, hrow, hid, hgrants⟩
    obtain rfl := Keyed.eq_of_key_eq _ h.ids hrow hp hid
    exact hgrants
  · intro hgrants
    exact ⟨p, hp, rfl, hgrants⟩

/-- Such calls respect who holds the permission. -/
lemma TenantLabel.respects_adminsHold {db : Db} {l : TenantLabel} (hm : db.Migrated)
    {p : PermissionRow} (hp : p ∈ db.permissions) (hname : p.name = Permission.manageSettings)
    (hl : l.KeepsSettings db) : l.Respects (AdminsHold p.id) db := by
  cases l with
  | other => trivial
  | call ctx c r =>
    cases c with
    | createTenant slug name =>
      intro actor hctx hmay r role hrole hsystem hcustom _ role' hrole'
      obtain rfl := TenantRole.asStr_injective (hrole.symm.trans hrole')
      exact hm.mem_seeded hp hname role
    | createRole slug name description permissionIds =>
      intro actor row hctx hrow hgrant r hsystem hcustom hsystem'
      rw [hsystem] at hsystem'
      cases hsystem'
    | updateRole slug roleId permissionIds =>
      intro actor row hctx hrow hgrant r hr ht hid hold hsystem role hrole
      exact hl actor row hctx hrow hgrant r hr ht hid hsystem role p hrole hp hname
    | _ => trivial

/-- In a run of such calls the roles of every tenant hold the permission as their names say. -/
lemma roleGrants_of_run {enabled : Bool} {backend : SessionBackend} {F : Req → Prop}
    {tr : List (World × TenantLabel)} {w : World}
    (h : Run MigratedInit (TenantStep (platform enabled backend) F) tr w)
    (hl : ∀ e ∈ tr, e.2.KeepsSettings e.1.db) {t : TenantId} {u : UserId} {m : MembershipRow}
    (hm : w.db.membership? t u = some m) (role : TenantRole) :
    w.db.RoleGrants t role Permission.manageSettings ↔ role.canAdminister = true := by
  obtain ⟨w₀, ⟨hno, hmigrated⟩, hrun⟩ := h.exists_start
  obtain ⟨p, c, hfind, hcategory, hp, hname⟩ := hmigrated.find?_manageSettings
  have hinv : w.db.RolesHave (AdminsHold p.id) w₀.db.permissions := by
    refine hrun.invariant_of_forall (C := fun w l => l.KeepsSettings w.db)
      (I := fun w => w.db.RolesHave (AdminsHold p.id) w₀.db.permissions) ?_ ?_ hl
    · rintro w rfl
      exact hno.rolesHave
    · intro w l w' hI hC hstep
      have hcatalogue : w.db.Migrated := ⟨hI.permissions ▸ hmigrated.catalogue,
        hI.permissions ▸ hmigrated.ids⟩
      refine hstep.rolesHave (fun _ _ _ hS => hS) hI ?_
      exact TenantLabel.respects_adminsHold hcatalogue (hI.permissions ▸ hp) hname hC
  obtain ⟨r, hr, hrmem, hrt, hsystem⟩ := hinv.wellFormed.systemRole_of_member hm role
  have hholds := hinv.each r hrmem hsystem role (Db.of_roleNamed? hr).2.2
  rw [← hholds]
  constructor
  · rintro ⟨r', p', c', hr', hp', -, hlink⟩
    obtain rfl := Option.some.inj (hr.symm.trans hr')
    rw [hinv.permissions, hfind] at hp'
    obtain rfl := Option.some.inj hp'
    exact hlink
  · intro hlink
    exact ⟨r, p, c, hr, by rw [hinv.permissions, hfind], hcategory, hlink⟩

/-- **The gates agree until a system role is updated to say otherwise.** In a run in which no call
takes `tenant.manage_settings` from owners or administrators, or gives it to members or guests,
they agree on everybody in every tenant, in every state.

**Proof sketch.** Both gates read the same membership, so they differ only in what they ask of its
role.  The seeds give the permission to the roles that can administer, and what a system role
grants changes with its updates only. -/
theorem admin_gate_agrees {enabled : Bool} {backend : SessionBackend} {F F' : Req → Prop}
    {tr : List (World × TenantLabel)} {w : World}
    (h : Run MigratedInit (TenantStep (platform enabled backend) F) tr w)
    (hl : ∀ e ∈ tr, e.2.KeepsSettings e.1.db) (slug : String) (actor : UserId) :
    GatesAgree F' w slug actor := by
  refine gatesAgree_iff.mpr fun tenant hfetch m role hm hparse => ?_
  exact roleGrants_of_run h hl hm role

namespace Scenario

/-- The creator of a tenant hires an administrator, and lets administrators manage members only. -/
def narrowedAdmins : List (Nat × TenantCall) :=
  [(901, .updateRole "acme" ⟨2⟩ [⟨801⟩, ⟨803⟩]), (901, .addMember "acme" "bob@x.org" .admin),
   (901, .createTenant "acme" "Acme")]

/-- The creator of a tenant hires an administrator, and lets administrators delete the tenant. -/
def widenedAdmins : List (Nat × TenantCall) :=
  [(901, .updateRole "acme" ⟨2⟩ [⟨802⟩, ⟨805⟩]), (901, .addMember "acme" "bob@x.org" .admin),
   (901, .createTenant "acme" "Acme")]

end Scenario

omit [Unicode] in
/-- The gates agree on an administrator with new permissions. -/
theorem admin_gate_agrees_widened :
    let w := Scenario.played Scenario.widenedAdmins
    w.db.memberships.length = 2 ∧ @GatesAgree Unicode.ascii noFault w "acme" ⟨902⟩ := by
  obtain ⟨hrole, hcatalogue⟩ :
      (∀ r ∈ (Scenario.played (Scenario.widenedAdmins.drop 1)).db.tenantRoles,
        r.id = ⟨2⟩ → r.name = TenantRole.admin.asStr) ∧
      ∀ p ∈ (Scenario.played (Scenario.widenedAdmins.drop 1)).db.permissions,
        p.name = Permission.manageSettings → p.id = ⟨802⟩ := by decide +kernel
  have hl : ∀ e ∈ Scenario.playedHistory Scenario.widenedAdmins,
      @TenantLabel.KeepsSettings Unicode.ascii e.1.db e.2 := by
    intro e he
    simp only [Scenario.playedHistory, Scenario.history, Scenario.widenedAdmins, List.mem_cons,
      List.not_mem_nil, or_false] at he
    simp only [Scenario.played, Scenario.widenedAdmins, List.drop_succ_cons, List.drop_zero]
      at hrole hcatalogue
    rcases he with rfl | rfl | rfl
    · intro actor row _ _ _ r hr _ hid _ role p hname hp hpname
      dsimp only at hr hp
      obtain rfl := TenantRole.asStr_injective ((hrole r hr hid).symm.trans hname)
      rw [hcatalogue p hp hpname]
      decide
    · trivial
    · trivial
  exact ⟨by decide +kernel, @admin_gate_agrees Unicode.ascii _ _ _ _ _ _
    (Scenario.run_migrated Scenario.widenedAdmins) hl "acme" ⟨902⟩⟩

omit [Unicode] in
/-- **A permission is taken from administrators.** The shared layout stays open to them. -/
theorem admin_gate_open :
    let w := Scenario.played Scenario.narrowedAdmins
    (∃ tr, Run MigratedInit (@TenantStep Unicode.ascii (platform true .database) noFault) tr w) ∧
      ¬ @GatesAgree Unicode.ascii noFault w "acme" ⟨902⟩ := by
  obtain ⟨hpass, hgrants, hids⟩ :
      ((@TenantService.ensureAdmin Unicode.ascii ⟨some 902⟩ "acme").eval World.answer
        (Scenario.played Scenario.narrowedAdmins)).1.isOk = true ∧
      ¬ @Db.Grants Unicode.ascii (Scenario.played Scenario.narrowedAdmins).db ⟨0⟩ ⟨902⟩
        Permission.manageSettings ∧
      ∀ row ∈ (Scenario.played Scenario.narrowedAdmins).db.tenants, row.id = ⟨0⟩ := by
    decide +kernel
  refine ⟨⟨_, Scenario.run_migrated Scenario.narrowedAdmins⟩, fun hagree => ?_⟩
  obtain ⟨tenant, hexec⟩ := exec_of_isOk hpass noFault
  obtain ⟨⟨w', hfetch⟩, w'', hhas⟩ := (hagree tenant).mp ⟨_, hexec⟩
  have hid : tenant.id = ⟨0⟩ := by
    obtain ⟨row, hrow, hmap⟩ := ((@reads_fetchTenant Unicode.ascii _ _ _).of_exec hfetch).2 _ rfl
    rw [@mapTenantRow_id Unicode.ascii _ _ hmap]
    exact hids row (@Db.mem_of_tenantNamed? Unicode.ascii _ _ _ hrow)
  rw [hid] at hhas
  exact hgrants ((@AuthorizationService.exec_hasPermission_true Unicode.ascii _ _ _ _ _ _).mp hhas).1

end Klynt
