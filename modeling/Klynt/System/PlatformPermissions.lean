import Klynt.System.RolePermissions

set_option relaxedAutoImplicit false
set_option autoImplicit false

/-!
# Platform permissions

The catalogue of permissions holds four of the category `platform`, which are meant for flows
outside tenants.  Nothing that links permissions to the roles of a tenant looks at the category:
the creation of a tenant links all of them to its owners and administrators, and custom lists
may hold them.

## Main definitions

* `Db.PlatformFree` — no role of a tenant holds a platform permission.
* `TenantLabel.KeepsPlatformOut` — a call cannot link one.

## Main results

* `platform_permissions_stay_out` — exactly these calls keep platform permissions out.
* `owner_manages_users` — the creation of a tenant links platform permissions.
-/

namespace Klynt

/-- A permission of the platform category. -/
def PermissionRow.IsPlatform (row : PermissionRow) : Prop := row.category = "platform"

/-- No permission of the platform category is granted. -/
def NoPlatform (catalogue : List PermissionRow) : RoleProperty := fun _ granted =>
  ∀ p ∈ granted, ∀ row ∈ catalogue, row.id = p → ¬ row.IsPlatform

/-- No role of a tenant holds a platform permission. -/
def Db.PlatformFree (db : Db) : Prop := db.EachRole (NoPlatform db.permissions)

/-- No id of a list is that of a platform permission. -/
def Db.OutsidePlatform (db : Db) (permissionIds : List PermissionId) : Prop :=
  ∀ p ∈ permissionIds, ∀ row ∈ db.permissions, row.id = p → ¬ row.IsPlatform

variable [Unicode]

/-- The call cannot link a platform permission: it is not the creation of a tenant that passes
its checks, and not a list with a platform permission for a role of a tenant whose roles the
actor may manage. -/
def TenantLabel.KeepsPlatformOut (db : Db) : TenantLabel → Prop
  | call ctx (.createTenant slug name) _ => ∀ actor : UserId, ctx.actorId = some actor.inner →
    ¬ db.MayCreate actor slug name
  | call ctx (.createRole slug _ _ permissionIds) _ | call ctx (.updateRole slug _ permissionIds) _ =>
    ∀ (actor : UserId) (row : TenantRow), ctx.actorId = some actor.inner →
      db.tenantNamed? slug = some row → db.Grants row.id actor Permission.manageRoles →
      db.OutsidePlatform permissionIds
  | _ => True

section Effect

variable {now : Time} {actor : UserId} {db db' : Db} {complete : Bool}
  {event : Option MembershipEvent}

/-- Such calls respect the absence of platform permissions. -/
lemma TenantLabel.respects_noPlatform {l : TenantLabel} (hl : l.KeepsPlatformOut db) :
    l.Respects (NoPlatform db.permissions) db := by
  cases l with
  | other => trivial
  | call ctx c r =>
    cases c with
    | createTenant slug name =>
      intro actor hctx hmay
      exact absurd hmay (hl actor hctx)
    | createRole slug name description permissionIds =>
      intro actor row hctx hrow hgrant r _ _
      exact hl actor row hctx hrow hgrant
    | updateRole slug roleId permissionIds =>
      intro actor row hctx hrow hgrant r _ _ _ _
      exact hl actor row hctx hrow hgrant
    | _ => trivial

/-- The owners of a created tenant hold every permission of the catalogue. -/
lemma TenantEffect.owner_holds_all {slug name : String}
    (h : TenantEffect now actor db (.createTenant slug name) complete event db')
    (hw : db.WellFormed) :
    ∃ r ∈ db'.tenantRoles, ∀ row ∈ db.permissions, row.id ∈ db'.granted r.id := by
  cases h with
  | @created _ _ tenant ids row _ hslug hnew h =>
    obtain ⟨_, rfl, -, -, -, -, -, -, seeds, -, hall, rfl⟩ :=
      createTenantTx_ok hw.roles.roleTenant hw.roles.roleIds h
    obtain ⟨r, hr, -, hname, -⟩ := find?_systemRoleRows now tenant.id ids .owner
    refine ⟨r, List.mem_append_right _ hr, fun row hrow => ?_⟩
    have hseed : seedGrants r.name row.name = true := by rw [hname]; rfl
    rcases hall r hr row hrow hseed with hold | hnew
    · exact List.mem_append_left _ hold
    · exact List.mem_append_right _ hnew

/-- A created role holds the permissions of its list. -/
lemma TenantEffect.created_holds {slug name description : String} {ps : List PermissionId}
    (h : TenantEffect now actor db (.createRole slug name description ps) complete event db') :
    ∃ r ∈ db'.tenantRoles, ∀ p ∈ ps, p ∈ db'.granted r.id := by
  cases h with
  | roleCreated hrow hgrant htenant hcustom hperms h =>
    obtain ⟨_, -, -, -, rfl⟩ := createRoleTx_ok h
    refine ⟨_, List.mem_append_right _ (List.mem_singleton_self _), fun p hp => ?_⟩
    rw [← hperms] at hp
    exact List.mem_append_right _ (List.mem_map.mpr ⟨p, List.mem_dedup.mpr hp, rfl⟩)

/-- An updated role holds the permissions of its list. -/
lemma TenantEffect.updated_holds {slug : String} {roleId : RoleId} {ps : List PermissionId}
    (h : TenantEffect now actor db (.updateRole slug roleId ps) complete event db') :
    ∃ r ∈ db'.tenantRoles, ∀ p ∈ ps, p ∈ db'.granted r.id := by
  cases h with
  | @roleUpdated _ _ _ row _ hrow hgrant h =>
    obtain ⟨⟨r, hr, hrt, hrid⟩, rfl⟩ := updateRolePermissionsTx_ok h
    refine ⟨_, List.mem_map_of_mem hr, fun p hp => ?_⟩
    have hid : (r.touched row.id roleId now).id = roleId := by
      unfold TenantRoleRow.touched
      split <;> exact hrid
    rw [hid]
    exact List.mem_append_right _ (List.mem_map.mpr ⟨p, List.mem_dedup.mpr hp, rfl⟩)

omit [Unicode] in
/-- The tables of the other services do not matter. -/
lemma Db.SameTenancy.platformFree_iff (h : db.SameTenancy db') :
    db'.PlatformFree ↔ db.PlatformFree := by
  obtain ⟨_, _, _, _, _, rfl⟩ := h; rfl

end Effect

/-- **Platform permissions stay out of tenants, unless a tenant is created or a list holds one.**
From a reachable state in which no role holds a platform permission, a run of calls that cannot
link one reaches such states only; and a successful call from there leaves such a state exactly
if it cannot link one.

**Proof sketch.** What a role grants changes only as `RoleOrigin` says, and the calls in question
write no platform permission.  A created tenant has owners who hold the whole catalogue, and
roles hold what the lists of successful calls hold. -/
theorem platform_permissions_stay_out {enabled : Bool} {backend : SessionBackend} {F : Req → Prop}
    {tr₀ tr : List (World × TenantLabel)} {w₀ w : World}
    (h₀ : Run MigratedInit (TenantStep (platform enabled backend) F) tr₀ w₀)
    (hfree : w₀.db.PlatformFree)
    (h : Run (· = w₀) (TenantStep (platform enabled backend) F) tr w)
    (hl : ∀ e ∈ tr, e.2.KeepsPlatformOut e.1.db) :
    w.db.PlatformFree ∧
    ∀ (ctx : ExecutionContext) (call : TenantCall) (w' : World),
      (call.run (platform enabled backend) ctx).Exec (Env F) w (.ok ()) w' →
      (w'.db.PlatformFree ↔ (TenantLabel.call ctx call (.ok ())).KeepsPlatformOut w.db) := by
  obtain ⟨w₁, ⟨hno, hmigrated⟩, hrun⟩ := h₀.exists_start
  -- without a condition on the calls, rows are well formed and the catalogue stays
  have hstart : w₀.db.RolesHave (fun _ _ => True) w₁.db.permissions := by
    refine rolesHave_of_run (fun _ _ _ _ => trivial) ?_ hrun fun e _ => ?_
    · rintro w rfl
      exact hno.rolesHave
    · cases e.2 with
      | other => trivial
      | call ctx c r => cases c <;> simp [TenantLabel.Respects, TenantCall.Respects]
  have hinv : w.db.RolesHave (NoPlatform w₁.db.permissions) w₁.db.permissions := by
    refine h.invariant_of_forall (C := fun w l => l.KeepsPlatformOut w.db)
      (I := fun w => w.db.RolesHave (NoPlatform w₁.db.permissions) w₁.db.permissions) ?_ ?_ hl
    · rintro w rfl
      refine { wellFormed := hstart.wellFormed, pairs := hstart.pairs,
               permissions := hstart.permissions, each := ?_ }
      rw [← hstart.permissions]
      exact hfree
    · intro w l w' hI hC hstep
      have hrespects := TenantLabel.respects_noPlatform hC
      rw [hI.permissions] at hrespects
      exact hstep.rolesHave (fun _ _ _ hS => hS) hI hrespects
  have hnow : w.db.PlatformFree := by
    unfold Db.PlatformFree
    rw [hinv.permissions]
    exact hinv.each
  refine ⟨hnow, fun ctx call w' hexec => ⟨fun hfree' => ?_, fun hkeeps => ?_⟩⟩
  · obtain ⟨-, _, herr⟩ | ⟨actor, _, _, db', hctx, heff, hs, -⟩ := TenantCall.effect_of_exec hexec
    · cases herr
    · rw [hs.platformFree_iff] at hfree'
      have hcatalogue := heff.permissions hinv.wellFormed
      cases call with
      | createTenant slug name =>
        obtain ⟨r, hr, hall⟩ := heff.owner_holds_all hinv.wellFormed
        have hentry : ("platform.manage_users", "Manage all platform users", "platform") ∈
            permissionCatalogue := by decide
        obtain ⟨row, hrow, -, hcategory⟩ := hmigrated.exists_row hentry
        rw [← hinv.permissions] at hrow
        exact absurd hcategory (hfree' r hr row.id (hall row hrow) row (hcatalogue ▸ hrow) rfl)
      | createRole slug name description ps =>
        obtain ⟨r, hr, hall⟩ := heff.created_holds
        intro _ _ _ _ _ p hp row hrow hid
        exact hfree' r hr p (hall p hp) row (hcatalogue ▸ hrow) hid
      | updateRole slug roleId ps =>
        obtain ⟨r, hr, hall⟩ := heff.updated_holds
        intro _ _ _ _ _ p hp row hrow hid
        exact hfree' r hr p (hall p hp) row (hcatalogue ▸ hrow) hid
      | _ => trivial
  · have hstep : TenantStep (platform enabled backend) F w (.call ctx call (.ok ())) w' := .call hexec
    have hrespects := TenantLabel.respects_noPlatform hkeeps
    rw [hinv.permissions] at hrespects
    have hnext := hstep.rolesHave (fun _ _ _ hS => hS) hinv hrespects
    unfold Db.PlatformFree
    rw [hnext.permissions]
    exact hnext.each

namespace Scenario

/-- A new tenant whose owner takes the platform permissions from its system roles. -/
def withoutPlatform : List (Nat × TenantCall) :=
  [(901, .updateRole "acme" ⟨2⟩ [⟨801⟩, ⟨802⟩]), (901, .updateRole "acme" ⟨1⟩ [⟨801⟩, ⟨804⟩]),
   (901, .createTenant "acme" "Acme")]

/-- Then a custom role is created. -/
def customRole : Nat × TenantCall := (901, .createRole "acme" "editor" "" [⟨807⟩, ⟨808⟩])

end Scenario

omit [Unicode] in
/-- No platform permission comes back when an editor is created. -/
theorem platform_permissions_stay_out_editor :
    let w := Scenario.played (Scenario.customRole :: Scenario.withoutPlatform)
    w.db.tenantRoles.length = 5 ∧ w.db.PlatformFree := by
  obtain ⟨hlinks, hlist⟩ :
      (∀ link ∈ (Scenario.played Scenario.withoutPlatform).db.rolePermissions,
        ∀ row ∈ (Scenario.played Scenario.withoutPlatform).db.permissions,
          row.id = link.permissionId → row.category ≠ "platform") ∧
      ∀ row ∈ (Scenario.played Scenario.withoutPlatform).db.permissions,
        row.id = ⟨807⟩ ∨ row.id = ⟨808⟩ → row.category ≠ "platform" := by decide +kernel
  have hrun : Run (· = Scenario.played Scenario.withoutPlatform)
      (@TenantStep Unicode.ascii (platform true .database) noFault) _
      (Scenario.played (Scenario.customRole :: Scenario.withoutPlatform)) :=
    .snoc (.start rfl) (Scenario.step_played Scenario.customRole Scenario.withoutPlatform)
  have hfree : (Scenario.played Scenario.withoutPlatform).db.PlatformFree := by
    intro r _ p hp
    exact hlinks _ (mem_granted.mp hp)
  refine ⟨by decide +kernel, (@platform_permissions_stay_out Unicode.ascii _ _ _ _ _ _ _
    (Scenario.run_migrated Scenario.withoutPlatform) hfree hrun fun e he => ?_).1⟩
  obtain rfl := List.mem_singleton.mp he
  intro actor row _ _ _ p hp row' hrow' hid
  dsimp only at hrow'
  have hp' : p = ⟨807⟩ ∨ p = ⟨808⟩ := by simpa using hp
  exact hlist row' hrow' (hp'.imp (hid.trans ·) (hid.trans ·))

omit [Unicode] in
/-- **A tenant is created.** Its owners hold permissions of the platform. -/
theorem owner_manages_users :
    let w := Scenario.played [(901, .createTenant "acme" "Acme")]
    (∃ tr, Run MigratedInit (@TenantStep Unicode.ascii (platform true .database) noFault) tr w) ∧
      ¬ w.db.PlatformFree := by
  refine ⟨⟨_, Scenario.run_migrated _⟩, fun hfree => ?_⟩
  obtain ⟨r, hr, row, hrow, hlink, hcategory⟩ :
      ∃ r ∈ (Scenario.played [(901, .createTenant "acme" "Acme")]).db.tenantRoles,
        ∃ row ∈ (Scenario.played [(901, .createTenant "acme" "Acme")]).db.permissions,
          ⟨r.id, row.id⟩ ∈ (Scenario.played [(901, .createTenant "acme" "Acme")]).db.rolePermissions ∧
            row.category = "platform" := by decide +kernel
  exact hfree r hr row.id hlink row hrow rfl hcategory

end Klynt
