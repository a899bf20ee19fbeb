import Klynt.System.RolePermissions
import Klynt.System.RoleReference

set_option relaxedAutoImplicit false
set_option autoImplicit false

/-!
# System roles

Every tenant is created with four system roles that grant what they are seeded with.  The
deletion of a role is restricted to custom roles by its statement; the update of a role looks
for no such thing, although it is documented as the update of a custom role.

## Main definitions

* `TenantLabel.EditsSystemRole` — a call may update a system role.

## Main results

* `system_roles_keep` — in runs of other calls system roles stay as they were seeded.
* `guest_gets_delete` — a call of `update_role` changes what guests are granted.
-/

namespace Klynt

variable [Unicode]

/-- The call updates a system role: its actor may manage the roles of the tenant it names, and
the id belongs to a system role of that tenant. -/
def TenantLabel.EditsSystemRole (db : Db) : TenantLabel → Prop
  | call ctx (.updateRole slug roleId _) _ => ∃ (actor : UserId) (row : TenantRow)
    (r : TenantRoleRow), ctx.actorId = some actor.inner ∧ db.tenantNamed? slug = some row ∧
      db.Grants row.id actor Permission.manageRoles ∧ r ∈ db.tenantRoles ∧ r.tenantId = row.id ∧
      r.id = roleId ∧ r.isSystem = true
  | _ => False

omit [Unicode] in
/-- A role is either custom, or a system role that grants what it is seeded with. -/
def SeededOrCustom (db : Db) : RoleProperty := fun r granted =>
  r.isCustom = !r.isSystem ∧ (r.isSystem = true → granted = db.seeded r.name)

/-- Calls that update no system role respect the seeds. -/
lemma TenantLabel.respects_seeds {db db₀ : Db} {l : TenantLabel}
    (hcatalogue : db.permissions = db₀.permissions) (hl : ¬ l.EditsSystemRole db) :
    l.Respects (SeededOrCustom db₀) db := by
  have hseeded : ∀ name, db.seeded name = db₀.seeded name := by
    intro name
    unfold Db.seeded
    rw [hcatalogue]
  cases l with
  | other => trivial
  | call ctx c r =>
    cases c with
    | createTenant slug name =>
      intro actor hctx hmay r role hname hsystem hcustom
      refine ⟨by rw [hsystem, hcustom]; rfl, fun _ => ?_⟩
      rw [hname, hseeded]
    | createRole slug name description permissionIds =>
      intro actor row hctx hrow hgrant r hsystem hcustom
      refine ⟨by rw [hsystem, hcustom]; rfl, fun h => ?_⟩
      rw [hsystem] at h
      cases h
    | updateRole slug roleId permissionIds =>
      intro actor row hctx hrow hgrant r hr ht hid hold
      refine ⟨hold.1, fun hsystem => absurd ?_ hl⟩
      exact ⟨actor, row, r, hctx, hrow, hgrant, hr, ht, hid, hsystem⟩
    | _ => trivial

/-- The runs in question keep the seeds. -/
lemma seeds_of_run {enabled : Bool} {backend : SessionBackend} {F : Req → Prop}
    {tr : List (World × TenantLabel)} {w : World}
    (h : Run (·.db.NoTenants) (TenantStep (platform enabled backend) F) tr w)
    (hl : ∀ e ∈ tr, ¬ e.2.EditsSystemRole e.1.db) : w.db.EachRole (SeededOrCustom w.db) := by
  obtain ⟨w₀, hno, hrun⟩ := h.exists_start
  -- the catalogue of the start is that of every state, so it can stand in the invariant
  have hinv : w.db.RolesHave (SeededOrCustom w₀.db) w₀.db.permissions := by
    refine hrun.invariant_of_forall (C := fun w l => ¬ l.EditsSystemRole w.db)
      (I := fun w => w.db.RolesHave (SeededOrCustom w₀.db) w₀.db.permissions) ?_ ?_ hl
    · rintro w rfl
      exact hno.rolesHave
    · intro w l w' hI hC hstep
      exact hstep.rolesHave (fun _ _ _ hS => hS) hI (TenantLabel.respects_seeds hI.permissions hC)
  have hseeded : SeededOrCustom w.db = SeededOrCustom w₀.db := by
    unfold SeededOrCustom Db.seeded
    rw [hinv.permissions]
  rw [hseeded]
  exact hinv.each

/-- A role found by its id within a named tenant. -/
def Db.NamedRole (db : Db) (slug : String) (roleId : RoleId) (r : TenantRoleRow) : Prop :=
  ∃ row, db.tenantNamed? slug = some row ∧ r ∈ db.tenantRoles ∧ r.tenantId = row.id ∧ r.id = roleId

/-- **System roles stay as they were seeded, unless a call updates one of them.** In every state
reached by a run without such a call every tenant has its four system roles, each of which grants
exactly the permissions of the catalogue it was seeded with; from there, the deletion of a role
succeeds on custom roles only, and so does the update of a role, unless it updates a system role.

**Proof sketch.** What a role grants changes only as `RoleOrigin` says: a kept role grants what
it granted, a seeded one what it is seeded with, and a system role is replaced by no call of the
run.  The deletion finds a role with `is_system = FALSE`. -/
theorem system_roles_keep {enabled : Bool} {backend : SessionBackend} {F : Req → Prop}
    {tr : List (World × TenantLabel)} {w : World}
    (h : Run (·.db.NoTenants) (TenantStep (platform enabled backend) F) tr w)
    (hl : ∀ e ∈ tr, ¬ e.2.EditsSystemRole e.1.db) :
    (∀ t ∈ w.db.tenants, ∀ role : TenantRole, ∃ r, w.db.roleNamed? t.id role.asStr = some r ∧
      r.isSystem = true ∧ r.isCustom = false ∧ w.db.granted r.id = w.db.seeded role.asStr) ∧
    ∀ (ctx : ExecutionContext) (slug : String) (roleId : RoleId) (w' : World),
      (((TenantCall.deleteRole slug roleId).run (platform enabled backend) ctx).Exec (Env F) w
        (.ok ()) w' →
          ∃ r, w.db.NamedRole slug roleId r ∧ r.isSystem = false ∧ r.isCustom = true) ∧
      ∀ permissionIds : List PermissionId,
        ((TenantCall.updateRole slug roleId permissionIds).run (platform enabled backend) ctx).Exec
          (Env F) w (.ok ()) w' →
        ∃ r, w.db.NamedRole slug roleId r ∧ (r.isSystem = false ∧ r.isCustom = true ↔
          ¬ (TenantLabel.call ctx (.updateRole slug roleId permissionIds) (.ok ())).EditsSystemRole
            w.db) := by
  have hw := wellFormed_of_run h
  have hseeds := seeds_of_run h hl
  have hcustom : ∀ r ∈ w.db.tenantRoles, r.isSystem = false → r.isCustom = true := by
    intro r hr hsystem
    rw [(hseeds r hr).1, hsystem]
    rfl
  refine ⟨fun t ht role => ?_, fun ctx slug roleId w' => ⟨fun hexec => ?_, fun ps hexec => ?_⟩⟩
  · obtain ⟨r, hr, hrt, hname, hsystem⟩ := hw.roles.systemRole t ht role
    obtain ⟨hflags, hgranted⟩ := hseeds r hr
    have hfound := (hw.role_found hr).1
    rw [hrt, hname] at hfound
    refine ⟨r, hfound, hsystem, by rw [hflags, hsystem]; rfl, ?_⟩
    rw [hgranted hsystem, hname]
  · obtain ⟨-, _, herr⟩ | ⟨_, _, _, _, -, heff, -, -⟩ := TenantCall.effect_of_exec hexec
    · cases herr
    · cases heff with
      | roleDeleted hrow hgrant hdelete hn =>
        obtain ⟨hzero, -⟩ | ⟨-, ⟨r, hr, hrt, hrid, hsystem⟩, -⟩ := deleteRole_ok hdelete
        · exact absurd hzero hn
        · exact ⟨r, ⟨_, hrow, hr, hrt, hrid⟩, hsystem, hcustom r hr hsystem⟩
  · obtain ⟨-, _, herr⟩ | ⟨actor, _, _, _, hctx, heff, -, -⟩ := TenantCall.effect_of_exec hexec
    · cases herr
    · cases heff with
      | @roleUpdated _ _ _ row _ hrow hgrant hupdate =>
        obtain ⟨⟨r, hr, hrt, hrid⟩, -⟩ := updateRolePermissionsTx_ok hupdate
        refine ⟨r, ⟨_, hrow, hr, hrt, hrid⟩, ?_, ?_⟩
        · rintro ⟨hnot, -⟩ ⟨actor', row', r', -, hrow', -, hr', -, hrid', hsystem⟩
          obtain rfl := Keyed.eq_of_key_eq _ hw.roles.roleIds hr hr' (hrid.trans hrid'.symm)
          rw [hsystem] at hnot
          cases hnot
        · intro hnot
          have hsystem : r.isSystem = false := by
            rw [← Bool.not_eq_true]
            exact fun hs => hnot ⟨actor, row, r, hctx, hrow, hgrant, hr, hrt, hrid, hs⟩
          exact ⟨hsystem, hcustom r hr hsystem⟩

namespace Scenario

/-- The creator of a tenant gives guests the permission to delete it. -/
def guestsDelete : List (Nat × TenantCall) :=
  [(901, .updateRole "acme" ⟨4⟩ [⟨805⟩]), (901, .createTenant "acme" "Acme")]

/-- The creator of a tenant creates, updates and deletes custom roles. -/
def customRoles : List (Nat × TenantCall) :=
  [(901, .deleteRole "acme" ⟨5⟩), (901, .updateRole "acme" ⟨6⟩ [⟨801⟩, ⟨803⟩]),
   (901, .createRole "acme" "editor" "" [⟨801⟩]), (901, .createRole "acme" "viewer" "" []),
   (901, .createTenant "acme" "Acme")]

end Scenario

omit [Unicode] in
/-- A tenant keeps its system roles while custom roles are created, updated and deleted. -/
theorem system_roles_keep_custom :
    let w := Scenario.played Scenario.customRoles
    (w.db.tenants.length = 1 ∧ w.db.tenantRoles.length = 5) ∧
      ∀ t ∈ w.db.tenants, ∀ role : TenantRole, ∃ r, w.db.roleNamed? t.id role.asStr = some r ∧
        r.isSystem = true ∧ r.isCustom = false ∧ w.db.granted r.id = w.db.seeded role.asStr := by
  have hcustom : ∀ r ∈ (Scenario.played (Scenario.customRoles.drop 2)).db.tenantRoles,
      r.id = ⟨6⟩ → ¬ r.isSystem = true := by decide +kernel
  have hl : ∀ e ∈ Scenario.playedHistory Scenario.customRoles,
      ¬ @TenantLabel.EditsSystemRole Unicode.ascii e.1.db e.2 := by
    intro e he
    simp only [Scenario.playedHistory, Scenario.history, Scenario.customRoles, List.mem_cons,
      List.not_mem_nil, or_false] at he
    simp only [Scenario.played, Scenario.customRoles, List.drop_succ_cons, List.drop_zero] at hcustom
    rcases he with rfl | rfl | rfl | rfl | rfl
    · exact id
    · rintro ⟨_, _, r, -, -, -, hr, -, hid, hsystem⟩
      dsimp only at hr
      exact hcustom r hr hid hsystem
    · exact id
    · exact id
    · exact id
  exact ⟨by decide +kernel,
    (@system_roles_keep Unicode.ascii _ _ _ _ _ (Scenario.run_played Scenario.customRoles) hl).1⟩

omit [Unicode] in
/-- **A system role is updated.** The creator of a tenant lets its guests delete the tenant. -/
theorem guest_gets_delete :
    let w := Scenario.played Scenario.guestsDelete
    (∃ tr, Run (·.db.NoTenants) (@TenantStep Unicode.ascii (platform true .database) noFault) tr w) ∧
      ¬ ∀ t ∈ w.db.tenants, ∀ role : TenantRole, ∃ r, w.db.roleNamed? t.id role.asStr = some r ∧
        r.isSystem = true ∧ w.db.granted r.id = w.db.seeded role.asStr := by
  obtain ⟨hfound, hlinked, hunseeded⟩ :
      (∃ t ∈ (Scenario.played Scenario.guestsDelete).db.tenants, t.id = ⟨0⟩) ∧
      (∀ r ∈ (Scenario.played Scenario.guestsDelete).db.tenantRoles, r.name = "guest" →
        ⟨r.id, ⟨805⟩⟩ ∈ (Scenario.played Scenario.guestsDelete).db.rolePermissions) ∧
      ∀ row ∈ (Scenario.played Scenario.guestsDelete).db.permissions,
        row.id = ⟨805⟩ → ¬ seedGrants "guest" row.name = true := by decide +kernel
  refine ⟨⟨_, Scenario.run_played Scenario.guestsDelete⟩, fun h => ?_⟩
  obtain ⟨t, ht, hid⟩ := hfound
  obtain ⟨r, hr, -, hgranted⟩ := h t ht .guest
  obtain ⟨hmem, -, hname⟩ := Db.of_roleNamed? hr
  have hgets : (⟨805⟩ : PermissionId) ∈ (Scenario.played Scenario.guestsDelete).db.granted r.id :=
    hlinked r hmem hname
  rw [hgranted] at hgets
  obtain ⟨row, hrow, hrid, hseed⟩ := hgets
  exact hunseeded row hrow hrid hseed

end Klynt
