import Klynt.System.RoleReference

set_option relaxedAutoImplicit false
set_option autoImplicit false

/-!
# Tenant isolation

An operation on a tenant names it by slug, or by the token of one of its invites, and can be
given ids that belong to other tenants.  Whatever it does, and whether it succeeds, the rows of
every other tenant stay as they are.

## Main definitions

* `Db.rowsOf` — everything that belongs to a tenant.
* `TenantOperation`, `TenantOperation.addressed` — the operations, and the tenant they name.

## Main results

* `TenantEffect.rowsOf` — the effect of a call on the rows of other tenants.
* `tenant_isolation` — in every reachable state every operation leaves other tenants alone.

## Implementation notes

The permissions of a role are stored under the id of the role alone, so that they stay with
their tenant because the ids of roles are unique.
-/

namespace Klynt

/-! ## The rows of a tenant -/

/-- Rows that belong to one tenant. -/
structure TenantRows where
  /-- The row of the tenant. -/
  tenants : List TenantRow
  /-- Its memberships. -/
  memberships : List MembershipRow
  /-- Its roles. -/
  tenantRoles : List TenantRoleRow
  /-- The permissions of its roles. -/
  rolePermissions : List RolePermissionRow
  /-- Its invites. -/
  invites : List InviteRow
  /-- Its desktop layouts. -/
  desktopLayouts : List DesktopLayoutRow

/-- Everything in the database that belongs to a tenant. -/
def Db.rowsOf (db : Db) (t : TenantId) : TenantRows :=
  { tenants := db.tenants.filter (·.id = t)
    memberships := db.memberships.filter (·.tenantId = t)
    tenantRoles := db.tenantRoles.filter (·.tenantId = t)
    rolePermissions := db.rolePermissions.filter (·.roleId ∈ db.roleIdsOf t)
    invites := db.invites.filter (·.tenantId = t)
    desktopLayouts := db.desktopLayouts.filter (·.tenantId = t) }

variable {db db' : Db} {t s : TenantId}

/-- The id of a role of a tenant. -/
lemma mem_roleIdsOf {id : RoleId} :
    id ∈ db.roleIdsOf t ↔ ∃ r ∈ db.tenantRoles, r.tenantId = t ∧ r.id = id := by
  simp only [Db.roleIdsOf, List.mem_map, List.mem_filter, decide_eq_true_eq]
  constructor
  · rintro ⟨r, ⟨hr, ht⟩, hid⟩; exact ⟨r, hr, ht, hid⟩
  · rintro ⟨r, hr, ht, hid⟩; exact ⟨r, ⟨hr, ht⟩, hid⟩

/-- A tenant's roles determine the ids of its roles. -/
lemma roleIdsOf_congr
    (h : db'.tenantRoles.filter (·.tenantId = t) = db.tenantRoles.filter (·.tenantId = t)) :
    db'.roleIdsOf t = db.roleIdsOf t := by
  unfold Db.roleIdsOf
  rw [h]

/-- The rows of a tenant are equal table by table. -/
lemma rowsOf_congr (htenants : db'.tenants.filter (·.id = t) = db.tenants.filter (·.id = t))
    (hmembers : db'.memberships.filter (·.tenantId = t) = db.memberships.filter (·.tenantId = t))
    (hroles : db'.tenantRoles.filter (·.tenantId = t) = db.tenantRoles.filter (·.tenantId = t))
    (hperms : db'.rolePermissions.filter (·.roleId ∈ db.roleIdsOf t) =
      db.rolePermissions.filter (·.roleId ∈ db.roleIdsOf t))
    (hinvites : db'.invites.filter (·.tenantId = t) = db.invites.filter (·.tenantId = t))
    (hlayouts : db'.desktopLayouts.filter (·.tenantId = t) =
      db.desktopLayouts.filter (·.tenantId = t)) : db'.rowsOf t = db.rowsOf t := by
  unfold Db.rowsOf
  rw [roleIdsOf_congr hroles, htenants, hmembers, hroles, hperms, hinvites, hlayouts]

/-- The ids of the roles of two tenants are different. -/
lemma RolesOk.not_mem_roleIdsOf (h : RolesOk db.tenants db.tenantRoles) (hne : s ≠ t) {id : RoleId}
    (hs : id ∈ db.roleIdsOf s) : id ∉ db.roleIdsOf t := by
  intro ht
  obtain ⟨r, hr, hrs, hrid⟩ := mem_roleIdsOf.mp hs
  obtain ⟨r', hr', hrt, hrid'⟩ := mem_roleIdsOf.mp ht
  obtain rfl := Keyed.eq_of_key_eq _ h.roleIds hr hr' (hrid.trans hrid'.symm)
  exact hne (hrs.symm.trans hrt)

/-! ## Operations -/

variable [Unicode]

/-- The tenant a call names. -/
def TenantCall.addressed (db : Db) : TenantCall → Option TenantId
  | createTenant _ _ => none
  | acceptInvite token => (db.invite? token).map (·.1.tenantId)
  | updateTenant slug _ | deleteTenant slug | addMember slug _ _ | updateMemberRole slug _ _
  | removeMember slug _ | createInvite slug _ _ | createRole slug _ _ _ | updateRole slug _ _
  | deleteRole slug _ => (db.tenantNamed? slug).map (·.id)

/-- The operations of the tenant service on a tenant. -/
inductive TenantOperation where
  /-- A call that changes something. -/
  | call (c : TenantCall)
  /-- Get a tenant. -/
  | getTenant (slug : String)
  /-- Look up a tenant by its canonical slug. -/
  | getBySlug (slug : TenantSlug)
  /-- List the members of a tenant. -/
  | listMembers (slug : String)
  /-- List the roles of a tenant. -/
  | listRoles (slug : String)
  /-- Get a role of a tenant. -/
  | getRole (slug : String) (roleId : RoleId)
  /-- Ensure that the actor is an owner or admin of a tenant. -/
  | ensureAdmin (slug : String)

namespace TenantOperation

/-- The use case behind an operation, without its value. -/
def run (service : TenantService) (ctx : ExecutionContext) :
    TenantOperation → Action TenantError Unit
  | call c => c.run service ctx
  | getTenant slug => (fun _ => ()) <$> TenantService.getTenant ctx slug
  | getBySlug slug => (fun _ => ()) <$> TenantService.getBySlug slug
  | listMembers slug => (fun _ => ()) <$> TenantService.listMembers ctx slug
  | listRoles slug => (fun _ => ()) <$> TenantService.listRoles ctx slug
  | getRole slug roleId => (fun _ => ()) <$> TenantService.getRole ctx slug roleId
  | ensureAdmin slug => (fun _ => ()) <$> TenantService.ensureAdmin ctx slug

/-- The tenant an operation names. -/
def addressed (db : Db) : TenantOperation → Option TenantId
  | call c => c.addressed db
  | getBySlug slug => (db.tenants.find? (·.slug = slug.text)).map (·.id)
  | getTenant slug | listMembers slug | listRoles slug | getRole slug _ | ensureAdmin slug =>
    (db.tenantNamed? slug).map (·.id)

end TenantOperation

/-! ## Operations that read -/

omit [Unicode] in
/-- A `SELECT`. -/
def Req.Selects : Req → Prop
  | .query _ => True
  | _ => False

omit [Unicode] in
/-- A program that only selects changes nothing. -/
lemma exec_selects {ε α : Type} {p : Action ε α} {F : Req → Prop} {w w' : World} {r : Except ε α}
    (hp : p.All Req.Selects) (h : p.Exec (Env F) w r w') : w' = w := by
  refine h.eq_of_all (fun q w a w' hq he => ?_) hp
  cases q with
  | query q => exact he.1
  | _ => exact hq.elim

/-- Fetching a tenant selects. -/
lemma all_fetchTenant (slug : String) : (fetchTenant slug).All Req.Selects := by
  refine Prog.All.bind (Prog.all_done _) fun s => ?_
  refine Prog.All.bind (Prog.All.mapErr ?_) fun _ => Prog.all_ofOption _ _
  exact Prog.All.bind (all_select trivial).mapErr fun _ => Prog.all_done _

/-- Finding a membership selects. -/
lemma all_find (t : TenantId) (u : UserId) :
    (PgMembershipRepository.find t u).All Req.Selects :=
  Prog.All.bind (all_select trivial).mapErr fun _ => Prog.all_done _

/-- Requiring a permission selects. -/
lemma all_requirePermission (t : TenantId) (u : UserId) (name : String) (e : TenantError) :
    (requirePermission t u name e).All Req.Selects := by
  refine Prog.All.mapErr ?_
  refine Prog.All.bind (all_find t u) fun found => ?_
  refine Prog.All.bind (Prog.all_ofOption _ _) fun m => ?_
  refine Prog.All.bind (all_select trivial).mapErr fun found => ?_
  refine Prog.All.bind (Prog.all_ofOption _ _) fun r => ?_
  have hperm : (PgPermissionRepository.findPermissionByName name).All Req.Selects :=
    Prog.All.bind (all_select trivial).mapErr fun _ => Prog.all_done _
  refine Prog.All.bind hperm fun found => ?_
  exact Prog.All.bind (Prog.all_ofOption _ _) fun p => Prog.all_rejectIf _ _

/-- The guarded prefix selects. -/
lemma all_guarded {α : Type} {ctx : ExecutionContext} {slug name : String} {e : TenantError}
    {f : UserId → Tenant → Action TenantError α} (hf : ∀ u tenant, (f u tenant).All Req.Selects) :
    (do
      let actor ← requireActor ctx
      let tenant ← fetchTenant slug
      requirePermission tenant.id actor name e
      f actor tenant : Action TenantError α).All Req.Selects := by
  refine Prog.All.bind (Prog.all_ofOption _ _) fun actor => ?_
  refine Prog.All.bind (all_fetchTenant slug) fun tenant => ?_
  exact Prog.All.bind (all_requirePermission _ _ _ _) fun _ => hf actor tenant

/-- An operation that is not a call selects. -/
lemma TenantOperation.all_selects {service : TenantService} {ctx : ExecutionContext}
    {op : TenantOperation} (h : ∀ c, op ≠ .call c) : (op.run service ctx).All Req.Selects := by
  cases op with
  | call c => exact absurd rfl (h c)
  | getTenant slug => exact (all_guarded fun _ _ => Prog.all_pure _).map
  | getBySlug slug =>
    refine Prog.All.map (Prog.All.mapErr ?_)
    exact Prog.All.bind (all_select trivial).mapErr fun _ => Prog.all_done _
  | listMembers slug =>
    refine Prog.All.map (all_guarded fun _ _ => Prog.All.mapErr ?_)
    exact Prog.All.bind (all_select trivial).mapErr fun _ => Prog.all_done _
  | listRoles slug =>
    have hlist : ∀ t, (PgRoleRepository.listRolesForTenant t).All Req.Selects :=
      fun _ => (all_select trivial).mapErr
    exact (all_guarded fun _ tenant => (hlist tenant.id).mapErr).map
  | getRole slug roleId =>
    refine Prog.All.map (all_guarded fun _ _ => ?_)
    exact Prog.All.bind (all_select trivial).mapErr.mapErr fun _ => Prog.all_ofOption _ _
  | ensureAdmin slug =>
    refine Prog.All.map (Prog.All.bind (Prog.all_ofOption _ _) fun u => ?_)
    refine Prog.All.bind (all_fetchTenant slug) fun tenant => ?_
    refine Prog.All.bind (all_find _ _).mapErr fun m => ?_
    cases m with
    | none => exact Prog.all_fail _
    | some m =>
      change (if m.role.canAdminister then pure tenant else Prog.fail .notAdmin :
        Action TenantError Tenant).All Req.Selects
      split
      · exact Prog.all_pure _
      · exact Prog.all_fail _

/-! ## Calls -/

/-- **The effect of a call on other tenants.** The rows of an existing tenant that the call does
not name stay as they are.

**Proof sketch.** Every statement is restricted to rows of the named tenant, except for those on
the permissions of a role, which are restricted to one role; that role was found under the named
tenant, and the ids of roles are unique. -/
lemma TenantEffect.rowsOf {now : Time} {actor : UserId} {call : TenantCall} {complete : Bool}
    {event : Option MembershipEvent} (h : TenantEffect now actor db call complete event db')
    (hw : db.WellFormed) (hrefs : db.RefsOk) (ht : ∃ row ∈ db.tenants, row.id = t)
    (haddr : call.addressed db ≠ some t) :
    db'.rowsOf t = db.rowsOf t := by
  have hnamed : ∀ {slug : String} {row : TenantRow}, db.tenantNamed? slug = some row →
      (db.tenantNamed? slug).map (·.id) ≠ some t → row.id ≠ t := by
    intro slug row hrow hne hid
    rw [hrow, Option.map_some, hid] at hne
    exact hne rfl
  cases h with
  | @created slug name tenant ids row db' hslug hnew h =>
    obtain ⟨name, rfl, -, hid, -, -, -, hids, seeds, hseeds, -, rfl⟩ :=
      createTenantTx_ok hw.roles.roleTenant hw.roles.roleIds h
    obtain ⟨old, hold, rfl⟩ := ht
    have hne : tenant.id ≠ old.id := (hid old hold).symm
    have hnew : ∀ r ∈ systemRoleRows now tenant.id ids, r.tenantId = tenant.id := by
      intro r hr
      obtain ⟨x, -, rfl⟩ := List.mem_map.mp hr
      rfl
    refine rowsOf_congr ?_ ?_ ?_ ?_ rfl rfl
    · exact Keyed.filter_append_outside fun r hr => by
        obtain rfl := List.mem_singleton.mp hr
        exact decide_eq_false hne
    · exact Keyed.filter_append_outside fun m hm => by
        obtain rfl := List.mem_singleton.mp hm
        exact decide_eq_false hne
    · exact Keyed.filter_append_outside fun r hr => decide_eq_false (by rw [hnew r hr]; exact hne)
    · refine Keyed.filter_append_outside fun rp hrp => decide_eq_false fun hmem => ?_
      obtain ⟨r, hr, p, -, rfl, -⟩ := hseeds rp hrp
      obtain ⟨r', hr', -, hrid⟩ := mem_roleIdsOf.mp hmem
      rw [List.map_append] at hids
      exact (List.nodup_append.mp hids).2.2 _ (List.mem_map_of_mem hr') _ (List.mem_map_of_mem hr)
        hrid
  | @renamed slug name row tenant n db' hrow htenant hgrant h =>
    obtain ⟨-, rfl⟩ | ⟨-, name', -, -, rfl⟩ := updateTenant_ok h
    · rfl
    · have hne : tenant.id ≠ t := by
        rw [mapTenantRow_id htenant]
        exact hnamed hrow haddr
      refine rowsOf_congr (Keyed.filter_map_outside fun x _ => ?_) rfl rfl rfl rfl rfl
      split
      · rename_i hx
        exact .inr ⟨decide_eq_false fun hid => hne (hx.symm.trans hid), decide_eq_false hne⟩
      · exact .inl rfl
  | @deleted slug row n db' hrow hgrant h =>
    obtain ⟨-, rfl, -⟩ | ⟨-, rfl⟩ := deleteTenant_ok h
    · rfl
    · have hne : row.id ≠ t := hnamed hrow haddr
      have hkeep : ∀ {x : TenantId}, decide (x = t) = true → decide (x ≠ row.id) = true := by
        intro x hx
        obtain rfl := of_decide_eq_true hx
        exact decide_eq_true hne.symm
      refine rowsOf_congr ?_ ?_ ?_ ?_ ?_ ?_
      · exact Keyed.filter_filter_outside fun _ _ hx => hkeep hx
      · exact Keyed.filter_filter_outside fun _ _ hx => hkeep hx
      · exact Keyed.filter_filter_outside fun _ _ hx => hkeep hx
      · refine Keyed.filter_filter_outside fun rp _ hrp => decide_eq_true ?_
        exact hw.roles.not_mem_roleIdsOf hne.symm (of_decide_eq_true hrp)
      · exact Keyed.filter_filter_outside fun _ _ hx => hkeep hx
      · exact Keyed.filter_filter_outside fun _ _ hx => hkeep hx
  | memberAdded hrow hgrant hu hr h =>
    obtain ⟨-, -, -, -, -, rfl⟩ := insertMembership_ok h
    have hne := hnamed hrow haddr
    refine rowsOf_congr rfl (Keyed.filter_append_outside fun m hm => ?_) rfl rfl rfl rfl
    obtain rfl := List.mem_singleton.mp hm
    exact decide_eq_false hne
  | @memberUpdated slug email role row u r n db' hrow hgrant hu hr h hn =>
    obtain ⟨-, -, rfl⟩ := updateMembershipRole_ok h
    have hne := hnamed hrow haddr
    refine rowsOf_congr rfl (Keyed.filter_map_outside fun m hm => ?_) rfl rfl rfl rfl
    by_cases hkey : m.hasKey row.id u = true
    · obtain ⟨hmt, -⟩ := MembershipRow.hasKey_iff.mp hkey
      have hmne : m.tenantId ≠ t := hmt.symm ▸ hne
      rw [if_pos hkey]
      exact .inr ⟨decide_eq_false hmne, decide_eq_false hmne⟩
    · exact .inl (if_neg hkey)
  | @memberRemoved slug email row u n db' hrow hgrant hu h hn =>
    obtain ⟨-, rfl⟩ := deleteMembership_ok h
    have hne := hnamed hrow haddr
    refine rowsOf_congr rfl (Keyed.filter_filter_outside fun m _ hm => ?_) rfl rfl rfl rfl
    refine decide_eq_true fun hkey => ?_
    obtain ⟨hmt, -⟩ := MembershipRow.hasKey_iff.mp hkey
    exact hne (hmt.symm.trans (of_decide_eq_true hm))
  | @inviteCreated slug email role row r inv db' hrow hgrant hr htenant hroleId hby hpending h =>
    obtain ⟨email, -, -, -, -, -, rfl⟩ := insertInvite_ok h
    have hne := hnamed hrow haddr
    refine rowsOf_congr rfl rfl rfl rfl (Keyed.filter_append_outside fun i hi => ?_) rfl
    obtain rfl := List.mem_singleton.mp hi
    exact decide_eq_false (by change inv.tenantId ≠ t; rw [htenant]; exact hne)
  | @inviteInserted token roleName inv role m db' hinv h =>
    obtain ⟨-, -, -, -, -, rfl⟩ := insertMembership_ok h
    have hne : inv.tenantId ≠ t := by
      intro hid
      simp only [TenantCall.addressed, hinv.found, Option.map_some, hid] at haddr
      exact haddr rfl
    refine rowsOf_congr rfl (Keyed.filter_append_outside fun m hm => ?_) rfl rfl rfl rfl
    obtain rfl := List.mem_singleton.mp hm
    exact decide_eq_false hne
  | @inviteAccepted token roleName inv role m n db₁ db' hinv h hmark =>
    obtain ⟨-, -, -, -, -, rfl⟩ := insertMembership_ok h
    obtain ⟨-, rfl⟩ := markInviteAccepted_ok hmark
    have hne : inv.tenantId ≠ t := by
      intro hid
      simp only [TenantCall.addressed, hinv.found, Option.map_some, hid] at haddr
      exact haddr rfl
    refine rowsOf_congr rfl ?_ rfl rfl ?_ rfl
    · refine Keyed.filter_append_outside fun m hm => ?_
      obtain rfl := List.mem_singleton.mp hm
      exact decide_eq_false hne
    · refine Keyed.filter_map_outside fun i hi => ?_
      by_cases hid : i.id = inv.id
      · obtain rfl := Keyed.eq_of_key_eq _ hrefs.inviteIds hi (Db.of_invite? hinv.found).1 hid
        rw [if_pos rfl]
        exact .inr ⟨decide_eq_false hne, decide_eq_false hne⟩
      · exact .inl (if_neg hid)
  | @roleCreated slug name description permissionIds row role db' hrow hgrant htenant hcustom hperms h =>
    obtain ⟨name, hid, -, -, rfl⟩ := createRoleTx_ok h
    have hne := hnamed hrow haddr
    refine rowsOf_congr rfl rfl ?_ ?_ rfl rfl
    · refine Keyed.filter_append_outside fun r hr => ?_
      obtain rfl := List.mem_singleton.mp hr
      exact decide_eq_false (by change role.tenantId ≠ t; rw [htenant]; exact hne)
    · refine Keyed.filter_append_outside fun rp hrp => decide_eq_false fun hmem => ?_
      obtain ⟨p, -, rfl⟩ := List.mem_map.mp hrp
      obtain ⟨r, hr, -, hrid⟩ := mem_roleIdsOf.mp hmem
      exact hid r hr hrid
  | @roleUpdated slug roleId permissionIds row db' hrow hgrant h =>
    obtain ⟨hrole, rfl⟩ := updateRolePermissionsTx_ok h
    have hne := hnamed hrow haddr
    have hother := hw.roles.not_mem_roleIdsOf hne (mem_roleIdsOf.mpr hrole)
    refine rowsOf_congr rfl rfl ?_ ?_ rfl rfl
    · refine Keyed.filter_map_outside fun r hr => ?_
      unfold TenantRoleRow.touched
      by_cases hkey : r.tenantId = row.id ∧ r.id = roleId
      · have hrne : r.tenantId ≠ t := hkey.1.symm ▸ hne
        rw [if_pos hkey]
        exact .inr ⟨decide_eq_false hrne, decide_eq_false hrne⟩
      · exact .inl (if_neg hkey)
    · rw [Keyed.filter_append_outside, Keyed.filter_filter_outside]
      · intro rp _ hrp
        refine decide_eq_true fun hid => hother ?_
        rw [← hid]
        exact of_decide_eq_true hrp
      · intro rp hrp
        obtain ⟨p, -, rfl⟩ := List.mem_map.mp hrp
        exact decide_eq_false hother
  | @roleDeleted slug roleId row n db' hrow hgrant h hn =>
    obtain ⟨-, rfl⟩ | ⟨-, ⟨r, hr, hrt, hrid, -⟩, -, -, rfl⟩ := deleteRole_ok h
    · rfl
    · have hne := hnamed hrow haddr
      have hother := hw.roles.not_mem_roleIdsOf hne (mem_roleIdsOf.mpr ⟨r, hr, hrt, hrid⟩)
      refine rowsOf_congr rfl rfl ?_ ?_ rfl rfl
      · refine Keyed.filter_filter_outside fun x _ hx => decide_eq_true fun hgone => ?_
        exact hne (hgone.1.symm.trans (of_decide_eq_true hx))
      · refine Keyed.filter_filter_outside fun rp _ hrp => decide_eq_true fun hid => hother ?_
        rw [← hid]
        exact of_decide_eq_true hrp

/-- The outcome of a call on an existing tenant it does not name. -/
lemma TenantCall.rowsOf_of_exec {enabled : Bool} {backend : SessionBackend} {F : Req → Prop}
    {ctx : ExecutionContext} {call : TenantCall} {w w' : World} {r : Except TenantError Unit}
    (h : (call.run (platform enabled backend) ctx).Exec (Env F) w r w') (hw : w.db.WellFormed)
    (hrefs : w.db.RefsOk) (ht : ∃ row ∈ w.db.tenants, row.id = t)
    (haddr : call.addressed w.db ≠ some t) : w'.db.rowsOf t = w.db.rowsOf t := by
  cases TenantCall.outcome h with
  | nothing => rfl
  | failed hctx heff => exact heff.rowsOf hw hrefs ht haddr
  | silent hctx heff => exact heff.rowsOf hw hrefs ht haddr
  | notified hctx heff hrun hr =>
    obtain ⟨_, _, _, rfl⟩ := sessionsMoved_of_exec (all_notify enabled backend _) hrun
    exact heff.rowsOf hw hrefs ht haddr

/-- **Tenant isolation.** In every state a run reaches, every operation of the tenant service,
with any arguments and any pattern of failures, leaves all rows of every existing tenant it does
not name as they are; and after it every membership that refers to a role refers to one of its
own tenant, and to no role of another tenant. -/
theorem tenant_isolation {enabled : Bool} {backend : SessionBackend} {F : Req → Prop}
    {tr : List (World × TenantLabel)} {w w' : World}
    (h : Run (·.db.NoTenants) (TenantStep (platform enabled backend) F) tr w)
    {ctx : ExecutionContext} {op : TenantOperation} {r : Except TenantError Unit}
    (hop : (op.run (platform enabled backend) ctx).Exec (Env F) w r w') :
    (∀ row ∈ w.db.tenants, op.addressed w.db ≠ some row.id →
      w'.db.rowsOf row.id = w.db.rowsOf row.id) ∧
    ∀ m ∈ w'.db.memberships, ∀ id, m.tenantRoleId = some id →
      (∃ role ∈ w'.db.tenantRoles, role.id = id ∧ role.tenantId = m.tenantId) ∧
      ∀ role ∈ w'.db.tenantRoles, role.id = id → role.tenantId = m.tenantId := by
  have hw := wellFormed_of_run h
  have hrefs := refsOk_of_run h
  have hafter : w'.db.WellFormed ∧ w'.db.RefsOk ∧
      ∀ row ∈ w.db.tenants, op.addressed w.db ≠ some row.id →
        w'.db.rowsOf row.id = w.db.rowsOf row.id := by
    by_cases hcall : ∃ c, op = .call c
    · obtain ⟨c, rfl⟩ := hcall
      have hstep : TenantStep (platform enabled backend) F w (.call ctx c r) w' := .call hop
      exact ⟨hstep.wellFormed hw, hstep.refsOk hw hrefs,
        fun row hrow haddr => c.rowsOf_of_exec hop hw hrefs ⟨row, hrow, rfl⟩ haddr⟩
    · have hall : (op.run (platform enabled backend) ctx).All Req.Selects :=
        TenantOperation.all_selects fun c hc => hcall ⟨c, hc⟩
      rw [exec_selects hall hop]
      exact ⟨hw, hrefs, fun _ _ _ => rfl⟩
  obtain ⟨hw', hrefs', hrows⟩ := hafter
  refine ⟨hrows, fun m hm id hid => ?_⟩
  obtain ⟨role, hrole, hrid, hrt, -⟩ := hrefs'.member m hm id hid
  refine ⟨⟨role, hrole, hrid, hrt⟩, fun other hother hoid => ?_⟩
  obtain rfl := Keyed.eq_of_key_eq _ hw'.roles.roleIds hother hrole (hoid.trans hrid.symm)
  exact hrt

namespace Scenario

/-- Two tenants with members. -/
def neighbours : List (Nat × TenantCall) :=
  [(902, .addMember "globex" "eve@x.org" .guest),
   (902, .createTenant "globex" "Globex"),
   (901, .createRole "acme" "editor" "" [⟨801⟩]),
   (901, .addMember "acme" "eve@x.org" .member),
   (901, .createTenant "acme" "Acme")]

end Scenario

omit [Unicode] in
/-- The owner of one tenant fails to change the owner's role of another tenant. -/
theorem tenant_isolation_neighbours : letI := Unicode.ascii
    let w := Scenario.after (platform true .database) Scenario.neighbours
    let op : TenantOperation := .call (.updateRole "globex" ⟨⟨1⟩⟩ [])
    let w' := ((op.run (platform true .database) (Scenario.ctx 902)).eval World.answer w).2
    w.db.tenants.length = 2 ∧ w.db.memberships.length = 4 ∧
      ∀ row ∈ w.db.tenants, op.addressed w.db ≠ some row.id →
        w'.db.rowsOf row.id = w.db.rowsOf row.id := by
  obtain ⟨tr, h⟩ := @Scenario.run_after Unicode.ascii (platform true .database) noFault
    Scenario.neighbours
  obtain ⟨htenants, hmemberships⟩ :
      (@Scenario.after Unicode.ascii (platform true .database)
        Scenario.neighbours).db.tenants.length = 2 ∧
      (@Scenario.after Unicode.ascii (platform true .database)
        Scenario.neighbours).db.memberships.length = 4 := by decide +kernel
  exact ⟨htenants, hmemberships,
    (@tenant_isolation Unicode.ascii _ _ _ _ _ _ h _ _ _ (Prog.exec_eval (env_answer _))).1⟩

end Klynt
