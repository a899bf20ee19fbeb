import Klynt.System.InviteOrigin

set_option relaxedAutoImplicit false
set_option autoImplicit false

/-!
# Where a user's permissions come from

Who may manage members decides which role a member gets, and the role decides what the member
may do; the manager's own permissions do not bound the role.  So a call can hand out a
permission its actor does not hold, and this module says which ones, to whom, and by whose
decision.

## Main definitions

* `Provenance` — where a permission that a call gives comes from.

## Main results

* `privilege_provenance` — every permission a call gives has such an origin.
* `addMember_amplifies` — a call gives a permission its actor does not hold.

## Implementation notes

Replacing the permissions of a system role is not guarded against; `Provenance` only says that
the role was one.
-/

namespace Klynt

variable [Unicode] {now : Time} {db db' : Db} {t : TenantId} {u : UserId} {name : String}

/-! ## Memberships -/

/-- A member added to the table is granted what the role of the new row grants. -/
theorem grants_concat {m : MembershipRow}
    (h : Db.Grants { db with memberships := db.memberships ++ [m] } t u name) :
    db.Grants t u name ∨ m.hasKey t u = true ∧
      ∃ role, TenantRole.parse m.role = .ok role ∧ db.RoleGrants t role name := by
  obtain ⟨x, role, hx, hrole, hgrant⟩ := h
  have hx : ((db.membership? t u).or (List.find? (·.hasKey t u) [m])) = some x := by
    rw [← hx]; exact (List.find?_append ..).symm
  cases hold : db.membership? t u with
  | some y =>
    obtain rfl : y = x := by simpa [hold] using hx
    exact .inl ⟨y, role, hold, hrole, hgrant⟩
  | none =>
    have hm : List.find? (·.hasKey t u) [m] = some x := by simpa [hold] using hx
    obtain rfl := List.mem_singleton.mp (List.mem_of_find?_eq_some hm)
    exact .inr ⟨(List.find?_eq_some_iff_append.mp hm).1, role, hrole, hgrant⟩

/-- Changing the role of one member changes what this member is granted. -/
theorem grants_update {t' : TenantId} {u' : UserId} {role : TenantRole} {id : RoleId}
    (h : Db.Grants { db with
      memberships := db.memberships.map fun m =>
        if m.hasKey t' u' then { m with role := role.asStr, tenantRoleId := some id } else m }
        t u name) :
    db.Grants t u name ∨ t = t' ∧ u = u' ∧ db.RoleGrants t role name := by
  obtain ⟨x, role', hx, hrole, hgrant⟩ := h
  have hkey : ∀ m : MembershipRow, MembershipRow.hasKey
      (if m.hasKey t' u' then { m with role := role.asStr, tenantRoleId := some id } else m) t u =
        m.hasKey t u := fun m => by split <;> rfl
  have hx : (db.membership? t u).map (fun m =>
      if m.hasKey t' u' then { m with role := role.asStr, tenantRoleId := some id } else m) =
        some x := by
    rw [← hx]
    simp only [Db.membership?, List.find?_map, Function.comp_def, hkey]
  obtain ⟨m, hm, rfl⟩ := Option.map_eq_some_iff.mp hx
  obtain ⟨-, hmt, hmu⟩ := Db.of_membership? hm
  by_cases hk : m.hasKey t' u' = true
  · obtain ⟨hmt', hmu'⟩ := MembershipRow.hasKey_iff.mp hk
    rw [if_pos hk, TenantRole.parse_asStr] at hrole
    obtain rfl := Except.ok.inj hrole
    exact .inr ⟨hmt.symm.trans hmt', hmu.symm.trans hmu', hgrant⟩
  · rw [if_neg hk] at hrole
    exact .inl ⟨m, role', hm, hrole, hgrant⟩

/-- Removing members grants nothing. -/
theorem grants_filter {t' : TenantId} {u' : UserId}
    (h : Db.Grants { db with memberships := db.memberships.filter fun m => ¬ m.hasKey t' u' }
      t u name) : db.Grants t u name := by
  obtain ⟨x, role, hx, hrole, hgrant⟩ := h
  refine ⟨x, role, ?_, hrole, hgrant⟩
  obtain ⟨hmem, hxt, hxu⟩ := Db.of_membership? hx
  have hkept : ¬ x.hasKey t' u' = true := of_decide_eq_true (List.mem_filter.mp hmem).2
  -- a row with the key of `x` is kept as `x` is
  have hagree : ∀ m : MembershipRow, (decide (¬ m.hasKey t' u' = true) = true ∧ m.hasKey t u = true)
      ↔ m.hasKey t u = true := by
    refine fun m => and_iff_right_of_imp fun hk => decide_eq_true fun hk' => hkept ?_
    obtain ⟨hmt, hmu⟩ := MembershipRow.hasKey_iff.mp hk
    obtain ⟨hmt', hmu'⟩ := MembershipRow.hasKey_iff.mp hk'
    exact MembershipRow.hasKey_iff.mpr
      ⟨hxt.trans (hmt.symm.trans hmt'), hxu.trans (hmu.symm.trans hmu')⟩
  rw [← hx]
  simp only [Db.membership?, List.find?_filter, hagree, Bool.decide_eq_true]

/-! ## Roles -/

omit [Unicode] in
/-- The tenant of a member has its system roles. -/
theorem Db.WellFormed.systemRole_of_member (hw : db.WellFormed) {m : MembershipRow}
    (hm : db.membership? t u = some m) (role : TenantRole) :
    ∃ r, db.roleNamed? t role.asStr = some r ∧ r ∈ db.tenantRoles ∧ r.tenantId = t ∧
      r.isSystem = true := by
  obtain ⟨hmem, hmt, -⟩ := Db.of_membership? hm
  obtain ⟨row, hrow, hid⟩ := hw.members.memberTenant m hmem
  obtain ⟨s, hs, hst, hname, hsys⟩ := hw.roles.systemRole row hrow role
  have hst : s.tenantId = t := hst.trans (hid.trans hmt)
  cases hr : db.roleNamed? t role.asStr with
  | none =>
    have := List.find?_eq_none.mp hr s hs
    simp [hst, hname] at this
  | some r =>
    obtain ⟨hrmem, hrt, hrn⟩ := Db.of_roleNamed? hr
    obtain rfl := Keyed.eq_of_key_eq _ hw.roles.roleNames hrmem hs
      (Prod.ext (hrt.trans hst.symm) (hrn.trans hname.symm))
    exact ⟨r, rfl, hrmem, hrt, hsys⟩

/-- A created role grants nothing to anybody. -/
theorem grants_createRole (hw : db.WellFormed) {row : TenantRoleRow} {ps : List PermissionId}
    (hid : ∀ r ∈ db.tenantRoles, r.id ≠ row.id)
    (h : Db.Grants { db with
      tenantRoles := db.tenantRoles ++ [row]
      rolePermissions := db.rolePermissions ++ ps.map fun p => ⟨row.id, p⟩ } t u name) :
    db.Grants t u name := by
  obtain ⟨m, role, hm, hrole, r, p, c, hr, hp, hc, hrp⟩ := h
  obtain ⟨s, hs, hsmem, -, -⟩ := hw.systemRole_of_member hm role
  obtain rfl : s = r := by
    have hfirst := hs
    simp only [Db.roleNamed?] at hfirst
    simp only [Db.roleNamed?, List.find?_append, hfirst, Option.some_or] at hr
    exact Option.some.inj hr
  refine ⟨m, role, hm, hrole, s, p, c, hs, hp, hc, ?_⟩
  rcases List.mem_append.mp hrp with hrp | hrp
  · exact hrp
  · obtain ⟨q, -, hq⟩ := List.mem_map.mp hrp
    exact absurd (congrArg RolePermissionRow.roleId hq).symm (hid s hsmem)

/-- Replacing the permissions of a role grants something only if it is a system role. -/
theorem grants_updateRole (hw : db.WellFormed) {t' : TenantId} {id : RoleId}
    {ps : List PermissionId}
    (h : Db.Grants { db with
      tenantRoles := db.tenantRoles.map (·.touched t' id now)
      rolePermissions :=
        db.rolePermissions.filter (·.roleId ≠ id) ++ ps.map fun p => ⟨id, p⟩ } t u name) :
    db.Grants t u name ∨
      ∃ r ∈ db.tenantRoles, r.tenantId = t ∧ r.id = id ∧ r.isSystem = true := by
  obtain ⟨m, role, hm, hrole, r, p, c, hr, hp, hc, hrp⟩ := h
  obtain ⟨s, hs, hsmem, hst, hsys⟩ := hw.systemRole_of_member hm role
  have htouch : ∀ x : TenantRoleRow, (x.touched t' id now).id = x.id ∧
      (x.touched t' id now).tenantId = x.tenantId ∧ (x.touched t' id now).name = x.name := by
    intro x
    unfold TenantRoleRow.touched
    split <;> exact ⟨rfl, rfl, rfl⟩
  have hr : (db.roleNamed? t role.asStr).map (·.touched t' id now) = some r := by
    rw [← hr]
    simp only [Db.roleNamed?, List.find?_map, Function.comp_def, htouch]
  obtain rfl : s.touched t' id now = r := by simpa [hs] using hr
  rcases List.mem_append.mp hrp with hrp | hrp
  · refine .inl ⟨m, role, hm, hrole, s, p, c, hs, hp, hc, ?_⟩
    simpa [htouch] using (List.mem_filter.mp hrp).1
  · obtain ⟨q, -, hq⟩ := List.mem_map.mp hrp
    have hid : id = s.id := (congrArg RolePermissionRow.roleId hq).trans (htouch s).1
    exact .inr ⟨s, hsmem, hst, hid.symm, hsys⟩

/-! ## The origin of a permission -/

/-- Where a permission `name` that user `u` gains within tenant `t` by a call comes from. -/
def Provenance (F : Req → Prop) (tr : List (World × TenantLabel)) (w : World) (actor : UserId)
    (t : TenantId) (u : UserId) (name : String) : TenantCall → Prop
  -- the role given to the user the email names, who does not own the tenant the slug names, by
  -- somebody who manages members there
  | .addMember slug email role | .updateMemberRole slug email role =>
    ∃ row, w.db.tenantNamed? slug = some row ∧ row.id = t ∧ w.db.userNamed? email = some u ∧
      u ≠ row.ownerId ∧ w.db.Grants t actor Permission.manageMembers ∧ w.db.RoleGrants t role name
  -- the role of the invite the user accepts, which a call stored for this role
  | .acceptInvite token =>
    u = actor ∧ ∃ inv ∈ w.db.invites, ∃ roleName role,
      Acceptable w.db actor token inv roleName role ∧ inv.tenantId = t ∧
      w.db.RoleGrants t role name ∧ Invited F tr w inv role
  -- a system role edited by somebody who manages roles
  | .updateRole slug roleId _ =>
    ∃ row, w.db.tenantNamed? slug = some row ∧ row.id = t ∧
      w.db.Grants t actor Permission.manageRoles ∧
      ∃ r ∈ w.db.tenantRoles, r.tenantId = t ∧ r.id = roleId ∧ r.isSystem = true
  -- nobody gains anything
  | .createInvite _ _ _ | .createRole _ _ _ _ | .removeMember _ _ | .updateTenant _ _ => False
  | .createTenant _ _ | .deleteTenant _ | .deleteRole _ _ => True

/-- A permission that the effect of a call gives has an origin. -/
theorem TenantEffect.provenance {actor : UserId} {call : TenantCall} {complete : Bool}
    {event : Option MembershipEvent} {F : Req → Prop} {tr : List (World × TenantLabel)} {w : World}
    (h : TenantEffect now actor w.db call complete event db') (hw : w.db.WellFormed)
    (hinvited : ∀ {token roleName inv role}, Acceptable w.db actor token inv roleName role →
      Invited F tr w inv role)
    (hnew : db'.Grants t u name) (hold : ¬ w.db.Grants t u name) :
    Provenance F tr w actor t u name call := by
  -- both outcomes of accepting an invite insert the membership of its role
  have haccept : ∀ {token roleName : String} {inv : InviteRow} {role : TenantRole}
      {db₁ : Db} {m : MembershipRow}, Acceptable w.db actor token inv roleName role →
      insertMembership (newMembershipRow inv.tenantId actor role now inv.tenantRoleId) now w.db =
        .ok (m, db₁) → db₁.Grants t u name →
      Provenance F tr w actor t u name (.acceptInvite token) := by
    intro token roleName inv role db₁ m hacc h hnew
    obtain ⟨-, -, -, -, rfl, rfl⟩ := insertMembership_ok h
    rcases grants_concat hnew with h | ⟨hkey, role', hrole', hgrant⟩
    · exact absurd h hold
    · obtain ⟨rfl, rfl⟩ := MembershipRow.hasKey_iff.mp hkey
      obtain rfl := Except.ok.inj ((TenantRole.parse_asStr role).symm.trans hrole')
      exact ⟨rfl, inv, (Db.of_invite? hacc.found).1, roleName, role, hacc, rfl, hgrant,
        hinvited hacc⟩
  cases h with
  | created hslug hnew h => exact trivial
  | renamed hrow htenant hgrant h =>
    obtain ⟨-, rfl⟩ | ⟨-, _, -, -, rfl⟩ := updateTenant_ok h
    · exact hold hnew
    · exact hold hnew
  | deleted hrow hgrant h => exact trivial
  | memberAdded hrow hgrant hu hrole h htarget =>
    obtain ⟨-, -, -, -, rfl, rfl⟩ := insertMembership_ok h
    rcases grants_concat hnew with h | ⟨hkey, role', hrole', hgrant'⟩
    · exact absurd h hold
    · obtain ⟨rfl, rfl⟩ := MembershipRow.hasKey_iff.mp hkey
      obtain rfl := Except.ok.inj ((TenantRole.parse_asStr _).symm.trans hrole')
      exact ⟨_, hrow, rfl, htarget, hu, hgrant, hgrant'⟩
  | memberUpdated hrow hgrant hu hrole h hn htarget =>
    obtain ⟨-, -, rfl⟩ := updateMembershipRole_ok h
    rcases grants_update hnew with h | ⟨rfl, rfl, hgrant'⟩
    · exact absurd h hold
    · exact ⟨_, hrow, rfl, htarget, hu, hgrant, hgrant'⟩
  | memberRemoved hrow hgrant hu h hn =>
    obtain ⟨-, rfl⟩ := deleteMembership_ok h
    exact hold (grants_filter hnew)
  | inviteCreated hrow hgrant hrole htenant hroleId hby hpending h =>
    obtain ⟨_, -, -, -, -, -, rfl⟩ := insertInvite_ok h
    exact hold hnew
  | inviteInserted hacc h => exact haccept hacc h hnew
  | inviteAccepted hacc h hmark =>
    obtain ⟨-, rfl⟩ := markInviteAccepted_ok hmark
    exact haccept hacc h hnew
  | roleCreated hrow hgrant htenant hcustom hperms h =>
    obtain ⟨_, hid, -, -, rfl⟩ := createRoleTx_ok h
    exact hold (grants_createRole hw hid hnew)
  | roleUpdated hrow hgrant h =>
    obtain ⟨⟨r, hr, hrt, hrid⟩, rfl⟩ := updateRolePermissionsTx_ok h
    rcases grants_updateRole hw hnew with h | ⟨s, hs, hst, hsid, hsys⟩
    · exact absurd h hold
    · obtain rfl := Keyed.eq_of_key_eq _ hw.roles.roleIds hr hs (hrid.trans hsid.symm)
      obtain rfl := hrt.symm.trans hst
      exact ⟨_, hrow, rfl, hgrant, r, hs, hst, hsid, hsys⟩
  | roleDeleted hrow hgrant h hn => exact trivial

/-- **Every permission a call gives has an origin.** In every state a run reaches, if a user
holds a permission after a call and did not before, the call had an actor, and the permission
comes from where `Provenance` says. -/
theorem privilege_provenance {enabled : Bool} {backend : SessionBackend} {F : Req → Prop}
    {tr : List (World × TenantLabel)} {w w' : World}
    (h : Run (·.db.NoTenants) (TenantStep (platform enabled backend) F) tr w)
    {ctx : ExecutionContext} {call : TenantCall} {r : Except TenantError Unit}
    (hcall : (call.run (platform enabled backend) ctx).Exec (Env F) w r w')
    (hnew : w'.db.Grants t u name) (hold : ¬ w.db.Grants t u name) :
    ∃ actor, ctx.actorId = some actor.inner ∧ Provenance F tr w actor t u name call := by
  obtain ⟨hs, -⟩ | ⟨actor, _, _, db, hctx, heff, hs, -⟩ := TenantCall.effect_of_exec hcall
  · exact absurd (hs.grants_iff.mp hnew) hold
  · exact ⟨actor, hctx, heff.provenance (wellFormed_of_run h) (invited_of_acceptable h)
      (hs.grants_iff.mp hnew) hold⟩

/-! ## A manager who makes an owner -/

/-- The calls before: a tenant with its owner and an administrator. -/
def beforePromotion : List (Nat × TenantCall) :=
  [(901, .addMember "acme" "bob@x.org" .admin), (901, .createTenant "acme" "Acme")]

/-- The administrator adds a user as an owner. -/
def promotion : Except TenantError Unit × World :=
  letI := Unicode.ascii
  ((TenantCall.addMember "acme" "eve@x.org" .owner).run (platform true .database)
    (Scenario.ctx 902)).eval World.answer (Scenario.after (platform true .database) beforePromotion)

omit [Unicode] in
/-- The administrator may not delete the tenant, and the user may only as an owner. -/
lemma promotion_grants : promotion.1 = .ok () ∧
    @Db.Grants Unicode.ascii promotion.2.db ⟨0⟩ ⟨903⟩ Permission.delete ∧
    ¬ @Db.Grants Unicode.ascii (@Scenario.after Unicode.ascii (platform true .database)
      beforePromotion).db ⟨0⟩ ⟨903⟩ Permission.delete ∧
    ¬ @Db.Grants Unicode.ascii (@Scenario.after Unicode.ascii (platform true .database)
      beforePromotion).db ⟨0⟩ ⟨902⟩ Permission.delete := by
  decide +kernel

omit [Unicode] in
/-- **A call can give what its actor does not hold.** The administrator of a tenant, who may not
delete it, adds a user as an owner, who then may. -/
theorem addMember_amplifies : letI := Unicode.ascii
    let w := Scenario.after (platform true .database) beforePromotion
    ∃ tr w', Run (·.db.NoTenants) (TenantStep (platform true .database) noFault) tr w ∧
      ((TenantCall.addMember "acme" "eve@x.org" .owner).run (platform true .database)
        (Scenario.ctx 902)).Exec (Env noFault) w (.ok ()) w' ∧
      w'.db.Grants ⟨0⟩ ⟨903⟩ Permission.delete ∧ ¬ w.db.Grants ⟨0⟩ ⟨903⟩ Permission.delete ∧
      ¬ w.db.Grants ⟨0⟩ ⟨902⟩ Permission.delete := by
  obtain ⟨tr, h⟩ := @Scenario.run_after Unicode.ascii (platform true .database) noFault
    beforePromotion
  exact ⟨tr, _, h, exec_answer promotion_grants.1, promotion_grants.2⟩

omit [Unicode] in
/-- The origin of the new owner's permission: the role that the administrator, who may manage
members, gave. -/
theorem privilege_provenance_promotion : letI := Unicode.ascii
    let w := Scenario.after (platform true .database) beforePromotion
    ∃ actor, (Scenario.ctx 902).actorId = some actor.inner ∧
      ∃ row, w.db.tenantNamed? "acme" = some row ∧ row.id = ⟨0⟩ ∧
        w.db.userNamed? "eve@x.org" = some ⟨903⟩ ∧ ⟨903⟩ ≠ row.ownerId ∧
        w.db.Grants ⟨0⟩ actor Permission.manageMembers ∧
        w.db.RoleGrants ⟨0⟩ .owner Permission.delete := by
  obtain ⟨tr, h⟩ := @Scenario.run_after Unicode.ascii (platform true .database) noFault
    beforePromotion
  have hexec := @exec_answer _ _ (@TenantCall.run Unicode.ascii (platform true .database)
    (Scenario.ctx 902) (.addMember "acme" "eve@x.org" .owner)) noFault
    (@Scenario.after Unicode.ascii (platform true .database) beforePromotion) _ rfl
  exact @privilege_provenance Unicode.ascii ⟨0⟩ ⟨903⟩ Permission.delete _ _ _ _ _ _ h _ _ _ hexec
    promotion_grants.2.1 promotion_grants.2.2.1

end Klynt
