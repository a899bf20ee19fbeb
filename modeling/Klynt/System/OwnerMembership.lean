import Klynt.System.WellFormed

set_option relaxedAutoImplicit false
set_option autoImplicit false

/-!
# The owner of a tenant is a member

In every reachable state every tenant has exactly one membership row of its owner, with the
role `owner`, and only the deletion of the tenant takes it away.

## Main results

* `owner_membership` — the statement above, for runs with any pattern of failures.

## Implementation notes

Adding, updating and removing members compare the target with the owner of the tenant.
Accepting an invite does not, and relies on the primary key of memberships.
-/

namespace Klynt

variable [Unicode]

/-- Except for the deletion of the tenant, the effect of a call leaves the owner's membership
as it is. -/
theorem TenantEffect.owner_row {now : Time} {actor : UserId} {db db' : Db} {call : TenantCall}
    {complete : Bool} {event : Option MembershipEvent}
    (h : TenantEffect now actor db call complete event db') (hw : db.WellFormed)
    (hcall : ∀ slug, call ≠ .deleteTenant slug) {t : TenantRow} (ht : t ∈ db.tenants)
    {m : MembershipRow} (hm : m ∈ db.memberships) (hkey : m.hasKey t.id t.ownerId = true) :
    m ∈ db'.memberships ∧ ∃ t' ∈ db'.tenants, t'.id = t.id ∧ t'.ownerId = t.ownerId := by
  have hother : ∀ row ∈ db.tenants, ∀ u, u ≠ row.ownerId → ¬ m.hasKey row.id u = true := by
    intro row hrow u hu hk
    obtain ⟨hmt, hmu⟩ := MembershipRow.hasKey_iff.mp hkey
    obtain ⟨hrt, hru⟩ := MembershipRow.hasKey_iff.mp hk
    obtain rfl := Keyed.eq_of_key_eq _ hw.roles.tenantIds ht hrow (hmt.symm.trans hrt)
    exact hu (hru.symm.trans hmu)
  cases h with
  | created hslug hnew h =>
    obtain ⟨name, rfl, -, -, -, -, -, -, seeds, -, -, rfl⟩ :=
      createTenantTx_ok hw.roles.roleTenant hw.roles.roleIds h
    exact ⟨List.mem_append_left _ hm, t, List.mem_append_left _ ht, rfl, rfl⟩
  | @renamed slug name row tenant n db' hrow htenant hgrant h =>
    obtain ⟨-, rfl⟩ | ⟨-, name', -, -, rfl⟩ := updateTenant_ok h
    · exact ⟨hm, t, ht, rfl, rfl⟩
    · obtain ⟨_, _, -, -, rfl⟩ := mapTenantRow_eq_ok htenant
      refine ⟨hm, _, List.mem_map_of_mem ht, ?_⟩
      split
      · rename_i hid
        obtain rfl := Keyed.eq_of_key_eq _ hw.roles.tenantIds ht (Db.mem_of_tenantNamed? hrow) hid
        exact ⟨rfl, rfl⟩
      · exact ⟨rfl, rfl⟩
  | @deleted slug row n db' hrow hgrant h => exact absurd rfl (hcall slug)
  | memberAdded hrow hgrant hu hrole h =>
    obtain ⟨-, -, -, -, -, rfl⟩ := insertMembership_ok h
    exact ⟨List.mem_append_left _ hm, t, ht, rfl, rfl⟩
  | memberUpdated hrow hgrant hu hrole h hn =>
    obtain ⟨-, -, rfl⟩ := updateMembershipRole_ok h
    exact ⟨List.mem_map.mpr ⟨m, hm, if_neg (hother _ (Db.mem_of_tenantNamed? hrow) _ hu)⟩, t, ht,
      rfl, rfl⟩
  | memberRemoved hrow hgrant hu h hn =>
    obtain ⟨-, rfl⟩ := deleteMembership_ok h
    exact ⟨List.mem_filter.mpr ⟨hm, decide_eq_true (hother _ (Db.mem_of_tenantNamed? hrow) _ hu)⟩,
      t, ht, rfl, rfl⟩
  | inviteCreated hrow hgrant hrole htenant hroleId hby hpending h =>
    obtain ⟨_, -, -, -, -, -, rfl⟩ := insertInvite_ok h
    exact ⟨hm, t, ht, rfl, rfl⟩
  | inviteInserted hinv h =>
    obtain ⟨-, -, -, -, -, rfl⟩ := insertMembership_ok h
    exact ⟨List.mem_append_left _ hm, t, ht, rfl, rfl⟩
  | inviteAccepted hinv h hmark =>
    obtain ⟨-, -, -, -, -, rfl⟩ := insertMembership_ok h
    obtain ⟨-, rfl⟩ := markInviteAccepted_ok hmark
    exact ⟨List.mem_append_left _ hm, t, ht, rfl, rfl⟩
  | roleCreated hrow hgrant htenant hcustom hperms h =>
    obtain ⟨_, -, -, -, rfl⟩ := createRoleTx_ok h
    exact ⟨hm, t, ht, rfl, rfl⟩
  | roleUpdated hrow hgrant h =>
    obtain ⟨-, rfl⟩ := updateRolePermissionsTx_ok h
    exact ⟨hm, t, ht, rfl, rfl⟩
  | roleDeleted hrow hgrant h hn =>
    obtain ⟨-, rfl⟩ | ⟨-, -, -, -, rfl⟩ := deleteRole_ok h
    · exact ⟨hm, t, ht, rfl, rfl⟩
    · exact ⟨hm, t, ht, rfl, rfl⟩

/-- **The owner of a tenant is a member.** In every state a run reaches, every tenant has
exactly one membership row of its owner, whose role is `owner`; a call other than the deletion
of a tenant, successful or not, keeps the row as it is, and keeps the tenant and its owner. -/
theorem owner_membership {enabled : Bool} {backend : SessionBackend} {F : Req → Prop}
    {tr : List (World × TenantLabel)} {w : World}
    (h : Run (·.db.NoTenants) (TenantStep (platform enabled backend) F) tr w) :
    (∀ t ∈ w.db.tenants, ∃ m, w.db.memberships.filter (·.hasKey t.id t.ownerId) = [m] ∧
      TenantRole.parse m.role = .ok .owner) ∧
    ∀ (ctx : ExecutionContext) (call : TenantCall) r w',
      (call.run (platform enabled backend) ctx).Exec (Env F) w r w' →
      (∀ slug, call ≠ .deleteTenant slug) →
      ∀ t ∈ w.db.tenants, ∀ m ∈ w.db.memberships, m.hasKey t.id t.ownerId = true →
        m ∈ w'.db.memberships ∧ ∃ t' ∈ w'.db.tenants, t'.id = t.id ∧ t'.ownerId = t.ownerId := by
  have hw := wellFormed_of_run h
  refine ⟨fun t ht => ?_, fun ctx call r w' hexec hcall t ht m hm hkey => ?_⟩
  · obtain ⟨m, hm, hmt, hmu, hrole⟩ := hw.members.owner t ht
    refine ⟨m, ?_, ?_⟩
    · refine Eq.trans (List.filter_congr fun x _ => ?_) (Keyed.filter_key_eq _ hw.members.keys hm)
      rw [Bool.eq_iff_iff, MembershipRow.hasKey_iff, decide_eq_true_eq, Prod.mk.injEq, hmt, hmu]
    · rw [hrole]; exact TenantRole.parse_asStr .owner
  · obtain ⟨hs, -⟩ | ⟨_, _, _, _, -, heff, hs, -⟩ := TenantCall.effect_of_exec hexec
    · obtain ⟨_, _, _, _, _, hdb⟩ := hs
      rw [hdb]
      exact ⟨hm, t, ht, rfl, rfl⟩
    · have hrow := heff.owner_row hw hcall ht hm hkey
      obtain ⟨_, _, _, _, _, hdb⟩ := hs
      rw [hdb]
      exact hrow

omit [Unicode] in
/-- The creator of a tenant is its member after another member tried to take over. -/
theorem owner_membership_acme : letI := Unicode.ascii
    let w := Scenario.after (platform true .database)
      [(902, .updateMemberRole "acme" "ada@x.org" .guest), (902, .removeMember "acme" "ada@x.org"),
       (901, .addMember "acme" "bob@x.org" .admin), (901, .createTenant "acme" "Acme")]
    (w.db.tenants.length = 1 ∧ w.db.memberships.length = 2) ∧
      ∀ t ∈ w.db.tenants, ∃ m, w.db.memberships.filter (·.hasKey t.id t.ownerId) = [m] ∧
        TenantRole.parse m.role = .ok .owner := by
  obtain ⟨tr, h⟩ := @Scenario.run_after Unicode.ascii (platform true .database) noFault
    [(902, .updateMemberRole "acme" "ada@x.org" .guest), (902, .removeMember "acme" "ada@x.org"),
     (901, .addMember "acme" "bob@x.org" .admin), (901, .createTenant "acme" "Acme")]
  exact ⟨by decide +kernel, (@owner_membership Unicode.ascii _ _ _ _ _ h).1⟩

end Klynt
