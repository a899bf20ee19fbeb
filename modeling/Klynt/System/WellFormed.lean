import Klynt.System.TenantRun

set_option relaxedAutoImplicit false
set_option autoImplicit false

/-!
# The invariant of the tenant tables

What every run keeps: keys are unique, rows refer to existing tenants, every tenant has its
four system roles, and every tenant's owner is a member with the role `owner`.

## Main definitions

* `RolesOk`, `MembersOk` — the invariant on tenants and roles, and on tenants and members.
* `Db.WellFormed` — both.

## Main results

* `TenantEffect.wellFormed` — the effect of a call keeps the invariant.
* `wellFormed_of_run` — it holds in every state of every run.
-/

namespace Klynt

/-- The invariant on tenants and their roles. -/
structure RolesOk (tenants : List TenantRow) (roles : List TenantRoleRow) : Prop where
  /-- The ids of tenants are unique. -/
  tenantIds : (tenants.map (·.id)).Nodup
  /-- The ids of roles are unique. -/
  roleIds : (roles.map (·.id)).Nodup
  /-- The names of the roles of a tenant are unique. -/
  roleNames : (roles.map fun r => (r.tenantId, r.name)).Nodup
  /-- A role belongs to a tenant. -/
  roleTenant : ∀ r ∈ roles, ∃ t ∈ tenants, t.id = r.tenantId
  /-- A tenant has its system roles. -/
  systemRole : ∀ t ∈ tenants, ∀ role : TenantRole,
    ∃ r ∈ roles, r.tenantId = t.id ∧ r.name = role.asStr ∧ r.isSystem = true

/-- The invariant on tenants and their members. -/
structure MembersOk (tenants : List TenantRow) (members : List MembershipRow) : Prop where
  /-- The keys of memberships are unique. -/
  keys : (members.map fun m => (m.tenantId, m.userId)).Nodup
  /-- A membership belongs to a tenant. -/
  memberTenant : ∀ m ∈ members, ∃ t ∈ tenants, t.id = m.tenantId
  /-- The owner of a tenant is a member with the role `owner`. -/
  owner : ∀ t ∈ tenants, ∃ m ∈ members, m.tenantId = t.id ∧ m.userId = t.ownerId ∧ m.role = "owner"

/-- The invariant of the tenant tables. -/
structure Db.WellFormed (db : Db) : Prop where
  /-- On tenants and roles. -/
  roles : RolesOk db.tenants db.tenantRoles
  /-- On tenants and members. -/
  members : MembersOk db.tenants db.memberships

/-- The invariant depends on the tenant tables only. -/
theorem Db.WellFormed.congr {db db' : Db} (h : db.WellFormed) (hs : db.SameTenancy db') :
    db'.WellFormed := by
  obtain ⟨_, _, _, _, _, rfl⟩ := hs
  exact ⟨h.roles, h.members⟩

/-- The invariant holds without tenants. -/
theorem Db.NoTenants.wellFormed {db : Db} (h : db.NoTenants) : db.WellFormed := by
  refine ⟨?_, ?_⟩
  · rw [h.tenants, h.tenantRoles]
    exact { tenantIds := List.nodup_nil, roleIds := List.nodup_nil, roleNames := List.nodup_nil,
            roleTenant := nofun, systemRole := nofun }
  · rw [h.tenants, h.memberships]
    exact { keys := List.nodup_nil, memberTenant := nofun, owner := nofun }

/-! ## Tenants and roles -/

namespace RolesOk

variable {tenants : List TenantRow} {roles : List TenantRoleRow}

/-- The names of the seeded roles are distinct. -/
theorem nodup_systemRoleRows (now : Time) (t : TenantId) (ids : TenantRole → RoleId) :
    ((systemRoleRows now t ids).map fun r => (r.tenantId, r.name)).Nodup := by
  simp [systemRoleRows, systemRoles, systemRoleRow, TenantRole.asStr]

/-- A tenant is added with its system roles. -/
theorem addTenant (h : RolesOk tenants roles) {row : TenantRow} {now : Time}
    {ids : TenantRole → RoleId} (hid : ∀ t ∈ tenants, t.id ≠ row.id)
    (hids : ((roles ++ systemRoleRows now row.id ids).map (·.id)).Nodup) :
    RolesOk (tenants ++ [row]) (roles ++ systemRoleRows now row.id ids) where
  tenantIds := Keyed.nodup_concat _ h.tenantIds hid
  roleIds := hids
  roleNames := by
    rw [List.map_append]
    refine List.nodup_append.mpr ⟨h.roleNames, nodup_systemRoleRows _ _ _, ?_⟩
    rintro x hx y hy rfl
    obtain ⟨r, hr, hrx⟩ := List.mem_map.mp hx
    obtain ⟨s, hs, hsx⟩ := List.mem_map.mp hy
    obtain ⟨role, -, rfl⟩ := List.mem_map.mp hs
    obtain ⟨t, ht, htr⟩ := h.roleTenant r hr
    exact hid t ht (htr.trans (congrArg Prod.fst (hrx.trans hsx.symm)))
  roleTenant := by
    intro r hr
    rcases List.mem_append.mp hr with hr | hr
    · obtain ⟨t, ht, htr⟩ := h.roleTenant r hr
      exact ⟨t, List.mem_append_left _ ht, htr⟩
    · obtain ⟨role, -, rfl⟩ := List.mem_map.mp hr
      exact ⟨row, List.mem_append_right _ (List.mem_singleton_self _), rfl⟩
  systemRole := by
    intro t ht role
    rcases List.mem_append.mp ht with ht | ht
    · obtain ⟨r, hr, hrt⟩ := h.systemRole t ht role
      exact ⟨r, List.mem_append_left _ hr, hrt⟩
    · obtain rfl := List.mem_singleton.mp ht
      obtain ⟨r, hr, -, hname, -⟩ := find?_systemRoleRows now t.id ids role
      obtain ⟨x, -, rfl⟩ := List.mem_map.mp hr
      exact ⟨_, List.mem_append_right _ hr, rfl, hname, rfl⟩

/-- Tenants are edited. -/
theorem mapTenants (h : RolesOk tenants roles) {f : TenantRow → TenantRow}
    (hf : ∀ t, (f t).id = t.id) : RolesOk (tenants.map f) roles where
  tenantIds := Keyed.nodup_map _ hf h.tenantIds
  roleIds := h.roleIds
  roleNames := h.roleNames
  roleTenant := by
    intro r hr
    obtain ⟨t, ht, htr⟩ := h.roleTenant r hr
    exact ⟨f t, List.mem_map_of_mem ht, (hf t).trans htr⟩
  systemRole := by
    intro t ht role
    obtain ⟨t₀, ht₀, rfl⟩ := List.mem_map.mp ht
    obtain ⟨r, hr, hrt, hrest⟩ := h.systemRole t₀ ht₀ role
    exact ⟨r, hr, hrt.trans (hf t₀).symm, hrest⟩

/-- A tenant is dropped with its roles. -/
theorem dropTenant (h : RolesOk tenants roles) (id : TenantId) :
    RolesOk (tenants.filter (·.id ≠ id)) (roles.filter (·.tenantId ≠ id)) where
  tenantIds := Keyed.nodup_filter _ h.tenantIds
  roleIds := Keyed.nodup_filter _ h.roleIds
  roleNames := Keyed.nodup_filter _ h.roleNames
  roleTenant := by
    intro r hr
    obtain ⟨hr, hne⟩ := List.mem_filter.mp hr
    obtain ⟨t, ht, htr⟩ := h.roleTenant r hr
    exact ⟨t, List.mem_filter.mpr ⟨ht, by simpa [htr] using hne⟩, htr⟩
  systemRole := by
    intro t ht role
    obtain ⟨ht, hne⟩ := List.mem_filter.mp ht
    obtain ⟨r, hr, hrt, hrest⟩ := h.systemRole t ht role
    exact ⟨r, List.mem_filter.mpr ⟨hr, by simpa [hrt] using hne⟩, hrt, hrest⟩

/-- A role is added. -/
theorem addRole (h : RolesOk tenants roles) {row : TenantRoleRow}
    (hid : ∀ r ∈ roles, r.id ≠ row.id)
    (hname : ∀ r ∈ roles, r.tenantId = row.tenantId → r.name ≠ row.name)
    (htenant : ∃ t ∈ tenants, t.id = row.tenantId) : RolesOk tenants (roles ++ [row]) where
  tenantIds := h.tenantIds
  roleIds := Keyed.nodup_concat _ h.roleIds hid
  roleNames := Keyed.nodup_concat _ h.roleNames fun r hr heq =>
    hname r hr (congrArg Prod.fst heq) (congrArg Prod.snd heq)
  roleTenant := by
    intro r hr
    rcases List.mem_append.mp hr with hr | hr
    · exact h.roleTenant r hr
    · obtain rfl := List.mem_singleton.mp hr; exact htenant
  systemRole := by
    intro t ht role
    obtain ⟨r, hr, hrest⟩ := h.systemRole t ht role
    exact ⟨r, List.mem_append_left _ hr, hrest⟩

/-- Roles are edited. -/
theorem mapRoles (h : RolesOk tenants roles) {f : TenantRoleRow → TenantRoleRow}
    (hf : ∀ r, (f r).id = r.id ∧ (f r).tenantId = r.tenantId ∧ (f r).name = r.name ∧
      (f r).isSystem = r.isSystem) : RolesOk tenants (roles.map f) where
  tenantIds := h.tenantIds
  roleIds := Keyed.nodup_map _ (fun r => (hf r).1) h.roleIds
  roleNames := Keyed.nodup_map _ (fun r => Prod.ext (hf r).2.1 (hf r).2.2.1) h.roleNames
  roleTenant := by
    intro r hr
    obtain ⟨r₀, hr₀, rfl⟩ := List.mem_map.mp hr
    obtain ⟨t, ht, htr⟩ := h.roleTenant r₀ hr₀
    exact ⟨t, ht, htr.trans (hf r₀).2.1.symm⟩
  systemRole := by
    intro t ht role
    obtain ⟨r, hr, hrt, hname, hsys⟩ := h.systemRole t ht role
    obtain ⟨-, htid, hn, hs⟩ := hf r
    exact ⟨f r, List.mem_map_of_mem hr, htid.trans hrt, hn.trans hname, hs.trans hsys⟩

/-- A custom role is dropped. -/
theorem dropRole (h : RolesOk tenants roles) {t : TenantId} {id : RoleId}
    (hcustom : ∃ r ∈ roles, r.tenantId = t ∧ r.id = id ∧ r.isSystem = false) :
    RolesOk tenants (roles.filter fun r => ¬ (r.tenantId = t ∧ r.id = id)) where
  tenantIds := h.tenantIds
  roleIds := Keyed.nodup_filter _ h.roleIds
  roleNames := Keyed.nodup_filter _ h.roleNames
  roleTenant := fun r hr => h.roleTenant r (List.mem_filter.mp hr).1
  systemRole := by
    intro t' ht' role
    obtain ⟨r, hr, hrt, hname, hsys⟩ := h.systemRole t' ht' role
    obtain ⟨c, hc, -, hcid, hcsys⟩ := hcustom
    refine ⟨r, List.mem_filter.mpr ⟨hr, ?_⟩, hrt, hname, hsys⟩
    refine decide_eq_true fun hgone => ?_
    -- ids are unique, so the dropped role would be the system role
    obtain rfl := Keyed.eq_of_key_eq _ h.roleIds hr hc (hgone.2.trans hcid.symm)
    rw [hsys] at hcsys
    cases hcsys

end RolesOk

/-! ## Tenants and members -/

namespace MembersOk

variable {tenants : List TenantRow} {members : List MembershipRow}

/-- A tenant is added with its owner's membership. -/
theorem addTenant (h : MembersOk tenants members) {row : TenantRow} {m : MembershipRow}
    (hkey : ∀ x ∈ members, ¬ x.hasKey row.id row.ownerId)
    (hm : m.tenantId = row.id ∧ m.userId = row.ownerId ∧ m.role = "owner") :
    MembersOk (tenants ++ [row]) (members ++ [m]) where
  keys := Keyed.nodup_concat _ h.keys fun x hx heq => hkey x hx <| MembershipRow.hasKey_iff.mpr
    ⟨(congrArg Prod.fst heq).trans hm.1, (congrArg Prod.snd heq).trans hm.2.1⟩
  memberTenant := by
    intro x hx
    rcases List.mem_append.mp hx with hx | hx
    · obtain ⟨t, ht, htx⟩ := h.memberTenant x hx
      exact ⟨t, List.mem_append_left _ ht, htx⟩
    · obtain rfl := List.mem_singleton.mp hx
      exact ⟨row, List.mem_append_right _ (List.mem_singleton_self _), hm.1.symm⟩
  owner := by
    intro t ht
    rcases List.mem_append.mp ht with ht | ht
    · obtain ⟨x, hx, hrest⟩ := h.owner t ht
      exact ⟨x, List.mem_append_left _ hx, hrest⟩
    · obtain rfl := List.mem_singleton.mp ht
      exact ⟨m, List.mem_append_right _ (List.mem_singleton_self _), hm⟩

/-- Tenants are edited. -/
theorem mapTenants (h : MembersOk tenants members) {f : TenantRow → TenantRow}
    (hf : ∀ t ∈ tenants, (f t).id = t.id ∧ (f t).ownerId = t.ownerId) :
    MembersOk (tenants.map f) members where
  keys := h.keys
  memberTenant := by
    intro m hm
    obtain ⟨t, ht, htm⟩ := h.memberTenant m hm
    exact ⟨f t, List.mem_map_of_mem ht, (hf t ht).1.trans htm⟩
  owner := by
    intro t ht
    obtain ⟨t₀, ht₀, rfl⟩ := List.mem_map.mp ht
    obtain ⟨m, hm, hmt, hmu, hrole⟩ := h.owner t₀ ht₀
    exact ⟨m, hm, hmt.trans (hf t₀ ht₀).1.symm, hmu.trans (hf t₀ ht₀).2.symm, hrole⟩

/-- A tenant is dropped with its memberships. -/
theorem dropTenant (h : MembersOk tenants members) (id : TenantId) :
    MembersOk (tenants.filter (·.id ≠ id)) (members.filter (·.tenantId ≠ id)) where
  keys := Keyed.nodup_filter _ h.keys
  memberTenant := by
    intro m hm
    obtain ⟨hm, hne⟩ := List.mem_filter.mp hm
    obtain ⟨t, ht, htm⟩ := h.memberTenant m hm
    exact ⟨t, List.mem_filter.mpr ⟨ht, by simpa [htm] using hne⟩, htm⟩
  owner := by
    intro t ht
    obtain ⟨ht, hne⟩ := List.mem_filter.mp ht
    obtain ⟨m, hm, hmt, hrest⟩ := h.owner t ht
    exact ⟨m, List.mem_filter.mpr ⟨hm, by simpa [hmt] using hne⟩, hmt, hrest⟩

/-- A membership is added. -/
theorem addMember (h : MembersOk tenants members) {m : MembershipRow}
    (hkey : ∀ x ∈ members, ¬ x.hasKey m.tenantId m.userId)
    (htenant : ∃ t ∈ tenants, t.id = m.tenantId) : MembersOk tenants (members ++ [m]) where
  keys := Keyed.nodup_concat _ h.keys fun x hx heq => hkey x hx <| MembershipRow.hasKey_iff.mpr
    ⟨congrArg Prod.fst heq, congrArg Prod.snd heq⟩
  memberTenant := by
    intro x hx
    rcases List.mem_append.mp hx with hx | hx
    · exact h.memberTenant x hx
    · obtain rfl := List.mem_singleton.mp hx; exact htenant
  owner := by
    intro t ht
    obtain ⟨x, hx, hrest⟩ := h.owner t ht
    exact ⟨x, List.mem_append_left _ hx, hrest⟩

/-- The membership of somebody else than the owner is edited. -/
theorem mapMember (h : MembersOk tenants members) {f : MembershipRow → MembershipRow}
    {t : TenantId} {u : UserId} (hu : ∀ row ∈ tenants, row.id = t → u ≠ row.ownerId)
    (hf : ∀ m, (f m).tenantId = m.tenantId ∧ (f m).userId = m.userId) :
    MembersOk tenants (members.map fun m => if m.hasKey t u then f m else m) where
  keys := Keyed.nodup_map _ (fun m => by split <;> simp [hf]) h.keys
  memberTenant := by
    intro m hm
    obtain ⟨m₀, hm₀, rfl⟩ := List.mem_map.mp hm
    obtain ⟨row, hrow, hrm⟩ := h.memberTenant m₀ hm₀
    exact ⟨row, hrow, by split <;> simp [hf, hrm]⟩
  owner := by
    intro row hrow
    obtain ⟨m, hm, hmt, hmu, hrole⟩ := h.owner row hrow
    have hkey : ¬ m.hasKey t u = true := fun hk => by
      obtain ⟨hkt, hku⟩ := MembershipRow.hasKey_iff.mp hk
      exact hu row hrow (hmt.symm.trans hkt) (hku.symm.trans hmu)
    exact ⟨m, List.mem_map.mpr ⟨m, hm, if_neg hkey⟩, hmt, hmu, hrole⟩

/-- The membership of somebody else than the owner is dropped. -/
theorem dropMember (h : MembersOk tenants members) {t : TenantId} {u : UserId}
    (hu : ∀ row ∈ tenants, row.id = t → u ≠ row.ownerId) :
    MembersOk tenants (members.filter fun m => ¬ m.hasKey t u) where
  keys := Keyed.nodup_filter _ h.keys
  memberTenant := fun m hm => h.memberTenant m (List.mem_filter.mp hm).1
  owner := by
    intro row hrow
    obtain ⟨m, hm, hmt, hmu, hrole⟩ := h.owner row hrow
    refine ⟨m, List.mem_filter.mpr ⟨hm, decide_eq_true fun hk => ?_⟩, hmt, hmu, hrole⟩
    obtain ⟨hkt, hku⟩ := MembershipRow.hasKey_iff.mp hk
    exact hu row hrow (hmt.symm.trans hkt) (hku.symm.trans hmu)

end MembersOk

/-! ## Calls -/

variable [Unicode]

/-- **The effect of a call keeps the invariant.** -/
theorem TenantEffect.wellFormed {now : Time} {actor : UserId} {db db' : Db} {call : TenantCall}
    {complete : Bool} {event : Option MembershipEvent}
    (h : TenantEffect now actor db call complete event db') (hw : db.WellFormed) :
    db'.WellFormed := by
  obtain ⟨hr, hm⟩ := hw
  -- ids of tenants are unique, so the tenant of a row is known by its id
  have hunique : ∀ row ∈ db.tenants, ∀ u, u ≠ row.ownerId →
      ∀ t ∈ db.tenants, t.id = row.id → u ≠ t.ownerId := by
    intro row hrow u hu t ht hid
    rwa [Keyed.eq_of_key_eq _ hr.tenantIds ht hrow hid]
  cases h with
  | created hslug hnew h =>
    obtain ⟨name, rfl, -, hid, -, -, hkey, hids, seeds, -, -, rfl⟩ :=
      createTenantTx_ok hr.roleTenant hr.roleIds h
    exact ⟨hr.addTenant hid hids, hm.addTenant hkey ⟨rfl, rfl, rfl⟩⟩
  | @renamed slug name row tenant n db' hrow htenant hgrant h =>
    obtain ⟨-, rfl⟩ | ⟨-, name', -, -, rfl⟩ := updateTenant_ok h
    · exact ⟨hr, hm⟩
    · obtain ⟨_, _, -, -, rfl⟩ := mapTenantRow_eq_ok htenant
      refine ⟨hr.mapTenants fun t => ?_, hm.mapTenants fun t ht => ?_⟩
      · split
        · rename_i hid; exact hid.symm
        · rfl
      · split
        · rename_i hid
          obtain rfl := Keyed.eq_of_key_eq _ hr.tenantIds ht (Db.mem_of_tenantNamed? hrow) hid
          exact ⟨rfl, rfl⟩
        · exact ⟨rfl, rfl⟩
  | deleted hrow hgrant h =>
    obtain ⟨-, rfl, -⟩ | ⟨-, rfl⟩ := deleteTenant_ok h
    · exact ⟨hr, hm⟩
    · exact ⟨hr.dropTenant _, hm.dropTenant _⟩
  | memberAdded hrow hgrant hu hrole h =>
    obtain ⟨hkey, htenant, -, -, -, rfl⟩ := insertMembership_ok h
    exact ⟨hr, hm.addMember hkey htenant⟩
  | memberUpdated hrow hgrant hu hrole h hn =>
    obtain ⟨-, -, rfl⟩ := updateMembershipRole_ok h
    exact ⟨hr, hm.mapMember (hunique _ (Db.mem_of_tenantNamed? hrow) _ hu) fun _ => ⟨rfl, rfl⟩⟩
  | memberRemoved hrow hgrant hu h hn =>
    obtain ⟨-, rfl⟩ := deleteMembership_ok h
    exact ⟨hr, hm.dropMember (hunique _ (Db.mem_of_tenantNamed? hrow) _ hu)⟩
  | inviteCreated hrow hgrant hrole htenant hroleId hby hpending h =>
    obtain ⟨_, -, -, -, -, -, rfl⟩ := insertInvite_ok h
    exact ⟨hr, hm⟩
  | inviteInserted hinv h =>
    obtain ⟨hkey, htenant, -, -, -, rfl⟩ := insertMembership_ok h
    exact ⟨hr, hm.addMember hkey htenant⟩
  | inviteAccepted hinv h hmark =>
    obtain ⟨hkey, htenant, -, -, -, rfl⟩ := insertMembership_ok h
    obtain ⟨-, rfl⟩ := markInviteAccepted_ok hmark
    exact ⟨hr, hm.addMember hkey htenant⟩
  | roleCreated hrow hgrant htenant hcustom hperms h =>
    obtain ⟨name, hid, hname, hten, rfl⟩ := createRoleTx_ok h
    exact ⟨hr.addRole hid hname hten, hm⟩
  | roleUpdated hrow hgrant h =>
    obtain ⟨-, rfl⟩ := updateRolePermissionsTx_ok h
    refine ⟨hr.mapRoles fun r => ?_, hm⟩
    unfold TenantRoleRow.touched
    split <;> exact ⟨rfl, rfl, rfl, rfl⟩
  | roleDeleted hrow hgrant h hn =>
    obtain ⟨-, rfl⟩ | ⟨-, hrole, -, -, rfl⟩ := deleteRole_ok h
    · exact ⟨hr, hm⟩
    · exact ⟨hr.dropRole hrole, hm⟩

/-- A step of a run keeps the invariant. -/
theorem TenantStep.wellFormed {enabled : Bool} {backend : SessionBackend} {F : Req → Prop}
    {w w' : World} {l : TenantLabel} (hw : w.db.WellFormed)
    (h : TenantStep (platform enabled backend) F w l w') : w'.db.WellFormed := by
  cases h with
  | other hs => exact hw.congr hs
  | call h =>
    obtain ⟨hs, -⟩ | ⟨_, _, _, _, -, heff, hs, -⟩ := TenantCall.effect_of_exec h
    · exact hw.congr hs
    · exact (heff.wellFormed hw).congr hs

/-- **The invariant holds in every state of every run.** -/
theorem wellFormed_of_run {enabled : Bool} {backend : SessionBackend} {F : Req → Prop}
    {tr : List (World × TenantLabel)} {w : World}
    (h : Run (·.db.NoTenants) (TenantStep (platform enabled backend) F) tr w) :
    w.db.WellFormed :=
  h.invariant (I := fun w => w.db.WellFormed) (fun _ h0 => h0.wellFormed)
    fun _ _ _ hw hs => TenantStep.wellFormed hw hs

end Klynt
