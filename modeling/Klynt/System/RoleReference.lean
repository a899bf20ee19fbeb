import Klynt.System.WellFormed

set_option relaxedAutoImplicit false
set_option autoImplicit false

/-!
# The two columns of a member's role

A membership stores its role twice: as a text, which authorization resolves, and as a reference
to a role row.  The four writers of the columns find one from the other, each in its own way,
and custom roles share the names; still the columns agree in every reachable state.

## Main definitions

* `RefersTo` — a role of a tenant has a given id and name.
* `RefsOk` — the invariant on memberships, invites and roles.

## Main results

* `TenantEffect.refsOk` — the effect of a call keeps the invariant.
* `refsOk_of_run` — it holds in every state of every run.
* `role_reference` — authorization by the text and by the reference agree.

## Implementation notes

Invites are part of the invariant: an accepted invite copies its reference to the membership,
and parses the text from the name of the role it refers to.
-/

namespace Klynt

/-! ## References to roles -/

/-- A role of the tenant `t` has the given id and name. -/
def RefersTo (roles : List TenantRoleRow) (t : TenantId) (id : RoleId) (name : String) : Prop :=
  ∃ r ∈ roles, r.id = id ∧ r.tenantId = t ∧ r.name = name

section RefersTo

variable {roles roles' : List TenantRoleRow} {t : TenantId} {id : RoleId} {name : String}

/-- References survive the addition of roles. -/
lemma RefersTo.append (h : RefersTo roles t id name) : RefersTo (roles ++ roles') t id name := by
  obtain ⟨r, hr, hrest⟩ := h
  exact ⟨r, List.mem_append_left _ hr, hrest⟩

/-- References survive edits that keep ids, tenants and names. -/
lemma RefersTo.map {f : TenantRoleRow → TenantRoleRow}
    (hf : ∀ r, (f r).id = r.id ∧ (f r).tenantId = r.tenantId ∧ (f r).name = r.name)
    (h : RefersTo roles t id name) : RefersTo (roles.map f) t id name := by
  obtain ⟨r, hr, hid, ht, hname⟩ := h
  obtain ⟨hfid, hft, hfname⟩ := hf r
  exact ⟨f r, List.mem_map_of_mem hr, hfid.trans hid, hft.trans ht, hfname.trans hname⟩

/-- References survive the removal of other roles. -/
lemma RefersTo.filter {p : TenantRoleRow → Bool} (hp : ∀ r ∈ roles, r.id = id → r.tenantId = t →
    p r = true) (h : RefersTo roles t id name) : RefersTo (roles.filter p) t id name := by
  obtain ⟨r, hr, hid, ht, hname⟩ := h
  exact ⟨r, List.mem_filter.mpr ⟨hr, hp r hr hid ht⟩, hid, ht, hname⟩

/-- A role found by name is referred to by its id. -/
lemma refersTo_roleNamed? {db : Db} {r : TenantRoleRow} (h : db.roleNamed? t name = some r) :
    RefersTo db.tenantRoles t r.id name := by
  obtain ⟨hr, ht, hname⟩ := Db.of_roleNamed? h
  exact ⟨r, hr, rfl, ht, hname⟩

end RefersTo

/-! ## The invariant -/

/-- Memberships have canonical roles and refer to the roles of that name, and invites, whose ids
are unique, refer to roles with canonical names. -/
structure RefsOk (roles : List TenantRoleRow) (members : List MembershipRow)
    (invites : List InviteRow) : Prop where
  /-- The role of a membership is canonical. -/
  named : ∀ m ∈ members, ∃ role : TenantRole, m.role = role.asStr
  /-- A membership refers to the role of its tenant that has the name of the membership. -/
  member : ∀ m ∈ members, ∀ id, m.tenantRoleId = some id → RefersTo roles m.tenantId id m.role
  /-- An invite refers to a role of its tenant with a canonical name. -/
  invite : ∀ i ∈ invites, ∃ role : TenantRole,
    RefersTo roles i.tenantId i.tenantRoleId role.asStr
  /-- The ids of invites are unique. -/
  inviteIds : (invites.map (·.id)).Nodup

/-- The invariant of a database. -/
abbrev Db.RefsOk (db : Db) : Prop := Klynt.RefsOk db.tenantRoles db.memberships db.invites

namespace RefsOk

variable {roles roles' : List TenantRoleRow} {members members' : List MembershipRow}
  {invites invites' : List InviteRow}

/-- The invariant without rows. -/
lemma nil : RefsOk roles [] [] where
  named := nofun
  member := nofun
  invite := nofun
  inviteIds := List.nodup_nil

/-- Roles change, and references survive. -/
lemma mapRoles (h : RefsOk roles members invites)
    (hr : ∀ t id name, RefersTo roles t id name → RefersTo roles' t id name) :
    RefsOk roles' members invites where
  named := h.named
  member := fun m hm id hid => hr _ _ _ (h.member m hm id hid)
  invite := by
    intro i hi
    obtain ⟨role, hrole⟩ := h.invite i hi
    exact ⟨role, hr _ _ _ hrole⟩
  inviteIds := h.inviteIds

/-- A membership is added. -/
lemma addMember (h : RefsOk roles members invites) {m : MembershipRow} {role : TenantRole}
    {id : RoleId} (hname : m.role = role.asStr) (hid : m.tenantRoleId = some id)
    (href : RefersTo roles m.tenantId id role.asStr) : RefsOk roles (members ++ [m]) invites where
  named := by
    intro x hx
    rcases List.mem_append.mp hx with hx | hx
    · exact h.named x hx
    · obtain rfl := List.mem_singleton.mp hx
      exact ⟨role, hname⟩
  member := by
    intro x hx id' hid'
    rcases List.mem_append.mp hx with hx | hx
    · exact h.member x hx id' hid'
    · obtain rfl := List.mem_singleton.mp hx
      obtain rfl := Option.some.inj (hid.symm.trans hid')
      rwa [hname]
  invite := h.invite
  inviteIds := h.inviteIds

/-- The role of a member is changed. -/
lemma mapMember (h : RefsOk roles members invites) {t : TenantId} {u : UserId} {role : TenantRole}
    {id : RoleId} (href : RefersTo roles t id role.asStr) :
    RefsOk roles (members.map fun m =>
      if m.hasKey t u then { m with role := role.asStr, tenantRoleId := some id } else m)
      invites where
  named := by
    intro x hx
    obtain ⟨m, hm, rfl⟩ := List.mem_map.mp hx
    split
    · exact ⟨role, rfl⟩
    · exact h.named m hm
  member := by
    intro x hx id' hid'
    obtain ⟨m, hm, rfl⟩ := List.mem_map.mp hx
    split at hid'
    · rename_i hkey
      rw [if_pos hkey]
      obtain rfl := Option.some.inj hid'
      obtain ⟨ht, -⟩ := MembershipRow.hasKey_iff.mp hkey
      rw [← ht] at href
      exact href
    · rename_i hkey
      rw [if_neg hkey]
      exact h.member m hm id' hid'
  invite := h.invite
  inviteIds := h.inviteIds

/-- Memberships are removed. -/
lemma dropMembers (h : RefsOk roles members invites) (p : MembershipRow → Bool) :
    RefsOk roles (members.filter p) invites where
  named := fun m hm => h.named m (List.mem_filter.mp hm).1
  member := fun m hm => h.member m (List.mem_filter.mp hm).1
  invite := h.invite
  inviteIds := h.inviteIds

/-- An invite is added. -/
lemma addInvite (h : RefsOk roles members invites) {i : InviteRow} {role : TenantRole}
    (hid : ∀ j ∈ invites, j.id ≠ i.id)
    (href : RefersTo roles i.tenantId i.tenantRoleId role.asStr) :
    RefsOk roles members (invites ++ [i]) where
  named := h.named
  member := h.member
  invite := by
    intro x hx
    rcases List.mem_append.mp hx with hx | hx
    · exact h.invite x hx
    · obtain rfl := List.mem_singleton.mp hx
      exact ⟨role, href⟩
  inviteIds := Keyed.nodup_concat _ h.inviteIds hid

/-- Invites are edited. -/
lemma mapInvites (h : RefsOk roles members invites) {f : InviteRow → InviteRow}
    (hf : ∀ i, (f i).id = i.id ∧ (f i).tenantId = i.tenantId ∧
      (f i).tenantRoleId = i.tenantRoleId) :
    RefsOk roles members (invites.map f) where
  named := h.named
  member := h.member
  invite := by
    intro x hx
    obtain ⟨i, hi, rfl⟩ := List.mem_map.mp hx
    obtain ⟨role, hrole⟩ := h.invite i hi
    rw [(hf i).2.1, (hf i).2.2]
    exact ⟨role, hrole⟩
  inviteIds := Keyed.nodup_map _ (fun i => (hf i).1) h.inviteIds

/-- A tenant is dropped with its roles, memberships and invites. -/
lemma dropTenant (h : RefsOk roles members invites) (t : TenantId) :
    RefsOk (roles.filter (·.tenantId ≠ t)) (members.filter (·.tenantId ≠ t))
      (invites.filter (·.tenantId ≠ t)) where
  named := fun m hm => h.named m (List.mem_filter.mp hm).1
  member := by
    intro m hm id hid
    obtain ⟨hm, hne⟩ := List.mem_filter.mp hm
    exact (h.member m hm id hid).filter fun r _ _ ht => by rw [ht]; exact hne
  invite := by
    intro i hi
    obtain ⟨hi, hne⟩ := List.mem_filter.mp hi
    obtain ⟨role, hrole⟩ := h.invite i hi
    exact ⟨role, hrole.filter fun r _ _ ht => by rw [ht]; exact hne⟩
  inviteIds := Keyed.nodup_filter _ h.inviteIds

/-- A role nobody refers to is dropped. -/
lemma dropRole (h : RefsOk roles members invites) {t : TenantId} {id : RoleId}
    (hm : ∀ m ∈ members, m.tenantRoleId ≠ some id) (hi : ∀ i ∈ invites, i.tenantRoleId ≠ id) :
    RefsOk (roles.filter fun r => ¬ (r.tenantId = t ∧ r.id = id)) members invites where
  named := h.named
  member := by
    intro m hmem id' hid'
    have hne : id' ≠ id := fun heq => hm m hmem (heq ▸ hid')
    exact (h.member m hmem id' hid').filter fun r _ hr _ => decide_eq_true fun hgone =>
      hne (hr.symm.trans hgone.2)
  invite := by
    intro i hmem
    obtain ⟨role, hrole⟩ := h.invite i hmem
    exact ⟨role, hrole.filter fun r _ hr _ => decide_eq_true fun hgone =>
      hi i hmem (hr.symm.trans hgone.2)⟩
  inviteIds := h.inviteIds

end RefsOk

/-! ## Calls -/

variable [Unicode]

/-- An acceptable invite refers to the role it is accepted with. -/
lemma Acceptable.refersTo {db : Db} {actor : UserId} {token roleName : String} {inv : InviteRow}
    {role : TenantRole} (h : Acceptable db actor token inv roleName role) (hw : db.WellFormed)
    (hrefs : db.RefsOk) : RefersTo db.tenantRoles inv.tenantId inv.tenantRoleId role.asStr := by
  obtain ⟨r, hr, hrid, hrname⟩ := Db.role_of_invite? h.found
  obtain ⟨role', s, hs, hsid, hst, hsname⟩ := hrefs.invite inv (Db.of_invite? h.found).1
  -- the ids of roles are unique, so the joined row is the one the invite refers to
  obtain rfl := Keyed.eq_of_key_eq _ hw.roles.roleIds hr hs (hrid.trans hsid.symm)
  have hrole : TenantRole.parse role'.asStr = .ok role := by
    rw [← hsname, hrname]
    exact h.role
  rw [TenantRole.parse_asStr] at hrole
  obtain rfl := Except.ok.inj hrole
  exact ⟨r, hr, hsid, hst, hsname⟩

/-- **The effect of a call keeps the invariant.** -/
lemma TenantEffect.refsOk {now : Time} {actor : UserId} {db db' : Db} {call : TenantCall}
    {complete : Bool} {event : Option MembershipEvent}
    (h : TenantEffect now actor db call complete event db') (hw : db.WellFormed)
    (hrefs : db.RefsOk) : db'.RefsOk := by
  cases h with
  | @created slug name tenant ids row db' hslug hnew h =>
    obtain ⟨name, rfl, -, -, -, -, -, -, seeds, -, -, rfl⟩ :=
      createTenantTx_ok hw.roles.roleTenant hw.roles.roleIds h
    have hgrown : RefsOk (db.tenantRoles ++ systemRoleRows now tenant.id ids) db.memberships
        db.invites := hrefs.mapRoles fun _ _ _ => RefersTo.append
    obtain ⟨r, hr, hrid, hrname, -⟩ := find?_systemRoleRows now tenant.id ids .owner
    have howner : RefersTo (db.tenantRoles ++ systemRoleRows now tenant.id ids) tenant.id
        (ids .owner) TenantRole.owner.asStr := by
      obtain ⟨x, -, rfl⟩ := List.mem_map.mp hr
      exact ⟨_, List.mem_append_right _ hr, hrid, rfl, hrname⟩
    exact hgrown.addMember rfl rfl howner
  | renamed hrow htenant hgrant h =>
    obtain ⟨-, rfl⟩ | ⟨-, name', -, -, rfl⟩ := updateTenant_ok h
    · exact hrefs
    · exact hrefs
  | deleted hrow hgrant h =>
    obtain ⟨-, rfl, -⟩ | ⟨-, rfl⟩ := deleteTenant_ok h
    · exact hrefs
    · exact hrefs.dropTenant _
  | memberAdded hrow hgrant hu hr h =>
    obtain ⟨-, -, -, -, -, rfl⟩ := insertMembership_ok h
    exact hrefs.addMember rfl rfl (refersTo_roleNamed? hr)
  | memberUpdated hrow hgrant hu hr h hn =>
    obtain ⟨-, -, rfl⟩ := updateMembershipRole_ok h
    exact hrefs.mapMember (refersTo_roleNamed? hr)
  | memberRemoved hrow hgrant hu h hn =>
    obtain ⟨-, rfl⟩ := deleteMembership_ok h
    exact hrefs.dropMembers _
  | @inviteCreated slug email role row r inv db' hrow hgrant hr htenant hroleId hby hpending h =>
    obtain ⟨email, -, hid, -, -, -, rfl⟩ := insertInvite_ok h
    have hinvite : RefersTo db.tenantRoles inv.tenantId inv.tenantRoleId role.asStr := by
      rw [htenant, hroleId]
      exact refersTo_roleNamed? hr
    exact hrefs.addInvite hid hinvite
  | inviteInserted hinv h =>
    obtain ⟨-, -, -, -, -, rfl⟩ := insertMembership_ok h
    exact hrefs.addMember rfl rfl (hinv.refersTo hw hrefs)
  | @inviteAccepted token roleName inv role m n db₁ db' hinv h hmark =>
    obtain ⟨-, -, -, -, -, rfl⟩ := insertMembership_ok h
    obtain ⟨-, rfl⟩ := markInviteAccepted_ok hmark
    have hadded : RefsOk db.tenantRoles
        (db.memberships ++ [newMembershipRow inv.tenantId actor role now inv.tenantRoleId])
        db.invites := hrefs.addMember rfl rfl (hinv.refersTo hw hrefs)
    refine hadded.mapInvites fun i => ?_
    split <;> exact ⟨rfl, rfl, rfl⟩
  | roleCreated hrow hgrant htenant hcustom hperms h =>
    obtain ⟨name, -, -, -, rfl⟩ := createRoleTx_ok h
    exact hrefs.mapRoles fun _ _ _ => RefersTo.append
  | roleUpdated hrow hgrant h =>
    obtain ⟨-, rfl⟩ := updateRolePermissionsTx_ok h
    refine hrefs.mapRoles fun _ _ _ => RefersTo.map fun r => ?_
    unfold TenantRoleRow.touched
    split <;> exact ⟨rfl, rfl, rfl⟩
  | roleDeleted hrow hgrant h hn =>
    obtain ⟨-, rfl⟩ | ⟨-, -, hm, hi, rfl⟩ := deleteRole_ok h
    · exact hrefs
    · exact hrefs.dropRole hm hi

/-- A step of a run keeps the invariant. -/
lemma TenantStep.refsOk {enabled : Bool} {backend : SessionBackend} {F : Req → Prop}
    {w w' : World} {l : TenantLabel} (hw : w.db.WellFormed) (hrefs : w.db.RefsOk)
    (h : TenantStep (platform enabled backend) F w l w') : w'.db.RefsOk := by
  have hcongr : ∀ {db : Db}, db.RefsOk → db.SameTenancy w'.db → w'.db.RefsOk := by
    intro db hok hs
    obtain ⟨_, _, _, _, _, hdb⟩ := hs
    rw [hdb]
    exact hok
  cases h with
  | other hs => exact hcongr hrefs hs
  | call h =>
    obtain ⟨hs, -⟩ | ⟨_, _, _, _, -, heff, hs, -⟩ := TenantCall.effect_of_exec h
    · exact hcongr hrefs hs
    · exact hcongr (heff.refsOk hw hrefs) hs

/-- **The invariant holds in every state of every run.** -/
theorem refsOk_of_run {enabled : Bool} {backend : SessionBackend} {F : Req → Prop}
    {tr : List (World × TenantLabel)} {w : World}
    (h : Run (·.db.NoTenants) (TenantStep (platform enabled backend) F) tr w) : w.db.RefsOk := by
  have hboth : w.db.WellFormed ∧ w.db.RefsOk := by
    refine h.invariant (I := fun w => w.db.WellFormed ∧ w.db.RefsOk) ?_ ?_
    · intro w h₀
      refine ⟨h₀.wellFormed, ?_⟩
      unfold Db.RefsOk
      rw [h₀.memberships, h₀.invites]
      exact RefsOk.nil
    · intro w l w' hI hs
      exact ⟨hs.wellFormed hI.1, hs.refsOk hI.1 hI.2⟩
  exact hboth.2

/-! ## Authorization -/

omit [Unicode] in
/-- In a well-formed database a role is the one found by its name and by its id. -/
lemma Db.WellFormed.role_found {db : Db} (hw : db.WellFormed) {r : TenantRoleRow}
    (hr : r ∈ db.tenantRoles) :
    db.roleNamed? r.tenantId r.name = some r ∧ db.roleOf? r.tenantId r.id = some r := by
  have hsome : ∀ {p : TenantRoleRow → Bool}, p r = true →
      (∀ s ∈ db.tenantRoles, p s = true → s = r) → db.tenantRoles.find? p = some r := by
    intro p hp hall
    obtain ⟨s, hs⟩ := Option.isSome_iff_exists.mp (List.find?_isSome.mpr ⟨r, hr, hp⟩)
    rw [hs, hall s (List.mem_of_find?_eq_some hs) (List.find?_some hs)]
  constructor
  · refine hsome (by simp) fun s hs hps => ?_
    obtain ⟨ht, hname⟩ : s.tenantId = r.tenantId ∧ s.name = r.name := by simpa using hps
    exact Keyed.eq_of_key_eq _ hw.roles.roleNames hs hr (Prod.ext ht hname)
  · refine hsome (by simp) fun s hs hps => ?_
    obtain ⟨-, hid⟩ : s.tenantId = r.tenantId ∧ s.id = r.id := by simpa using hps
    exact Keyed.eq_of_key_eq _ hw.roles.roleIds hs hr hid

/-- **The two columns of a member's role agree.** In every state a run reaches, a membership
that refers to a role refers to an existing role of its tenant whose name is the text of the
membership; authorization looks the text up and finds that role, and grants what the role it
refers to grants, and nothing else.

**Proof sketch.** `RefsOk` gives the role row.  The names and the ids of the roles of a tenant
are unique, so both lookups find this row, and `has_permission` decides on its permissions. -/
theorem role_reference {enabled : Bool} {backend : SessionBackend} {F : Req → Prop}
    {tr : List (World × TenantLabel)} {w : World}
    (h : Run (·.db.NoTenants) (TenantStep (platform enabled backend) F) tr w) {m : MembershipRow}
    (hm : m ∈ w.db.memberships) {id : RoleId} (hid : m.tenantRoleId = some id) :
    ∃ r ∈ w.db.tenantRoles, r.id = id ∧ r.tenantId = m.tenantId ∧ r.name = m.role ∧
      (∃ role, TenantRole.parse m.role = .ok role ∧
        w.db.roleNamed? m.tenantId role.asStr = some r ∧ w.db.roleOf? m.tenantId id = some r) ∧
      ∀ (name : String) (w' : World),
        (AuthorizationService.hasPermission m.tenantId m.userId name).Exec (Env F) w (.ok true) w' ↔
          (∃ p c, w.db.permissions.find? (·.name = name) = some p ∧
            PermissionCategory.fromStr p.category = .ok c ∧
            p.id ∈ (w.db.roleAggregate r).permissionIds) ∧ w' = w := by
  have hw := wellFormed_of_run h
  have hrefs := refsOk_of_run h
  obtain ⟨r, hr, hrid, hrt, hrname⟩ := hrefs.member m hm id hid
  obtain ⟨role, hrole⟩ := hrefs.named m hm
  obtain ⟨hbyName, hbyId⟩ := hw.role_found hr
  rw [hrt, hrname, hrole] at hbyName
  rw [hrt, hrid] at hbyId
  have hparse : TenantRole.parse m.role = .ok role := by rw [hrole, TenantRole.parse_asStr]
  refine ⟨r, hr, hrid, hrt, hrname, ⟨role, hparse, hbyName, hbyId⟩, fun name w' => ?_⟩
  have hfind : w.db.membership? m.tenantId m.userId = some m := by
    have hfilter : w.db.memberships.filter (·.hasKey m.tenantId m.userId) = [m] := by
      rw [← Keyed.filter_key_eq _ hw.members.keys hm]
      refine List.filter_congr fun x _ => ?_
      rw [Bool.eq_iff_iff, MembershipRow.hasKey_iff, decide_eq_true_eq, Prod.mk.injEq]
    unfold Db.membership?
    rw [← List.head?_filter, hfilter, List.head?_cons]
  rw [AuthorizationService.exec_hasPermission_true]
  refine and_congr_left fun _ => ?_
  constructor
  · rintro ⟨m', role', hm', hparse', r', p, c, hr', hp, hc, hrp⟩
    obtain rfl := Option.some.inj (hfind.symm.trans hm')
    obtain rfl := Except.ok.inj (hparse.symm.trans hparse')
    obtain rfl := Option.some.inj (hbyName.symm.trans hr')
    exact ⟨p, c, hp, hc, mem_permissionIds.mpr hrp⟩
  · rintro ⟨p, c, hp, hc, hrp⟩
    exact ⟨m, role, hfind, hparse, r, p, c, hbyName, hp, hc, mem_permissionIds.mp hrp⟩

namespace Scenario

/-- One member was promoted, another accepted an invite, a custom role has the name of a system
role in another case, and somebody tried to delete that system role. -/
def namesakes : List (Nat × TenantCall) :=
  [(901, .deleteRole "acme" ⟨4⟩),
   (903, .acceptInvite ""),
   (901, .createInvite "acme" "eve@x.org" .guest),
   (901, .createRole "acme" "Guest" "namesake" [⟨801⟩]),
   (901, .updateMemberRole "acme" "bob@x.org" .admin),
   (901, .addMember "acme" "bob@x.org" .member),
   (901, .createTenant "acme" "Acme")]

end Scenario

omit [Unicode] in
/-- The members of a small platform refer to the roles they name. -/
theorem role_reference_namesakes : letI := Unicode.ascii
    let w := Scenario.after (platform true .database) Scenario.namesakes
    (w.db.memberships.map (·.role) = ["owner", "admin", "guest"] ∧
      w.db.memberships.all (·.tenantRoleId.isSome) ∧ w.db.tenantRoles.length = 5) ∧
    ∀ m ∈ w.db.memberships, ∀ id, m.tenantRoleId = some id →
      ∃ r ∈ w.db.tenantRoles, r.id = id ∧ r.tenantId = m.tenantId ∧ r.name = m.role := by
  obtain ⟨tr, h⟩ := @Scenario.run_after Unicode.ascii (platform true .database) noFault
    Scenario.namesakes
  refine ⟨by decide +kernel, fun m hm id hid => ?_⟩
  obtain ⟨r, hr, hrid, hrt, hrname, -⟩ := @role_reference Unicode.ascii _ _ _ _ _ h _ hm _ hid
  exact ⟨r, hr, hrid, hrt, hrname⟩

end Klynt
