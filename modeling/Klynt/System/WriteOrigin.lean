import Klynt.System.Isolation
import Klynt.System.TenantRace

set_option relaxedAutoImplicit false
set_option autoImplicit false

/-!
# Where the writes of concurrent calls come from

A call of the tenant service checks its actor in earlier statements than it writes in.  Between
them the actor may lose the role, and the role the permission, so that the check says nothing
about the moment of the write.  It does say something about the past: every write of every
interleaving rests on a membership, a role and an invite that were there at earlier moments of
the run, and it touches the rows of the one tenant they belonged to.

## Main definitions

* `TenantCall.requires` — the tenant and the permission a call asks for.
* `GrantedBefore` — the actor was a member, and the role of that name granted the permission.
* `Authority` — why a request may touch a tenant.

## Main results

* `Knows.touches` — a write touches one tenant.
* `writes_authorised` — every write of every interleaving has such an authority.
-/

namespace Klynt

/-- The slug of the tenant a call names and the permission it requires. -/
def TenantCall.requires : TenantCall → Option (String × String)
  | createTenant _ _ | acceptInvite _ => none
  | updateTenant slug _ => some (slug, Permission.manageSettings)
  | deleteTenant slug => some (slug, Permission.delete)
  | addMember slug _ _ | updateMemberRole slug _ _ | removeMember slug _
  | createInvite slug _ _ => some (slug, Permission.manageMembers)
  | createRole slug _ _ _ | updateRole slug _ _ | deleteRole slug _ =>
    some (slug, Permission.manageRoles)

section Writes

variable [Unicode]

/-- At a moment of the history the actor was a member of the tenant, and at a moment of the history
the role of the member's name granted the permission. -/
def GrantedBefore {ι : Type} (older : TenantHistory ι) (t : TenantId) (actor : UserId)
    (name : String) : Prop :=
  ∃ e ∈ older, ∃ e' ∈ older, ∃ m role, e.1.world.db.membership? t actor = some m ∧
    TenantRole.parse m.role = .ok role ∧ e'.1.world.db.RoleGrants t role name

/-- Why a request of a call that finds the database `db` after the history `older` may touch the
rows of the tenant `t`. -/
inductive Authority {ι : Type} (older : TenantHistory ι) (actor : UserId) (db : Db) :
    TenantCall → Req → TenantId → Prop
  /-- The actor creates the tenant. -/
  | own {slug name : String} {tenant : Tenant} {ids : TenantRole → RoleId}
      (hslug : TenantSlug.parse slug = .ok tenant.slug) (howner : tenant.ownerId = actor) :
      Authority older actor db (.createTenant slug name) (.transaction (.createTenant tenant ids))
        tenant.id
  /-- The tenant had the slug the call names, the actor had the permission the call requires, and
  the request does not concern the owner. -/
  | permitted {call : TenantCall} {q : Req} {slug name : String} {row : TenantRow}
      (hcall : call.requires = some (slug, name))
      (hrow : ∃ e ∈ older, e.1.world.db.tenantNamed? slug = some row)
      (hgrant : GrantedBefore older row.id actor name)
      (howner : ∀ t ∈ db.tenants, t.id = row.id → ∀ u role id,
        q = .update (.deleteMembership row.id u) ∨ q = .update (.membershipRole role row.id u id) →
          u ≠ t.ownerId) :
      Authority older actor db call q row.id
  /-- The actor was invited to the tenant, the invite was pending, and it had not expired. -/
  | invited {token roleName : String} {q : Req} {inv : InviteRow} {role : TenantRole}
      (hfound : ∃ e ∈ older, e.1.world.db.invite? token = some (inv, roleName))
      (hpending : inv.acceptedAt = none) (hinTime : ∃ e ∈ older, e.1.world.now ≤ inv.expiresAt)
      (haddressed : ∃ e ∈ older, ∃ row user, e.1.world.db.users.find? (·.id = actor) = some row ∧
        row.intoUser = .ok user ∧ user.email = Email.new inv.email)
      (hrole : TenantRole.parse roleName = .ok role)
      (hq : q = .update (.acceptInvite inv.id) ∨ ∃ t, q = .update (.insertMembership
        (newMembershipRow inv.tenantId actor role t inv.tenantRoleId))) :
      Authority older actor db (.acceptInvite token) q inv.tenantId

/-! ## One request -/

section Request

variable {ι : Type} [DecidableEq ι] {calls : ι → ExecutionContext × TenantCall}
  {log : List (ι × Prog.Event Req Ans)} {i : ι} {now : Time} {db db' : Db}

/-- The rows that a permitted statement touches. -/
inductive Touches (ctx : ExecutionContext) (h : List (Prog.Event Req Ans)) :
    TenantCall → Req → TenantId → Prop
  /-- A tenant of the actor. -/
  | own {slug name : String} {tenant : Tenant} {ids : TenantRole → RoleId} {actor : UserId}
      (hctx : ctx.actorId = some actor.inner) (hslug : TenantSlug.parse slug = .ok tenant.slug)
      (howner : tenant.ownerId = actor) :
      Touches ctx h (.createTenant slug name) (.transaction (.createTenant tenant ids)) tenant.id
  /-- The tenant that was checked. -/
  | checked {call : TenantCall} {q : Req} {slug name : String} {actor : UserId} {row : TenantRow}
      (hcall : call.requires = some (slug, name)) (hcheck : Checked ctx h slug name actor row)
      (howner : ∀ u role id, q = .update (.deleteMembership row.id u) ∨
        q = .update (.membershipRole role row.id u id) → u ≠ row.ownerId) :
      Touches ctx h call q row.id
  /-- The tenant of the invite that was read. -/
  | invited {token roleName : String} {q : Req} {actor : UserId} {inv : InviteRow}
      {role : TenantRole} (hinv : InviteRead ctx h token actor inv roleName role)
      (hq : q = .update (.acceptInvite inv.id) ∨ ∃ t, q = .update (.insertMembership
        (newMembershipRow inv.tenantId actor role t inv.tenantRoleId))) :
      Touches ctx h (.acceptInvite token) q inv.tenantId

/-- The rows of the other tenants stay as they are. -/
def OnlyTouches (t : TenantId) (db db' : Db) : Prop := ∀ s, s ≠ t → db'.rowsOf s = db.rowsOf s

omit [Unicode] in
/-- Nothing changed. -/
lemma OnlyTouches.refl (t : TenantId) (db : Db) : OnlyTouches t db db := fun _ _ => rfl

omit [Unicode] in
/-- A membership is added. -/
lemma onlyTouches_insertMembership {row m : MembershipRow}
    (hx : insertMembership row now db = .ok (m, db')) : OnlyTouches row.tenantId db db' := by
  obtain ⟨-, -, -, -, -, rfl⟩ := insertMembership_ok hx
  intro s hs
  refine rowsOf_congr rfl (Keyed.filter_append_outside fun x hmem => ?_) rfl rfl rfl rfl
  obtain rfl := List.mem_singleton.mp hmem
  exact decide_eq_false hs.symm

/-- **A statement of a call touches one tenant.** -/
lemma Knows.touches (h : Knows calls log i db) {u : Update} {r : u.Res}
    (hm : TenantMay (calls i).1 (Pool.mine i log) (calls i).2 (.update u))
    (hx : u.exec now db = .ok (r, db')) (hu : ¬ u.OnSessions) :
    ∃ t, Touches (calls i).1 (Pool.mine i log) (calls i).2 (.update u) t ∧
      OnlyTouches t db db' := by
  have hw := h.settled.wellFormed
  have hborn := h.settled.born
  have hseen := h.seen
  generalize (calls i).2 = call at hm ⊢
  cases hm with
  | aside hs => exact absurd hs hu
  | @renamed slug name actor row tenant t hcheck hfirst hmap =>
    refine ⟨row.id, .checked rfl hcheck fun u role id hq => ?_, ?_⟩
    · rcases hq with hq | hq <;> cases hq
    obtain ⟨-, rfl⟩ | ⟨-, name', -, -, rfl⟩ := @updateTenant_ok now _ _ _ _ hx
    · exact .refl _ _
    · intro s hs
      have hid : tenant.id ≠ s := by
        rw [mapTenantRow_id hmap]
        exact hs.symm
      refine rowsOf_congr (Keyed.filter_map_outside fun x _ => ?_) rfl rfl rfl rfl rfl
      split
      · rename_i hxid
        exact .inr ⟨decide_eq_false fun heq => hid (hxid.symm.trans heq), decide_eq_false hid⟩
      · exact .inl rfl
  | @deleted slug actor row hcheck hfirst =>
    refine ⟨row.id, .checked rfl hcheck fun u role id hq => ?_, ?_⟩
    · rcases hq with hq | hq <;> cases hq
    obtain ⟨-, rfl, -⟩ | ⟨-, rfl⟩ := @deleteTenant_ok now _ _ _ _ hx
    · exact .refl _ _
    · intro s hs
      have hkeep : ∀ {x : TenantId}, decide (x = s) = true → decide (x ≠ row.id) = true := by
        intro x hx
        obtain rfl := of_decide_eq_true hx
        exact decide_eq_true hs
      refine rowsOf_congr ?_ ?_ ?_ ?_ ?_ ?_
      · exact Keyed.filter_filter_outside fun _ _ hx => hkeep hx
      · exact Keyed.filter_filter_outside fun _ _ hx => hkeep hx
      · exact Keyed.filter_filter_outside fun _ _ hx => hkeep hx
      · refine Keyed.filter_filter_outside fun rp _ hrp => decide_eq_true ?_
        exact hw.roles.not_mem_roleIdsOf hs (of_decide_eq_true hrp)
      · exact Keyed.filter_filter_outside fun _ _ hx => hkeep hx
      · exact Keyed.filter_filter_outside fun _ _ hx => hkeep hx
  | @memberAdded slug email role actor u row t id hcheck hfirst hv hrole =>
    refine ⟨row.id, .checked rfl hcheck fun u role id hq => ?_,
      @onlyTouches_insertMembership now _ _ _ _ hx⟩
    rcases hq with hq | hq <;> cases hq
  | @inviteUsed token roleName actor inv role t hinv hfirst =>
    exact ⟨inv.tenantId, .invited hinv (.inr ⟨t, rfl⟩), @onlyTouches_insertMembership now _ _ _ _ hx⟩
  | @memberUpdated slug email role actor v row id hcheck hfirst hv hrole =>
    refine ⟨row.id, .checked rfl hcheck fun u role id hq => ?_, ?_⟩
    · rcases hq with hq | hq
      · cases hq
      · cases hq
        exact hv
    obtain ⟨-, -, rfl⟩ := @updateMembershipRole_ok now _ _ _ _ _ _ _ hx
    intro s hs
    refine rowsOf_congr rfl (Keyed.filter_map_outside fun m hm => ?_) rfl rfl rfl rfl
    by_cases hkey : m.hasKey row.id v = true
    · obtain ⟨hmt, -⟩ := MembershipRow.hasKey_iff.mp hkey
      have hmne : m.tenantId ≠ s := hmt.symm ▸ hs.symm
      rw [if_pos hkey]
      exact .inr ⟨decide_eq_false hmne, decide_eq_false hmne⟩
    · exact .inl (if_neg hkey)
  | @memberRemoved slug email actor v row hcheck hfirst hv =>
    refine ⟨row.id, .checked rfl hcheck fun u role id hq => ?_, ?_⟩
    · rcases hq with hq | hq
      · cases hq
        exact hv
      · cases hq
    obtain ⟨-, rfl⟩ := @deleteMembership_ok now _ _ _ _ _ hx
    intro s hs
    refine rowsOf_congr rfl (Keyed.filter_filter_outside fun m _ hm => ?_) rfl rfl rfl rfl
    refine decide_eq_true fun hkey => ?_
    obtain ⟨hmt, -⟩ := MembershipRow.hasKey_iff.mp hkey
    exact hs ((of_decide_eq_true hm).symm.trans hmt)
  | @inviteCreated slug email role actor row r inv hcheck hfirst hrole hid htenant hroleId hby hpending =>
    refine ⟨row.id, .checked rfl hcheck fun u role id hq => ?_, ?_⟩
    · rcases hq with hq | hq <;> cases hq
    obtain ⟨email, -, -, -, -, -, rfl⟩ := @insertInvite_ok now _ _ _ hx
    intro s hs
    refine rowsOf_congr rfl rfl rfl rfl (Keyed.filter_append_outside fun j hj => ?_) rfl
    obtain rfl := List.mem_singleton.mp hj
    exact decide_eq_false (by change inv.tenantId ≠ s; rw [htenant]; exact hs.symm)
  | @inviteMarked token roleName actor inv role t m hinv hjoined =>
    refine ⟨inv.tenantId, .invited hinv (.inl rfl), ?_⟩
    obtain ⟨-, rfl⟩ := @markInviteAccepted_ok now _ _ _ _ hx
    intro s hs
    refine rowsOf_congr rfl rfl rfl rfl (Keyed.filter_map_outside fun j hj => ?_) rfl
    by_cases hid : j.id = inv.id
    · -- an invite id stands for an invite of one tenant
      have hnow := hborn.invite j hj
      rw [hid] at hnow
      have hsame := invite_unique h.justified h.nodup hnow (hseen.invite _ _ _ hinv.found).1
      have hjne : j.tenantId ≠ s := fun heq => hs (heq.symm.trans hsame)
      rw [if_pos hid]
      exact .inr ⟨decide_eq_false hjne, decide_eq_false hjne⟩
    · exact .inl (if_neg hid)
  | @roleDeleted slug roleId actor row hcheck hfirst =>
    refine ⟨row.id, .checked rfl hcheck fun u role id hq => ?_, ?_⟩
    · rcases hq with hq | hq <;> cases hq
    obtain ⟨-, rfl⟩ | ⟨-, ⟨r, hr, hrt, hrid, -⟩, -, -, rfl⟩ := @deleteRole_ok now _ _ _ _ _ hx
    · exact .refl _ _
    · intro s hs
      have hother := hw.roles.not_mem_roleIdsOf hs.symm (mem_roleIdsOf.mpr ⟨r, hr, hrt, hrid⟩)
      refine rowsOf_congr rfl rfl ?_ ?_ rfl rfl
      · refine Keyed.filter_filter_outside fun x _ hx => decide_eq_true fun hgone => ?_
        exact hs ((of_decide_eq_true hx).symm.trans hgone.1)
      · refine Keyed.filter_filter_outside fun rp _ hrp => decide_eq_true fun hid => hother ?_
        rw [← hid]
        exact of_decide_eq_true hrp

/-- **A transaction of a call touches one tenant.** -/
lemma Knows.touches_transaction (h : Knows calls log i db) {x : Transaction} {r : x.Res}
    (hm : TenantMay (calls i).1 (Pool.mine i log) (calls i).2 (.transaction x))
    (hx : x.exec now db = .ok (r, db')) :
    ∃ t, Touches (calls i).1 (Pool.mine i log) (calls i).2 (.transaction x) t ∧
      OnlyTouches t db db' := by
  have hw := h.settled.wellFormed
  generalize (calls i).2 = call at hm ⊢
  cases hm with
  | aside hs => exact hs.elim
  | @created slug name tenant ids actor hctx hslug hnew hfirst hids =>
    have howner : tenant.ownerId = actor := by
      obtain ⟨-, heq⟩ := Tenant.create_eq_ok.mp hnew
      exact congrArg Tenant.ownerId heq
    refine ⟨tenant.id, .own hctx hslug howner, ?_⟩
    obtain ⟨name, rfl, -, hid, -, -, -, hids, seeds, hseeds, -, rfl⟩ :=
      @createTenantTx_ok now _ _ _ _ _ hw.roles.roleTenant hw.roles.roleIds hx
    have hnew : ∀ r ∈ systemRoleRows now tenant.id ids, r.tenantId = tenant.id := by
      intro r hr
      obtain ⟨x, -, rfl⟩ := List.mem_map.mp hr
      rfl
    intro s hs
    refine rowsOf_congr ?_ ?_ ?_ ?_ rfl rfl
    · exact Keyed.filter_append_outside fun r hr => by
        obtain rfl := List.mem_singleton.mp hr
        exact decide_eq_false hs.symm
    · exact Keyed.filter_append_outside fun m hm => by
        obtain rfl := List.mem_singleton.mp hm
        exact decide_eq_false hs.symm
    · exact Keyed.filter_append_outside fun r hr =>
        decide_eq_false (by rw [hnew r hr]; exact hs.symm)
    · refine Keyed.filter_append_outside fun rp hrp => decide_eq_false fun hmem => ?_
      obtain ⟨r, hr, p, -, rfl, -⟩ := hseeds rp hrp
      obtain ⟨r', hr', -, hrid⟩ := mem_roleIdsOf.mp hmem
      rw [List.map_append] at hids
      exact (List.nodup_append.mp hids).2.2 _ (List.mem_map_of_mem hr') _ (List.mem_map_of_mem hr)
        hrid
  | @roleCreated slug name description permissionIds actor row role hcheck hfirst hid htenant =>
    refine ⟨row.id, .checked rfl hcheck fun u role id hq => ?_, ?_⟩
    · rcases hq with hq | hq <;> cases hq
    obtain ⟨name, hnew, -, -, rfl⟩ := @createRoleTx_ok now _ _ _ hx
    intro s hs
    refine rowsOf_congr rfl rfl ?_ ?_ rfl rfl
    · refine Keyed.filter_append_outside fun r hr => ?_
      obtain rfl := List.mem_singleton.mp hr
      exact decide_eq_false (by change role.tenantId ≠ s; rw [htenant]; exact hs.symm)
    · refine Keyed.filter_append_outside fun rp hrp => decide_eq_false fun hmem => ?_
      obtain ⟨p, -, rfl⟩ := List.mem_map.mp hrp
      obtain ⟨r, hr, -, hrid⟩ := mem_roleIdsOf.mp hmem
      exact hnew r hr hrid
  | @roleUpdated slug roleId permissionIds actor row hcheck hfirst =>
    refine ⟨row.id, .checked rfl hcheck fun u role id hq => ?_, ?_⟩
    · rcases hq with hq | hq <;> cases hq
    obtain ⟨hrole, rfl⟩ := @updateRolePermissionsTx_ok now _ _ _ _ _ hx
    intro s hs
    have hother := hw.roles.not_mem_roleIdsOf hs.symm (mem_roleIdsOf.mpr hrole)
    refine rowsOf_congr rfl rfl ?_ ?_ rfl rfl
    · refine Keyed.filter_map_outside fun r hr => ?_
      unfold TenantRoleRow.touched
      by_cases hkey : r.tenantId = row.id ∧ r.id = roleId
      · have hrne : r.tenantId ≠ s := hkey.1.symm ▸ hs.symm
        rw [if_pos hkey]
        exact .inr ⟨decide_eq_false hrne, decide_eq_false hrne⟩
      · exact .inl (if_neg hkey)
    · rw [Keyed.filter_append_outside, Keyed.filter_filter_outside]
      · intro rp _ hrp
        refine decide_eq_true fun hid => hother ?_
        rw [← hid]
        exact of_decide_eq_true hrp
      · intro rp hrp
        obtain ⟨p, -, rfl⟩ := List.mem_map.mp hrp
        exact decide_eq_false hother

omit [Unicode] in
/-- **A statement of a call leaves the catalogue of permissions alone.** -/
lemma TenantMay.permissions [Unicode] {ctx : ExecutionContext} {call : TenantCall}
    {h : List (Prog.Event Req Ans)} {u : Update} {r : u.Res} (hm : TenantMay ctx h call (.update u))
    (hx : u.exec now db = .ok (r, db')) : db'.permissions = db.permissions := by
  cases hm with
  | aside hs =>
    obtain ⟨_, rfl⟩ := Update.OnSessions.frame hs hx
    rfl
  | renamed hcheck hfirst hmap =>
    obtain ⟨-, rfl⟩ | ⟨-, _, -, -, rfl⟩ := @updateTenant_ok now _ _ _ _ hx
    · rfl
    · rfl
  | deleted hcheck hfirst =>
    obtain ⟨-, rfl, -⟩ | ⟨-, rfl⟩ := @deleteTenant_ok now _ _ _ _ hx
    · rfl
    · rfl
  | memberAdded hcheck hfirst hu hrole =>
    obtain ⟨-, -, -, -, -, rfl⟩ := @insertMembership_ok now _ _ _ _ hx
    rfl
  | memberUpdated hcheck hfirst hu hrole =>
    obtain ⟨-, -, rfl⟩ := @updateMembershipRole_ok now _ _ _ _ _ _ _ hx
    rfl
  | memberRemoved hcheck hfirst hu =>
    obtain ⟨-, rfl⟩ := @deleteMembership_ok now _ _ _ _ _ hx
    rfl
  | inviteCreated hcheck hfirst hrole hid htenant hroleId hby hpending =>
    obtain ⟨_, -, -, -, -, -, rfl⟩ := @insertInvite_ok now _ _ _ hx
    rfl
  | inviteUsed hinv hfirst =>
    obtain ⟨-, -, -, -, -, rfl⟩ := @insertMembership_ok now _ _ _ _ hx
    rfl
  | inviteMarked hinv hjoined =>
    obtain ⟨-, rfl⟩ := @markInviteAccepted_ok now _ _ _ _ hx
    rfl
  | roleDeleted hcheck hfirst =>
    obtain ⟨-, rfl⟩ | ⟨-, -, -, -, rfl⟩ := @deleteRole_ok now _ _ _ _ _ hx
    · rfl
    · rfl

/-- **A transaction of a call leaves the catalogue of permissions alone.** -/
lemma Knows.permissions (h : Knows calls log i db) {x : Transaction} {r : x.Res}
    (hm : TenantMay (calls i).1 (Pool.mine i log) (calls i).2 (.transaction x))
    (hx : x.exec now db = .ok (r, db')) : db'.permissions = db.permissions := by
  have hroles := h.settled.wellFormed.roles
  generalize (calls i).2 = call at hm
  cases hm with
  | aside hs => exact hs.elim
  | created hctx hslug hnew hfirst hids =>
    obtain ⟨_, rfl, -, -, -, -, -, -, _, -, -, rfl⟩ :=
      @createTenantTx_ok now _ _ _ _ _ hroles.roleTenant hroles.roleIds hx
    rfl
  | roleCreated hcheck hfirst hid htenant =>
    obtain ⟨_, -, -, -, rfl⟩ := @createRoleTx_ok now _ _ _ hx
    rfl
  | roleUpdated hcheck hfirst =>
    obtain ⟨-, rfl⟩ := @updateRolePermissionsTx_ok now _ _ _ _ _ hx
    rfl

end Request

/-! ## Runs -/

section Runs

variable {ι : Type} [DecidableEq ι] {enabled : Bool} {backend : SessionBackend} {F : Req → Prop}
  {calls : ι → ExecutionContext × TenantCall} {tr : TenantHistory ι} {P : TenantPool ι} {i : ι}

/-- A step leaves the catalogue of permissions alone. -/
lemma permissions_of_step
    (hr : Run (TenantPoolInit enabled backend calls) (Pool.Step (Env F) World.Beside) tr P)
    (hn : P.world.minted.Nodup) {l : Pool.Label ι Req Ans} {P' : TenantPool ι}
    (hstep : Pool.Step (Env F) World.Beside P l P') :
    P'.world.db.permissions = P.world.db.permissions := by
  have hlong := hr.snoc hstep
  cases hstep with
  | tick hT =>
    obtain ⟨_, _, _, _, _, hdb⟩ := hT.db
    rw [hdb]
  | @run i q k a w hi hE =>
    have hk := knows_of_run hr hn i
    have hmay := (tenantJustified_of_run hlong).1
    cases q with
    | update u =>
      rcases hE with ⟨r, db, hx, -, rfl⟩ | ⟨-, -, -, rfl⟩ | ⟨-, -, rfl⟩
      · exact hmay.permissions hx
      · rfl
      · rfl
    | transaction x =>
      rcases hE with ⟨r, db, hx, -, rfl⟩ | ⟨-, -, -, rfl⟩ | ⟨-, -, rfl⟩
      · exact hk.permissions hmay hx
      · rfl
      · rfl
    | _ => exact congrArg Db.permissions (hE.db_eq id)

/-- The catalogue of permissions was the same at every earlier moment. -/
lemma permissions_of_run
    (hr : Run (TenantPoolInit enabled backend calls) (Pool.Step (Env F) World.Beside) tr P)
    (hn : P.world.minted.Nodup) :
    ∀ e ∈ tr, e.1.world.db.permissions = P.world.db.permissions := by
  induction hr with
  | start hi => exact fun _ he => absurd he List.not_mem_nil
  | @snoc older Q P' l hrun hstep ih =>
    have hnQ : Q.world.minted.Nodup := by
      refine List.Sublist.nodup (List.IsSuffix.sublist ?_) hn
      cases hstep with
      | tick hT => exact hT.minted
      | run hi hE => exact hE.minted
    intro e he
    rw [permissions_of_step hrun hnQ hstep]
    rcases List.mem_cons.mp he with rfl | he
    · rfl
    · exact ih hnQ e he

omit [Unicode] in
/-- What a call has read was so at an earlier moment. -/
lemma read_of_run {init : TenantPool ι → Prop} (hr : Run init (Pool.Step (Env F) World.Beside) tr P)
    {q : Query} {r : q.Res} (hread : queriedEvent q r ∈ Pool.mine i (Pool.log tr)) :
    ∃ e ∈ tr, q.exec e.1.world.now e.1.world.db = r := by
  obtain ⟨newer, Q, older, m, rfl, -, hE, -⟩ := Pool.event_of_log hr (Pool.mem_mine.mp hread)
  exact ⟨_, List.mem_append_right _ List.mem_cons_self, (exec_of_queriedEvent hE).symm⟩

omit [Unicode] in
/-- The time a call has read was the time of an earlier moment. -/
lemma clock_of_run {init : TenantPool ι → Prop}
    (hr : Run init (Pool.Step (Env F) World.Beside) tr P) {t : Time}
    (hread : clockEvent t ∈ Pool.mine i (Pool.log tr)) : ∃ e ∈ tr, e.1.world.now = t := by
  obtain ⟨newer, Q, older, m, rfl, -, hE, -⟩ := Pool.event_of_log hr (Pool.mem_mine.mp hread)
  exact ⟨_, List.mem_append_right _ List.mem_cons_self, hE.1.symm⟩

/-- **A check that was passed was right at earlier moments.** -/
lemma Authorised.grantedBefore
    (hr : Run (TenantPoolInit enabled backend calls) (Pool.Step (Env F) World.Beside) tr P)
    (hn : P.world.minted.Nodup) {t : TenantId} {actor : UserId} {name : String}
    (h : Authorised (Pool.mine i (Pool.log tr)) t actor name) : GrantedBefore tr t actor name := by
  obtain ⟨m, role, agg, p, c, hm, hrole, hagg, hp, hc, hmem⟩ := h
  obtain ⟨e, he, hm⟩ := read_of_run hr hm
  obtain ⟨e', he', hagg⟩ := read_of_run hr hagg
  obtain ⟨e'', he'', hp⟩ := read_of_run hr hp
  obtain ⟨r, hr', rfl⟩ := Option.map_eq_some_iff.mp hagg
  -- the catalogue is the same whenever it is read
  have hsame := (permissions_of_run hr hn e' he').trans (permissions_of_run hr hn e'' he'').symm
  refine ⟨e, he, e', he', m, role, hm, hrole, r, p, c, hr', ?_, hc, mem_permissionIds.mp hmem⟩
  rw [hsame]
  exact hp

/-- What a request touches, it may touch. -/
lemma Touches.authority
    (hr : Run (TenantPoolInit enabled backend calls) (Pool.Step (Env F) World.Beside) tr P)
    (hn : P.world.minted.Nodup) {q : Req} {t : TenantId}
    (h : Touches (calls i).1 (Pool.mine i (Pool.log tr)) (calls i).2 q t) :
    ∃ actor, (calls i).1.actorId = some actor.inner ∧
      Authority tr actor P.world.db (calls i).2 q t := by
  have hk := knows_of_run hr hn i
  generalize (calls i).2 = call at h ⊢
  cases h with
  | own hctx hslug howner => exact ⟨_, hctx, .own hslug howner⟩
  | @checked _ _ _ _ actor row hcall hcheck howner =>
    obtain ⟨s, hslug, hread⟩ := hcheck.found
    obtain ⟨e, he, hread⟩ := read_of_run hr hread
    refine ⟨actor, hcheck.caller, .permitted hcall ⟨e, he, ?_⟩
      (hcheck.authorised.grantedBefore hr hn) fun t ht hid u role id hq => ?_⟩
    · unfold Db.tenantNamed?
      rw [hslug]
      exact hread
    · rw [hk.owner_eq hcheck t ht hid]
      exact howner u role id hq
  | @invited _ _ _ actor inv role hinv hq =>
    obtain ⟨e, he, hfound⟩ := read_of_run hr hinv.found
    obtain ⟨t, hclock, hle⟩ := hinv.inTime
    obtain ⟨e', he', rfl⟩ := clock_of_run hr hclock
    obtain ⟨row, user, huser, hinto, hemail⟩ := hinv.addressed
    obtain ⟨e'', he'', huser⟩ := read_of_run hr huser
    exact ⟨actor, hinv.caller, .invited ⟨e, he, hfound⟩ hinv.pending ⟨e', he', hle⟩
      ⟨e'', he'', row, user, huser, hinto, hemail⟩ hinv.role hq⟩

/-- **Every write of every interleaving rests on a permission, an invite or the actor's own
tenant.** When a request of a call changes the rows of a tenant, then the caller has the authority
for that tenant that the call requires; so the rows of all other tenants stay as they are.

**Proof sketch.** A request that changes rows touches one tenant (`Knows.touches`), by the reads
before it in the trace of the call.  What was read was so when it was read. -/
theorem writes_authorised
    (hr : Run (TenantPoolInit enabled backend calls) (Pool.Step (Env F) World.Beside) tr P)
    (hn : P.world.minted.Nodup) {q : Req} {a : Ans q} {P' : TenantPool ι}
    (hstep : Pool.Step (Env F) World.Beside P (some (i, ⟨q, a⟩)) P') (t : TenantId)
    (ht : P'.world.db.rowsOf t ≠ P.world.db.rowsOf t) :
    ∃ actor, (calls i).1.actorId = some actor.inner ∧
      Authority tr actor P.world.db (calls i).2 q t := by
  have hmay := (tenantJustified_of_run (hr.snoc hstep)).1
  have hk := knows_of_run hr hn i
  refine Touches.authority hr hn ?_
  have hone : ∀ {s : TenantId} {db : Db}, OnlyTouches s P.world.db db →
      db.rowsOf t ≠ P.world.db.rowsOf t → s = t := by
    intro s db honly hne
    by_contra hst
    exact hne (honly t fun heq => hst heq.symm)
  cases hstep with
  | @run i q k a w hi hE =>
    cases q with
    | update u =>
      rcases hE with ⟨r, db, hx, -, rfl⟩ | ⟨-, -, -, rfl⟩ | ⟨-, -, rfl⟩
      · by_cases hu : u.OnSessions
        · obtain ⟨_, rfl⟩ := hu.frame hx
          exact absurd rfl ht
        · obtain ⟨s, htouch, honly⟩ := hk.touches hmay hx hu
          exact hone honly ht ▸ htouch
      · exact absurd rfl ht
      · exact absurd rfl ht
    | transaction x =>
      rcases hE with ⟨r, db, hx, -, rfl⟩ | ⟨-, -, -, rfl⟩ | ⟨-, -, rfl⟩
      · obtain ⟨s, htouch, honly⟩ := hk.touches_transaction hmay hx
        exact hone honly ht ▸ htouch
      · exact absurd rfl ht
      · exact absurd rfl ht
    | _ => exact absurd (congrArg (Db.rowsOf · t) (hE.db_eq id)) ht

end Runs

end Writes

namespace Scenario

/-- The moment before bob adds eve: he is a guest by now. -/
def beforeLateAddition : TenantHistory (Fin 4) × TenantPool (Fin 4) :=
  racedTenants (lateAddition.take 37)

/-- It is a moment of an interleaving. -/
theorem run_beforeLateAddition : letI := Unicode.ascii
    Run (TenantPoolInit true .database racingCalls) (Pool.Step (Env noFault) World.Beside)
      beforeLateAddition.1 beforeLateAddition.2 := run_racedTenants _

end Scenario

/-- Bob may not add members any more, but he might when he was checked. -/
theorem writes_authorised_late : letI := Unicode.ascii
    Scenario.beforeLateAddition.2.world.db.tenants.map (·.slug) = ["acme"] ∧
      (∀ t ∈ Scenario.beforeLateAddition.2.world.db.tenants,
        ¬ Scenario.beforeLateAddition.2.world.db.Grants t.id ⟨902⟩ Permission.manageMembers) ∧
      ∀ t ∈ Scenario.beforeLateAddition.2.world.db.tenants, ∃ q actor,
        (Scenario.racingCalls 3).1.actorId = some actor.inner ∧
          Authority Scenario.beforeLateAddition.1 actor Scenario.beforeLateAddition.2.world.db
            (Scenario.racingCalls 3).2 q t.id := by
  obtain ⟨hno, hadds, hslug, hn⟩ : letI := Unicode.ascii
      (∀ t ∈ Scenario.beforeLateAddition.2.world.db.tenants,
        Scenario.beforeLateAddition.2.world.db.grants t.id ⟨902⟩ Permission.manageMembers = false) ∧
      (∀ t ∈ Scenario.beforeLateAddition.2.world.db.tenants,
        (Pool.schedule World.answer [3] Scenario.beforeLateAddition.2
          Scenario.beforeLateAddition.1).2.world.db.memberships.filter (·.tenantId = t.id) ≠
        Scenario.beforeLateAddition.2.world.db.memberships.filter (·.tenantId = t.id)) ∧
      Scenario.beforeLateAddition.2.world.db.tenants.map (·.slug) = ["acme"] ∧
      Scenario.beforeLateAddition.2.world.minted.Nodup := by decide +kernel
  have hr := Scenario.run_beforeLateAddition
  let := Unicode.ascii
  generalize Scenario.beforeLateAddition = e at *
  refine ⟨hslug, fun t ht hgrants => ?_, fun t ht => ?_⟩
  · exact Bool.false_ne_true ((hno t ht).symm.trans (Db.grants_iff.mpr hgrants))
  · have hadds := hadds t ht
    cases hq : e.2.threads 3 with
    | done r =>
      simp only [Pool.schedule, hq] at hadds
      exact absurd rfl hadds
    | ask q k =>
      have hstep : Pool.Step (Env noFault) World.Beside e.2
          (some (3, ⟨q, (World.answer q e.2.world).1⟩)) (Pool.schedule World.answer [3] e.2 e.1).2 :=
        Pool.step_schedule (fun q w => env_answer noFault q w) hq
      exact ⟨q, writes_authorised hr hn hstep t.id
        fun heq => hadds (congrArg TenantRows.memberships heq)⟩

end Klynt
